import AnsibleStaging.Proofs.Repetition

/-! Connecting again. An attempt goes some way along the calls of a connect that succeeds, and then it ends. If nothing
    is read that a connect writes, these calls are granted before and after the attempt alike, and the connect that
    follows makes them once more before it goes on: so it ends as if the attempt had not been. -/

namespace AnsibleStaging
open Script

/-! ### Where a connect reads and writes -/

/-- The file that a source looks into. --/
def selected (source : CredentialsSource) (selectors : Selectors) : List Path :=
  match source with
  | .filesystem => (nonEmpty? selectors.path).toList.map Path.mk
  | _ => []

/-- The files that the sources of a configuration look into. --/
def selectedPaths (config : ProviderConfig) : List Path :=
  (config.settings.credentials.flatMap fun e => selected e.source e.selectors) ++
    config.settings.git.elim [] fun git => selected git.tokenSource git.token

namespace Connector

/-- The files that a connect replaces. --/
def writtenPaths (c : Connector) (run : AnsibleRun) (config : ProviderConfig) : List Path :=
  (config.settings.credentials.map fun e => (c.runDir run).join (entryFile e)) ++
    (if run.source = .remote then [(c.gitDir run).join gitCredentialsName] else []) ++
    [(c.runDir run).join playbookName] ++
    config.settings.requirements.toList.map fun _ => (c.runDir run).join requirementsName

/-- No file that a connect replaces stands at `q`. --/
def Unwritten (c : Connector) (run : AnsibleRun) (config : ProviderConfig) (q : Path) : Prop :=
  ∀ p ∈ c.writtenPaths run config, ¬p.Same q

end Connector

/-- A connect reads no file that it writes. --/
structure World.Apart (w : World) (c : Connector) (run : AnsibleRun) (config : ProviderConfig) : Prop where
  selectors : ∀ q ∈ selectedPaths config, c.Unwritten run config q
  locator : run.source = .remote → ∀ q, w.fetcher.Reads run.parameters.playbook q → c.Unwritten run config q

namespace World
variable {w : World} {c : Connector} {run : AnsibleRun} {config : ProviderConfig} {kept : Path → Prop}

theorem heeds_of_none {call : Call} (hr : ∀ q, ¬w.Reads call q) (hw : ∀ q, ¬call.Writes q) : w.Heeds kept call :=
  ⟨fun q hq => absurd hq (hr q), fun q _ => hw q⟩

theorem heeds_write {p : Path} (data : ByteArray) (h : p ∈ c.writtenPaths run config) :
    w.Heeds (c.Unwritten run config) (.write p data .privateFile) :=
  ⟨fun _ => False.elim, fun _ hq => hq p h⟩

theorem heeds_lookup {source : CredentialsSource} {selectors : Selectors} (data : ByteArray)
    (h : ∀ q ∈ selected source selectors, kept q) : ∀ x ∈ lookup source selectors data, w.Heeds kept x.call := by
  intro x hx
  unfold lookup at hx
  unfold selected at h
  split at hx
  · split at hx
    · next path hpath =>
      obtain rfl := List.mem_singleton.mp hx
      refine ⟨?_, fun _ _ => id⟩
      rintro _ rfl
      exact h ⟨path⟩ (by simp [hpath])
    · cases hx
  · split at hx
    · obtain rfl := List.mem_singleton.mp hx
      exact heeds_of_none (fun _ => id) fun _ => id
    · cases hx
  · cases hx

theorem heeds_tokenLookup {latest : Option ByteArray} {git : Option GitConnection} (token : ByteArray)
    (h : ∀ q ∈ git.elim [] fun git => selected git.tokenSource git.token, kept q) :
    ∀ x ∈ tokenLookup latest git token, w.Heeds kept x.call := by
  unfold tokenLookup
  split
  · exact heeds_lookup token h
  · simp

/-- The calls of a plan read no file that the plan writes. --/
theorem heeds_plan {v : Supply} (hv : v.Fits) (apart : w.Apart c run v.config) :
    ∀ x ∈ (c.plan run v).record, w.Heeds (c.Unwritten run v.config) x.call := by
  have entry : ∀ y ∈ v.resolved, y.1 ∈ v.config.settings.credentials := fun y hy => hv ▸ List.mem_map_of_mem hy
  have writes : ∀ {p}, p ∈ c.writtenPaths run v.config → ∀ data, w.Heeds (c.Unwritten run v.config)
      (writing p data).call := fun hp data => heeds_write data hp
  intro x hx
  rw [Connector.plan, Plan.record_append, Connector.filesPlan_record, Connector.playbookPlan_record,
    Connector.requirementsPlan_record] at hx
  simp only [List.mem_append] at hx
  rcases hx with ((((hx | hx) | (hx | hx)) | hx) | hx)
  · -- The directory, the usage and the configuration.
    simp only [List.mem_cons, List.not_mem_nil, or_false] at hx
    rcases hx with rfl | rfl | rfl <;> exact heeds_of_none (fun _ => id) fun _ => id
  · obtain ⟨y, hy, hx⟩ := List.mem_flatMap.mp hx
    rcases List.mem_append.mp hx with hx | hx
    · refine heeds_lookup y.2 (fun q hq => apart.selectors q ?_) x hx
      exact List.mem_append_left _ (List.mem_flatMap.mpr ⟨y.1, entry y hy, hq⟩)
    · obtain rfl := List.mem_singleton.mp hx
      refine writes ?_ y.2
      simp only [Connector.writtenPaths, List.mem_append]
      exact Or.inl (Or.inl (Or.inl (List.mem_map_of_mem (entry y hy))))
  · split at hx
    · cases hx
    · next hs =>
      simp only [List.mem_append, List.mem_singleton] at hx
      rcases hx with (hx | rfl) | rfl
      · refine heeds_tokenLookup v.token (fun q hq => apart.selectors q ?_) x hx
        exact List.mem_append_right _ hq
      · refine writes ?_ v.gitContent
        simp [Connector.writtenPaths, hs]
      · exact ⟨apart.locator hs, fun _ _ => id⟩
  · obtain rfl := List.mem_singleton.mp hx
    refine writes ?_ _
    simp [Connector.writtenPaths]
  · obtain ⟨text, htext, rfl⟩ := List.mem_map.mp hx
    refine writes ?_ _
    simp only [Connector.writtenPaths, List.mem_append]
    exact Or.inr (List.mem_map.mpr ⟨text, htext, rfl⟩)
  · rw [Connector.runnerPlan_record] at hx
    simp only [List.mem_cons, List.not_mem_nil, or_false] at hx
    rcases hx with rfl | rfl | rfl <;> exact heeds_of_none (fun _ => id) fun _ => id

end World

theorem Plan.breaks_append_cases {p q : Plan} {l : Record} {e : Option ConnectError} (h : (p ++ q).Breaks l e) :
    p.Breaks l e ∨ p.log <+: l := by
  obtain ⟨before, step, xs, after, made, hp, rfl, hb⟩ := h
  rcases List.append_eq_append_iff.mp hp with ⟨m, rfl, -⟩ | ⟨m, rfl, hm⟩
  · right
    rw [log_append, List.append_assoc]
    exact List.prefix_append _ _
  · rcases List.cons_eq_append_iff.mp hm with ⟨rfl, -⟩ | ⟨m, rfl, -⟩
    · right
      rw [List.append_nil]
      exact List.prefix_append _ _
    · exact Or.inl ⟨before, step, xs, m, made, rfl, rfl, hb⟩

/-- A connect makes only calls that read no file and write none that it reads, whether it succeeds or not. --/
theorem World.heeds_of_follows {w : World} {c : Connector} {run : AnsibleRun} {config : ProviderConfig}
    (apart : w.Apart c run config) {l : Record} {o : Option (Except ConnectError Connection)}
    (h : (c.stage run).Follows l o)
    (hconfig : ∀ v, (⟨.providerConfig (run.providerConfig.getD ""), some (.ok v)⟩ : Exchange calls) ∈ l → v = config) :
    ∀ x ∈ l, w.Heeds (c.Unwritten run config) x.call := by
  have check : ∀ {x : Exchange calls}, x.call.isCheck = true → w.Heeds (c.Unwritten run config) x.call := by
    intro x hc
    rw [Call.eq_cancelled hc]
    exact heeds_of_none (fun _ => id) fun _ => id
  obtain ⟨v, hgoes⟩ := exists_goesAlong h
  have hin := hgoes.in_order
  obtain ⟨fits, hends⟩ := hgoes
  -- The steps before anything is read or written.
  obtain ⟨start, rest, hplan, hstart⟩ : ∃ start rest : Plan, c.plan run v = start ++ rest ∧ start =
      [(.directory, [⟨.makeDirs (c.runDir run) .privateDirectory, some (.ok ())⟩]),
        (.usage, [⟨.track (.run run), some (.ok ())⟩]),
        (.config, [⟨.providerConfig (run.providerConfig.getD ""), some (.ok v.config)⟩])] := ⟨_, (c.plan run v).drop 3, rfl, rfl⟩
  have hmem : (⟨.providerConfig (run.providerConfig.getD ""), some (.ok v.config)⟩ : Exchange calls) ∈ start.log := by
    simp [hstart, Plan.log]
  have hcases : start.log <+: l ∨ asked (external l) <+: asked start.record := by
    rcases hends with ⟨-, rfl, -⟩ | ⟨e, hb, -⟩
    · left
      rw [hplan, Plan.log_append]
      exact List.prefix_append _ _
    · rw [hplan] at hb
      rcases Plan.breaks_append_cases hb with hb | hpre
      · right
        obtain ⟨step, hstep, -⟩ := endsIn_of_breaks (by simp [hstart, Plan.record, AllExternal, Call.isCheck]) hb
        exact hstep.in_order
      · exact Or.inl hpre
  intro x hx
  rcases hcases with hpre | hin
  · obtain rfl := hconfig v.config (hpre.subset hmem)
    rcases isCheck_or_of_in_order hin hx with hc | ⟨y, hy, hyx⟩
    · exact check hc
    · exact hyx ▸ heeds_plan fits apart y hy
  · rcases isCheck_or_of_in_order hin hx with hc | ⟨y, hy, hyx⟩
    · exact check hc
    · rw [hstart] at hy
      simp only [Plan.record, List.flatMap_cons, List.flatMap_nil, List.cons_append, List.nil_append, List.mem_cons,
        List.not_mem_nil, or_false] at hy
      rcases hy with rfl | rfl | rfl <;> exact hyx ▸ heeds_of_none (fun _ => id) fun _ => id

/-! ### Attempts -/

/-- Calls may be made to fail: the world answers a call, or it is not granted and nothing happens. --/
def World.Disturbed (w : World) (x : Exchange calls) (t t' : MemTree) : Prop :=
  w.handler.Gives x t t' ∨ (¬Granted x ∧ t' = t)

/-- One attempt to connect, which may fail in any call or be cancelled before any step. --/
def World.Attempt (w : World) (c : Connector) (run : AnsibleRun) (t t' : MemTree)
    (result : Option (Except ConnectError Connection)) : Prop :=
  ∃ l, (c.connect (.run run)).Follows l result ∧ Occurs w.Disturbed l t t'

inductive World.Attempts (w : World) (c : Connector) (run : AnsibleRun) : MemTree → MemTree → Prop
  | nil (t : MemTree) : w.Attempts c run t t
  | cons {t u t' : MemTree} {result : Option (Except ConnectError Connection)} (first : w.Attempt c run t u result)
      (rest : w.Attempts c run u t') : w.Attempts c run t t'

namespace World
variable {w : World} {c : Connector} {run : AnsibleRun} {config : ProviderConfig} {kept : Path → Prop}
  {x : Exchange calls} {l : Record} {t t' u s s' T : MemTree}

theorem Disturbed.stored (h : w.Disturbed x t t') : Stored x t t' := by
  rcases h with h | ⟨hx, rfl⟩
  · exact World.stored h
  · obtain ⟨c, r⟩ := x
    cases c with
    | makeDirs p m => exact Or.inr ⟨fun hr => hx ⟨.ok (), hr, rfl⟩, rfl⟩
    | write p data m => exact Or.inr ⟨fun hr => hx ⟨.ok (), hr, rfl⟩, rfl⟩
    | _ => exact rfl

theorem gives_of_granted (h : Occurs w.Disturbed l t t') (granted : ∀ x ∈ l, Granted x) :
    Occurs w.handler.Gives l t t' := by
  induction h with
  | nil => exact .nil _
  | cons first _ ih =>
    obtain ⟨hx, granted⟩ := List.forall_mem_cons.mp granted
    rcases first with first | ⟨hnot, -⟩
    · exact .cons first (ih granted)
    · exact absurd hx hnot

/-- An attempt from an earlier tree goes some way along a connect that succeeds. --/
theorem exists_part {ε α : Type} {R : Exchange calls → ε → Prop} {F : Record → ε → Prop} {task : Task ε α}
    (ht : NeedsAll R F task) {L : Record} {o : Option (Except ε α)} {a : α} (hl : task.Follows l o)
    (hL : task.Follows L (some (.ok a))) (h : Occurs w.Disturbed l t t') (hT : Occurs w.handler.Gives L s s')
    (heeds : ∀ x ∈ L, w.Heeds kept x.call) (g : MemTree.Grows kept t s) :
    ∃ l₁ l₂, L = l₁ ++ l₂ ∧ Occurs w.handler.Gives l₁ t t' := by
  have granted := ht.granted hL
  induction task generalizing F l L t s with
  | done b =>
    obtain ⟨rfl, -⟩ := follows_done hl
    cases h
    exact ⟨[], L, rfl, .nil _⟩
  | fail e =>
    obtain ⟨-, ho⟩ := follows_fail hL
    cases ho
  | ask call next ih =>
    rcases follows_ask hL with ⟨-, ho⟩ | ⟨r', L', rfl, hL'⟩
    · cases ho
    obtain ⟨hx, granted'⟩ := List.forall_mem_cons.mp granted
    obtain ⟨hheed, heeds'⟩ := List.forall_mem_cons.mp heeds
    cases hT with
    | @cons _ _ _ s₁ _ hgives hT' =>
      -- The call is granted at the later tree, so it can be granted now.
      obtain ⟨t₁, hearly⟩ := gives_before g hgives hx hheed
      rcases follows_ask hl with ⟨rfl, -⟩ | ⟨r, l', rfl, hl'⟩
      · cases h with
        | cons first h' =>
          cases h'
          rcases first with first | ⟨-, rfl⟩
          · cases (congrArg Prod.fst hearly).symm.trans (congrArg Prod.fst first)
          · exact ⟨[], _, rfl, .nil _⟩
      · cases h with
        | @cons _ _ _ u₁ _ first h' =>
          rcases first with first | ⟨hnot, rfl⟩
          · have heq : (some r', t₁) = (some r, u₁) := hearly.symm.trans first
            obtain ⟨rfl, rfl⟩ : r' = r ∧ t₁ = u₁ := by simpa using heq
            have hg : MemTree.Grows kept t₁ s₁ := ((stored hearly).builds hx).grows ((stored hgives).builds hx) g
              ((stored hearly).grows hheed.writes) ((stored hgives).grows hheed.writes)
            obtain ⟨l₁, l₂, rfl, hocc⟩ := ih r' ((ht r').1 (granted_some.mp hx)) hl' hL' h' hT' heeds' hg granted'
            exact ⟨⟨call, some r'⟩ :: l₁, l₂, rfl, .cons hearly hocc⟩
          · -- A call that is refused is the last one.
            have hrefused : Call.grants call r = false := by
              cases hc : Call.grants call r with
              | true => exact absurd (granted_some.mpr hc) hnot
              | false => rfl
            obtain ⟨e, he, -⟩ := (ht r).2 hrefused
            rw [he] at hl'
            obtain ⟨rfl, -⟩ := follows_fail hl'
            cases h'
            exact ⟨[], _, rfl, .nil _⟩

/-- A connect that nothing disturbs succeeds, and so it ends. --/
def Connects (w : World) (c : Connector) (run : AnsibleRun) (t : MemTree) (conn : Connection) (t' : MemTree) : Prop :=
  (c.connect (.run run)).run w.handler t = (some (.ok conn), t')

theorem connects_iff {conn : Connection} : w.Connects c run t conn t' ↔
    ∃ L, (c.stage run).Follows L (some (.ok conn)) ∧ Occurs w.handler.Gives L t t' := by
  constructor
  · intro h
    refine ⟨(c.stage run).exchanges w.handler t, ?_, ?_⟩
    · have hf := follows_exchanges w.handler (c.stage run) t
      rwa [show (c.stage run).run w.handler t = _ from h] at hf
    · have hocc := occurs_exchanges w.handler (c.stage run) t
      rwa [show (c.stage run).run w.handler t = _ from h] at hocc
  · rintro ⟨L, hf, hocc⟩
    exact run_of_follows hf hocc

/-- Whoever answers as the world does, or refuses and does nothing, answers an attempt. --/
theorem attempt_of_run {h : Handler calls MemTree} (hd : ∀ x s s', h.Gives x s s' → w.Disturbed x s s') (t : MemTree) :
    w.Attempt c run t ((c.connect (.run run)).run h t).2 ((c.connect (.run run)).run h t).1 :=
  ⟨_, follows_exchanges h _ t, (occurs_exchanges h _ t).view hd⟩

theorem Attempt.ordered {result : Option (Except ConnectError Connection)} (h : w.Attempt c run t u result)
    (ht : t.Ordered) : u.Ordered := by
  obtain ⟨l, -, hocc⟩ := h
  exact hocc.keeps (fun _ _ _ _ hs => hs.stored.ordered) ht

theorem Attempt.connects {conn : Connection} (h : w.Attempt c run t u (some (.ok conn))) : w.Connects c run t conn u := by
  obtain ⟨l, hl, hocc⟩ := h
  exact connects_iff.mpr ⟨l, hl, gives_of_granted hocc ((needsAll_stage c run).granted hl)⟩

theorem heeds_of_attempt (hconfig : w.providerConfig (run.providerConfig.getD "") = .ok config)
    (apart : w.Apart c run config) {o : Option (Except ConnectError Connection)} (h : (c.stage run).Follows l o)
    (hocc : Occurs w.Disturbed l t t') : ∀ x ∈ l, w.Heeds (c.Unwritten run config) x.call := by
  refine heeds_of_follows apart h fun v hv => ?_
  obtain ⟨s, s', hs | ⟨hnot, -⟩⟩ := hocc.exists_of_mem hv
  · have heq : some (w.providerConfig (run.providerConfig.getD "")) = some (.ok v) := congrArg Prod.fst hs
    rw [hconfig] at heq
    cases heq
    rfl
  · exact absurd (granted_some.mpr rfl) hnot

/-- A connect succeeds after an attempt just as before it. --/
theorem connects_iff_of_attempt (hconfig : w.providerConfig (run.providerConfig.getD "") = .ok config)
    (apart : w.Apart c run config) (ht : t.Ordered) {result : Option (Except ConnectError Connection)}
    (h : w.Attempt c run t u result) {conn : Connection} : w.Connects c run u conn T ↔ w.Connects c run t conn T := by
  obtain ⟨l, hl, hocc⟩ := h
  have hneeds := needsAll_stage c run
  have grows : MemTree.Grows (c.Unwritten run config) t u :=
    grows_of_occurs (hocc.view fun _ _ _ hs => hs.stored) fun x hx => (heeds_of_attempt hconfig apart hl hocc x hx).writes
  have heeds : ∀ {L s}, (c.stage run).Follows L (some (.ok conn)) → Occurs w.handler.Gives L s T →
      ∀ x ∈ L, w.Heeds (c.Unwritten run config) x.call := fun hL hT =>
    heeds_of_attempt hconfig apart hL (hT.view fun _ _ _ hs => Or.inl hs)
  -- The calls that the attempt has made can be made again, before and after it.
  have again : ∀ {l₁ l₂ : Record}, (∀ x ∈ l₁ ++ l₂, Granted x) →
      (∀ x ∈ l₁ ++ l₂, w.Heeds (c.Unwritten run config) x.call) → Occurs w.handler.Gives l₁ t u →
      (Occurs w.handler.Gives (l₁ ++ l₂) u T ↔ Occurs w.handler.Gives (l₁ ++ l₂) t T) := by
    intro l₁ l₂ granted heeds h₁
    have h₁' := occurs_same h₁ (fun x hx => granted x (List.mem_append_left _ hx))
      (fun x hx => heeds x (List.mem_append_left _ hx)) ht
    exact (occurs_append_iff h₁').trans (occurs_append_iff h₁).symm
  rw [connects_iff, connects_iff]
  constructor
  · rintro ⟨L, hL, hT⟩
    obtain ⟨l₁, l₂, rfl, h₁⟩ := exists_part hneeds hl hL hocc hT (heeds hL hT) grows
    exact ⟨_, hL, (again (hneeds.granted hL) (heeds hL hT) h₁).mp hT⟩
  · rintro ⟨L, hL, hT⟩
    obtain ⟨l₁, l₂, rfl, h₁⟩ := exists_part hneeds hl hL hocc hT (heeds hL hT) (.refl t)
    exact ⟨_, hL, (again (hneeds.granted hL) (heeds hL hT) h₁).mpr hT⟩

theorem Attempts.ordered (h : w.Attempts c run t u) (ht : t.Ordered) : u.Ordered := by
  induction h with
  | nil => exact ht
  | cons first _ ih => exact ih (first.ordered ht)

theorem connects_iff_of_attempts (hconfig : w.providerConfig (run.providerConfig.getD "") = .ok config)
    (apart : w.Apart c run config) (ht : t.Ordered) (h : w.Attempts c run t u) {conn : Connection} :
    w.Connects c run u conn T ↔ w.Connects c run t conn T := by
  induction h with
  | nil => exact Iff.rfl
  | cons first _ ih => exact (ih (first.ordered ht)).trans (connects_iff_of_attempt hconfig apart ht first)

end World

/-- Connecting again converges. If a connect succeeds after any attempts, it succeeds without them, in the same tree, and
    once more in this tree; and no attempts keep a connect from succeeding that succeeds without them. --/
theorem retry_converges {w : World} {c : Connector} {run : AnsibleRun} {config : ProviderConfig}
    (hconfig : w.providerConfig (run.providerConfig.getD "") = .ok config) (apart : w.Apart c run config) {t u : MemTree}
    (ht : t.Reached) (h : w.Attempts c run t u) :
    (∀ conn T, w.Attempt c run u T (some (.ok conn)) → w.Connects c run t conn T ∧ w.Connects c run T conn T) ∧
      ∀ conn T, w.Connects c run t conn T → w.Connects c run u conn T := by
  refine ⟨fun conn T hlast => ?_, fun conn T => (World.connects_iff_of_attempts hconfig apart ht.ordered h).mpr⟩
  have hu : w.Connects c run u conn T := hlast.connects
  exact ⟨(World.connects_iff_of_attempts hconfig apart ht.ordered h).mp hu,
    (World.connects_iff_of_attempt hconfig apart (h.ordered ht.ordered) hlast).mpr hu⟩

/-- A connect that reads a key succeeds after an attempt that could not record the usage. --/
theorem retry_converges_granting :
    let config : ProviderConfig := ⟨.empty, { ProviderSettings.empty with
      credentials := [⟨"key", .filesystem, { Selectors.empty with path := some "/etc/key" }⟩] }⟩
    let c : Connector := ⟨⟨⟨"/work"⟩⟩, ⟨⟨"/git"⟩⟩, fun _ => none⟩
    let run : AnsibleRun := ⟨{ Metadata.empty with uid := ⟨"u"⟩ }, none, .empty⟩
    let w := World.granting config .empty
    let t := (MemTree.write ⟨"/etc/key"⟩ "secret".toUTF8 .privateFile .empty).2
    let u := ((c.connect (.run run)).run { w with track := fun _ => .error (.internal "busy") }.handler t).2
    let T := ((c.connect (.run run)).run w.handler u).2
    let conn : Connection := ⟨⟨"/work/u"⟩, .plain ⟨"u"⟩ ⟨"/work/u"⟩ "" ""⟩
    w.providerConfig (run.providerConfig.getD "") = .ok config ∧ w.Apart c run config ∧ t.Reached ∧
      w.Attempts c run t u ∧ u ≠ t ∧ w.Attempt c run u T (some (.ok conn)) ∧ w.Connects c run t conn T := by
  intro config c run w t u T conn
  have apart : w.Apart c run config := by
    refine ⟨?_, fun _ _ => nofun⟩
    show ∀ q ∈ selectedPaths config, ∀ p ∈ c.writtenPaths run config, ¬p.Same q
    decide +kernel
  have ht : t.Reached := .write _ _ _ .empty
  have disturbed : ∀ x s s', { w with track := fun _ => .error (.internal "busy") }.handler.Gives x s s' →
      w.Disturbed x s s' := by
    rintro ⟨call, r⟩ s s' hs
    cases call with
    | track =>
      have heq : ((some (.error (.internal "busy")), s) : Option (Except ServiceError Unit) × MemTree) = (r, s') := hs
      cases heq
      refine Or.inr ⟨fun hx => ?_, rfl⟩
      cases granted_some.mp hx
    | _ => exact Or.inl hs
  have first : w.Attempt c run t u _ := World.attempt_of_run disturbed t
  have hok : w.Attempt c run u T (some (.ok conn)) := by
    have hlast : w.Attempt c run u T _ := World.attempt_of_run (fun _ _ _ => Or.inl) u
    have hconn : ((c.connect (.run run)).run w.handler u).1 = some (.ok conn) := eq_ok_of_toOption (by decide +kernel)
    rwa [hconn] at hlast
  have attempts := World.Attempts.cons first (.nil u)
  exact ⟨rfl, apart, ht, attempts, by decide +kernel, hok, ((retry_converges rfl apart ht attempts).1 conn T hok).1⟩

end AnsibleStaging
