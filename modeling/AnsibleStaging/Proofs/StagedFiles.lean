import AnsibleStaging.Proofs.PathComponents
import AnsibleStaging.Proofs.World

/-! What the runner finds. When a runner is bound, each staged file holds exactly the bytes that were found for it in
    this connect, whatever stood there before. Of several writes at one place the last one counts. The files of a
    directory have different names, so the only place where two of them can meet is what git's credential store
    reads, if both directories are one; and there the entry is what was written. -/

namespace AnsibleStaging
open Script Planning

/-- All files of a run are as they are to be. An entry's file is that of the last entry with its name, and the names of
    the playbook and the requirements are theirs. --/
structure Staged (c : Connector) (run : AnsibleRun) (v : Supply) (t : MemTree) : Prop where
  playbook : t.Holds ((c.runDir run).join playbookName) (playbookBytes run v.fetched)
  requirements : ∀ text, v.config.settings.requirements = some text →
    t.Holds ((c.runDir run).join requirementsName) text.toUTF8
  entry : ∀ before x after, v.resolved = before ++ x :: after → (∀ y ∈ after, entryFile y.1 ≠ entryFile x.1) →
    entryFile x.1 ≠ playbookName → (v.config.settings.requirements.isSome → entryFile x.1 ≠ requirementsName) →
    t.Holds ((c.runDir run).join (entryFile x.1)) x.2
  git : run.source = .remote → t.Holds ((c.gitDir run).join gitCredentialsName) v.gitContent

/-! ### Names -/

theorem isName_playbookName : Path.IsName playbookName := by constructor <;> decide

theorem isName_requirementsName : Path.IsName requirementsName := by constructor <;> decide

theorem isName_gitCredentialsName : Path.IsName gitCredentialsName := by constructor <;> decide

theorem Resolved.isName {env : Environment} {x : CredentialEntry × ByteArray} (h : Resolved env x) :
    Path.IsName (entryFile x.1) := Path.isName_of_fileName h.named

/-! ### Calls that write elsewhere -/

section
variable {d d' : Path} {n n' : String} {data data' : ByteArray} {l : Record}

theorem spares_nil (p : Path) : Spares p data [] := by simp [Spares]

theorem spares_of_ne (hn : Path.IsName n) (hn' : Path.IsName n') (h : n' ≠ n) :
    Spares (d.join n) data [writing (d'.join n') data'] := by
  intro x hx q _ _ hc hsame
  obtain rfl := List.mem_singleton.mp hx
  cases hc
  exact absurd ((Path.same_join_iff hn' hn).mp hsame).2 h

theorem spares_of_eq (p q : Path) (data : ByteArray) : Spares p data [writing q data] := by
  intro x hx _ d m hc _
  obtain rfl := List.mem_singleton.mp hx
  cases hc
  exact ⟨rfl, rfl⟩

theorem spares_lookup (p : Path) (source : CredentialsSource) (selectors : Selectors) :
    Spares p data (lookup source selectors data') := by
  unfold lookup
  split
  · split <;> simp [Spares]
  · split <;> simp [Spares]
  · exact spares_nil p

theorem spares_tokenLookup (p : Path) (entry : Option ByteArray) (git : Option GitConnection) (token : ByteArray) :
    Spares p data (tokenLookup entry git token) := by
  unfold tokenLookup
  split
  · exact spares_lookup p _ _
  · exact spares_nil p

theorem spares_entries {env : Environment} {es : List (CredentialEntry × ByteArray)} (hn : Path.IsName n)
    (found : ∀ y ∈ es, Resolved env y) (h : ∀ y ∈ es, entryFile y.1 ≠ n) :
    Spares (d.join n) data (es.flatMap (entryRecord d')) := by
  intro x hx
  obtain ⟨y, hy, hx⟩ := List.mem_flatMap.mp hx
  have : Spares (d.join n) data (entryRecord d' y) :=
    spares_append.mpr ⟨spares_lookup _ _ _, spares_of_ne hn (found y hy).isName (h y hy)⟩
  exact this x hx

end

/-! ### The files of a plan -/

/-- The calls for the playbook end with its write. --/
theorem latestGit_append (latest : Option ByteArray) (es es' : List (CredentialEntry × ByteArray)) :
    latestGit latest (es ++ es') = latestGit (latestGit latest es) es' := by
  induction es generalizing latest with
  | nil => rfl
  | cons x es ih => exact ih _

theorem latestGit_of_ne {latest : Option ByteArray} {es : List (CredentialEntry × ByteArray)}
    (h : ∀ y ∈ es, entryFile y.1 ≠ gitCredentialsName) : latestGit latest es = latest := by
  induction es generalizing latest with
  | nil => rfl
  | cons x es ih =>
    obtain ⟨hx, hes⟩ := List.forall_mem_cons.mp h
    rw [latestGit, if_neg hx, ih hes]

/-- The last entry that git's credential store reads stands in for the connection to git. --/
theorem latestGit_of_last {latest : Option ByteArray} {before after : List (CredentialEntry × ByteArray)}
    {x : CredentialEntry × ByteArray} (hx : entryFile x.1 = gitCredentialsName)
    (hafter : ∀ y ∈ after, entryFile y.1 ≠ gitCredentialsName) :
    latestGit latest (before ++ x :: after) = some x.2 := by
  rw [latestGit_append, latestGit, if_pos hx, latestGit_of_ne hafter]

/-- An entry that stands in for the connection is what git's credential store is to read. --/
theorem Supply.Found.gitContent_eq {v : Supply} {c : Connector} {run : AnsibleRun} (hv : v.Found c run)
    (hs : run.source = .remote) {data : ByteArray} (hl : latestGit none v.resolved = some data) :
    v.gitContent = data := by
  have hg := hv.git hs
  rw [hl] at hg
  obtain ⟨-, h⟩ := follows_done hg
  simpa using h

section
variable {c : Connector} {run : AnsibleRun} {v : Supply} {t t' : MemTree}

/-- The playbook and the requirements have names of their own. --/
theorem spares_playbookPlan {d : Path} {n : String} {data : ByteArray} (hn : Path.IsName n) (hp : n ≠ playbookName)
    (hg : run.source = .remote → Spares (d.join n) data [writing ((c.gitDir run).join gitCredentialsName) v.gitContent])
    (dir : Path) (entry : Option ByteArray) (git : Option GitConnection) (token fetched : ByteArray) :
    Spares (d.join n) data (c.playbookPlan run dir entry git token v.gitContent fetched).record := by
  rw [Connector.playbookPlan_record]
  refine spares_append.mpr ⟨?_, spares_of_ne hn isName_playbookName hp.symm⟩
  split
  · exact spares_nil _
  · next hs =>
    refine spares_append.mpr ⟨spares_append.mpr ⟨spares_tokenLookup _ _ _ _, hg hs⟩, ?_⟩
    simp [Spares]

theorem spares_requirementsPlan {d : Path} {n : String} {data : ByteArray} (hn : Path.IsName n) {config : ProviderConfig}
    (h : config.settings.requirements.isSome → n ≠ requirementsName) (dir : Path) :
    Spares (d.join n) data (Connector.requirementsPlan dir config).record := by
  rw [Connector.requirementsPlan_record]
  cases hr : config.settings.requirements with
  | none => exact spares_nil _
  | some text => exact spares_of_ne hn isName_requirementsName (h (by simp [hr])).symm

/-- When all calls of the plan have had their answers, all files are as they are to be. --/
theorem staged_of_occurs (hv : v.Found c run) (h : Occurs Stored (c.filesPlan run v).record t t') :
    Staged c run v t' := by
  rw [Connector.filesPlan_record] at h
  generalize [(⟨.makeDirs (c.runDir run) .privateDirectory, some (.ok ())⟩ : Exchange calls), ⟨.track (.run run), some (.ok ())⟩,
    ⟨.providerConfig (run.providerConfig.getD ""), some (.ok v.config)⟩] = start at h
  constructor
  case playbook =>
    rw [Connector.playbookPlan_record, ← List.append_assoc, List.append_assoc _ [_]] at h
    exact holds_of_last h (spares_requirementsPlan isName_playbookName (fun _ => by decide) _)
  case requirements =>
    intro text htext
    rw [Connector.requirementsPlan_record, htext] at h
    exact holds_of_last h (spares_nil _)
  case entry =>
    intro before x after hres hlast hplaybook hrequirements
    have hx : x ∈ v.resolved := by simp [hres]
    have hafter : ∀ y ∈ after, Resolved c.environment y := fun y hy => hv.entries y (by simp [hres, hy])
    have hname := (hv.entries x hx).isName
    -- Where the store of git is the directory of the run, its content is that of the entry.
    have hgit : run.source = .remote → Spares ((c.runDir run).join (entryFile x.1)) x.2
        [writing ((c.gitDir run).join gitCredentialsName) v.gitContent] := by
      intro hs
      by_cases hg : entryFile x.1 = gitCredentialsName
      · rw [hg] at hlast
        rw [hv.gitContent_eq hs (hres ▸ latestGit_of_last hg hlast)]
        exact spares_of_eq _ _ _
      · exact spares_of_ne hname isName_gitCredentialsName (Ne.symm hg)
    have hentry : entryRecord (c.runDir run) x = lookup x.1.source x.1.selectors x.2 ++
        [writing ((c.runDir run).join (entryFile x.1)) x.2] := rfl
    rw [hres, List.flatMap_append, List.flatMap_cons, hentry] at h
    simp only [List.append_assoc, List.cons_append, List.nil_append] at h
    rw [← List.append_assoc, ← List.append_assoc] at h
    refine holds_of_last h (spares_append.mpr ⟨?_, spares_append.mpr ⟨?_, ?_⟩⟩)
    · exact spares_entries hname hafter hlast
    · exact spares_playbookPlan hname hplaybook hgit _ _ _ _ _
    · exact spares_requirementsPlan hname hrequirements _
  case git =>
    intro hs
    rw [Connector.playbookPlan_record, hs] at h
    simp only [List.append_assoc, List.cons_append, List.nil_append] at h
    rw [← List.append_assoc, ← List.append_assoc] at h
    have hfetch : Spares ((c.gitDir run).join gitCredentialsName) v.gitContent
        [⟨.fetch run.parameters.playbook, some (.ok v.fetched)⟩] := by simp [Spares]
    have hplaybook : Spares ((c.gitDir run).join gitCredentialsName) v.gitContent
        [writing ((c.runDir run).join playbookName) (playbookBytes run v.fetched)] :=
      spares_of_ne isName_gitCredentialsName isName_playbookName (by decide)
    have hrequirements : Spares ((c.gitDir run).join gitCredentialsName) v.gitContent
        (Connector.requirementsPlan (c.runDir run) v.config).record :=
      spares_requirementsPlan isName_gitCredentialsName (fun _ => by decide) _
    exact holds_of_last h (spares_append.mpr ⟨hfetch, spares_append.mpr ⟨hplaybook, hrequirements⟩⟩)

end

/-! ### The runner -/

/-- A connect stages all files before it turns to the runner, or it never does. --/
theorem stage_split {c : Connector} {run : AnsibleRun} {l : Record} {o : Option (Except ConnectError Connection)}
    (h : (c.stage run).Follows l o) :
    (∃ v l', v.Fits ∧ v.Found c run ∧ l = (c.filesPlan run v).log ++ l' ∧ ∀ x ∈ l', x.call.stages = false) ∨
      ((∀ x ∈ l, x.call.isCheck = true ∨ x.call.stages = true) ∧ ∀ conn, o ≠ some (.ok conn)) := by
  rw [Connector.stage_eq] at h
  have unstaged : ∀ {o'}, (c.stageFiles run).Follows l o' → ∀ x ∈ l, x.call.isCheck = true ∨ x.call.stages = true := by
    intro o' hl x hx
    obtain ⟨_, _, p, ⟨v, -, -, rfl, -⟩, hin⟩ := in_order_of_keeps (keeps_stageFiles c run) hl (by
      rintro _ _ _ ⟨v, -, -, rfl, -⟩
      exact (allStaging_filesPlan c run v).allExternal)
    rcases isCheck_or_of_in_order hin hx with hc | ⟨y, hy, hyx⟩
    · exact Or.inl hc
    · exact Or.inr (hyx ▸ (allStaging_filesPlan c run v y hy).1)
  rcases follows_bind h with ⟨r, l₁, l₂, h₁, h₂, rfl⟩ | ⟨e, h₁, rfl⟩ | ⟨h₁, rfl⟩
  · left
    rcases (keeps_stageFiles c run).runs h₁ with ⟨r', p, ⟨v, fits, rfl, rfl, found⟩, rfl, hr⟩ | ⟨_, _, e, -, -, ho⟩
    · refine ⟨v, l₂, fits, found rfl, rfl, ?_⟩
      intro x hx
      obtain ⟨_, _, p, ⟨runner, _, _, rfl, ⟨-, rfl⟩, rfl⟩, hin⟩ := in_order_of_keeps
        ((keeps_prepare r.1 run r.2).bind fun runner => Keeps.done (Connection.mk r.1 runner)) h₂ (by
          rintro _ _ _ ⟨runner, _, _, rfl, ⟨-, rfl⟩, rfl⟩
          rw [List.append_nil]
          exact allExternal_runnerPlan _ _ _ _)
      rw [List.append_nil] at hin
      rcases isCheck_or_of_in_order hin hx with hc | ⟨y, hy, hyx⟩
      · rw [Call.eq_cancelled hc]
        rfl
      · rw [Connector.runnerPlan_record] at hy
        simp only [List.mem_cons, List.not_mem_nil, or_false] at hy
        rcases hy with rfl | rfl | rfl <;> rw [← hyx] <;> rfl
    · cases e <;> cases ho
  · exact Or.inr ⟨unstaged h₁, nofun⟩
  · exact Or.inr ⟨unstaged h₁, nofun⟩

/-- All files are staged, with what was supplied in the calls of `l`. --/
def StagedBy (c : Connector) (run : AnsibleRun) (l : Record) (t : MemTree) : Prop :=
  ∃ v : Supply, v.Fits ∧ v.Found c run ∧ (c.filesPlan run v).log <+: l ∧ Staged c run v t

theorem stagedBy_of_occurs {c : Connector} {run : AnsibleRun} {v : Supply} (fits : v.Fits) (found : v.Found c run)
    {l : Record} {t t' : MemTree} (h : Occurs Stored ((c.filesPlan run v).log ++ l) t t')
    (hl : ∀ x ∈ l, x.call.stages = false) : StagedBy c run ((c.filesPlan run v).log ++ l) t' := by
  obtain ⟨u, hfiles, hrest⟩ := h.of_append
  obtain rfl := eq_of_not_stages hrest hl
  have hrecord := occurs_external hfiles
  rw [external_log (allStaging_filesPlan c run v).allExternal] at hrecord
  exact ⟨v, fits, found, List.prefix_append _ _, staged_of_occurs found hrecord⟩

/-- What stands before a call that turns to the runner is all of the staging. --/
theorem append_of_log_append {p : Plan} (hp : AllStaging p.record) {l m rest : Record} {x : Exchange calls}
    (h : p.log ++ l = m ++ x :: rest) (hx : x.call.isCheck = false) (hstages : x.call.stages = false) :
    ∃ m', m = p.log ++ m' ∧ l = m' ++ x :: rest := by
  rcases List.append_eq_append_iff.mp h with ⟨m', hm, hl⟩ | ⟨m', hlog, hrest⟩
  · exact ⟨m', hm, hl⟩
  · rcases List.cons_eq_append_iff.mp hrest with ⟨rfl, hl⟩ | ⟨m'', rfl, -⟩
    · exact ⟨[], by simpa using hlog.symm, hl⟩
    · -- The call would be one of the plan.
      have hmem : x ∈ external p.log := List.mem_filter.mpr ⟨by rw [hlog]; simp, by simp [hx]⟩
      rw [external_log hp.allExternal] at hmem
      rw [(hp x hmem).1] at hstages
      cases hstages

/-- When a connect binds a runner, and when it has succeeded, all files are staged. --/
theorem staged_for_runner {σ : Type} {h : Handler calls σ} {tree : σ → MemTree} (hmem : InMemory h tree) (c : Connector)
    (run : AnsibleRun) (s : σ) :
    (∀ m dir config r rest, (c.connect (.run run)).exchanges h s = m ++ ⟨.initRunner dir run config, r⟩ :: rest →
      StagedBy c run m (tree (replay h s m))) ∧
    ∀ conn, ((c.connect (.run run)).run h s).1 = some (.ok conn) →
      StagedBy c run ((c.connect (.run run)).exchanges h s) (tree ((c.connect (.run run)).run h s).2) := by
  have hgives := occurs_exchanges h (c.stage run) s
  have hfollows := follows_exchanges h (c.stage run) s
  rcases stage_split hfollows with ⟨v, l, fits, found, hlog, hl⟩ | ⟨hstages, hno⟩
  · refine ⟨?_, ?_⟩
    · intro m dir config r rest hm
      change (c.stage run).exchanges h s = _ at hm
      obtain ⟨m', rfl, rfl⟩ := append_of_log_append (allStaging_filesPlan c run v) (hlog.symm.trans hm) rfl rfl
      rw [hm] at hgives
      obtain ⟨u, hbefore, -⟩ := hgives.of_append
      rw [hbefore.replay_eq]
      exact stagedBy_of_occurs fits found (hmem.occurs hbefore) fun x hx => hl x (List.mem_append_left _ hx)
    · intro conn _
      change StagedBy c run ((c.stage run).exchanges h s) (tree ((c.stage run).run h s).2)
      rw [hlog] at hgives ⊢
      exact stagedBy_of_occurs fits found (hmem.occurs hgives) hl
  · refine ⟨?_, fun conn hconn => absurd hconn (hno conn)⟩
    intro m dir config r rest hm
    have hx := hstages ⟨.initRunner dir run config, r⟩ (by
      change (c.stage run).exchanges h s = _ at hm
      rw [hm]
      simp)
    simp [Call.isCheck, Call.stages] at hx

/-- A connect with a file from the configuration ends well, and its files are staged. --/
theorem staged_for_runner_granting :
    let config : ProviderConfig := ⟨.empty, { ProviderSettings.empty with
      credentials := [⟨"key", .inline, { Selectors.empty with data := some "secret" }⟩], requirements := some "roles: []" }⟩
    let c : Connector := ⟨⟨⟨"/work"⟩⟩, ⟨⟨"/git"⟩⟩, fun _ => none⟩
    let run : AnsibleRun := ⟨{ Metadata.empty with uid := ⟨"u"⟩ }, none, .empty⟩
    let h := (World.granting config .empty).handler
    InMemory h id ∧ ((c.connect (.run run)).run h .empty).1 = some (.ok ⟨⟨"/work/u"⟩, .plain ⟨"u"⟩ ⟨"/work/u"⟩ "" ""⟩) ∧
      StagedBy c run ((c.connect (.run run)).exchanges h .empty) ((c.connect (.run run)).run h .empty).2 := by
  intro config c run h
  have hmem : InMemory h id := World.inMemory _
  have hok : ((c.connect (.run run)).run h .empty).1 = some (.ok ⟨⟨"/work/u"⟩, .plain ⟨"u"⟩ ⟨"/work/u"⟩ "" ""⟩) :=
    eq_ok_of_toOption (by decide +kernel)
  exact ⟨hmem, hok, (staged_for_runner hmem c run .empty).2 _ hok⟩

end AnsibleStaging
