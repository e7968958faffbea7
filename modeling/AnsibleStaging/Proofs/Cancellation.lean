import AnsibleStaging.Proofs.ConnectOrder

/-! Cancelling a connect. The caller is looked at between two steps and never within one, so a connect that is cancelled
    in a call goes on to the end of the step that contains the call, and ends there: it is a connect without
    cancelling, cut off at the next look. Only the construction of the tools, before which nobody looks, may still
    follow. -/

namespace AnsibleStaging
open Script

variable {σ τ ε α : Type}

/-! ### The caller's token -/

/-- `h` with a caller whose token has fired as `fired` says once that many calls were made. --/
def withToken (fired : Nat → Bool) (h : Handler calls σ) : Handler calls (σ × Nat)
  | .cancelled, s => (some (fired s.2), s)
  | c, s => ((h c s.1).1, (h c s.1).2, s.2 + 1)

def never : Nat → Bool := fun _ => false

/-- The token fires in call number `k`. --/
def firesIn (k : Nat) : Nat → Bool := fun n => decide (k < n)

def always : Nat → Bool := fun _ => true

theorem withToken_external {c : Call} (hc : c.isCheck = false) (fired : Nat → Bool) (h : Handler calls σ) (s : σ × Nat) :
    withToken fired h c s = ((h c s.1).1, (h c s.1).2, s.2 + 1) := by
  cases c <;> first
    | rfl
    | cases hc

/-- The token does not touch what the collaborators do. --/
theorem replay_withToken (fired : Nat → Bool) (h : Handler calls σ) (l : Record) (s : σ × Nat) :
    (replay (withToken fired h) s l).1 = replay h s.1 (external l) := by
  induction l generalizing s with
  | nil => rfl
  | cons x l ih =>
    rw [replay, List.foldl_cons]
    refine (ih _).trans ?_
    cases hx : x.call.isCheck with
    | true =>
      have hskip : external (x :: l) = external l := List.filter_cons_of_neg (by simp [hx])
      rw [hskip, Call.eq_cancelled hx]
      rfl
    | false =>
      have hkeep : external (x :: l) = x :: external l := List.filter_cons_of_pos (by simp [hx])
      rw [hkeep, withToken_external hx]
      rfl

/-! ### Where a run is cut off -/

/-- A record up to the first look at the caller after `n` calls. --/
def cut : Nat → Record → Record
  | _, [] => []
  | n, x :: l => if x.call.isCheck then if n = 0 then [] else x :: cut n l else x :: cut (n - 1) l

theorem cut_check {x : Exchange calls} (hx : x.call.isCheck = true) (n : Nat) (l : Record) :
    cut (n + 1) (x :: l) = x :: cut (n + 1) l := by
  simp [cut, hx]

theorem cut_external {x : Exchange calls} (hx : x.call.isCheck = false) (n : Nat) (l : Record) :
    cut n (x :: l) = x :: cut (n - 1) l := by
  simp [cut, hx]

theorem cut_zero_check {x : Exchange calls} (hx : x.call.isCheck = true) (l : Record) : cut 0 (x :: l) = [] := by
  simp [cut, hx]

/-- Two runs go apart at the first look at the caller after `n` calls. --/
def GoApart (n : Nat) (calm fired : Record) : Prop :=
  ∃ rest rest', calm = cut n calm ++ ⟨.cancelled, some false⟩ :: rest ∧
    fired = cut n calm ++ ⟨.cancelled, some true⟩ :: rest'

theorem GoApart.cons {n m : Nat} {x : Exchange calls} {calm fired : Record} (hcut : cut n (x :: calm) = x :: cut m calm)
    (h : GoApart m calm fired) : GoApart n (x :: calm) (x :: fired) := by
  obtain ⟨rest, rest', hcalm, hfired⟩ := h
  refine ⟨rest, rest', ?_, ?_⟩
  · rw [hcut, List.cons_append, ← hcalm]
  · rw [hcut, List.cons_append, ← hfired]

/-- The token fires in a call, and there is no look at the caller after it; or the two runs go apart there. --/
theorem exchanges_firesIn {h : Handler calls σ} (complete : ∀ c s, (h c s).1.isSome) (t : Task ε α) (k : Nat)
    (s : σ × Nat) :
    (cut (k + 1 - s.2) (t.exchanges (withToken never h) s) = t.exchanges (withToken never h) s ∧
        t.exchanges (withToken (firesIn k) h) s = t.exchanges (withToken never h) s ∧
        t.run (withToken (firesIn k) h) s = t.run (withToken never h) s) ∨
      GoApart (k + 1 - s.2) (t.exchanges (withToken never h) s) (t.exchanges (withToken (firesIn k) h) s) := by
  induction t generalizing s with
  | done a => exact Or.inl ⟨rfl, rfl, rfl⟩
  | fail e => exact Or.inl ⟨rfl, rfl, rfl⟩
  | ask c next ih =>
    cases hc : c.isCheck with
    | true =>
      obtain rfl := Call.eq_cancelled hc
      by_cases hk : k < s.2
      · -- The token has fired, and here the caller is looked at.
        have hcalm : (withToken never h .cancelled s).1 = some false := rfl
        have hfired : (withToken (firesIn k) h .cancelled s).1 = some true := congrArg some (decide_eq_true hk)
        rw [exchanges_ask hcalm, exchanges_ask hfired, Nat.sub_eq_zero_of_le hk]
        exact Or.inr ⟨_, _, rfl, rfl⟩
      · have hcalm : (withToken never h .cancelled s).1 = some false := rfl
        have hfired : (withToken (firesIn k) h .cancelled s).1 = some false := congrArg some (decide_eq_false hk)
        obtain ⟨m, hm⟩ : ∃ m, k + 1 - s.2 = m + 1 := ⟨k - s.2, by omega⟩
        have hcut : ∀ l, cut (k + 1 - s.2) (⟨.cancelled, some false⟩ :: l) = ⟨.cancelled, some false⟩ ::
            cut (k + 1 - s.2) l := by
          intro l
          rw [hm]
          exact cut_check rfl m l
        rw [exchanges_ask hcalm, exchanges_ask hfired, run_ask hfired, run_ask hcalm]
        rcases ih false s with ⟨hsame, hlog, hrun⟩ | hapart
        · exact Or.inl ⟨(hcut _).trans (congrArg _ hsame), congrArg _ hlog, hrun⟩
        · exact Or.inr (hapart.cons (hcut _))
    | false =>
      obtain ⟨r, hr⟩ := Option.isSome_iff_exists.mp (complete c s.1)
      have answer : ∀ f, (withToken f h c s).1 = some r := fun f => by rw [withToken_external hc, hr]
      have after : ∀ f, (withToken f h c s).2 = ((h c s.1).2, s.2 + 1) := fun f => by rw [withToken_external hc]
      have hm : k + 1 - s.2 - 1 = k + 1 - (s.2 + 1) := by omega
      have hcut : ∀ l, cut (k + 1 - s.2) (⟨c, some r⟩ :: l) = ⟨c, some r⟩ :: cut (k + 1 - (s.2 + 1)) l := by
        intro l
        rw [← hm]
        exact cut_external hc _ l
      rw [exchanges_ask (answer _), exchanges_ask (answer _), run_ask (answer _), run_ask (answer _), after, after]
      rcases ih r ((h c s.1).2, s.2 + 1) with ⟨hsame, hlog, hrun⟩ | hapart
      · exact Or.inl ⟨(hcut _).trans (congrArg _ hsame), congrArg _ hlog, hrun⟩
      · exact Or.inr (hapart.cons (hcut _))

theorem cut_append {xs : Record} (h : AllExternal xs) (n : Nat) (l : Record) :
    cut n (xs ++ l) = xs ++ cut (n - xs.length) l := by
  induction xs generalizing n with
  | nil => rfl
  | cons x xs ih =>
    obtain ⟨hx, hxs⟩ := List.forall_mem_cons.mp h
    rw [List.cons_append, cut_external hx, ih hxs, List.length_cons, Nat.sub_sub, Nat.add_comm 1]
    rfl

theorem cut_checks (s : Step) (n : Nat) (l : Record) : cut (n + 1) (s.checks ++ l) = s.checks ++ cut (n + 1) l := by
  unfold Step.checks
  split
  · exact cut_check rfl n l
  · rfl

/-! ### Cutting a plan -/

namespace Plan

/-- The step of call number `k`, and the number of calls up to the end of that step. --/
def place : Plan → Nat → Option (Step × Nat)
  | [], _ => none
  | (step, xs) :: p, k =>
    if k < xs.length then some (step, xs.length)
    else (place p (k - xs.length)).map fun x => (x.1, xs.length + x.2)

/-- A run with a plan that nobody cancels: it goes through all steps, or fails in one of them. --/
inductive Course : Plan → Record → Option ConnectError → Prop
  | through : Course [] [] none
  | step {s : Step} {xs l : Record} {p : Plan} {e : Option ConnectError} (rest : Course p l e) :
      Course ((s, xs) :: p) (s.checks ++ (xs ++ l)) e
  | fails {s : Step} {xs made : Record} {p : Plan} {e : ConnectError} (begun : asked made <+: asked xs)
      (kind : e.kindName ∈ s.kinds) : Course ((s, xs) :: p) (s.checks ++ made) (some e)

/-- What cancelling needs of a plan: the steps are different ones, nobody looks at the caller only before the tools are
    constructed, and the last step is a guarded one. --/
structure Proper (p : Plan) : Prop where
  external : AllExternal p.record
  distinct : (p.map Prod.fst).Nodup
  tools : ∀ s ∈ p, s.1.isGuarded = false → ∀ x ∈ s.2, ∃ dir, x.call = .tools dir
  last : ∀ s ∈ p.getLast?, s.1 = .galaxy

theorem Proper.tail {s : Step × Record} {p : Plan} (h : Proper (s :: p)) : p.Proper where
  external := (allExternal_append.mp h.external).2
  distinct := (List.nodup_cons.mp h.distinct).2
  tools s' hs' := h.tools s' (List.mem_cons_of_mem _ hs')
  last s' hs' := h.last s' (by
    rw [Option.mem_def] at hs' ⊢
    rw [List.getLast?_cons, hs']
    rfl)

theorem Proper.of_single {s : Step × Record} (h : Proper [s]) : s.1 = .galaxy := h.last s rfl

theorem course_append {p q : Plan} {l : Record} {e : Option ConnectError} (h : q.Course l e) :
    (p ++ q).Course (p.log ++ l) e := by
  induction p with
  | nil => exact h
  | cons s p ih =>
    rw [log_cons, List.append_assoc, List.append_assoc]
    exact .step ih

theorem course_log (p : Plan) : p.Course p.log none := by
  have := course_append (p := p) .through
  rwa [List.append_nil, List.append_nil] at this

theorem Course.kind {p : Plan} {l : Record} {e : ConnectError} (h : p.Course l (some e)) :
    ∃ s ∈ p.map Prod.fst, e.kindName ∈ s.kinds := by
  generalize ho : some e = o at h
  induction h with
  | through => cases ho
  | step _ ih =>
    obtain ⟨s, hs, hk⟩ := ih ho
    exact ⟨s, List.mem_cons_of_mem _ hs, hk⟩
  | fails _ kind =>
    cases ho
    exact ⟨_, List.mem_cons_self, kind⟩

theorem eq_tools {s : Step} (h : s.isGuarded = false) : s = .tools := by
  cases s <;> first
    | rfl
    | cases h

/-- What follows without a look at the caller is the construction of the tools, and a look follows it. --/
theorem Course.cut_zero {p : Plan} {l : Record} {e : Option ConnectError} (hp : p.Proper) (h : p.Course l e) :
    (∀ x ∈ cut 0 l, ∃ dir, x.call = .tools dir) ∧ (p ≠ [] → cut 0 l ≠ l) := by
  induction h with
  | through => exact ⟨by simp [cut], fun h => absurd rfl h⟩
  | @step s xs l p e rest ih =>
    cases hs : s.isGuarded with
    | true =>
      have hc : s.checks = [⟨.cancelled, some false⟩] := if_pos hs
      rw [hc, List.singleton_append, cut_zero_check rfl]
      exact ⟨by simp, fun _ => by simp⟩
    | false =>
      have hc : s.checks = [] := if_neg (by simp [hs])
      obtain ⟨tools, more⟩ := ih hp.tail
      have hne : p ≠ [] := by
        rintro rfl
        have := hp.of_single
        rw [eq_tools hs] at this
        cases this
      rw [hc, List.nil_append, cut_append (allExternal_append.mp hp.external).1, Nat.zero_sub]
      refine ⟨?_, fun _ h => more hne (List.append_cancel_left h)⟩
      intro x hx
      rcases List.mem_append.mp hx with hx | hx
      · exact hp.tools _ List.mem_cons_self hs x hx
      · exact tools x hx
  | @fails s xs made p e begun kind =>
    cases hs : s.isGuarded with
    | true =>
      have hc : s.checks = [⟨.cancelled, some false⟩] := if_pos hs
      rw [hc, List.singleton_append, cut_zero_check rfl]
      exact ⟨by simp, fun _ => by simp⟩
    | false =>
      rw [eq_tools hs] at kind
      cases kind

/-- After a step that is the last, or that the run's failure puts to blame, nothing is planned. --/
theorem Proper.nil_of_last {s : Step} {xs l : Record} {p : Plan} {e : Option ConnectError} (hp : Proper ((s, xs) :: p))
    (h : p.Course l e) (hlast : s = .galaxy ∨ ∃ e' ∈ e, e'.kindName ∈ s.kinds) : p = [] := by
  have hfresh : s ∉ p.map Prod.fst := (List.nodup_cons.mp hp.distinct).1
  rcases hlast with rfl | ⟨e', rfl, hk⟩
  · rcases List.eq_nil_or_concat p with hnil | ⟨q, s', rfl⟩
    · exact hnil
    · have hs' : s'.1 = .galaxy := hp.tail.last s' (by simp)
      exact absurd (List.mem_map.mpr ⟨s', by simp, hs'⟩) hfresh
  · obtain ⟨s', hs', hk'⟩ := h.kind
    rw [Step.eq_of_mem_kinds hk' hk] at hs'
    exact absurd hs' hfresh

theorem asked_length (l : Record) : (asked l).length = l.length := List.length_map _

/-- A run that is cut off in a call has made the calls up to the end of the step of that call, and after them at most
    constructed the tools. It was at its end only if that step failed or was the last. --/
theorem Course.cut_at {p : Plan} {l : Record} {e : Option ConnectError} (hp : p.Proper) (h : p.Course l e) {k : Nat}
    (hk : k < (external l).length) : ∃ step n, p.place k = some (step, n) ∧
      (∃ extra, external (cut (k + 1) l) = (external l).take n ++ extra ∧ ∀ x ∈ extra, ∃ dir, x.call = .tools dir) ∧
      (cut (k + 1) l = l ↔ step = .galaxy ∨ ∃ e' ∈ e, e'.kindName ∈ step.kinds) := by
  induction h generalizing k with
  | through => simp [external] at hk
  | @step s xs l p e rest ih =>
    have hxs := (allExternal_append.mp hp.external).1
    have hl : external (s.checks ++ (xs ++ l)) = xs ++ external l := by
      rw [external_append, external_append, external_checks, external_eq_self hxs, List.nil_append]
    have hcut : cut (k + 1) (s.checks ++ (xs ++ l)) = s.checks ++ (xs ++ cut (k + 1 - xs.length) l) := by
      rw [cut_checks, cut_append hxs]
    have hext : external (cut (k + 1) (s.checks ++ (xs ++ l))) = xs ++ external (cut (k + 1 - xs.length) l) := by
      rw [hcut, external_append, external_append, external_checks, external_eq_self hxs, List.nil_append]
    have hsame : cut (k + 1) (s.checks ++ (xs ++ l)) = s.checks ++ (xs ++ l) ↔ cut (k + 1 - xs.length) l = l := by
      rw [hcut, List.append_cancel_left_eq, List.append_cancel_left_eq]
    rw [hl, List.length_append] at hk
    rw [hl, hext, hsame]
    by_cases hin : k < xs.length
    · -- The call is one of this step.
      have hzero : k + 1 - xs.length = 0 := by omega
      obtain ⟨tools, more⟩ := rest.cut_zero hp.tail
      rw [hzero]
      refine ⟨s, xs.length, if_pos hin, ⟨cut 0 l, ?_, tools⟩, ?_⟩
      · have hext0 : AllExternal (cut 0 l) := by
          intro x hx
          obtain ⟨dir, hdir⟩ := tools x hx
          rw [hdir]
          rfl
        rw [List.take_left, external_eq_self hext0]
      · constructor
        · intro hend
          have hnil : p = [] := Classical.byContradiction fun hne => more hne hend
          subst hnil
          exact Or.inl hp.of_single
        · intro hend
          have hnil : p = [] := hp.nil_of_last rest hend
          subst hnil
          cases rest
          rfl
    · -- The call is one of a later step.
      have hlater : k + 1 - xs.length = k - xs.length + 1 := by omega
      obtain ⟨step, n, hplace, ⟨extra, hextra, tools⟩, hend⟩ := ih hp.tail (k := k - xs.length) (by omega)
      rw [hlater]
      refine ⟨step, xs.length + n, ?_, ⟨extra, ?_, tools⟩, hend⟩
      · rw [place, if_neg hin, hplace]
        rfl
      · rw [hextra, List.take_length_add_append, List.append_assoc]
  | @fails s xs made p e begun kind =>
    have hext : AllExternal made := (allExternal_append.mp hp.external).1.of_begun begun
    have hmade : external made = made := external_eq_self hext
    have hle : made.length ≤ xs.length := by
      have := begun.length_le
      rwa [asked_length, asked_length] at this
    rw [external_append, external_checks, List.nil_append, hmade] at hk ⊢
    have hcut : cut (k + 1) (s.checks ++ made) = s.checks ++ made := by
      have := cut_append hext (k + 1) []
      rw [List.append_nil, cut, List.append_nil] at this
      rw [cut_checks, this]
    refine ⟨s, xs.length, if_pos (by omega), ⟨[], ?_, by simp⟩, ?_⟩
    · rw [hcut, external_append, external_checks, hmade, List.take_of_length_le hle, List.append_nil, List.nil_append]
    · exact ⟨fun _ => Or.inr ⟨e, rfl, kind⟩, fun _ => hcut⟩

end Plan

/-! ### Cancelling a connect -/

theorem isGuarded_of_mem_filesPlan {c : Connector} {run : AnsibleRun} {v : Supply} {s : Step × Record}
    (hs : s ∈ c.filesPlan run v) : s.1.isGuarded = true := by
  have all : (c.filesPlan run v).all (fun s => s.1.isGuarded) = true := by
    unfold Connector.filesPlan Connector.playbookPlan Connector.requirementsPlan
    cases run.source <;> cases v.config.settings.requirements <;> rfl
  exact List.all_eq_true.mp all s hs

theorem proper_plan (c : Connector) (run : AnsibleRun) (v : Supply) : (c.plan run v).Proper where
  external := allExternal_plan c run v
  distinct := by
    unfold Connector.plan Connector.filesPlan Connector.playbookPlan Connector.requirementsPlan Connector.runnerPlan
    cases run.source <;> cases v.config.settings.requirements <;> simp
  tools := by
    intro s hs hg x hx
    rcases List.mem_append.mp hs with hs | hs
    · rw [isGuarded_of_mem_filesPlan hs] at hg
      cases hg
    · simp only [Connector.runnerPlan, List.mem_cons, List.not_mem_nil, or_false] at hs
      rcases hs with rfl | rfl | rfl
      · obtain rfl := List.mem_singleton.mp hx
        exact ⟨_, rfl⟩
      · cases hg
      · cases hg
  last := by
    intro s hs
    have hlast : (c.plan run v).getLast? = some (.galaxy, [⟨.installGalaxy (c.runDir run) v.config, some (.ok ())⟩]) := by
      simp [Connector.plan, Connector.runnerPlan]
    rw [hlast] at hs
    cases hs
    rfl

theorem answer_of_mem_exchanges {h : Handler calls σ} {t : Task ε α} {s : σ} {x : Exchange calls}
    (hx : x ∈ t.exchanges h s) : ∃ s', (h x.call s').1 = x.reply := by
  induction t generalizing s with
  | done a => cases hx
  | fail e => cases hx
  | ask c next ih =>
    cases hr : (h c s).1 with
    | none =>
      rw [exchanges_ask_none hr] at hx
      obtain rfl := List.mem_singleton.mp hx
      exact ⟨s, hr⟩
    | some r =>
      rw [exchanges_ask hr] at hx
      rcases List.mem_cons.mp hx with rfl | hx
      · exact ⟨s, hr⟩
      · exact ih r hx

theorem run_isSome {h : Handler calls σ} (complete : ∀ c s, (h c s).1.isSome) (t : Task ε α) (s : σ) :
    ∃ r, (t.run h s).1 = some r := by
  induction t generalizing s with
  | done a => exact ⟨_, rfl⟩
  | fail e => exact ⟨_, rfl⟩
  | ask c next ih =>
    obtain ⟨r, hr⟩ := Option.isSome_iff_exists.mp (complete c s)
    rw [run_ask hr]
    exact ih r _

theorem complete_withToken {h : Handler calls σ} (complete : ∀ c s, (h c s).1.isSome) (fired : Nat → Bool) (c : Call)
    (s : σ × Nat) : (withToken fired h c s).1.isSome := by
  cases hc : c.isCheck with
  | true =>
    obtain rfl := Call.eq_cancelled hc
    rfl
  | false =>
    rw [withToken_external hc]
    exact complete c s.1

theorem course_of_goesAlong {c : Connector} {h : Handler calls σ} (complete : ∀ c s, (h c s).1.isSome) {run : AnsibleRun}
    {s : σ × Nat} {v : Supply} (hv : GoesAlong c run v ((c.stage run).exchanges (withToken never h) s)
      ((c.stage run).run (withToken never h) s).1) :
    ∃ e, (c.plan run v).Course ((c.stage run).exchanges (withToken never h) s) e ∧
      ((c.stage run).run (withToken never h) s).1 = some (e.elim (.ok ⟨c.runDir run, v.runner⟩) .error) := by
  have looks : ∀ r, (⟨.cancelled, r⟩ : Exchange calls) ∈ (c.stage run).exchanges (withToken never h) s →
      r = some false := by
    intro r hr
    obtain ⟨s', hs'⟩ := answer_of_mem_exchanges hr
    exact hs'.symm
  obtain ⟨r, hr⟩ := run_isSome (complete_withToken complete never) (c.stage run) s
  obtain ⟨-, ⟨-, hl, ho⟩ | ⟨e, ⟨before, step, xs, after, made, hp, hl, hmade⟩, ho⟩⟩ := hv
  · refine ⟨none, ?_, ho⟩
    rw [hl]
    exact Plan.course_log _
  · rw [hl] at looks
    cases hmade with
    | cancelled => cases looks (some true) (by simp)
    | unanswered => cases looks none (by simp)
    | within begun kind =>
      obtain ⟨e, rfl⟩ : ∃ e', e = some e' := by
        cases e with
        | none =>
          rw [hr] at ho
          cases ho
        | some e => exact ⟨e, rfl⟩
      refine ⟨some e, ?_, ho⟩
      rw [hl, hp]
      exact Plan.course_append (.fails begun (kind e rfl))

def hasCancelled : Exchange calls := ⟨.cancelled, some true⟩

theorem hasCancelled_notMem {l : Record} (h : AllExternal l) : hasCancelled ∉ l := fun hl => nomatch h _ hl

theorem hasCancelled_notMem_checks (s : Step) : hasCancelled ∉ s.checks := by
  unfold Step.checks
  split
  · intro h
    cases List.mem_singleton.mp h
  · simp

theorem hasCancelled_notMem_log {p : Plan} (h : AllExternal p.record) : hasCancelled ∉ p.log := by
  induction p with
  | nil => simp [Plan.log]
  | cons s p ih =>
    obtain ⟨hs, hp⟩ := allExternal_append.mp h
    rw [Plan.log_cons, List.mem_append, List.mem_append, not_or, not_or]
    exact ⟨⟨hasCancelled_notMem_checks s.1, hasCancelled_notMem hs⟩, ih hp⟩

/-- A connect ends at the look at which it learns that the caller has cancelled. --/
theorem ends_of_cancelled {c : Connector} {run : AnsibleRun} {l l' : Record}
    {o : Option (Except ConnectError Connection)} (h : (c.stage run).Follows (l ++ hasCancelled :: l') o) :
    l' = [] ∧ o = some (.error .cancelled) := by
  have learned : hasCancelled ∈ l ++ hasCancelled :: l' := by simp
  obtain ⟨v, -, ⟨-, hl, -⟩ | ⟨e, ⟨before, step, xs, after, made, hp, hl, hmade⟩, ho⟩⟩ := exists_goesAlong h
  · rw [hl] at learned
    exact absurd learned (hasCancelled_notMem_log (allExternal_plan c run v))
  · have hplan := allExternal_plan c run v
    rw [hp, Plan.record_append, Plan.record_cons, allExternal_append, allExternal_append] at hplan
    obtain ⟨hbefore, hxs, -⟩ := hplan
    have hlog := hasCancelled_notMem_log hbefore
    rw [hl] at learned
    cases hmade with
    | cancelled =>
      refine ⟨?_, ho⟩
      rcases List.eq_nil_or_concat l' with hnil | ⟨rest, x, rfl⟩
      · exact hnil
      · -- The look would stand before the last one.
        exfalso
        rw [List.concat_eq_append, ← List.cons_append, ← List.append_assoc] at hl
        have := (List.append_inj' hl rfl).1
        exact hlog (this ▸ by simp)
    | unanswered =>
      rcases List.mem_append.mp learned with h | h
      · exact absurd h hlog
      · simp [hasCancelled] at h
    | within begun =>
      rw [List.mem_append, List.mem_append] at learned
      rcases learned with h | h | h
      · exact absurd h hlog
      · exact absurd h (hasCancelled_notMem_checks step)
      · exact absurd h (hasCancelled_notMem (hxs.of_begun begun))

theorem replay_append (h : Handler calls σ) (s : σ) (l m : Record) : replay h s (l ++ m) = replay h (replay h s l) m :=
  List.foldl_append

theorem view_replay_tools {h : Handler calls σ} {tree : σ → τ} (tools_keep : ∀ dir s, tree (h (.tools dir) s).2 = tree s)
    {l : Record} (hl : ∀ x ∈ l, ∃ dir, x.call = .tools dir) (s : σ) : tree (replay h s l) = tree s := by
  induction l generalizing s with
  | nil => rfl
  | cons x l ih =>
    obtain ⟨⟨dir, hx⟩, hl⟩ := List.forall_mem_cons.mp hl
    rw [replay, List.foldl_cons, hx]
    exact (ih hl _).trans (tools_keep dir s)

/-- Whether a connect has ended with a failure of this step. --/
def Step.isBlamedBy (step : Step) : Option (Except ConnectError α) → Bool
  | some (.error e) => step.kinds.contains e.kindName
  | _ => false

section
variable (c : Connector) (resource : ManagedResource) (h : Handler calls σ) (s : σ) (fired : Nat → Bool)

def connectCalls : Record := external ((c.connect resource).exchanges (withToken fired h) (s, 0))

/-- How a connect with a token ends, and in which state. --/
def connectEnd : Option (Except ConnectError Connection) × σ :=
  let ended := (c.connect resource).run (withToken fired h) (s, 0)
  (ended.1, ended.2.1)

theorem connectEnd_state : (connectEnd c resource h s fired).2 = replay h s (connectCalls c resource h s fired) := by
  have hrun := (occurs_exchanges (withToken fired h) (c.connect resource) (s, 0)).replay_eq
  have hreplay := replay_withToken fired h ((c.connect resource).exchanges (withToken fired h) (s, 0)) (s, 0)
  rw [hrun] at hreplay
  exact hreplay

end

/-- A connect that is cancelled in a call of `step`, beside the same connect that nobody cancels. Up to the end of the
    step `n` calls are made. --/
structure CutOff (c : Connector) (run : AnsibleRun) (h : Handler calls σ) (s : σ) (k : Nat) (step : Step) (n : Nat) :
    Prop where
  calls_eq : ∃ extra, connectCalls c (.run run) h s (firesIn k) = (connectCalls c (.run run) h s never).take n ++ extra ∧
    (connectEnd c (.run run) h s (firesIn k)).2 =
      replay h (replay h s ((connectCalls c (.run run) h s never).take n)) extra ∧
    ∀ x ∈ extra, ∃ dir, x.call = .tools dir
  result_eq : (connectEnd c (.run run) h s (firesIn k)).1 =
    if step = .galaxy ∨ step.isBlamedBy (connectEnd c (.run run) h s never).1 = true
    then (connectEnd c (.run run) h s never).1
    else some (.error .cancelled)

/-- What the construction of the tools does not touch is as the calls up to the end of the step have left it. --/
theorem CutOff.view_eq {c : Connector} {run : AnsibleRun} {h : Handler calls σ} {s : σ} {k n : Nat} {step : Step}
    (hcut : CutOff c run h s k step n) {view : σ → τ} (tools_keep : ∀ dir s, view (h (.tools dir) s).2 = view s) :
    view (connectEnd c (.run run) h s (firesIn k)).2 =
      view (replay h s ((connectCalls c (.run run) h s never).take n)) := by
  obtain ⟨extra, -, hstate, htools⟩ := hcut.calls_eq
  rw [hstate]
  exact view_replay_tools tools_keep htools _

theorem exists_cutOff {h : Handler calls σ} (complete : ∀ c s, (h c s).1.isSome) (c : Connector) (run : AnsibleRun)
    (s : σ) {k : Nat} (hk : k < (connectCalls c (.run run) h s never).length) {v : Supply}
    (hv : GoesAlong c run v ((c.stage run).exchanges (withToken never h) (s, 0))
      ((c.stage run).run (withToken never h) (s, 0)).1) :
    ∃ step n, (c.plan run v).place k = some (step, n) ∧ CutOff c run h s k step n := by
  obtain ⟨e, hcourse, hresult⟩ := course_of_goesAlong complete hv
  obtain ⟨step, n, hplace, ⟨extra, hextra, htools⟩, hend⟩ := hcourse.cut_at (proper_plan c run v) hk
  have hblamed : (step = .galaxy ∨ step.isBlamedBy (connectEnd c (.run run) h s never).1 = true) ↔
      step = .galaxy ∨ ∃ e' ∈ e, e'.kindName ∈ step.kinds := by
    have : (connectEnd c (.run run) h s never).1 = _ := hresult
    rw [this]
    cases e <;> simp [Step.isBlamedBy]
  obtain ⟨hcalls, hresult⟩ : connectCalls c (.run run) h s (firesIn k) =
        external (cut (k + 1) ((c.stage run).exchanges (withToken never h) (s, 0))) ∧
      (connectEnd c (.run run) h s (firesIn k)).1 =
        if step = .galaxy ∨ step.isBlamedBy (connectEnd c (.run run) h s never).1 = true
        then (connectEnd c (.run run) h s never).1
        else some (.error .cancelled) := by
    rcases exchanges_firesIn complete (c.stage run) k (s, 0) with ⟨hsame, hlog, hrun⟩ | ⟨rest, rest', hcalm, hfired⟩
    · -- Nobody looks at the caller after the call: the connect ends as if nobody cancelled.
      refine ⟨congrArg external (hlog.trans hsame.symm), ?_⟩
      rw [if_pos (hblamed.mpr (hend.mp hsame))]
      exact congrArg (fun r => r.1) hrun
    · -- At the first look after the call it is over.
      have hcut : cut (k + 1) ((c.stage run).exchanges (withToken never h) (s, 0)) ≠
          (c.stage run).exchanges (withToken never h) (s, 0) := by
        intro heq
        have := congrArg List.length hcalm
        rw [List.length_append, show k + 1 - (s, 0).2 = k + 1 from rfl, heq] at this
        simp at this
      have hfollows := follows_exchanges (withToken (firesIn k) h) (c.stage run) (s, 0)
      rw [hfired] at hfollows
      obtain ⟨rfl, hcancelled⟩ := ends_of_cancelled hfollows
      refine ⟨?_, ?_⟩
      · refine (congrArg external hfired).trans ?_
        rw [external_append]
        exact List.append_nil _
      · rw [if_neg fun hb => hcut (hend.mpr (hblamed.mp hb))]
        exact hcancelled
  replace hcalls : _ = (connectCalls c (.run run) h s never).take n ++ extra := hcalls.trans hextra
  refine ⟨step, n, hplace, ⟨extra, hcalls, ?_, htools⟩, hresult⟩
  rw [connectEnd_state, hcalls, replay_append]

/-- A connect that is cancelled in a call ends where the step of the call ends: with the calls up to there and maybe the
    construction of the tools, with all else as it was left there, and as cancelled unless the step is at fault or the
    last. A connect that is cancelled before it starts asks nothing. --/
theorem cancelled_at_step_end {h : Handler calls σ} (complete : ∀ c s, (h c s).1.isSome) (c : Connector) (s : σ) :
    (∀ run, ∃ v, FollowsPlan c run v ((c.connect (.run run)).exchanges (withToken never h) (s, 0))
        (connectEnd c (.run run) h s never).1 ∧
      ∀ k < (connectCalls c (.run run) h s never).length,
        ∃ step n, (c.plan run v).place k = some (step, n) ∧ CutOff c run h s k step n ∧
          ∀ {τ : Type} (tree : σ → τ), (∀ dir s, tree (h (.tools dir) s).2 = tree s) →
            tree (connectEnd c (.run run) h s (firesIn k)).2 =
              tree (replay h s ((connectCalls c (.run run) h s never).take n))) ∧
    (∀ run, connectCalls c (.run run) h s always = [] ∧
      connectEnd c (.run run) h s always = (some (.error .cancelled), s)) ∧
    ∀ other fired, connectCalls c (.other other) h s fired = [] ∧
      connectEnd c (.other other) h s fired = (some (.error (.notSupported other.kind)), s) := by
  refine ⟨fun run => ?_, fun _ => ⟨rfl, rfl⟩, fun _ _ => ⟨rfl, rfl⟩⟩
  have hf := follows_exchanges (withToken never h) (c.stage run) (s, 0)
  obtain ⟨v, hv⟩ := exists_goesAlong hf
  refine ⟨v, hv.followsPlan hf, fun k hk => ?_⟩
  obtain ⟨step, n, hplace, hcut⟩ := exists_cutOff complete c run s hk hv
  exact ⟨step, n, hplace, hcut, fun tree tools_keep => hcut.view_eq tools_keep⟩

def granting (config : ProviderConfig) : Handler calls Unit
  | .cancelled, s => (some false, s)
  | .makeDirs _ _, s => (some (.ok ()), s)
  | .write _ _ _, s => (some (.ok ()), s)
  | .read _, s => (some (.ok .empty), s)
  | .secret _, s => (some (.ok .empty), s)
  | .track _, s => (some (.ok ()), s)
  | .providerConfig _, s => (some (.ok config), s)
  | .fetch _, s => (some (.ok .empty), s)
  | .tools _, s => (some (), s)
  | .initRunner dir run _, s => (some (.ok (.plain run.uid dir "" "")), s)
  | .installGalaxy _ _, s => (some (.ok ()), s)

theorem granting_complete (config : ProviderConfig) (c : Call) (s : Unit) : (granting config c s).1.isSome := by
  cases c <;> rfl

/-- Cancelled while its usage is recorded, a connect ends after these two calls. --/
theorem cancelled_in_usage : let c : Connector := ⟨⟨⟨"/work"⟩⟩, ⟨⟨"/git"⟩⟩, fun _ => none⟩
    let run : AnsibleRun := ⟨{ Metadata.empty with uid := ⟨"u"⟩ }, none, .empty⟩
    (∀ c s, (granting .empty c s).1.isSome) ∧ 1 < (connectCalls c (.run run) (granting .empty) () never).length ∧
      CutOff c run (granting .empty) () 1 .usage 2 := by
  intro c run
  have hk : 1 < (connectCalls c (.run run) (granting .empty) () never).length := by decide
  obtain ⟨v, -, hcut⟩ := (cancelled_at_step_end (granting_complete .empty) c ()).1 run
  obtain ⟨step, n, hplace, hcutOff, -⟩ := hcut 1 hk
  obtain ⟨rfl, rfl⟩ : Step.usage = step ∧ 2 = n := by simpa using Option.some.inj hplace
  exact ⟨granting_complete .empty, hk, hcutOff⟩

end AnsibleStaging
