import AnsibleStaging.Proofs.Granting

/-! The order of the calls of a connect, and what its failures say. The calls are those of a plan, up to a point. A
    failure names the step that contains this point: what the plan has before the step was done in full, and of what
    it has after the step nothing was asked. In the step itself a call was refused, and the failure reports the answer,
    or the step has refused what it was given. -/

namespace AnsibleStaging
open Script

/-! ### External calls -/

/-- Whether a call only looks at the caller. --/
def Call.isCheck : Call → Bool
  | cancelled => true
  | _ => false

theorem Call.eq_cancelled {c : Call} (hc : c.isCheck = true) : c = .cancelled := by
  cases c <;> first
    | rfl
    | cases hc

def external (l : Record) : Record := l.filter fun x => !x.call.isCheck

theorem external_append (l m : Record) : external (l ++ m) = external l ++ external m :=
  List.filter_append l m

theorem external_concat {l : Record} {x : Exchange calls} (hx : x.call.isCheck = false) :
    external (l ++ [x]) = external l ++ [x] := by
  rw [external_append]
  exact congrArg _ (List.filter_cons_of_pos (by simp [hx]))

theorem granted_external {l : Record} (h : ∀ x ∈ l, Granted x) : ∀ x ∈ external l, Granted x :=
  fun x hx => h x (List.mem_filter.mp hx).1

theorem external_checks (s : Step) : external s.checks = [] := by
  unfold Step.checks
  split <;> rfl

/-- Calls none of which only looks at the caller. --/
def AllExternal (l : Record) : Prop := ∀ x ∈ l, x.call.isCheck = false

theorem external_eq_self {l : Record} (h : AllExternal l) : external l = l :=
  List.filter_eq_self.mpr fun x hx => by simp [h x hx]

theorem allExternal_append {l m : Record} : AllExternal (l ++ m) ↔ AllExternal l ∧ AllExternal m :=
  List.forall_mem_append

theorem external_log {p : Plan} (h : AllExternal p.record) : external p.log = p.record := by
  induction p with
  | nil => rfl
  | cons s p ih =>
    rw [Plan.record_cons, allExternal_append] at h
    rw [Plan.log_cons, Plan.record_cons, external_append, external_append, external_checks, external_eq_self h.1, ih h.2,
      List.nil_append]

theorem AllExternal.of_begun {made xs : Record} (hxs : AllExternal xs) (h : asked made <+: asked xs) :
    AllExternal made := by
  intro x hx
  obtain ⟨y, hy, hyx⟩ := List.mem_map.mp (h.subset (List.mem_map.mpr ⟨x, hx, rfl⟩))
  rw [← hyx]
  exact hxs y hy

/-! ### Calls that stage files -/

/-- Whether a call belongs to the staging of the files. --/
def Call.stages : Call → Bool
  | cancelled => false
  | tools _ => false
  | initRunner _ _ _ => false
  | installGalaxy _ _ => false
  | _ => true

/-- Calls that belong to the staging of the files, all of them granted. --/
def AllStaging (l : Record) : Prop := ∀ x ∈ l, x.call.stages = true ∧ Granted x

theorem allStaging_append {l m : Record} : AllStaging (l ++ m) ↔ AllStaging l ∧ AllStaging m := List.forall_mem_append

theorem AllStaging.allExternal {l : Record} (h : AllStaging l) : AllExternal l := by
  intro x hx
  have := (h x hx).1
  cases hc : x.call <;> simp_all [Call.stages, Call.isCheck]

theorem allStaging_nil : AllStaging [] := List.forall_mem_nil _

theorem allStaging_cons {x : Exchange calls} {l : Record} (hs : x.call.stages = true) (hx : Granted x)
    (hl : AllStaging l) : AllStaging (x :: l) := List.forall_mem_cons.mpr ⟨⟨hs, hx⟩, hl⟩

theorem allStaging_lookup (source : CredentialsSource) (selectors : Selectors) (data : ByteArray) :
    AllStaging (lookup source selectors data) := by
  unfold lookup
  split
  · split
    · exact allStaging_cons rfl ⟨_, rfl, rfl⟩ allStaging_nil
    · exact allStaging_nil
  · split
    · exact allStaging_cons rfl ⟨_, rfl, rfl⟩ allStaging_nil
    · exact allStaging_nil
  · exact allStaging_nil

theorem allStaging_tokenLookup (entry : Option ByteArray) (git : Option GitConnection) (token : ByteArray) :
    AllStaging (tokenLookup entry git token) := by
  unfold tokenLookup
  split
  · exact allStaging_lookup _ _ _
  · exact allStaging_nil

theorem allStaging_writing (p : Path) (data : ByteArray) : AllStaging [writing p data] :=
  allStaging_cons rfl ⟨_, rfl, rfl⟩ allStaging_nil

theorem allStaging_entries (dir : Path) (es : List (CredentialEntry × ByteArray)) :
    AllStaging (es.flatMap (entryRecord dir)) := by
  intro x hx
  obtain ⟨e, -, hx⟩ := List.mem_flatMap.mp hx
  exact allStaging_append.mpr ⟨allStaging_lookup _ _ _, allStaging_writing _ _⟩ x hx

theorem allStaging_playbookPlan (c : Connector) (run : AnsibleRun) (dir : Path) (entry : Option ByteArray)
    (git : Option GitConnection) (token gitContent fetched : ByteArray) :
    AllStaging (c.playbookPlan run dir entry git token gitContent fetched).record := by
  rw [Connector.playbookPlan_record, allStaging_append]
  refine ⟨?_, allStaging_writing _ _⟩
  split
  · exact allStaging_nil
  · exact allStaging_append.mpr ⟨allStaging_append.mpr ⟨allStaging_tokenLookup _ _ _, allStaging_writing _ _⟩,
      allStaging_cons rfl ⟨_, rfl, rfl⟩ allStaging_nil⟩

theorem allStaging_requirementsPlan (dir : Path) (config : ProviderConfig) :
    AllStaging (Connector.requirementsPlan dir config).record := by
  unfold Connector.requirementsPlan
  split
  · exact allStaging_nil
  · exact allStaging_writing _ _

theorem allStaging_filesPlan (c : Connector) (run : AnsibleRun) (v : Supply) :
    AllStaging (c.filesPlan run v).record := by
  rw [Connector.filesPlan_record]
  simp only [allStaging_append]
  refine ⟨⟨⟨?_, allStaging_entries _ _⟩, allStaging_playbookPlan _ _ _ _ _ _ _ _⟩, allStaging_requirementsPlan _ _⟩
  exact allStaging_cons rfl ⟨_, rfl, rfl⟩ <| allStaging_cons rfl ⟨_, rfl, rfl⟩ <| allStaging_cons rfl ⟨_, rfl, rfl⟩
    allStaging_nil

theorem allExternal_runnerPlan (dir : Path) (run : AnsibleRun) (config : ProviderConfig) (runner : Runner) :
    AllExternal (Connector.runnerPlan dir run config runner).record := by
  simp [AllExternal, Connector.runnerPlan, Plan.record, Call.isCheck]

theorem allExternal_plan (c : Connector) (run : AnsibleRun) (v : Supply) : AllExternal (c.plan run v).record := by
  unfold Connector.plan
  rw [Plan.record_append]
  exact allExternal_append.mpr ⟨(allStaging_filesPlan c run v).allExternal, allExternal_runnerPlan _ _ _ _⟩

theorem granted_plan (c : Connector) (run : AnsibleRun) (v : Supply) : ∀ x ∈ (c.plan run v).record, Granted x := by
  rw [Connector.plan, Plan.record_append, Connector.runnerPlan_record]
  refine List.forall_mem_append.mpr ⟨fun x hx => (allStaging_filesPlan c run v x hx).2, ?_⟩
  simp only [List.forall_mem_cons]
  exact ⟨⟨_, rfl, rfl⟩, ⟨_, rfl, rfl⟩, ⟨_, rfl, rfl⟩, List.forall_mem_nil _⟩

/-! ### Failures -/

def Step.all : List Step :=
  [directory, usage, config, credentials, gitCredentials, content, playbook, requirements, tools, runner, galaxy]

theorem Step.mem_all (s : Step) : s ∈ all := by cases s <;> simp [all]

theorem Step.eq_of_mem_kinds {a b : Step} {kind : String} (ha : kind ∈ a.kinds) (hb : kind ∈ b.kinds) : a = b := by
  have disjoint : ∀ a ∈ all, ∀ b ∈ all, ∀ kind ∈ a.kinds, kind ∈ b.kinds → a = b := by decide
  exact disjoint a a.mem_all b b.mem_all kind ha hb

/-- A connect ends in a step: all before the step is done, and nothing after it is begun. --/
def Plan.EndsIn (p : Plan) (step : Step) (log : Record) : Prop :=
  ∃ (before after : Plan) (xs made : Record), p = before ++ (step, xs) :: after ∧
    external log = before.record ++ made ∧ asked made <+: asked xs

theorem asked_append (l m : Record) : asked (l ++ m) = asked l ++ asked m := List.map_append

theorem Plan.EndsIn.in_order {p : Plan} {step : Step} {log : Record} (h : p.EndsIn step log) :
    asked (external log) <+: asked p.record := by
  obtain ⟨before, after, xs, made, rfl, hlog, hmade⟩ := h
  rw [hlog, record_append, record_cons, asked_append, asked_append, asked_append]
  exact (List.prefix_append_right_inj _).mpr (hmade.trans (List.prefix_append _ _))

/-- Where a plan breaks off: the caller has cancelled, or what failed is a step. --/
theorem endsIn_of_breaks {p : Plan} {l : Record} {e : Option ConnectError} (hp : AllExternal p.record)
    (h : p.Breaks l e) : ∃ step, p.EndsIn step l ∧
      ((e = some .cancelled ∧ (⟨.cancelled, some true⟩ : Exchange calls) ∈ l) ∨ ∀ e' ∈ e, e'.kindName ∈ step.kinds) := by
  obtain ⟨before, step, xs, after, made, rfl, rfl, hb⟩ := h
  rw [Plan.record_append, Plan.record_cons, allExternal_append, allExternal_append] at hp
  obtain ⟨hbefore, hxs, -⟩ := hp
  have at_step : ∀ made', external made = made' → asked made' <+: asked xs →
      Plan.EndsIn (before ++ (step, xs) :: after) step (before.log ++ made) := by
    intro made' hm hask
    exact ⟨before, after, xs, made', rfl, by rw [external_append, external_log hbefore, hm], hask⟩
  refine ⟨step, ?_⟩
  cases hb with
  | cancelled => exact ⟨at_step [] rfl List.nil_prefix, Or.inl ⟨rfl, by simp⟩⟩
  | unanswered => exact ⟨at_step [] rfl List.nil_prefix, Or.inr (by simp)⟩
  | within hm he =>
    refine ⟨at_step _ ?_ hm, Or.inr he⟩
    rw [external_append, external_checks, List.nil_append]
    exact external_eq_self (hxs.of_begun hm)

/-- A run that keeps to a plan makes calls of the plan, in their order. --/
theorem in_order_of_keeps {α : Type} {t : Task ConnectError α} {P : Bool → α → Plan → Prop} (ht : bySteps.Keeps t P)
    {l : Record} {o : Option (Except ConnectError α)} (hl : t.Follows l o) (hP : ∀ full a (p : Plan), P full a p →
      AllExternal p.record) : ∃ full a, ∃ p : Plan, P full a p ∧ asked (external l) <+: asked p.record := by
  rcases ht.runs hl with ⟨a, p, hp, rfl, -⟩ | ⟨a, p, e, hp, hb, -⟩
  · refine ⟨true, a, p, hp, ?_⟩
    have hlog : external (bySteps.whole p) = Plan.record p := external_log (hP _ _ _ hp)
    simp only [hlog, List.prefix_rfl]
  · obtain ⟨step, hstep, -⟩ := endsIn_of_breaks (hP _ _ _ hp) hb
    exact ⟨false, a, p, hp, hstep.in_order⟩

/-- The calls of a run that keeps to a plan are calls of the plan, and looks at the caller. --/
theorem isCheck_or_of_in_order {l m : Record} (h : asked (external l) <+: asked m) {x : Exchange calls} (hx : x ∈ l) :
    x.call.isCheck = true ∨ ∃ y ∈ m, y.call = x.call := by
  cases hc : x.call.isCheck with
  | true => exact Or.inl rfl
  | false =>
    have hext : x ∈ external l := List.mem_filter.mpr ⟨hx, by simp [hc]⟩
    exact Or.inr (List.mem_map.mp (h.subset (List.mem_map.mpr ⟨x, hext, rfl⟩)))

/-! ### The order -/

/-- A connect fails in a step: all before the step is done, and nothing after it is begun. Of the step the last call that
    was made is refused, and the failure reports the answer, or all of them are granted, and the step refuses what it was
    given. --/
def FailsIn (c : Connector) (run : AnsibleRun) (v : Supply) (step : Step) (log : Record) (e : ConnectError) : Prop :=
  ∃ (before after : Plan) (xs made : Record), c.plan run v = before ++ (step, xs) :: after ∧
    external log = before.record ++ made ∧ asked made <+: asked xs ∧ Origin Reports (fun _ => c.Refuses run log) made e

theorem Reports.isCheck {x : Exchange calls} {e : ConnectError} (h : Reports x e) (he : e ≠ .cancelled) :
    x.call.isCheck = false := by
  cases hx : x.call.isCheck with
  | false => rfl
  | true =>
    obtain ⟨call, r⟩ := x
    obtain rfl := Call.eq_cancelled hx
    cases h with
    | cancelled => exact absurd rfl he
    | lookup h => cases h
    | git h =>
      cases h with
      | token h => cases h

theorem Step.ne_cancelled {step : Step} {e : ConnectError} (h : e.kindName ∈ step.kinds) : e ≠ .cancelled := by
  rintro rfl
  have other : ∀ step ∈ all, ConnectError.cancelled.kindName ∉ step.kinds := by decide
  exact other step step.mem_all h

/-- What ends a list, and is not in its first part, ends the second part. --/
theorem exists_concat_of_append {α : Type} {a b l : List α} {x : α} (h : a ++ b = l ++ [x]) (hx : x ∉ a) :
    ∃ m, b = m ++ [x] ∧ l = a ++ m := by
  rcases List.append_eq_append_iff.mp h with ⟨m, hl, hb⟩ | ⟨m, ha, hm⟩
  · exact ⟨m, hb, hl⟩
  · rcases List.singleton_eq_append_iff.mp hm with ⟨rfl, rfl⟩ | ⟨rfl, rfl⟩
    · exact ⟨[], rfl, by simpa using ha.symm⟩
    · exact absurd (by simp [ha]) hx

/-- Where a connect fails in a step, the failure comes from the calls of the step. --/
theorem Plan.EndsIn.failsIn {c : Connector} {run : AnsibleRun} {v : Supply} {step : Step} {log : Record}
    {e : ConnectError} (h : (c.plan run v).EndsIn step log) (hkind : e.kindName ∈ step.kinds)
    (hf : (c.stage run).Follows log (some (.error e))) : FailsIn c run v step log e := by
  obtain ⟨before, after, xs, made, hplan, hlog, hmade⟩ := h
  refine ⟨before, after, xs, made, hplan, hlog, hmade, ?_⟩
  rcases (needsAll_stage c run).origin hf with ⟨l, x, hl, granted, reports⟩ | ⟨granted, refuses⟩
  · rw [hl, external_concat (reports.isCheck (Step.ne_cancelled hkind))] at hlog
    -- What is before the step is granted, so the refused call is one of the step.
    have hbefore : x ∉ before.record := fun hx => by
      refine reports.not_granted (granted_plan c run v x ?_)
      rw [hplan, record_append]
      exact List.mem_append_left _ hx
    obtain ⟨m, rfl, hearlier⟩ := exists_concat_of_append hlog.symm hbefore
    refine .refused m x rfl (fun z hz => granted_external granted z ?_) reports
    rw [hearlier]
    exact List.mem_append_right _ hz
  · refine .own (fun z hz => granted_external granted z ?_) refuses
    rw [hlog]
    exact List.mem_append_right _ hz

/-- What a connect of a run does, whoever answers it, in the terms of its plan. --/
structure FollowsPlan (c : Connector) (run : AnsibleRun) (v : Supply) (log : Record)
    (result : Option (Except ConnectError Connection)) : Prop where
  fits : v.Fits
  in_order : asked (external log) <+: asked (c.plan run v).record
  of_ok : ∀ conn, result = some (.ok conn) →
    v.Found c run ∧ external log = (c.plan run v).record ∧ conn = ⟨c.runDir run, v.runner⟩
  of_error : ∀ e, result = some (.error e) →
    (e = .cancelled ∧ (⟨.cancelled, some true⟩ : Exchange calls) ∈ log) ∨
      ∃ step, e.kindName ∈ step.kinds ∧ FailsIn c run v step log e
  of_none : result = none → (∃ step, (c.plan run v).EndsIn step log) ∧
    ∃ l x, log = l ++ [x] ∧ (∀ y ∈ l, Granted y) ∧ x.reply = none

theorem GoesAlong.in_order {c : Connector} {run : AnsibleRun} {v : Supply} {log : Record}
    {result : Option (Except ConnectError Connection)} (h : GoesAlong c run v log result) :
    asked (external log) <+: asked (c.plan run v).record := by
  obtain ⟨-, ⟨-, rfl, -⟩ | ⟨e, hb, -⟩⟩ := h
  · simp only [external_log (allExternal_plan c run v), List.prefix_rfl]
  · obtain ⟨step, hstep, -⟩ := endsIn_of_breaks (allExternal_plan c run v) hb
    exact hstep.in_order

theorem GoesAlong.followsPlan {c : Connector} {run : AnsibleRun} {v : Supply} {log : Record}
    {result : Option (Except ConnectError Connection)} (h : GoesAlong c run v log result)
    (hf : (c.stage run).Follows log result) : FollowsPlan c run v log result := by
  have in_order := h.in_order
  obtain ⟨fits, ⟨found, rfl, rfl⟩ | ⟨e, hb, rfl⟩⟩ := h
  · refine ⟨fits, in_order, ?_, fun e h => ?_, fun h => ?_⟩
    · rintro conn h
      obtain rfl : Connection.mk (c.runDir run) v.runner = conn := by simpa using h
      exact ⟨found, external_log (allExternal_plan c run v), rfl⟩
    · cases h
    · cases h
  · obtain ⟨step, hstep, he⟩ := endsIn_of_breaks (allExternal_plan c run v) hb
    refine ⟨fits, in_order, ?_, ?_, ?_⟩
    · intro conn h
      cases e <;> cases h
    · intro e' h
      obtain rfl : e = some e' := by
        cases e with
        | none => cases h
        | some e => simpa using h
      rcases he with ⟨he, hl⟩ | he
      · exact Or.inl ⟨Option.some.inj he, hl⟩
      · exact Or.inr ⟨step, he e' rfl, hstep.failsIn (he e' rfl) hf⟩
    · intro h
      rw [h] at hf
      exact ⟨⟨step, hstep⟩, (needsAll_stage c run).unanswered hf⟩

/-- The calls of every connect are the beginning of a plan, and its failure names the step in which it ends and reports
    what was refused there. What is not a run is refused, and nothing is asked for it. --/
theorem connect_in_order {σ : Type} (c : Connector) (h : Handler calls σ) (s : σ) :
    (∀ run, ∃ v, FollowsPlan c run v ((c.connect (.run run)).exchanges h s) ((c.connect (.run run)).run h s).1) ∧
      ∀ other, (c.connect (.other other)).exchanges h s = [] ∧
        (c.connect (.other other)).run h s = (some (.error (.notSupported other.kind)), s) := by
  refine ⟨fun run => ?_, fun _ => ⟨rfl, rfl⟩⟩
  have hf := follows_exchanges h (c.stage run) s
  obtain ⟨v, hv⟩ := exists_goesAlong hf
  exact ⟨v, hv.followsPlan hf⟩

end AnsibleStaging
