import AnsibleStaging.Proofs.Containment
import AnsibleStaging.Proofs.EntryFold
import AnsibleStaging.Proofs.LastEntry
import AnsibleStaging.Proofs.LoginLines
import AnsibleStaging.Proofs.StagedNames

/-! Who decides what git's credential store reads. An entry may be meant for it, which its name shows once directories are
    taken off, and of several such entries the last one counts. Its bytes go to git as they are, and the git connection is
    not looked at. Only where no entry is meant for git the connection gives the content. A run that brings its own
    playbook has no need of git: nothing is put there for it. -/

namespace AnsibleStaging
open Script Planning

/-- The file of the entry is the one that git's credential store reads. --/
def MeantForGit (e : CredentialEntry) : Prop := Staging.safeFileName e.filename = some gitCredentialsName

theorem meantForGit_iff {e : CredentialEntry} : MeantForGit e ↔ entryFile e = gitCredentialsName := by
  unfold MeantForGit entryFile
  cases Staging.safeFileName e.filename with
  | none => simp [gitCredentialsName]
  | some name => simp

/-! ### Lookups -/

/-- Bytes of a credential are looked up. --/
def Call.isLookup : Call → Bool
  | read _ => true
  | secret _ => true
  | _ => false

theorem Call.not_writes_of_isLookup {call : Call} (h : call.isLookup = true) (q : Path) : ¬call.Writes q := by
  cases call with
  | write => cases h
  | _ => exact id

/-- The lookups among some calls. --/
def lookedUp (l : Record) : List Call := (asked l).filter Call.isLookup

/-- The lookups of entries, if all of them are made. --/
def entryLookups (es : List CredentialEntry) : List Call := es.flatMap fun e => (lookupCall? e.source e.selectors).toList

theorem lookedUp_append (l m : Record) : lookedUp (l ++ m) = lookedUp l ++ lookedUp m := by
  rw [lookedUp, asked_append, List.filter_append]
  rfl

theorem lookedUp_external (l : Record) : lookedUp (external l) = lookedUp l := by
  induction l with
  | nil => rfl
  | cons x l ih =>
    rw [show x :: l = [x] ++ l from rfl, external_append, lookedUp_append, lookedUp_append, ih]
    obtain ⟨call, reply⟩ := x
    cases call <;> rfl

theorem asked_lookup (source : CredentialsSource) (selectors : Selectors) (data : ByteArray) :
    asked (lookup source selectors data) = (lookupCall? source selectors).toList := by
  unfold lookup lookupCall?
  cases source with
  | filesystem => cases nonEmpty? selectors.path <;> rfl
  | secret => cases selectors.secret <;> rfl
  | _ => rfl

theorem isLookup_of_mem_lookupCall? {source : CredentialsSource} {selectors : Selectors} {call : Call}
    (h : call ∈ (lookupCall? source selectors).toList) : call.isLookup = true := by
  unfold lookupCall? at h
  cases source with
  | filesystem =>
    obtain ⟨path, -, rfl⟩ := Option.map_eq_some_iff.mp (Option.mem_toList.mp h)
    rfl
  | secret =>
    obtain ⟨key, -, rfl⟩ := Option.map_eq_some_iff.mp (Option.mem_toList.mp h)
    rfl
  | _ => cases h

theorem lookedUp_entryRecord (dir : Path) (x : CredentialEntry × ByteArray) :
    lookedUp (entryRecord dir x) = (lookupCall? x.1.source x.1.selectors).toList := by
  have all : lookedUp (lookup x.1.source x.1.selectors x.2) = (lookupCall? x.1.source x.1.selectors).toList := by
    rw [lookedUp, asked_lookup, List.filter_eq_self]
    exact fun _ => isLookup_of_mem_lookupCall?
  rw [entryRecord, lookedUp_append, all]
  exact List.append_nil _

theorem lookedUp_entries (dir : Path) (resolved : List (CredentialEntry × ByteArray)) :
    lookedUp (resolved.flatMap (entryRecord dir)) = entryLookups (resolved.map Prod.fst) := by
  induction resolved with
  | nil => rfl
  | cons x rest ih =>
    rw [List.flatMap_cons, lookedUp_append, lookedUp_entryRecord, ih]
    rfl

/-! ### The step for git and what comes after it -/

namespace Connector

/-- The part of a connect that ends with the step for git, which only a remote run has. --/
def stageGit (c : Connector) (run : AnsibleRun) : Task ConnectError (Path × ProviderConfig × Option ByteArray) := do
  let (dir, config, entry) ← c.stageEntries run
  if run.source = .remote then
    guarded ((c.stageGitCredentials run entry config).mapError .gitCredentials)
  return (dir, config, entry)

/-- The part of a connect that comes after the step for git. --/
def stageRest (run : AnsibleRun) (dir : Path) (config : ProviderConfig) : Task ConnectError Connection := do
  let content ← guarded ((playbookContent run).mapError .fetchPlaybook)
  guarded ((Staging.write (dir.join playbookName) content).mapError .writePlaybook)
  stageRequirements dir config
  let runner ← prepare dir run config
  return ⟨dir, runner⟩

theorem stage_eq_stageGit (c : Connector) (run : AnsibleRun) :
    c.stage run = c.stageGit run >>= fun r => stageRest run r.1 r.2.1 := by
  unfold stage stageGit stageEntries stageRest
  by_cases h : run.source = .remote
  · simp only [if_pos h, LawfulMonad.bind_assoc, LawfulMonad.pure_bind]
  · simp only [if_neg h, LawfulMonad.bind_assoc, LawfulMonad.pure_bind]

/-- A run that brings its playbook has no step for git. --/
theorem stage_of_inline (c : Connector) {run : AnsibleRun} (hs : run.source = .inline) :
    c.stage run = c.stageEntries run >>= fun r => stageRest run r.1 r.2.1 := by
  have noStep : c.stageGit run = c.stageEntries run := by
    unfold stageGit
    simp only [hs, reduceCtorEq, ↓reduceIte]
    exact Script.bind_done _
  rw [stage_eq_stageGit, noStep]

end Connector

section
variable {c : Connector} {run : AnsibleRun} {config : ProviderConfig}

theorem keeps_stageGit (hs : run.source = .remote) : bySteps.Keeps (c.stageGit run) fun full r p =>
    ∃ start xs, PlansStart c run full r start ∧ PlansGit c run r.2.2 r.2.1.settings.git full xs ∧
      p = start ++ [(.gitCredentials, xs)] := by
  have git := fun (entry : Option ByteArray) (config : ProviderConfig) => keeps_guarded (s := .gitCredentials) rfl
    ((keeps_stageGitCredentials c run entry config).mapError .gitCredentials
      fun _ _ => by simp [ConnectError.kindName, Step.kinds])
  have start := keeps_stageEntries c run
  unfold Connector.stageGit
  simp only [if_pos hs]
  refine (start.bind fun r => (git r.2.2 r.2.1).bind fun _ => Keeps.done (r.1, r.2.1, r.2.2)).weaken ?_ ?_
  · rintro full _ _ ⟨r, start, _, hstart, ⟨_, _, _, ⟨xs, hxs, rfl⟩, ⟨rfl, rfl⟩, rfl⟩, rfl⟩
    exact ⟨start, xs, hstart, hxs, by rw [List.append_nil]⟩
  · rintro r p ⟨q, xs, hstart, hxs, hp⟩
    exact ⟨q, xs, start.says_more r q hstart, hxs.says_more, hp⟩

/-- Calls of a connect that write nothing under the name that git's credential store reads. --/
structure AsideFromGit (l : Record) : Prop where
  external : AllExternal l
  spares : ∀ (d : Path) (data : ByteArray), Spares (d.join gitCredentialsName) data l

theorem asideFromGit_append {l m : Record} : AsideFromGit (l ++ m) ↔ AsideFromGit l ∧ AsideFromGit m := by
  constructor
  · rintro ⟨hext, hspares⟩
    rw [allExternal_append] at hext
    exact ⟨⟨hext.1, fun d data => (spares_append.mp (hspares d data)).1⟩,
      ⟨hext.2, fun d data => (spares_append.mp (hspares d data)).2⟩⟩
  · rintro ⟨hl, hm⟩
    exact ⟨allExternal_append.mpr ⟨hl.external, hm.external⟩,
      fun d data => spares_append.mpr ⟨hl.spares d data, hm.spares d data⟩⟩

theorem asideFromGit_playbook (dir : Path) (data : ByteArray) : AsideFromGit [writing (dir.join playbookName) data] where
  external := (allStaging_writing _ _).allExternal
  spares _ _ := spares_of_ne isName_gitCredentialsName isName_playbookName (by decide)

theorem keeps_playbookContent_aside (run : AnsibleRun) : (eachCall fun _ => True).Keeps (playbookContent run)
    fun _ _ xs => AsideFromGit xs := by
  refine (keeps_playbookContent run).weaken ?_ fun _ _ => id
  intro _ data xs hxs
  cases hs : run.source with
  | inline =>
    simp only [hs] at hxs
    obtain ⟨-, rfl⟩ := hxs
    exact ⟨by simp [AllExternal], fun _ _ => spares_nil _⟩
  | remote =>
    simp only [hs] at hxs
    subst hxs
    exact ⟨by simp [AllExternal, Call.isCheck], fun _ _ => by simp [Spares]⟩

/-- After the step for git nothing is written for it any more. --/
theorem keeps_stageRest (dir : Path) :
    bySteps.Keeps (Connector.stageRest run dir config) fun _ _ (p : Plan) => AsideFromGit p.record := by
  have content := keeps_guarded (s := .content) rfl ((keeps_playbookContent_aside run).mapError .fetchPlaybook
    fun _ _ => by simp [ConnectError.kindName, Step.kinds])
  have written := fun data => keeps_guarded (s := .playbook) rfl
    ((keeps_write (dir.join playbookName) data).mapError .writePlaybook
      fun _ _ => by simp [ConnectError.kindName, Step.kinds])
  have requirements : AsideFromGit (Connector.requirementsPlan dir config).record :=
    ⟨(allStaging_requirementsPlan dir config).allExternal,
      fun _ _ => spares_requirementsPlan isName_gitCredentialsName (fun _ => by decide) dir⟩
  have prepared : ∀ runner, AsideFromGit (Connector.runnerPlan dir run config runner).record := fun runner =>
    ⟨allExternal_runnerPlan dir run config runner, fun _ _ => by simp [Spares, Connector.runnerPlan_record]⟩
  unfold Connector.stageRest
  refine (content.bind fun data => (written data).bind fun _ => (keeps_stageRequirements dir config).bind fun _ =>
    (keeps_prepare dir run config).bind fun runner => Keeps.done (Connection.mk dir runner)).weaken ?_ fun _ _ => id
  rintro _ _ _ ⟨data, _, _, ⟨xs, hxs, rfl⟩, ⟨_, _, _, ⟨_, rfl, rfl⟩, ⟨_, _, _, rfl, ⟨runner, _, _, rfl, ⟨-, rfl⟩, rfl⟩,
    rfl⟩, rfl⟩, rfl⟩
  have alone : ∀ (step : Step) (ys : Record), Plan.record [(step, ys)] = ys := fun _ ys => List.append_nil ys
  rw [List.append_nil, Plan.record_append, Plan.record_append, Plan.record_append, alone, alone]
  exact asideFromGit_append.mpr ⟨hxs, asideFromGit_append.mpr ⟨asideFromGit_playbook dir data,
    asideFromGit_append.mpr ⟨requirements, prepared runner⟩⟩⟩

theorem spares_stageRest {dir : Path} {l : Record} {o : Option (Except ConnectError Connection)}
    (h : (Connector.stageRest run dir config).Follows l o) (d : Path) (data : ByteArray) :
    Spares (d.join gitCredentialsName) data l := by
  obtain ⟨_, _, p, aside, hin⟩ := in_order_of_keeps (keeps_stageRest dir) h fun _ _ _ haside => haside.external
  intro x hx q data' m hc
  rcases isCheck_or_of_in_order hin hx with hcheck | ⟨y, hy, hyx⟩
  · rw [hc] at hcheck
    cases hcheck
  · exact aside.spares d data y hy q data' m (hyx.trans hc)

end

/-! ### The content -/

/-- The step for git is done, and these are the calls up to its end: the entries of the configuration were written with
    their bytes, and then, after the lookups for git, the content for it. --/
structure GitStaged (c : Connector) (run : AnsibleRun) (config : ProviderConfig)
    (resolved : List (CredentialEntry × ByteArray)) (lookups : Record) (content : ByteArray) (l : Record) : Prop where
  fits : resolved.map Prod.fst = config.settings.credentials
  found : ∀ x ∈ resolved, Resolved c.environment x
  calls : l = (c.entriesPlan run config resolved).log ++
    ⟨.cancelled, some false⟩ :: lookups ++ [writing ((c.gitDir run).join gitCredentialsName) content]

section
variable {c : Connector} {run : AnsibleRun} {config : ProviderConfig} {resolved : List (CredentialEntry × ByteArray)}
  {lookups l : Record} {content : ByteArray}

theorem gitStaged_of_follows (hs : run.source = .remote) {dir : Path} {entry : Option ByteArray}
    (h : (c.stageGit run).Follows l (some (.ok (dir, config, entry)))) :
    run.uid.isPathSafe = true ∧ dir = c.runDir run ∧ ∃ resolved lookups content,
      entry = latestGit none resolved ∧ GitStaged c run config resolved lookups content l ∧
      (gitCredentials c.environment entry config.settings.git).Follows lookups (some (.ok content)) := by
  rcases (keeps_stageGit hs).runs h with ⟨_, _, ⟨start, xs, ⟨resolved, fits, hdir, hentry, rfl, hfull⟩,
    ⟨content, token, rfl, hcontent⟩, rfl⟩, rfl, ho⟩ | ⟨_, _, e, -, -, ho⟩
  · cases ho
    obtain ⟨safe, found⟩ := hfull rfl
    refine ⟨safe, hdir, resolved, _, content, hentry, ⟨fits, found, ?_⟩, hcontent rfl⟩
    exact (Plan.log_append _ _).trans (by simp [Plan.log, Step.checks, Step.isGuarded])
  · cases e <;> cases ho

/-- With an entry for it the step for git is one write, whatever the connection to git. --/
theorem stageGitCredentials_entry (safe : run.uid.isPathSafe = true) (data : ByteArray) (config : ProviderConfig) :
    c.stageGitCredentials run (some data) config =
      (Staging.write ((c.gitDir run).join gitCredentialsName) data).mapError .io := by
  have hdir : c.gitStaging.dir run.uid = .ok (c.gitDir run) := Staging.dir_eq_ok_iff.mpr ⟨safe, rfl⟩
  unfold Connector.stageGitCredentials
  rw [hdir]
  rfl

theorem entriesPlan_log (c : Connector) (run : AnsibleRun) (config : ProviderConfig)
    (resolved : List (CredentialEntry × ByteArray)) : (c.entriesPlan run config resolved).log =
      (c.openingPlan run config).log ++ ⟨.cancelled, some false⟩ :: resolved.flatMap (entryRecord (c.runDir run)) := by
  simp [Connector.entriesPlan, Plan.log, Step.checks, Step.isGuarded]

theorem GitStaged.holds_content {t t' : MemTree} (h : GitStaged c run config resolved lookups content l)
    (hl : Occurs Stored l t t') : t'.Holds ((c.gitDir run).join gitCredentialsName) content := by
  rw [h.calls] at hl
  exact holds_of_last hl (spares_nil _)

/-- Where the last entry for git decides, the file of this entry holds the same. --/
theorem GitStaged.holds_entry {t t' : MemTree} {before after : List (CredentialEntry × ByteArray)}
    {x : CredentialEntry × ByteArray} (h : GitStaged c run config (before ++ x :: after) [] x.2 l) (hx : MeantForGit x.1)
    (hafter : ∀ y ∈ after, ¬MeantForGit y.1) (hl : Occurs Stored l t t') :
    t'.Holds ((c.runDir run).join gitCredentialsName) x.2 := by
  have hname := meantForGit_iff.mp hx
  have later : Spares ((c.runDir run).join gitCredentialsName) x.2 (after.flatMap (entryRecord (c.runDir run))) :=
    spares_entries isName_gitCredentialsName (fun y hy => h.found y (by simp [hy]))
      fun y hy heq => hafter y hy (meantForGit_iff.mpr heq)
  have check : Spares ((c.runDir run).join gitCredentialsName) x.2 [⟨.cancelled, some false⟩] := by simp [Spares]
  have hrecord : entryRecord (c.runDir run) x = lookup x.1.source x.1.selectors x.2 ++
      [writing ((c.runDir run).join gitCredentialsName) x.2] := by rw [← hname]; rfl
  have hcalls : l = ((c.openingPlan run config).log ++
      ⟨.cancelled, some false⟩ :: before.flatMap (entryRecord (c.runDir run)) ++
      lookup x.1.source x.1.selectors x.2) ++ writing ((c.runDir run).join gitCredentialsName) x.2 ::
        (after.flatMap (entryRecord (c.runDir run)) ++ ([⟨.cancelled, some false⟩] ++
          [writing ((c.gitDir run).join gitCredentialsName) x.2])) := by
    rw [h.calls, entriesPlan_log, List.flatMap_append, List.flatMap_cons, hrecord]
    simp only [List.append_assoc, List.cons_append, List.nil_append]
  rw [hcalls] at hl
  exact holds_of_last hl (spares_append.mpr ⟨later, spares_append.mpr ⟨check, spares_of_eq _ _ _⟩⟩)

/-- Entries that are not meant for git are written elsewhere. --/
theorem not_writes_of_mem_entriesPlan (found : ∀ x ∈ resolved, Resolved c.environment x)
    (hno : ∀ x ∈ resolved, ¬MeantForGit x.1) {y : Exchange calls} (hy : y ∈ (c.entriesPlan run config resolved).log) :
    ¬y.call.Writes ((c.runDir run).join gitCredentialsName) := by
  rw [entriesPlan_log, List.mem_append, List.mem_cons] at hy
  rcases hy with hy | rfl | hy
  · simp only [Connector.openingPlan, Plan.log, Step.checks, Step.isGuarded, ↓reduceIte, List.flatMap_cons,
      List.flatMap_nil, List.append_nil, List.cons_append, List.nil_append, List.mem_cons, List.not_mem_nil,
      or_false] at hy
    rcases hy with rfl | rfl | rfl | rfl | rfl | rfl <;> exact id
  · exact id
  · obtain ⟨x, hx, hy⟩ := List.mem_flatMap.mp hy
    rcases List.mem_append.mp hy with hy | hy
    · have asks : y.call ∈ asked (lookup x.1.source x.1.selectors x.2) := List.mem_map_of_mem hy
      exact Call.not_writes_of_isLookup (isLookup_of_mem_lookupCall? (asked_lookup _ _ _ ▸ asks)) _
    · obtain rfl := List.mem_singleton.mp hy
      intro hs
      have heq := ((Path.same_join_iff (found x hx).isName isName_gitCredentialsName).mp hs).2
      exact hno x hx (meantForGit_iff.mpr heq)

end

/-! ### Runs that bring their playbook -/

section
variable {c : Connector} {run : AnsibleRun} {v : Supply} {l : Record} {o : Option (Except ConnectError Connection)}

theorem lookedUp_plan (hs : run.source = .inline) (fits : v.Fits) :
    lookedUp (c.plan run v).record = entryLookups v.config.settings.credentials := by
  have start : lookedUp [⟨.makeDirs (c.runDir run) .privateDirectory, some (.ok ())⟩, ⟨.track (.run run), some (.ok ())⟩,
      ⟨.providerConfig (run.providerConfig.getD ""), some (.ok v.config)⟩] = [] := rfl
  have playbook : lookedUp [writing ((c.runDir run).join playbookName) (playbookBytes run v.fetched)] = [] := rfl
  have requirements : lookedUp (Connector.requirementsPlan (c.runDir run) v.config).record = [] := by
    rw [Connector.requirementsPlan_record]
    cases v.config.settings.requirements <;> rfl
  have runner : lookedUp (Connector.runnerPlan (c.runDir run) run v.config v.runner).record = [] := rfl
  rw [Connector.plan, Plan.record_append, Connector.filesPlan_record, Connector.playbookPlan_record, hs]
  simp only [lookedUp_append, start, playbook, requirements, runner, lookedUp_entries, List.nil_append, List.append_nil]
  rw [fits]

/-- What is looked up is a beginning of the lookups of the entries. --/
theorem GoesAlong.lookedUp_begins (h : GoesAlong c run v l o) (hs : run.source = .inline) :
    lookedUp l <+: entryLookups v.config.settings.credentials := by
  rw [← lookedUp_external, ← lookedUp_plan hs h.1]
  exact h.in_order.filter _

theorem record_begins {p q : Plan} (h : p <+: q) : p.record <+: q.record := by
  obtain ⟨rest, rfl⟩ := h
  rw [Plan.record_append]
  exact List.prefix_append _ _

/-- No lookup is made before the configuration is known. --/
theorem GoesAlong.answered_or (h : GoesAlong c run v l o) :
    ⟨.providerConfig (run.providerConfig.getD ""), some (.ok v.config)⟩ ∈ l ∨ lookedUp l = [] := by
  have opens : c.openingPlan run v.config <+: c.plan run v := ⟨_, rfl⟩
  have answered : ∀ {p : Plan}, c.openingPlan run v.config <+: p →
      ⟨.providerConfig (run.providerConfig.getD ""), some (.ok v.config)⟩ ∈ p.record := fun hp =>
    (record_begins hp).subset (by simp [Connector.openingPlan, Plan.record])
  rcases h with ⟨fits, ⟨-, rfl, -⟩ | ⟨e, hb, -⟩⟩
  · have hmem := answered opens
    rw [← external_log (allExternal_plan c run v)] at hmem
    exact Or.inl (List.mem_filter.mp hmem).1
  · obtain ⟨step, ⟨before, after, xs, made, hplan, hl, hmade⟩, -⟩ := endsIn_of_breaks (allExternal_plan c run v) hb
    rcases Nat.lt_or_ge before.length 3 with hshort | hlong
    · have here : before ++ [(step, xs)] <+: c.plan run v := ⟨after, by rw [hplan, List.append_assoc]; rfl⟩
      have early := record_begins (List.prefix_of_prefix_length_le here opens (by
        rw [List.length_append]
        exact hshort))
      have made : asked (external l) <+: asked (Plan.record (before ++ [(step, xs)])) := by
        rw [hl, Plan.record_append, asked_append, asked_append]
        refine (List.prefix_append_right_inj _).mpr (hmade.trans ?_)
        rw [Plan.record_cons, asked_append]
        exact List.prefix_append _ _
      have none : lookedUp (Plan.record (c.openingPlan run v.config)) = [] := rfl
      have begins : lookedUp (external l) <+: [] := none ▸ (made.trans (early.map _)).filter _
      exact Or.inr (lookedUp_external l ▸ List.prefix_nil.mp begins)
    · have hbefore : before <+: c.plan run v := ⟨(step, xs) :: after, hplan.symm⟩
      have hmem := answered (List.prefix_of_prefix_length_le opens hbefore hlong)
      have hin : ⟨.providerConfig (run.providerConfig.getD ""), some (.ok v.config)⟩ ∈ external l := by
        rw [hl]
        exact List.mem_append_left _ hmem
      exact Or.inl (List.mem_filter.mp hin).1

/-- All that such a run looks up is looked up for the entries of the configuration that it is answered. --/
theorem lookedUp_of_inline (hs : run.source = .inline) (h : (c.stage run).Follows l o) :
    lookedUp l = [] ∨ ∃ config, ⟨.providerConfig (run.providerConfig.getD ""), some (.ok config)⟩ ∈ l ∧
      lookedUp l <+: entryLookups config.settings.credentials := by
  obtain ⟨v, hv⟩ := exists_goesAlong h
  rcases hv.answered_or with hconfig | hnone
  · exact Or.inr ⟨v.config, hconfig, hv.lookedUp_begins hs⟩
  · exact Or.inl hnone

/-- Neither root goes through the other one. --/
structure RootsApart (c : Connector) : Prop where
  git_below : ¬c.staging.base.components <+: c.gitStaging.base.components
  git_above : ¬c.gitStaging.base.components <+: c.staging.base.components

theorem RootsApart.not_below {place : List Component} (h : RootsApart c) (hplace : c.staging.base.components <+: place) :
    ¬c.gitStaging.base.components <+: place := fun hgit =>
  (List.prefix_or_prefix_of_prefix hplace hgit).elim h.git_below h.git_above

theorem RootsApart.not_ownFile {q : Path} (h : RootsApart c) (hs : run.source = .inline)
    (hq : c.gitStaging.base.components <+: q.components) : ¬c.OwnFile run q := by
  rintro (⟨name, hname⟩ | ⟨hremote, -⟩)
  · refine h.not_below ?_ hq
    rw [hname, Staging.home, List.append_assoc]
    exact List.prefix_append _ _
  · rw [hs] at hremote
    cases hremote

theorem RootsApart.not_onWay {q : Path} (h : RootsApart c) (hs : run.source = .inline)
    (hq : c.gitStaging.base.components <+: q.components) : ¬c.OnWay run q := by
  rintro ⟨-, hway | ⟨hremote, -⟩⟩
  · exact h.not_below (List.prefix_append _ _) (hq.trans hway)
  · rw [hs] at hremote
    cases hremote

/-- Such a run leaves the root for git as it is. --/
theorem RootsApart.untouched {σ : Type} {h : Handler calls σ} {tree : σ → MemTree} (hroots : RootsApart c)
    (hmem : InMemory h tree) (hs : run.source = .inline) (s : σ) {q : Path}
    (hq : c.gitStaging.base.components <+: q.components) :
    (∀ x ∈ (c.stage run).exchanges h s, ¬x.call.Writes q ∧ ∀ d ∈ x.call.dirs, ¬d.Same q) ∧
      (tree ((c.stage run).run h s).2).get? q = (tree s).get? q := by
  have noFile := hroots.not_ownFile hs hq
  have noWay := hroots.not_onWay hs hq
  refine ⟨fun x hx => ⟨fun hw => noFile ((mayAsk_of_mem_exchanges hx).ownFile hw), fun d hd hsame =>
    noWay ((mayAsk_of_mem_exchanges hx).onWay ⟨d, hd, hsame⟩)⟩, ?_⟩
  refine (hmem.occurs (occurs_exchanges h (c.stage run) s)).keeps (p := fun t => t.get? q = (tree s).get? q) ?_ rfl
  intro x hx t t' hst ht
  cases ((mayAsk_of_mem_exchanges hx).contained hst).places q with
  | kept hkept => exact hkept.trans ht
  | made hway _ _ => exact absurd hway noWay
  | put hfile _ _ _ => exact absurd hfile noFile

end

/-! ### Precedence -/

/-- The entry is the last one that is meant for git. --/
def LastForGit (resolved : List (CredentialEntry × ByteArray)) (x : CredentialEntry × ByteArray) : Prop :=
  ∃ before after, resolved = before ++ x :: after ∧ MeantForGit x.1 ∧ ∀ y ∈ after, ¬MeantForGit y.1

theorem exists_lastForGit {resolved : List (CredentialEntry × ByteArray)} (h : ∃ x ∈ resolved, MeantForGit x.1) :
    ∃ x, LastForGit resolved x := by
  obtain ⟨y, hy, hmeant⟩ := h
  obtain ⟨before, x, after, rfl, hx, hafter⟩ := exists_last ⟨y, hy, meantForGit_iff.mp hmeant⟩
  exact ⟨x, before, after, rfl, meantForGit_iff.mpr hx, fun z hz hz' => hafter z hz (meantForGit_iff.mp hz')⟩

theorem latestGit_of_lastForGit {resolved : List (CredentialEntry × ByteArray)} {x : CredentialEntry × ByteArray}
    (h : LastForGit resolved x) : latestGit none resolved = some x.2 := by
  obtain ⟨before, after, rfl, hx, hafter⟩ := h
  exact latestGit_of_last (meantForGit_iff.mp hx) fun y hy heq => hafter y hy (meantForGit_iff.mpr heq)

/-- What the step for git has settled, in trees after it. The last entry that is meant for git decides, and is then found in
    the directory of the run as well; the step with it is one write, whatever configuration there is. Without such an entry
    none was written where it would be, and the connection decides. --/
structure GitSettled (c : Connector) (run : AnsibleRun) (config : ProviderConfig) (entry : Option ByteArray)
    (resolved : List (CredentialEntry × ByteArray)) (lookups : Record) (content : ByteArray) (trees : List MemTree) :
    Prop where
  held : ∀ t ∈ trees, t.Holds ((c.gitDir run).join gitCredentialsName) content
  by_entry : (∃ e ∈ config.settings.credentials, MeantForGit e) → ∃ x, LastForGit resolved x ∧ content = x.2 ∧
    (∀ t ∈ trees, t.Holds ((c.runDir run).join gitCredentialsName) content) ∧ lookups = [] ∧
    ∀ other, c.stageGitCredentials run entry other =
      (Staging.write ((c.gitDir run).join gitCredentialsName) content).mapError .io
  by_connection : (∀ e ∈ config.settings.credentials, ¬MeantForGit e) →
    (∀ y ∈ (c.entriesPlan run config resolved).log, ¬y.call.Writes ((c.runDir run).join gitCredentialsName)) ∧
    Derived c.environment config.settings.git lookups content

theorem GitStaged.settled {c : Connector} {run : AnsibleRun} {config : ProviderConfig}
    {resolved : List (CredentialEntry × ByteArray)} {lookups l : Record} {content : ByteArray} {t u : MemTree}
    {trees : List MemTree} (staged : GitStaged c run config resolved lookups content l) (safe : run.uid.isPathSafe = true)
    (hcontent : (gitCredentials c.environment (latestGit none resolved) config.settings.git).Follows lookups
      (some (.ok content))) (hmade : Occurs Stored l t u) (kept : ∀ (d : Path) (data : ByteArray),
      u.Holds (d.join gitCredentialsName) data → ∀ t ∈ trees, t.Holds (d.join gitCredentialsName) data) :
    GitSettled c run config (latestGit none resolved) resolved lookups content trees where
  held := kept _ _ (staged.holds_content hmade)
  by_entry := by
    rintro ⟨e, he, hmeant⟩
    rw [← staged.fits] at he
    obtain ⟨y, hy, rfl⟩ := List.mem_map.mp he
    obtain ⟨x, hx⟩ := exists_lastForGit ⟨y, hy, hmeant⟩
    rw [latestGit_of_lastForGit hx] at hcontent ⊢
    obtain ⟨rfl, hdone⟩ := follows_done hcontent
    obtain rfl : content = x.2 := by simpa using hdone
    refine ⟨x, hx, rfl, kept _ _ ?_, rfl, stageGitCredentials_entry safe x.2⟩
    obtain ⟨before, after, rfl, hxgit, hafter⟩ := hx
    exact staged.holds_entry hxgit hafter hmade
  by_connection := by
    intro hno
    have hno' : ∀ x ∈ resolved, ¬MeantForGit x.1 := fun x hx => hno x.1 (staged.fits ▸ List.mem_map_of_mem hx)
    rw [latestGit_of_ne fun y hy heq => hno' y hy (meantForGit_iff.mpr heq)] at hcontent
    exact ⟨fun y => not_writes_of_mem_entriesPlan staged.found hno', derived_of_gitCredentials hcontent⟩

/-- Once a remote connect is past the step for git, its credential store reads the bytes of the last entry for git, or
    without such an entry what is derived from the connection, and this stays so to the end. A run that is not remote has no
    such step: it looks up nothing but its entries, and leaves the root for git as it is. --/
theorem git_store_precedence {σ : Type} {h : Handler calls σ} {tree : σ → MemTree} (hmem : InMemory h tree) (c : Connector)
    (run : AnsibleRun) (s : σ) :
    let log := (c.connect (.run run)).exchanges h s
    let last := ((c.connect (.run run)).run h s).2
    (run.source = .remote → ∀ dir config entry u, (c.stageGit run).run h s = (some (.ok (dir, config, entry)), u) →
      (c.connect (.run run)).run h s = (Connector.stageRest run dir config).run h u ∧
      ∃ resolved lookups content m, GitStaged c run config resolved lookups content m ∧ m <+: log ∧
        GitSettled c run config entry resolved lookups content [tree u, tree last]) ∧
    (run.source = .inline →
      c.connect (.run run) = (c.stageEntries run >>= fun r => Connector.stageRest run r.1 r.2.1) ∧
      (lookedUp log = [] ∨ ∃ config, ⟨.providerConfig (run.providerConfig.getD ""), some (.ok config)⟩ ∈ log ∧
        lookedUp log <+: entryLookups config.settings.credentials) ∧
      (RootsApart c → ∀ q : Path, c.gitStaging.base.components <+: q.components →
        (∀ x ∈ log, ¬x.call.Writes q ∧ ∀ d ∈ x.call.dirs, ¬d.Same q) ∧ (tree last).get? q = (tree s).get? q)) := by
  intro log last
  refine ⟨fun hs dir config entry u hrun => ?_, fun hs => ⟨c.stage_of_inline hs,
    lookedUp_of_inline hs (follows_exchanges h _ s), fun hroots q hq => hroots.untouched hmem hs s hq⟩⟩
  have hfollows := follows_exchanges h (c.stageGit run) s
  have hmade := hmem.occurs (occurs_exchanges h (c.stageGit run) s)
  rw [hrun] at hfollows hmade
  obtain ⟨safe, rfl, resolved, lookups, content, rfl, staged, hcontent⟩ := gitStaged_of_follows hs hfollows
  obtain ⟨hgoes, hcalls⟩ := run_bind hrun fun r => Connector.stageRest run r.1 r.2.1
  rw [← Connector.stage_eq_stageGit] at hgoes hcalls
  refine ⟨hgoes, resolved, lookups, content, _, staged, ⟨_, hcalls.symm⟩, staged.settled safe hcontent hmade ?_⟩
  -- What comes after the step writes nothing under the name that git's credential store reads.
  intro d data hheld
  have hrest := hmem.occurs (occurs_exchanges h (Connector.stageRest run (c.runDir run) config) u)
  have held := holds_of_spares hrest (spares_stageRest (follows_exchanges h _ u) d data) hheld
  have hlast : tree last = tree ((Connector.stageRest run (c.runDir run) config).run h u).2 := congrArg (tree ·.2) hgoes
  rw [hlast]
  exact List.forall_mem_cons.mpr ⟨hheld, List.forall_mem_singleton.mpr held⟩

/-- The last entry for git has no bytes, and the token of the connection cannot be found: git's credential store is empty.
    An inline run makes nothing under the root for git. --/
theorem git_store_precedence_emptied :
    let first : CredentialEntry := ⟨".git-credentials", .inline, { Selectors.empty with data := some "https://u:hush@h" }⟩
    let second : CredentialEntry := ⟨"old/./.git-credentials/", .none, .empty⟩
    let config : ProviderConfig := ⟨.empty, { ProviderSettings.empty with
      credentials := [first, second], git := some ⟨"no url", none, .environment, .empty⟩ }⟩
    let c : Connector := ⟨⟨⟨"/work"⟩⟩, ⟨⟨"/git"⟩⟩, fun _ => none⟩
    let run (source : PlaybookSource) : AnsibleRun :=
      ⟨{ Metadata.empty with uid := ⟨"u"⟩ }, none, { RunParameters.empty with source }⟩
    let h := (World.granting config .empty).handler
    InMemory h id ∧ RootsApart c ∧ MeantForGit second ∧
      ((c.stageGit (run .remote)).run h .empty).1 = some (.ok (⟨"/work/u"⟩, config, some .empty)) ∧
      ((c.stageGit (run .remote)).run h .empty).2.Holds ⟨"/git/u/.git-credentials"⟩ .empty ∧
      ((c.stageGit (run .remote)).run h .empty).2.Holds ⟨"/work/u/.git-credentials"⟩ .empty ∧
      ((c.connect (.run (run .inline))).run h .empty).2.get? ⟨"/git/u"⟩ = none := by
  intro first second config c run h
  have hmem : InMemory h id := World.inMemory _
  have hroots : RootsApart c := ⟨by decide +kernel, by decide +kernel⟩
  have hmeant : MeantForGit second := by unfold MeantForGit; decide +kernel
  have hok : ((c.stageGit (run .remote)).run h .empty).1 = some (.ok (⟨"/work/u"⟩, config, some .empty)) :=
    eq_ok_of_toOption (by decide +kernel)
  have hempty : ((c.stageGit (run .remote)).run h .empty).2.Holds ⟨"/git/u/.git-credentials"⟩ .empty := by
    unfold MemTree.Holds
    decide +kernel
  obtain ⟨-, resolved, lookups, content, m, -, -, settled⟩ :=
    (git_store_precedence hmem c (run .remote) .empty).1 rfl _ _ _ _ (Prod.ext hok rfl)
  have hgit : (c.gitDir (run .remote)).join gitCredentialsName = ⟨"/git/u/.git-credentials"⟩ := by decide +kernel
  have hrun : (c.runDir (run .remote)).join gitCredentialsName = ⟨"/work/u/.git-credentials"⟩ := by decide +kernel
  have held := settled.held _ List.mem_cons_self
  rw [hgit] at held
  obtain rfl : .empty = content := by simpa using hempty.symm.trans held
  obtain ⟨x, -, -, beside, -⟩ := settled.by_entry ⟨second, by simp [config], hmeant⟩
  obtain ⟨-, -, untouched⟩ := (git_store_precedence hmem c (run .inline) .empty).2 rfl
  exact ⟨hmem, hroots, hmeant, hok, hempty, hrun ▸ beside _ List.mem_cons_self,
    (untouched hroots ⟨"/git/u"⟩ (by decide +kernel)).2⟩

end AnsibleStaging
