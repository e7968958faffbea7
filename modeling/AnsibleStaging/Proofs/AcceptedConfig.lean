import AnsibleStaging.Proofs.OwnTools
import AnsibleStaging.Proofs.Results
import AnsibleStaging.Proofs.StagedFiles
import AnsibleStaging.Proofs.World

/-! An accepted configuration has absolute directories and programs with names, whatever the document and the overrides
    say, and so it never makes a connect fail where it binds the runner: what could be missing there is the program, the
    directory or the uid, and a connect that comes so far has a uid that names its directory. -/

namespace AnsibleStaging

/-- What fits the tools: their programs have names, and so does the place of the collections if there is one. --/
structure RunnerConfig.Accepted (r : RunnerConfig) : Prop where
  program : r.program ≠ ""
  galaxyProgram : r.galaxyProgram ≠ ""
  collectionsPath : ∀ p, r.collectionsPath = some p → p.text ≠ ""

structure ControllerConfig.Accepted (c : ControllerConfig) : Prop where
  workingDir : c.workingDir.isAbsolute = true
  gitCredentialsRoot : c.gitCredentialsRoot.isAbsolute = true
  runner : c.runner.Accepted

/-! ### Values -/

namespace ControllerConfig

theorem ne_empty_of_requiredText {field s : String} {n : Kdl.Node} (h : requiredText field n = .ok s) : s ≠ "" := by
  unfold requiredText at h
  split at h
  · cases h
  · split at h
    · cases h
    · next hs =>
      cases h
      exact fun hempty => hs (String.isEmpty_iff.mpr hempty)

theorem isAbsolute_of_absolutePath {field value : String} {p : Path} (h : absolutePath field value = .ok p) :
    p.isAbsolute = true := by
  unfold absolutePath at h
  split at h
  · next hp =>
    cases h
    exact hp
  · cases h

theorem isAbsolute_of_requiredPath {field : String} {n : Kdl.Node} {p : Path} (h : requiredPath field n = .ok p) :
    p.isAbsolute = true := by
  obtain ⟨value, -, hvalue⟩ := eq_ok_of_bind h
  exact isAbsolute_of_absolutePath hvalue

theorem isAbsolute_of_overridden {lookup : String → Option String} {name : String} {p q : Path} (hp : p.isAbsolute = true)
    (h : overridden lookup name p = .ok q) : q.isAbsolute = true := by
  unfold overridden at h
  split at h
  · exact isAbsolute_of_absolutePath h
  · cases h
    exact hp

/-! ### Documents -/

theorem accepted_default : default.Accepted where
  workingDir := by decide
  gitCredentialsRoot := by decide
  runner := ⟨by decide, by decide, nofun⟩

theorem accepted_controllerChild (c : ControllerConfig) (n : Kdl.Node) (c' : ControllerConfig) (hc : c.Accepted)
    (h : takeControllerChild c n = .ok c') : c'.Accepted := by
  unfold takeControllerChild at h
  split at h
  · obtain ⟨p, hp, rfl⟩ := eq_ok_of_map h
    exact { hc with workingDir := isAbsolute_of_requiredPath hp }
  · split at h
    · obtain ⟨p, hp, rfl⟩ := eq_ok_of_map h
      exact { hc with gitCredentialsRoot := isAbsolute_of_requiredPath hp }
    · cases h
      exact hc

theorem accepted_runnerChild (r : RunnerConfig) (n : Kdl.Node) (r' : RunnerConfig) (hr : r.Accepted)
    (h : takeRunnerChild r n = .ok r') : r'.Accepted := by
  unfold takeRunnerChild at h
  split at h
  · obtain ⟨s, hs, rfl⟩ := eq_ok_of_map h
    exact { hr with program := ne_empty_of_requiredText hs }
  · split at h
    · obtain ⟨s, hs, rfl⟩ := eq_ok_of_map h
      exact { hr with galaxyProgram := ne_empty_of_requiredText hs }
    · split at h
      · obtain ⟨s, hs, rfl⟩ := eq_ok_of_map h
        refine { hr with collectionsPath := fun p hp => ?_ }
        cases hp
        exact ne_empty_of_requiredText hs
      · cases h
        exact hr

theorem accepted_node (p : Progress) (n : Kdl.Node) (p' : Progress) (hp : p.config.Accepted)
    (h : takeNode p n = .ok p') : p'.config.Accepted := by
  unfold takeNode at h
  split at h
  · split at h
    · cases h
    · obtain ⟨c, hc, rfl⟩ := eq_ok_of_map h
      exact keeps_foldlM accepted_controllerChild hp hc
  · split at h
    · split at h
      · cases h
      · obtain ⟨r, hr, rfl⟩ := eq_ok_of_map h
        -- The section starts from the tools that hold without any, not from those met so far.
        exact { hp with runner := keeps_foldlM accepted_runnerChild accepted_default.runner hr }
    · cases h
      exact hp

theorem accepted_parse {text : String} {c : ControllerConfig} (h : parse text = .ok c) : c.Accepted := by
  unfold parse at h
  split at h
  · obtain ⟨p, hp, rfl⟩ := eq_ok_of_map h
    exact keeps_foldlM (P := fun p => p.config.Accepted) accepted_node accepted_default hp
  · cases h

theorem accepted_withOverrides {c c' : ControllerConfig} {lookup : String → Option String} (hc : c.Accepted)
    (h : c.withOverrides lookup = .ok c') : c'.Accepted := by
  obtain ⟨working, hworking, h⟩ := eq_ok_of_bind h
  obtain ⟨git, hgit, h⟩ := eq_ok_of_bind h
  cases h
  exact ⟨isAbsolute_of_overridden hc.workingDir hworking, isAbsolute_of_overridden hc.gitCredentialsRoot hgit, hc.runner⟩

end ControllerConfig

open Script

/-! ### The end of a connect -/

/-- What a connect refuses by itself, it refuses before it binds a runner. --/
theorem Connector.Refuses.kindName_ne {c : Connector} {run : AnsibleRun} {l : Record} {e : ConnectError}
    (h : c.Refuses run l e) : e.kindName ≠ "InitFailed" := by
  cases h with
  | uid => simp [ConnectError.kindName]
  | settings _ h =>
    cases h with
    | git => simp [ConnectError.kindName]
    | entry _ h =>
      cases h with
      | source => simp [ConnectError.kindName]
      | name h =>
        unfold entryName at h
        split at h
        · cases h
        · cases h
          simp [ConnectError.kindName]

/-- A connect that fails to bind a runner has been answered so. --/
theorem init_answer_of_stage {c : Connector} {run : AnsibleRun} {l : Record} {e : ConnectError}
    (h : (c.stage run).Follows l (some (.error e))) (he : e.kindName = "InitFailed") :
    ∃ dir run' config why, (⟨.initRunner dir run' config, some (.error why)⟩ : Exchange calls) ∈ l := by
  rcases (needsAll_stage c run).origin h with ⟨earlier, x, rfl, -, reports⟩ | ⟨-, refuses⟩
  · cases reports with
    | initRunner dir run' config why =>
      exact ⟨dir, run', config, why, List.mem_append_right _ (List.mem_singleton_self _)⟩
    | _ => exact absurd he (by simp [ConnectError.kindName])
  · exact absurd he refuses.kindName_ne

/-- A runner is bound only for the run and its directory, after the uid was found to name one. --/
theorem init_call {σ : Type} {c : Connector} {h : Handler calls σ} {run run' : AnsibleRun} {s : σ} {dir : Path}
    {config : ProviderConfig} {r : Option (Except RunnerError Runner)}
    (hx : (⟨.initRunner dir run' config, r⟩ : Exchange calls) ∈ (c.connect (.run run)).exchanges h s) :
    run.uid.isPathSafe = true ∧ dir = c.runDir run ∧ run' = run := by
  obtain ⟨v, hv⟩ := (connect_in_order c h s).1 run
  have hplanned : dir = c.runDir run ∧ run' = run := by
    rcases isCheck_or_of_in_order hv.in_order hx with hc | ⟨y, hy, hyx⟩
    · cases hc
    · rw [Connector.plan, Plan.record_append] at hy
      rcases List.mem_append.mp hy with hy | hy
      · have := (allStaging_filesPlan c run v y hy).1
        rw [hyx] at this
        cases this
      · rw [Connector.runnerPlan_record] at hy
        simp only [List.mem_cons, List.not_mem_nil, or_false] at hy
        rcases hy with rfl | rfl | rfl <;> cases hyx
        exact ⟨rfl, rfl⟩
  rcases stage_split (follows_exchanges h (c.stage run) s) with ⟨v, l, -, found, -, -⟩ | ⟨hstages, -⟩
  · exact ⟨found.uid_safe, hplanned⟩
  · rcases hstages _ hx with hc | hc <;> cases hc

/-! ### Binding the runner -/

theorem ok_of_outcome {α : Type} {r : Option (Except ConnectError α)} {a : α} (h : outcome r = .ok a) : r = some (.ok a) := by
  cases r with
  | none => cases h
  | some r => exact congrArg some h

theorem error_of_outcome {α : Type} {r : Option (Except ConnectError α)} {e : ConnectError} (h : outcome r = .error e) :
    e = .cancelled ∨ r = some (.error e) := by
  cases r with
  | none =>
    cases h
    exact Or.inl rfl
  | some r => exact Or.inr (congrArg some h)

/-- The runner works in a place that is the same wherever the program was started, and so does git's credential store. --/
structure Runner.Placed (r : Runner) : Prop where
  directory : r.directory.isAbsolute = true
  git : ∃ dir : Path, r.environment.lookup Tools.gitVariable = some dir.text ∧ dir.isAbsolute = true
  program : r.program ≠ ""

/-- Whatever becomes of a connect, binding the runner is not what fails: it comes to nothing before, or it does well. --/
structure BindsWell (log : Record) (result : Except ConnectError Connection) : Prop where
  not_blamed : ∀ e, result = .error e → e.kindName ≠ "InitFailed"
  placed : ∀ dir run config r, (⟨.initRunner dir run config, r⟩ : Exchange calls) ∈ log →
    ∃ runner, r = some (.ok runner) ∧ runner.Placed
  before : (∀ dir run config r, (⟨.initRunner dir run config, r⟩ : Exchange calls) ∉ log) → ∃ e, result = .error e

theorem Tools.init_placed {c : ControllerConfig} (hc : c.Accepted) {run : AnsibleRun} (safe : run.uid.isPathSafe = true)
    (config : ProviderConfig) : ∃ runner,
      (Tools.mk (c.workingDir.join run.uid.text) (.ofConfig c)).init run config = .ok runner ∧ runner.Placed := by
  have hname : Path.IsName run.uid.text := Path.isName_uid safe
  have program : c.runner.program.isEmpty = false := by
    rw [String.isEmpty_eq_false_iff]
    exact hc.runner.program
  refine ⟨_, Tools.init_ok_iff.mpr ⟨program, Path.join_ne_empty _ hname, Uid.isEmpty_of_isPathSafe safe, rfl⟩, ?_⟩
  constructor
  case directory => exact Path.isAbsolute_join hc.workingDir _
  case git =>
    refine ⟨c.gitCredentialsRoot.join run.uid.text, ?_, Path.isAbsolute_join hc.gitCredentialsRoot _⟩
    rw [Tools.lookup_gitVariable, Tools.gitDirectory_join _ hname]
    rfl
  case program => exact hc.runner.program

/-- A configuration that is accepted has absolute directories and programs with names, and with the tools of the
    configuration no run makes a connect fail where it binds the runner. --/
theorem accepted_binds_well {text : String} {lookup : String → Option String} {config : ControllerConfig}
    (haccepted : (ControllerConfig.parse text >>= fun c => c.withOverrides lookup) = .ok config) :
    config.Accepted ∧ ∀ (σ : Type) (b : ConnectorBuilder σ), b.config = config → b.factory = none →
      ∀ (p : Platform σ) (env : Environment) (run : AnsibleRun) (s : σ),
        let t := (b.connector env).connect (.run run)
        let h := (b.collaborators p).handler
        BindsWell (t.exchanges h s) (outcome (t.run h s).1) := by
  obtain ⟨parsed, hparsed, hoverridden⟩ := eq_ok_of_bind haccepted
  have hc : config.Accepted :=
    ControllerConfig.accepted_withOverrides (ControllerConfig.accepted_parse hparsed) hoverridden
  refine ⟨hc, ?_⟩
  rintro σ b rfl hb p env run s t h
  have placed : ∀ dir run' config r, (⟨.initRunner dir run' config, r⟩ : Exchange calls) ∈ t.exchanges h s →
      ∃ runner, r = some (.ok runner) ∧ runner.Placed := by
    intro dir run' config r hx
    obtain ⟨safe, rfl, rfl⟩ := init_call hx
    obtain ⟨runner, hinit, hplaced⟩ := Tools.init_placed hc safe config
    exact ⟨runner, (ConnectorBuilder.init_of_mem_exchanges hb hx).trans (congrArg some hinit), hplaced⟩
  refine ⟨?_, placed, ?_⟩
  · intro e he hkind
    rcases error_of_outcome he with hnone | hfailed
    · exact absurd hkind (by rw [hnone]; decide)
    · have hfollows : t.Follows (t.exchanges h s) (some (.error e)) := hfailed ▸ follows_exchanges h t s
      obtain ⟨dir, run', config, why, hx⟩ := init_answer_of_stage hfollows hkind
      obtain ⟨runner, hr, -⟩ := placed _ _ _ _ hx
      cases hr
  · intro hno
    cases hresult : outcome (t.run h s).1 with
    | error e => exact ⟨e, rfl⟩
    | ok conn =>
      obtain ⟨v, -, -, made⟩ := plan_of_ok (ok_of_outcome hresult)
      exact absurd (made _ init_mem_plan) (hno _ _ _ _)

/-- A document with tools of its own, and an override of a directory. --/
theorem accepted_binds_well_tools :
    let text := "runner \x7b\n  binary \"/opt/runner\"\n\x7d\n"
    let lookup := fun name => if name = ControllerConfig.workingDirVariable then some "/work" else none
    let config : ControllerConfig := ⟨⟨"/work"⟩, ⟨"/tmp/ansibleDir"⟩, ⟨"/opt/runner", "ansible-galaxy", none⟩⟩
    let b := ConnectorBuilder.ofChoices (World.granting .empty .empty).services [.config config]
    let run : AnsibleRun := ⟨{ Metadata.empty with uid := ⟨"u"⟩ }, none, .empty⟩
    let t := (b.connector fun _ => none).connect (.run run)
    let h := (b.collaborators World.platform).handler
    (ControllerConfig.parse text >>= fun c => c.withOverrides lookup) = .ok config ∧ b.config = config ∧ b.factory = none ∧
      config.Accepted ∧ BindsWell (t.exchanges h .empty) (outcome (t.run h .empty).1) := by
  intro text lookup config b run t h
  have haccepted : (ControllerConfig.parse text >>= fun c => c.withOverrides lookup) = .ok config :=
    Option.some.inj (eq_ok_of_toOption (by decide +kernel))
  obtain ⟨hc, hbinds⟩ := accepted_binds_well haccepted
  exact ⟨haccepted, rfl, rfl, hc, hbinds MemTree b rfl rfl World.platform (fun _ => none) run .empty⟩

end AnsibleStaging
