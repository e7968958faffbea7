import AnsibleStaging.Connect.Builder
import AnsibleStaging.Proofs.Cancellation
import AnsibleStaging.Proofs.PathComponents

/-! The tools that a connector has when none were chosen for it. They take the directory for git from the name of their
    own directory, and every answer that a connect gets from them is theirs, with the settings of the configuration that
    the connector was built from. -/

namespace AnsibleStaging
open Script

/-! ### Directories -/

namespace Path

theorem join_ne_empty (d : Path) {name : String} (h : IsName name) : (d.join name).isEmpty = false := by
  unfold isEmpty
  rw [String.isEmpty_eq_false_iff]
  intro hempty
  have hcomponents := components_join d h
  rw [show d.join name = ⟨""⟩ from congrArg mk hempty, components_empty] at hcomponents
  exact List.append_ne_nil_of_right_ne_nil _ (List.cons_ne_nil _ _) hcomponents.symm

theorem isAbsolute_join {d : Path} (hd : d.isAbsolute = true) (name : String) : (d.join name).isAbsolute = true := by
  simp only [isAbsolute, beq_iff_eq] at hd ⊢
  unfold join
  split
  · next h => exact h
  · split
    · rw [String.toList_append, List.head?_append, hd, Option.some_or]
    · rw [String.toList_append, String.toList_append, List.append_assoc, List.head?_append, hd, Option.some_or]

end Path

namespace Tools
variable {t : Tools} {run : AnsibleRun} {config : ProviderConfig} {runner : Runner}

theorem lookup_gitVariable (t : Tools) : t.environment.lookup gitVariable = t.gitDirectory.map Path.text := by
  unfold environment
  cases t.settings.collectionsPath <;> cases t.gitDirectory <;> rfl

/-- The directory for git has the name of the directory of the tools, under the root of the settings. --/
theorem gitDirectory_join (base : Path) {name : String} (h : Path.IsName name) (settings : ToolSettings) :
    (Tools.mk (base.join name) settings).gitDirectory = settings.gitCredentialsRoot.map fun root => root.join name := by
  unfold gitDirectory
  rw [Path.fileName_join base h]
  cases settings.gitCredentialsRoot <;> rfl

/-- A runner is refused for want of a program, a directory or a uid, and for nothing else. --/
theorem init_ok_iff : t.init run config = .ok runner ↔
    t.settings.runnerProgram.isEmpty = false ∧ t.directory.isEmpty = false ∧ run.uid.isEmpty = false ∧
      runner = ⟨run.uid, t.directory, config.name, t.settings.runnerProgram, t.runnerArguments run, t.environment,
        run.parameters.checkMode⟩ := by
  unfold init
  cases t.settings.runnerProgram.isEmpty <;> cases t.directory.isEmpty <;> cases run.uid.isEmpty <;>
    simp [eq_comm]

/-- What is required is installed by the command for galaxy, and by nothing else. --/
theorem installGalaxy_ok_iff {launch : Launcher} : t.installGalaxy launch config = .ok () ↔
    (config.settings.requirements ≠ none → ∃ outcome, launch t.galaxyCommand = .ok outcome ∧ outcome.success = true) := by
  unfold installGalaxy Launcher.finish
  cases config.settings.requirements with
  | none => simp
  | some text =>
    cases launch t.galaxyCommand with
    | error e => simp [Except.map]
    | ok outcome => cases hs : outcome.success <;> simp [Except.map, hs]

end Tools

theorem Uid.isEmpty_of_isPathSafe {u : Uid} (h : u.isPathSafe = true) : u.isEmpty = false := by
  simp only [isPathSafe, Bool.and_eq_true, Bool.not_eq_true'] at h
  exact h.1.1.1

/-! ### The calls of a connect that has ended well -/

/-- A connect that has ended well has made all calls of its plan. --/
theorem plan_of_ok {σ : Type} {c : Connector} {h : Handler calls σ} {run : AnsibleRun} {s : σ} {conn : Connection}
    (hok : ((c.connect (.run run)).run h s).1 = some (.ok conn)) : ∃ v : Supply, v.Found c run ∧
      conn = ⟨c.runDir run, v.runner⟩ ∧ ∀ x ∈ (c.plan run v).record, x ∈ (c.connect (.run run)).exchanges h s := by
  obtain ⟨v, hv⟩ := (connect_in_order c h s).1 run
  obtain ⟨found, hlog, rfl⟩ := hv.of_ok conn hok
  refine ⟨v, found, rfl, fun x hx => ?_⟩
  rw [← hlog] at hx
  exact (List.mem_filter.mp hx).1

theorem init_mem_plan {c : Connector} {run : AnsibleRun} {v : Supply} :
    (⟨.initRunner (c.runDir run) run v.config, some (.ok v.runner)⟩ : Exchange calls) ∈ (c.plan run v).record := by
  rw [Connector.plan, Plan.record_append, Connector.runnerPlan_record]
  simp

/-! ### The tools of a builder -/

namespace ConnectorBuilder
variable {σ α ε : Type} {b : ConnectorBuilder σ} {p : Platform σ} {t : Task ε α} {s : σ}

/-- Choices that leave out the tools leave them to the configuration. --/
theorem factory_ofChoices (services : Services σ) {choices : List (BuildChoice σ)} (h : ∀ f, .factory f ∉ choices) :
    (ofChoices services choices).factory = none := by
  have kept : ∀ b : ConnectorBuilder σ, b.factory = none → (choices.foldl choose b).factory = none := by
    induction choices with
    | nil => exact fun _ hb => hb
    | cons choice rest ih =>
      intro b hb
      refine ih (fun f hf => h f (List.mem_cons_of_mem _ hf)) _ ?_
      cases choice with
      | factory f => exact absurd List.mem_cons_self (h f)
      | _ => exact hb
  exact kept _ rfl

/-- What a runner is bound to is what the tools of the configuration bind it to. --/
theorem init_of_mem_exchanges (hb : b.factory = none) {dir : Path} {run : AnsibleRun} {config : ProviderConfig}
    {r : Option (Except RunnerError Runner)}
    (h : (⟨.initRunner dir run config, r⟩ : Exchange calls) ∈ t.exchanges (b.collaborators p).handler s) :
    r = some ((Tools.mk dir (.ofConfig b.config)).init run config) := by
  obtain ⟨s', hanswer⟩ := answer_of_mem_exchanges h
  simp only [collaborators, hb, Option.getD_none] at hanswer
  exact hanswer.symm

theorem installGalaxy_of_mem_exchanges (hb : b.factory = none) {dir : Path} {config : ProviderConfig}
    {r : Option (Except RunnerError Unit)}
    (h : (⟨.installGalaxy dir config, r⟩ : Exchange calls) ∈ t.exchanges (b.collaborators p).handler s) :
    ∃ s', r = some ((Tools.mk dir (.ofConfig b.config)).installGalaxy (p.launch s') config) := by
  obtain ⟨s', hanswer⟩ := answer_of_mem_exchanges h
  simp only [collaborators, hb, Option.getD_none] at hanswer
  exact ⟨s', hanswer.symm⟩

end ConnectorBuilder
end AnsibleStaging
