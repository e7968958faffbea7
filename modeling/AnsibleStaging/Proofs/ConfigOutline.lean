import AnsibleStaging.Config
import AnsibleStaging.Proofs.Results

/-! The outline of a configuration document is what counts in it: the sections in order, and in each the children that are
    known, with the text of their first arguments. Reading goes through the document once, changes one section in place
    and builds the other anew. It comes to this: it collects the flaws of the outline in the order in which they
    are met, ends with the first, and without one it ends with all settings put into the default one by one. -/

namespace AnsibleStaging

/-! ### Values that are checked -/

/-- A value, unless something is wrong with it: then the first of the flaws. --/
def checked {ε α : Type} (flaws : List ε) (a : α) : Except ε α :=
  match flaws with
  | [] => .ok a
  | e :: _ => .error e

section
variable {ε α β γ ξ : Type} {es es' : List ε}

theorem map_self (x : Except ε α) : (x.map fun a => a) = x := by
  cases x <;> rfl

theorem map_map (x : Except ε α) (f : α → β) (g : β → γ) : (x.map f).map g = x.map fun a => g (f a) := by
  cases x <;> rfl

theorem map_checked (es : List ε) (a : α) (f : α → β) : (checked es a).map f = checked es (f a) := by
  cases es <;> rfl

theorem checked_bind (es es' : List ε) (a : α) (f : α → β) :
    (checked es a >>= fun a => checked es' (f a)) = checked (es ++ es') (f a) := by
  cases es <;> rfl

theorem checked_eq_ok_iff {a b : α} : checked es a = .ok b ↔ es = [] ∧ a = b := by
  cases es with
  | nil => simp [checked]
  | cons e es => simp [checked]

theorem checked_eq_error_iff {a : α} {e : ε} : checked es a = .error e ↔ es.head? = some e := by
  cases es with
  | nil => simp [checked]
  | cons e es => simp [checked]

theorem toOption_checked_of_ne_nil {a : α} (h : es ≠ []) : (checked es a).toOption = none := by
  cases es with
  | nil => exact absurd rfl h
  | cons e es => rfl

/-- A fold whose steps check what they pick out of their elements collects the flaws, and stops at the first. The fold is
    looked at through `view`. --/
theorem map_foldlM_checked {f : β → α → Except ε β} {view : β → γ} {pick : α → Option ξ} {flaws : ξ → List ε}
    {take : ξ → γ → γ} (step : ∀ b a, (f b a).map view = (pick a).elim (.ok (view b)) fun x => checked (flaws x) (take x (view b)))
    (l : List α) (b : β) : (l.foldlM f b).map view =
      checked ((l.filterMap pick).flatMap flaws) ((l.filterMap pick).foldl (fun c x => take x c) (view b)) := by
  induction l generalizing b with
  | nil => rfl
  | cons a rest ih =>
    have hstep := step b a
    rw [List.foldlM_cons]
    cases hpick : pick a with
    | none =>
      rw [hpick] at hstep
      obtain ⟨b', hb', hview⟩ := eq_ok_of_map hstep
      rw [List.filterMap_cons_none hpick, hb', ← hview]
      exact ih b'
    | some x =>
      rw [hpick, Option.elim_some] at hstep
      rw [List.filterMap_cons_some hpick, List.flatMap_cons, List.foldl_cons]
      cases hflaws : flaws x with
      | nil =>
        rw [hflaws] at hstep
        obtain ⟨b', hb', hview⟩ := eq_ok_of_map hstep
        rw [hb', List.nil_append, ← hview]
        exact ih b'
      | cons e more =>
        rw [hflaws] at hstep
        cases hb : f b a with
        | ok b' =>
          rw [hb] at hstep
          cases hstep
        | error e' =>
          rw [hb] at hstep
          cases hstep
          rfl

end

namespace ControllerConfig

/-! ### Fields -/

/-- What a document can set. --/
inductive Field where
  | workingDir
  | gitCredentialsRoot
  | program
  | galaxyProgram
  | collectionsPath
deriving DecidableEq

namespace Field

def all : List Field := [workingDir, gitCredentialsRoot, program, galaxyProgram, collectionsPath]

def sectionName : Field → String
  | workingDir => "controller"
  | gitCredentialsRoot => "controller"
  | program => "runner"
  | galaxyProgram => "runner"
  | collectionsPath => "runner"

def childName : Field → String
  | workingDir => "working-dir"
  | gitCredentialsRoot => "git-credentials-root"
  | program => "binary"
  | galaxyProgram => "galaxy-binary"
  | collectionsPath => "collections-path"

/-- What errors call the field. --/
def label (f : Field) : String := f.sectionName ++ "." ++ f.childName

/-- The variable whose value takes the place of what the document says. --/
def variableName? : Field → Option String
  | workingDir => some workingDirVariable
  | gitCredentialsRoot => some gitCredentialsRootVariable
  | _ => none

/-- Whether the field is a directory, and has to be absolute. --/
def isDirectory : Field → Bool
  | workingDir => true
  | gitCredentialsRoot => true
  | _ => false

/-- The text of the field in a configuration. --/
def read (c : ControllerConfig) : Field → Option String
  | workingDir => some c.workingDir.text
  | gitCredentialsRoot => some c.gitCredentialsRoot.text
  | program => some c.runner.program
  | galaxyProgram => some c.runner.galaxyProgram
  | collectionsPath => c.runner.collectionsPath.map (·.text)

/-- The field that a child of a node sets. --/
def of? (node child : String) : Option Field := all.find? fun f => f.sectionName = node ∧ f.childName = child

theorem of?_eq_some_iff {node child : String} {f : Field} :
    of? node child = some f ↔ f.sectionName = node ∧ f.childName = child := by
  constructor
  · intro h
    simpa using List.find?_some h
  · rintro ⟨rfl, rfl⟩
    cases f <;> rfl

theorem of?_eq_none_iff {node child : String} :
    of? node child = none ↔ ∀ f : Field, ¬(f.sectionName = node ∧ f.childName = child) := by
  rw [Option.eq_none_iff_forall_ne_some]
  exact forall_congr' fun f => not_congr of?_eq_some_iff

/-- What is wrong with a text that the field is to have, if it is one. --/
def flaws (f : Field) : Option String → List ConfigError
  | none => [.missingField f.label]
  | some s =>
    if s.isEmpty then [.invalidValue f.label .empty]
    else if f.isDirectory ∧ (Path.mk s).isAbsolute = false then [.invalidValue f.label (.notAbsolute s)]
    else []

theorem flaws_eq_nil_iff {f : Field} {text : Option String} :
    f.flaws text = [] ↔ ∃ s, text = some s ∧ s ≠ "" ∧ (f.isDirectory = true → (Path.mk s).isAbsolute = true) := by
  cases text with
  | none => simp [flaws]
  | some s =>
    rw [flaws]
    by_cases hs : s = ""
    · simp [hs]
    · rw [if_neg fun he => hs (String.isEmpty_iff.mp he)]
      by_cases hd : f.isDirectory = true ∧ (Path.mk s).isAbsolute = false
      · simp [hd.1, hd.2]
      · rw [if_neg hd]
        exact iff_of_true rfl ⟨s, rfl, hs, fun hdir => Bool.not_eq_false _ ▸ fun habs => hd ⟨hdir, habs⟩⟩

end Field

/-! ### Settings -/

/-- The text of a node's first argument, if there is one and it is a text. --/
def givenText (n : Kdl.Node) : Option String := n.firstArgument?.bind Kdl.Value.string?

/-- A known child of a section. --/
structure Setting where
  field : Field
  text : Option String

namespace Setting

def of? (node : String) (child : Kdl.Node) : Option Setting :=
  (Field.of? node child.name).map fun f => ⟨f, givenText child⟩

theorem of?_eq_some {node : String} {n : Kdl.Node} {f : Field} (hnode : f.sectionName = node) (hname : f.childName = n.name) :
    of? node n = some ⟨f, givenText n⟩ := by
  rw [of?, Field.of?_eq_some_iff.mpr ⟨hnode, hname⟩]
  rfl

theorem of?_eq_none {node : String} {n : Kdl.Node} (h : ∀ f : Field, f.sectionName = node → f.childName ≠ n.name) :
    of? node n = none := by
  rw [of?, Field.of?_eq_none_iff.mpr fun f hf => h f hf.1 hf.2]
  rfl

def flaws (x : Setting) : List ConfigError := x.field.flaws x.text

/-- The configuration with the setting; without a text, it is the default. --/
def put (x : Setting) (c : ControllerConfig) : ControllerConfig :=
  match x.field with
  | .workingDir => { c with workingDir := x.text.elim default.workingDir .mk }
  | .gitCredentialsRoot => { c with gitCredentialsRoot := x.text.elim default.gitCredentialsRoot .mk }
  | .program => { c with runner := { c.runner with program := x.text.getD RunnerConfig.default.program } }
  | .galaxyProgram => { c with runner := { c.runner with galaxyProgram := x.text.getD RunnerConfig.default.galaxyProgram } }
  | .collectionsPath => { c with runner := { c.runner with collectionsPath := x.text.map .mk } }

theorem read_put (x : Setting) (c : ControllerConfig) (f : Field) :
    f.read (x.put c) = if x.field = f then x.text.or (f.read .default) else f.read c := by
  obtain ⟨g, text⟩ := x
  cases g <;> cases f <;> cases text <;> rfl

end Setting

/-- The text of a field after settings: that of the last one for it. --/
theorem read_foldl_put (f : Field) (xs : List Setting) (c : ControllerConfig) :
    f.read (xs.foldl (fun c x => x.put c) c) =
      ((xs.filter (·.field = f)).getLast?).elim (f.read c) fun x => x.text.or (f.read .default) := by
  induction xs generalizing c with
  | nil => rfl
  | cons x rest ih =>
    rw [List.foldl_cons, ih, Setting.read_put]
    by_cases hx : x.field = f
    · rw [if_pos hx, List.filter_cons_of_pos (by simpa using hx), List.getLast?_cons]
      cases (rest.filter (·.field = f)).getLast? <;> rfl
    · rw [if_neg hx, List.filter_cons_of_neg (by simpa using hx)]

/-! ### Reading a child -/

theorem requiredText_eq (field : String) (n : Kdl.Node) :
    requiredText field n = match givenText n with
      | none => .error (.missingField field)
      | some s => if s.isEmpty then .error (.invalidValue field .empty) else .ok s := rfl

theorem requiredText_map {α : Type} {f : Field} {n : Kdl.Node} {take : String → α} {a : α} (hf : f.isDirectory = false)
    (h : ∀ s, givenText n = some s → take s = a) :
    (requiredText f.label n).map take = checked (f.flaws (givenText n)) a := by
  rw [requiredText_eq]
  cases hg : givenText n with
  | none => rfl
  | some s =>
    have free : ¬(f.isDirectory = true ∧ (Path.mk s).isAbsolute = false) := fun hd => by simp [hf] at hd
    rw [Field.flaws, if_neg free, ← h s hg]
    dsimp only
    split <;> rfl

theorem requiredPath_map {α : Type} {f : Field} {n : Kdl.Node} {take : Path → α} {a : α} (hf : f.isDirectory = true)
    (h : ∀ s, givenText n = some s → take ⟨s⟩ = a) :
    (requiredPath f.label n).map take = checked (f.flaws (givenText n)) a := by
  rw [requiredPath, requiredText_eq]
  cases hg : givenText n with
  | none => rfl
  | some s =>
    rw [Field.flaws, ← h s hg]
    by_cases hs : s.isEmpty = true
    · rw [if_pos hs]
      simp only [if_pos hs]
      rfl
    · rw [if_neg hs]
      simp only [if_neg hs]
      show (absolutePath f.label s).map take = _
      unfold absolutePath
      by_cases hp : (Path.mk s).isAbsolute = true
      · rw [if_pos hp, if_neg fun hd => absurd hd.2 (by simp [hp])]
        rfl
      · rw [if_neg hp, if_pos ⟨hf, Bool.not_eq_true _ ▸ hp⟩]
        rfl

theorem takeControllerChild_eq (c : ControllerConfig) (n : Kdl.Node) :
    takeControllerChild c n = (Setting.of? "controller" n).elim (.ok c) fun x => checked x.flaws (x.put c) := by
  unfold takeControllerChild
  split
  · next h =>
    rw [Setting.of?_eq_some (show Field.workingDir.sectionName = "controller" from rfl) h.symm]
    exact requiredPath_map (f := .workingDir) rfl fun s hs => by rw [Setting.put, hs]; rfl
  · next hw =>
    split
    · next h =>
      rw [Setting.of?_eq_some (show Field.gitCredentialsRoot.sectionName = "controller" from rfl) h.symm]
      exact requiredPath_map (f := .gitCredentialsRoot) rfl fun s hs => by rw [Setting.put, hs]; rfl
    · next hg =>
      have unknown : Setting.of? "controller" n = none := by
        refine Setting.of?_eq_none fun f hs hn => ?_
        cases f
        · exact hw hn.symm
        · exact hg hn.symm
        · exact absurd hs (by decide)
        · exact absurd hs (by decide)
        · exact absurd hs (by decide)
      rw [unknown]
      rfl

theorem takeRunnerChild_eq (c : ControllerConfig) (r : RunnerConfig) (n : Kdl.Node) :
    (takeRunnerChild r n).map (fun r => { c with runner := r }) =
      (Setting.of? "runner" n).elim (.ok { c with runner := r }) fun x => checked x.flaws (x.put { c with runner := r }) := by
  unfold takeRunnerChild
  split
  · next h =>
    rw [Setting.of?_eq_some (show Field.program.sectionName = "runner" from rfl) h.symm, map_map]
    exact requiredText_map (f := .program) rfl fun s hs => by rw [Setting.put, hs]; rfl
  · next hb =>
    split
    · next h =>
      rw [Setting.of?_eq_some (show Field.galaxyProgram.sectionName = "runner" from rfl) h.symm, map_map]
      exact requiredText_map (f := .galaxyProgram) rfl fun s hs => by rw [Setting.put, hs]; rfl
    · next hg =>
      split
      · next h =>
        rw [Setting.of?_eq_some (show Field.collectionsPath.sectionName = "runner" from rfl) h.symm, map_map]
        exact requiredText_map (f := .collectionsPath) rfl fun s hs => by rw [Setting.put, hs]; rfl
      · next hc =>
        have unknown : Setting.of? "runner" n = none := by
          refine Setting.of?_eq_none fun f hs hn => ?_
          cases f
          · exact absurd hs (by decide)
          · exact absurd hs (by decide)
          · exact hb hn.symm
          · exact hg hn.symm
          · exact hc hn.symm
        rw [unknown]
        rfl

/-! ### Reading a document -/

/-- What counts in a section. --/
structure Section where
  name : String
  settings : List Setting

def Section.of? (n : Kdl.Node) : Option Section :=
  if n.name = "controller" ∨ n.name = "runner" then some ⟨n.name, n.children.filterMap (Setting.of? n.name)⟩ else none

/-- What counts in a document. --/
def outline (doc : Kdl.Document) : List Section := doc.filterMap Section.of?

/-- The flaws of sections, in the order in which they are met. A section whose name was met before is one, whatever it
    holds. --/
def flawsAfter (met : List String) : List Section → List ConfigError
  | [] => []
  | s :: rest =>
    (if s.name ∈ met then [.duplicate s.name] else s.settings.flatMap Setting.flaws) ++ flawsAfter (s.name :: met) rest

/-- The configuration after settings. --/
def putAll (xs : List Setting) (c : ControllerConfig) : ControllerConfig := xs.foldl (fun c x => x.put c) c

theorem Section.of?_eq_some_iff {n : Kdl.Node} {s : Section} : Section.of? n = some s ↔
    (n.name = "controller" ∨ n.name = "runner") ∧ s = ⟨n.name, n.children.filterMap (Setting.of? n.name)⟩ := by
  unfold Section.of?
  split
  · next h => exact ⟨fun hs => ⟨h, (Option.some.inj hs).symm⟩, fun hs => congrArg some hs.2.symm⟩
  · next h => simp [h]

theorem Section.of?_eq_none_iff {n : Kdl.Node} :
    Section.of? n = none ↔ ¬(n.name = "controller" ∨ n.name = "runner") := by
  unfold Section.of?
  split
  · next h => simp [h]
  · next h => simp [h]

theorem Section.sectionName_of_mem {n : Kdl.Node} {s : Section} (h : Section.of? n = some s) {x : Setting}
    (hx : x ∈ s.settings) : x.field.sectionName = s.name := by
  obtain ⟨-, rfl⟩ := Section.of?_eq_some_iff.mp h
  obtain ⟨child, -, hchild⟩ := List.mem_filterMap.mp hx
  obtain ⟨f, hf, rfl⟩ := Option.map_eq_some_iff.mp hchild
  exact (Field.of?_eq_some_iff.mp hf).1

theorem runner_putAll {xs : List Setting} (h : ∀ x ∈ xs, x.field.sectionName = "controller") (c : ControllerConfig) :
    (putAll xs c).runner = c.runner := by
  induction xs generalizing c with
  | nil => rfl
  | cons x rest ih =>
    obtain ⟨hx, hrest⟩ := List.forall_mem_cons.mp h
    refine (ih hrest (x.put c)).trans ?_
    obtain ⟨f, text⟩ := x
    cases f
    · rfl
    · rfl
    · exact absurd (show "runner" = "controller" from hx) (by decide)
    · exact absurd (show "runner" = "controller" from hx) (by decide)
    · exact absurd (show "runner" = "controller" from hx) (by decide)

namespace Progress

/-- The sections whose names are in `met` have been read, and a runner that was not met is the default one. --/
structure Met (p : Progress) (met : List String) : Prop where
  controller : "controller" ∈ met ↔ p.controllerMet = true
  runner : "runner" ∈ met ↔ p.runnerMet = true
  fresh : p.runnerMet = false → p.config.runner = .default

/-- The progress after a section. --/
def after (p : Progress) (s : Section) : Progress :=
  ⟨putAll s.settings p.config, p.controllerMet || s.name = "controller", p.runnerMet || s.name = "runner"⟩

theorem Met.after {p : Progress} {met : List String} (h : p.Met met) {n : Kdl.Node} {s : Section}
    (hs : Section.of? n = some s) : (p.after s).Met (s.name :: met) := by
  refine ⟨?_, ?_, fun hmet => ?_⟩
  · rw [List.mem_cons, h.controller, Progress.after, Bool.or_eq_true, decide_eq_true_iff, or_comm, eq_comm (a := s.name)]
  · rw [List.mem_cons, h.runner, Progress.after, Bool.or_eq_true, decide_eq_true_iff, or_comm, eq_comm (a := s.name)]
  · simp only [Progress.after, Bool.or_eq_false_iff, decide_eq_false_iff_not] at hmet
    have hcontroller : s.name = "controller" := by
      obtain ⟨hname, rfl⟩ := Section.of?_eq_some_iff.mp hs
      exact hname.resolve_right hmet.2
    rw [Progress.after, runner_putAll fun x hx => (Section.sectionName_of_mem hs hx).trans hcontroller]
    exact h.fresh hmet.1

end Progress

theorem takeNode_eq {p : Progress} {met : List String} (h : p.Met met) (n : Kdl.Node) :
    takeNode p n = (Section.of? n).elim (.ok p) fun s =>
      checked (if s.name ∈ met then [.duplicate s.name] else s.settings.flatMap Setting.flaws) (p.after s) := by
  obtain ⟨name, entries, children⟩ := n
  by_cases hcontroller : name = "controller"
  · subst hcontroller
    have hs : Section.of? (.mk "controller" entries children) =
        some ⟨"controller", children.filterMap (Setting.of? "controller")⟩ := rfl
    show (if p.controllerMet then Except.error (.duplicate "controller")
      else (children.foldlM takeControllerChild p.config).map fun c => { p with config := c, controllerMet := true }) = _
    rw [hs, Option.elim_some]
    by_cases hmet : p.controllerMet = true
    · rw [if_pos hmet, if_pos (h.controller.mpr hmet)]
      rfl
    · have fold := map_foldlM_checked (fun c n => (map_self _).trans (takeControllerChild_eq c n)) children p.config
      rw [map_self] at fold
      rw [if_neg hmet, if_neg fun hm => hmet (h.controller.mp hm), fold, map_checked]
      simp [Progress.after, putAll]
  · by_cases hrunner : name = "runner"
    · subst hrunner
      have hs : Section.of? (.mk "runner" entries children) =
          some ⟨"runner", children.filterMap (Setting.of? "runner")⟩ := rfl
      show (if p.runnerMet then Except.error (.duplicate "runner")
        else (children.foldlM takeRunnerChild RunnerConfig.default).map fun r =>
          { p with config := { p.config with runner := r }, runnerMet := true }) = _
      rw [hs, Option.elim_some]
      by_cases hmet : p.runnerMet = true
      · rw [if_pos hmet, if_pos (h.runner.mpr hmet)]
        rfl
      · -- The section starts from the default tools, which are the ones held until then.
        have fold := map_foldlM_checked (takeRunnerChild_eq p.config) children .default
        have start : { p.config with runner := RunnerConfig.default } = p.config := by
          rw [← h.fresh (Bool.not_eq_true _ ▸ hmet)]
        rw [start] at fold
        have marked := congrArg (Except.map fun c : ControllerConfig => { p with config := c, runnerMet := true }) fold
        rw [map_map, map_checked] at marked
        rw [if_neg hmet, if_neg fun hm => hmet (h.runner.mp hm)]
        refine marked.trans ?_
        simp [Progress.after, putAll]
    · have hs : Section.of? (.mk name entries children) = none :=
        if_neg fun hname => hname.elim hcontroller hrunner
      rw [hs]
      unfold takeNode
      rw [if_neg (show ¬(Kdl.Node.mk name entries children).name = "controller" from hcontroller),
        if_neg (show ¬(Kdl.Node.mk name entries children).name = "runner" from hrunner)]
      rfl

theorem foldlM_takeNode (doc : Kdl.Document) {p : Progress} {met : List String} (h : p.Met met) :
    (doc.foldlM takeNode p).map (·.config) =
      checked (flawsAfter met (outline doc)) (putAll ((outline doc).flatMap Section.settings) p.config) := by
  induction doc generalizing p met with
  | nil => rfl
  | cons n rest ih =>
    rw [List.foldlM_cons, takeNode_eq h, outline]
    cases hs : Section.of? n with
    | none =>
      rw [List.filterMap_cons_none hs]
      exact ih h
    | some s =>
      rw [List.filterMap_cons_some hs, flawsAfter, List.flatMap_cons, putAll, List.foldl_append, Option.elim_some]
      cases hflaws : (if s.name ∈ met then [.duplicate s.name] else s.settings.flatMap Setting.flaws) with
      | nil => exact ih (h.after hs)
      | cons e more => rfl

/-! ### Overrides -/

/-- What is wrong with the value of a variable, if it has one. --/
def overrideFlaws (lookup : String → Option String) (name : String) : List ConfigError :=
  match lookup name with
  | none => []
  | some value => if (Path.mk value).isAbsolute then [] else [.invalidValue name (.notAbsolute value)]

theorem overrideFlaws_eq_nil_iff {lookup : String → Option String} {name : String} :
    overrideFlaws lookup name = [] ↔ ∀ value, lookup name = some value → (Path.mk value).isAbsolute = true := by
  unfold overrideFlaws
  cases lookup name with
  | none => simp
  | some value => simp

theorem overridden_eq (lookup : String → Option String) (name : String) (p : Path) :
    overridden lookup name p = checked (overrideFlaws lookup name) ((lookup name).elim p .mk) := by
  unfold overridden overrideFlaws
  cases lookup name with
  | none => rfl
  | some value =>
    dsimp only
    unfold absolutePath
    split <;> rfl

/-- The configuration with the directories that `lookup` gives. --/
def overriding (lookup : String → Option String) (c : ControllerConfig) : ControllerConfig :=
  { c with
    workingDir := (lookup workingDirVariable).elim c.workingDir .mk
    gitCredentialsRoot := (lookup gitCredentialsRootVariable).elim c.gitCredentialsRoot .mk }

/-- The flaws of all overrides, in the order in which they are applied. --/
def overridesFlaws (lookup : String → Option String) : List ConfigError :=
  overrideFlaws lookup workingDirVariable ++ overrideFlaws lookup gitCredentialsRootVariable

theorem withOverrides_eq (c : ControllerConfig) (lookup : String → Option String) :
    c.withOverrides lookup = checked (overridesFlaws lookup) (overriding lookup c) := by
  unfold withOverrides overridesFlaws
  rw [overridden_eq, overridden_eq]
  cases overrideFlaws lookup workingDirVariable with
  | cons e es => rfl
  | nil => cases overrideFlaws lookup gitCredentialsRootVariable <;> rfl

theorem read_overriding (f : Field) (lookup : String → Option String) (c : ControllerConfig) :
    f.read (c.overriding lookup) = (f.variableName?.bind lookup).or (f.read c) := by
  cases f with
  | workingDir =>
    show some ((lookup workingDirVariable).elim c.workingDir .mk).text = _
    rw [Field.variableName?, Option.bind_some]
    cases lookup workingDirVariable <;> rfl
  | gitCredentialsRoot =>
    show some ((lookup gitCredentialsRootVariable).elim c.gitCredentialsRoot .mk).text = _
    rw [Field.variableName?, Option.bind_some]
    cases lookup gitCredentialsRootVariable <;> rfl
  | program => rfl
  | galaxyProgram => rfl
  | collectionsPath => rfl

/-! ### The whole course -/

/-- All that can be wrong with a document and overrides, in the order in which it is met. --/
def flawsOf (doc : Kdl.Document) (lookup : String → Option String) : List ConfigError :=
  flawsAfter [] (outline doc) ++ overridesFlaws lookup

/-- The configuration that a document and overrides stand for. --/
def meaning (doc : Kdl.Document) (lookup : String → Option String) : ControllerConfig :=
  (putAll ((outline doc).flatMap Section.settings) .default).overriding lookup

theorem parse_withOverrides {text : String} {doc : Kdl.Document} (h : Kdl.parse? text = some doc)
    (lookup : String → Option String) : (parse text >>= fun c => c.withOverrides lookup) =
      checked (flawsOf doc lookup) (meaning doc lookup) := by
  have start : Progress.Met ⟨.default, false, false⟩ [] := ⟨by simp, by simp, fun _ => rfl⟩
  have document := foldlM_takeNode doc start
  rw [parse, h]
  dsimp only
  rw [ofDocument, document]
  simp only [withOverrides_eq]
  exact checked_bind _ _ _ _

end ControllerConfig
end AnsibleStaging
