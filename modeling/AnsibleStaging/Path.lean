/-! Paths. A path is kept as it was written and compared by its components: `a//b/.` and `a/b` are two
    spellings of one place. `parent` and `join` work on the spelling, `components` gives its meaning. -/

namespace AnsibleStaging

/-- A path, as it was written. --/
structure Path where
  text : String
deriving DecidableEq, Inhabited

inductive Component where
  | root
  | current
  | parent
  | normal (name : String)
deriving DecidableEq

namespace Component

def rank : Component → Nat
  | .root => 0
  | .current => 1
  | .parent => 2
  | .normal _ => 3

def name : Component → String
  | .normal s => s
  | _ => ""

/-- Components are ordered by kind, and normal ones by name. --/
def Before (a b : Component) : Prop := a.rank < b.rank ∨ (a.rank = b.rank ∧ a.name < b.name)

instance : LT Component := ⟨Before⟩

instance : DecidableLT Component := fun _ _ => inferInstanceAs (Decidable (_ ∨ _))

end Component

namespace Path

/-- The pieces between slashes, empty ones included. --/
def segments : List Char → List (List Char)
  | [] => [[]]
  | c :: rest =>
    if c = '/' then [] :: segments rest
    else
      match segments rest with
      | [] => [[c]]
      | s :: more => (c :: s) :: more

/-- What a piece after the start of a path means: nothing if it is empty or a dot. --/
def component? (s : List Char) : Option Component :=
  if s = [] ∨ s = ['.'] then none
  else if s = ['.', '.'] then some .parent
  else some (.normal (String.ofList s))

/-- The components of a path. A dot counts only where a relative path starts with it. --/
def components (p : Path) : List Component :=
  match p.text.toList with
  | '/' :: rest => .root :: (segments rest).filterMap component?
  | cs =>
    match segments cs with
    | ['.'] :: more => .current :: more.filterMap component?
    | all => all.filterMap component?

/-- Whether two paths are spellings of one place. --/
def Same (p q : Path) : Prop := p.components = q.components

instance (p q : Path) : Decidable (Same p q) := inferInstanceAs (Decidable (_ = _))

def isEmpty (p : Path) : Bool := p.text.isEmpty

def isAbsolute (p : Path) : Bool := p.text.toList.head? == some '/'

/-- The last component, if it is a name. --/
def fileName (p : Path) : Option String :=
  match p.components.getLast? with
  | some (.normal s) => some s
  | _ => none

/-- `name` under `base`. A name that starts at the root stands for itself. --/
def join (base : Path) (name : String) : Path :=
  if name.toList.head? = some '/' then ⟨name⟩
  else if base.text.toList.getLast? = none ∨ base.text.toList.getLast? = some '/' then ⟨base.text ++ name⟩
  else ⟨base.text ++ "/" ++ name⟩

/-! ### The parent -/

/-- The part of a spelling that no piece before it takes away: the root, or a dot that starts a relative
    path. --/
def lead (cs : List Char) : List Char :=
  match cs with
  | '/' :: _ => ['/']
  | ['.'] => ['.']
  | '.' :: '/' :: _ => ['.']
  | _ => []

/-- The last piece of a spelling that is written backwards, and what stands before it and its slash. --/
def lastPiece (back : List Char) : List Char × List Char :=
  (back.takeWhile (· != '/'), (back.dropWhile (· != '/')).drop 1)

theorem length_lastPiece_lt {back : List Char} (h : back ≠ []) :
    (lastPiece back).2.length < back.length := by
  obtain ⟨c, rest, rfl⟩ := List.exists_cons_of_ne_nil h
  have hle := (List.dropWhile_suffix (l := rest) (· != '/')).length_le
  by_cases hc : (c != '/') = true
  · simp only [lastPiece, List.dropWhile_cons, hc, if_true, List.length_drop, List.length_cons]
    omega
  · simp [lastPiece, hc]

/-- A backward spelling without the pieces at its end that mean nothing. --/
def dropIdle (back : List Char) : List Char :=
  if _ : back = [] then []
  else if (lastPiece back).1 = [] ∨ (lastPiece back).1 = ['.'] then dropIdle (lastPiece back).2
  else back
termination_by back.length
decreasing_by exact length_lastPiece_lt ‹_›

theorem length_dropIdle_le (back : List Char) : (dropIdle back).length ≤ back.length := by
  fun_induction dropIdle back with
  | case1 => exact Nat.le_refl _
  | case2 back h _ ih => exact Nat.le_trans ih (Nat.le_of_lt (length_lastPiece_lt h))
  | case3 => exact Nat.le_refl _

/-- The spelling without its last component; none for the root and for the empty path. --/
def parentChars (cs : List Char) : Option (List Char) :=
  let start := lead cs
  match dropIdle (cs.drop start.length).reverse with
  | [] => if start = ['.'] then some [] else none
  | c :: back => some (start ++ (dropIdle (lastPiece (c :: back)).2).reverse)

theorem length_parentChars_lt {cs ps : List Char} (h : parentChars cs = some ps) : ps.length < cs.length := by
  have hstart : (lead cs).length ≤ cs.length := by
    unfold lead
    split <;> simp
  have hidle := length_dropIdle_le (cs.drop (lead cs).length).reverse
  simp only [List.length_reverse, List.length_drop] at hidle
  unfold parentChars at h
  dsimp only at h
  split at h
  · split at h
    · next hdot =>
      cases h
      rw [hdot] at hstart
      exact hstart
    · cases h
  · next c back heq =>
    cases h
    rw [heq] at hidle
    have hlt := length_lastPiece_lt (List.cons_ne_nil c back)
    have hle := length_dropIdle_le (lastPiece (c :: back)).2
    simp only [List.length_append, List.length_reverse]
    omega

/-- The path without its last component; none for the root and for the empty path. --/
def parent (p : Path) : Option Path := (parentChars p.text.toList).map fun cs => ⟨String.ofList cs⟩

/-- The spelling and those of all its parents, the longest first. --/
def ancestorChars (cs : List Char) : List (List Char) :=
  match _ : parentChars cs with
  | none => [cs]
  | some ps => cs :: ancestorChars ps
termination_by cs.length
decreasing_by exact length_parentChars_lt ‹_›

/-- The path itself, its parent, and so on to the end. --/
def ancestors (p : Path) : List Path := (ancestorChars p.text.toList).map fun cs => ⟨String.ofList cs⟩

/-- The path beside `p` with another last component. --/
def withFileName (p : Path) (name : String) : Path :=
  match p.fileName, p.parent with
  | some _, some q => q.join name
  | _, _ => p.join name

end Path
end AnsibleStaging
