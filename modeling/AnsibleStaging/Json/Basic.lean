import AnsibleStaging.Decimal.Shortest

/-! JSON values. An object is canonical when its names increase strictly, at every depth; `Json.sorted` brings
    any value into that form, and a later member of a name wins over an earlier one. -/

namespace AnsibleStaging

/-- A JSON number: a whole number of at most 64 bits, or a finite double. --/
inductive Number where
  | int (n : Int) (inRange : -9223372036854775808 ≤ n ∧ n < 18446744073709551616)
  | double (d : Double)
deriving DecidableEq

inductive Json where
  | null
  | bool (b : Bool)
  | num (n : Number)
  | str (s : String)
  | arr (items : List Json)
  | obj (fields : List (String × Json))

abbrev Fields := List (String × Json)

namespace Fields

/-- The value of the first member called `name`. --/
def get? (o : Fields) (name : String) : Option Json := (o.find? fun f => f.1 == name).map (·.2)

/-- Puts a member in its place by name, unless the name is taken. --/
def insertNew (name : String) (v : Json) : Fields → Fields
  | [] => [(name, v)]
  | (k, w) :: rest =>
    if name < k then (name, v) :: (k, w) :: rest
    else if name = k then (k, w) :: rest
    else (k, w) :: insertNew name v rest

/-- The names increase strictly. --/
def Increasing (o : Fields) : Prop := o.Pairwise fun a b => a.1 < b.1

instance (o : Fields) : Decidable (Increasing o) := inferInstanceAs (Decidable (List.Pairwise _ _))

theorem mem_insertNew {name : String} {v : Json} {o : Fields} {f : String × Json}
    (h : f ∈ insertNew name v o) : f = (name, v) ∨ f ∈ o := by
  induction o with
  | nil => simpa [insertNew] using h
  | cons g rest ih =>
    rw [insertNew] at h
    split at h
    · simpa using h
    · split at h
      · exact Or.inr h
      · rcases List.mem_cons.mp h with h | h
        · exact Or.inr (h ▸ List.mem_cons_self)
        · exact (ih h).imp_right (List.mem_cons_of_mem _)

theorem increasing_insertNew {name : String} {v : Json} {o : Fields} (h : Increasing o) :
    Increasing (insertNew name v o) := by
  induction o with
  | nil => simp [insertNew, Increasing]
  | cons g rest ih =>
    have hrest : Increasing rest := (List.pairwise_cons.mp h).2
    have hg := (List.pairwise_cons.mp h).1
    rw [insertNew]
    split
    · next hlt =>
      refine List.pairwise_cons.mpr ⟨fun f hf => ?_, h⟩
      rcases List.mem_cons.mp hf with rfl | hf
      · exact hlt
      · exact String.lt_trans hlt (hg f hf)
    · next hlt =>
      split
      · exact h
      · next hne =>
        refine List.pairwise_cons.mpr ⟨fun f hf => ?_, ih hrest⟩
        rcases mem_insertNew hf with rfl | hf
        · exact Std.lt_of_le_of_ne (String.not_lt.mp hlt) (Ne.symm hne)
        · exact hg f hf

end Fields

namespace Json

mutual

/-- Every object of the value lists its members in strictly increasing order. --/
def Canonical : Json → Prop
  | .arr items => CanonicalItems items
  | .obj fields => Fields.Increasing fields ∧ CanonicalFields fields
  | _ => True

def CanonicalItems : List Json → Prop
  | [] => True
  | v :: rest => Canonical v ∧ CanonicalItems rest

def CanonicalFields : List (String × Json) → Prop
  | [] => True
  | (_, v) :: rest => Canonical v ∧ CanonicalFields rest

end

mutual

/-- The value with the members of its objects in order. --/
def sorted : Json → Json
  | .arr items => .arr (sortedItems items)
  | .obj fields => .obj (sortedFields fields)
  | v => v

def sortedItems : List Json → List Json
  | [] => []
  | v :: rest => sorted v :: sortedItems rest

def sortedFields : List (String × Json) → List (String × Json)
  | [] => []
  | (k, v) :: rest => Fields.insertNew k (sorted v) (sortedFields rest)

end

theorem canonicalFields_insertNew {k : String} {v : Json} {o : Fields} (hv : Canonical v)
    (ho : CanonicalFields o) : CanonicalFields (Fields.insertNew k v o) := by
  induction o with
  | nil => exact ⟨hv, trivial⟩
  | cons g rest ih =>
    obtain ⟨j, w⟩ := g
    rw [Fields.insertNew]
    split
    · exact ⟨hv, ho⟩
    · split
      · exact ho
      · exact ⟨ho.1, ih ho.2⟩

mutual

theorem canonical_sorted : ∀ v : Json, Canonical (sorted v)
  | .null => trivial
  | .bool _ => trivial
  | .num _ => trivial
  | .str _ => trivial
  | .arr items => canonical_sortedItems items
  | .obj fields => canonical_sortedFields fields

theorem canonical_sortedItems : ∀ l : List Json, CanonicalItems (sortedItems l)
  | [] => trivial
  | v :: rest => ⟨canonical_sorted v, canonical_sortedItems rest⟩

theorem canonical_sortedFields :
    ∀ l : List (String × Json), Fields.Increasing (sortedFields l) ∧ CanonicalFields (sortedFields l)
  | [] => ⟨List.Pairwise.nil, trivial⟩
  | (_, v) :: rest =>
    have h := canonical_sortedFields rest
    ⟨Fields.increasing_insertNew h.1, canonicalFields_insertNew (canonical_sorted v) h.2⟩

end

end Json

structure Vars where
  fields : Fields
  increasing : fields.Increasing
  canonical : Json.CanonicalFields fields

namespace Vars

def empty : Vars := ⟨[], List.Pairwise.nil, trivial⟩

instance : Inhabited Vars := ⟨empty⟩

def isEmpty (v : Vars) : Bool := v.fields.isEmpty

/-- The members of an object, brought into order. --/
def ofFields (o : Fields) : Vars :=
  ⟨Json.sortedFields o, (Json.canonical_sortedFields o).1, (Json.canonical_sortedFields o).2⟩

def toJson (v : Vars) : Json := .obj v.fields

end Vars
end AnsibleStaging
