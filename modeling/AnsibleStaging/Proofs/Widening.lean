import AnsibleStaging.Json.Decode
import Mathlib.Data.Option.Basic

/-! Written values with members that no reader knows. A layout says which parts of a value are records and how their
    members are called; a value is widened by adding members with other names to its records, at any depth. A record is
    written with its members in order, so what a reader finds under a name is what was written there last, and a reader
    of a record finds the same under each of its names after the value was widened. -/

namespace AnsibleStaging

/-- How a value is made: what is plain is one whole. --/
inductive Layout where
  | plain
  | list (item : Layout)
  | record (members : List (String × Layout))

mutual

/-- The second value is the first one with members added to its records, whose names the records do not have. --/
inductive Widens : Layout → Json → Json → Prop
  | same (l : Layout) (v : Json) : Widens l v v
  | list {item : Layout} {vs ws : List Json} (items : ItemsWiden item vs ws) : Widens (.list item) (.arr vs) (.arr ws)
  | record {members : List (String × Layout)} {o o' : Fields} (fields : MembersWiden members o o') :
      Widens (.record members) (.obj o) (.obj o')

inductive ItemsWiden : Layout → List Json → List Json → Prop
  | nil (item : Layout) : ItemsWiden item [] []
  | cons {item : Layout} {v w : Json} {vs ws : List Json} (first : Widens item v w) (rest : ItemsWiden item vs ws) :
      ItemsWiden item (v :: vs) (w :: ws)

inductive MembersWiden : List (String × Layout) → Fields → Fields → Prop
  | nil (members : List (String × Layout)) : MembersWiden members [] []
  | keep {members : List (String × Layout)} {name : String} {l : Layout} {v w : Json} {o o' : Fields}
      (known : members.lookup name = some l) (value : Widens l v w) (rest : MembersWiden members o o') :
      MembersWiden members ((name, v) :: o) ((name, w) :: o')
  | add {members : List (String × Layout)} {name : String} (v : Json) {o o' : Fields}
      (unknown : members.lookup name = none) (rest : MembersWiden members o o') :
      MembersWiden members o ((name, v) :: o')

end

/-! ### Members -/

namespace Fields

theorem get?_nil (name : String) : get? [] name = none := rfl

theorem get?_cons (k : String) (v : Json) (o : Fields) (name : String) :
    get? ((k, v) :: o) name = if k = name then some v else get? o name := by
  unfold get?
  rw [List.find?_cons]
  by_cases h : k = name
  · rw [if_pos h, beq_iff_eq.mpr h]
    rfl
  · rw [if_neg h, beq_eq_false_iff_ne.mpr h]

/-- A record of these members, in order. --/
def gathered (fields : Fields) : Fields := fields.foldr (fun f o => insertNew f.1 f.2 o) []

theorem increasing_gathered (fields : Fields) : (gathered fields).Increasing := by
  induction fields with
  | nil => exact List.Pairwise.nil
  | cons f rest ih => exact increasing_insertNew ih

theorem get?_of_lt {name : String} {o : Fields} (h : ∀ f ∈ o, name < f.1) : o.get? name = none := by
  unfold get?
  rw [List.find?_eq_none.mpr fun f hf heq => String.lt_irrefl name (by simpa [beq_iff_eq.mp heq] using h f hf)]
  rfl

theorem get?_insertNew {o : Fields} (ho : o.Increasing) (k : String) (v : Json) (name : String) :
    (insertNew k v o).get? name = (o.get? name).or (if k = name then some v else none) := by
  induction o with
  | nil => rw [insertNew, get?_cons, get?_nil, Option.none_or]
  | cons f rest ih =>
    obtain ⟨j, w⟩ := f
    obtain ⟨hfirst, hrest⟩ := List.pairwise_cons.mp ho
    rw [insertNew]
    split
    · next hlt =>
      rw [get?_cons]
      by_cases hk : k = name
      · subst hk
        have habsent : get? ((j, w) :: rest) k = none := get?_of_lt (List.forall_mem_cons.mpr
          ⟨hlt, fun f hf => String.lt_trans hlt (hfirst f hf)⟩)
        rw [habsent, if_pos rfl, Option.none_or]
      · rw [if_neg hk, if_neg hk, Option.or_none]
    · split
      · next heq =>
        subst heq
        rw [get?_cons]
        by_cases hk : k = name
        · rw [if_pos hk, Option.some_or]
        · rw [if_neg hk, if_neg hk, Option.or_none]
      · rw [get?_cons, get?_cons, ih hrest]
        by_cases hj : j = name
        · rw [if_pos hj, if_pos hj, Option.some_or]
        · rw [if_neg hj, if_neg hj]

/-- What a record of these members has under a name. --/
def value (fields : Fields) (name : String) : Option Json := (gathered fields).get? name

@[simp]
theorem value_nil (name : String) : value [] name = none := rfl

@[simp]
theorem value_cons (k : String) (v : Json) (fields : Fields) (name : String) :
    value ((k, v) :: fields) name = (value fields name).or (if k = name then some v else none) :=
  get?_insertNew (increasing_gathered fields) k v name

@[simp]
theorem value_append (a b : Fields) (name : String) : value (a ++ b) name = (value b name).or (value a name) := by
  induction a with
  | nil => rw [List.nil_append, value_nil, Option.or_none]
  | cons f rest ih => rw [List.cons_append, value_cons, value_cons, ih, Option.or_assoc]

@[simp]
theorem value_optional {α : Type} (k : String) (write : α → Json) (x : Option α) (name : String) :
    value (Encode.optional k write x) name = if k = name then x.map write else none := by
  cases x with
  | none => simp [Encode.optional]
  | some a => simp [Encode.optional]

@[simp]
theorem value_omitted (p : Prop) [Decidable p] (k : String) (v : Json) (name : String) :
    value (if p then [] else [(k, v)]) name = if k = name then (if p then none else some v) else none := by
  by_cases hp : p <;> simp [hp]

end Fields

open Fields

/-! ### Widened values -/

/-- Under each name of the record, the second one has what the first one has, widened. --/
def Shows (members : List (String × Layout)) (o o' : Fields) : Prop :=
  ∀ name l, members.lookup name = some l → Option.Rel (Widens l) (o.get? name) (o'.get? name)

theorem rel_same (l : Layout) (x : Option Json) : Option.Rel (Widens l) x x := by
  cases x with
  | none => exact .none
  | some v => exact .some (.same l v)

theorem MembersWiden.shows {members : List (String × Layout)} {o o' : Fields} :
    MembersWiden members o o' → Shows members o o'
  | .nil _ => fun name l _ => .none
  | @MembersWiden.keep _ k _ _ _ _ _ known value rest => fun name l hl => by
    rw [get?_cons, get?_cons]
    by_cases hk : k = name
    · subst hk
      rw [known] at hl
      cases hl
      rw [if_pos rfl, if_pos rfl]
      exact .some value
    · rw [if_neg hk, if_neg hk]
      exact rest.shows name l hl
  | @MembersWiden.add _ k _ _ _ unknown rest => fun name l hl => by
    have hk : k ≠ name := by
      rintro rfl
      rw [unknown] at hl
      cases hl
    rw [get?_cons, if_neg hk]
    exact rest.shows name l hl

theorem ItemsWiden.refl (item : Layout) (vs : List Json) : ItemsWiden item vs vs := by
  induction vs with
  | nil => exact .nil item
  | cons v rest ih => exact .cons (.same item v) ih

namespace Widens
variable {members : List (String × Layout)} {item l : Layout} {v w : Json}

theorem eq_of_plain (h : Widens .plain v w) : w = v := by
  cases h
  rfl

theorem object {fields : Fields} (h : Widens (.record members) (Encode.object fields) w) :
    ∃ o, w = .obj o ∧ Shows members (gathered fields) o := by
  cases h with
  | same => exact ⟨gathered fields, rfl, fun name l _ => rel_same l _⟩
  | record hfields => exact ⟨_, rfl, hfields.shows⟩

theorem array {vs : List Json} (h : Widens (.list item) (.arr vs) w) :
    ∃ ws, w = .arr ws ∧ ItemsWiden item vs ws := by
  cases h with
  | same => exact ⟨vs, rfl, .refl item vs⟩
  | list items => exact ⟨_, rfl, items⟩

theorem ne_null (h : Widens l v w) (hv : v ≠ .null) : w ≠ .null := by
  cases h with
  | same => exact hv
  | list => exact nofun
  | record => exact nofun

end Widens

/-! ### Readers -/

section
variable {α β : Type} {l : Layout} {read : Decoder α} {write : α → Json} {o : Fields} {name : String}

/-- From what was written, widened or not, what was written is read. --/
def Undoes (l : Layout) (read : Decoder α) (write : α → Json) : Prop := ∀ a w, Widens l (write a) w → read w = .ok a

theorem undoes_plain (h : ∀ a, read (write a) = .ok a) : Undoes .plain read write := by
  intro a w hw
  rw [hw.eq_of_plain]
  exact h a

theorem undoes_text : Undoes .plain Decode.text .str := undoes_plain fun _ => rfl

theorem undoes_pathText : Undoes .plain Decode.pathText .str := undoes_plain fun _ => rfl

theorem undoes_flag : Undoes .plain Decode.flag .bool := undoes_plain fun _ => rfl

theorem undoes_list (h : Undoes l read write) :
    Undoes (.list l) (Decode.list read) fun as => .arr (as.map write) := by
  intro as w hw
  obtain ⟨ws, rfl, hitems⟩ := hw.array
  change ws.mapM read = .ok as
  clear hw
  induction as generalizing ws with
  | nil =>
    cases hitems
    rfl
  | cons a rest ih =>
    cases hitems with
    | cons first hrest =>
      rw [List.mapM_cons, h a _ first, ih _ hrest]
      rfl

theorem undoes_nullable (h : Undoes l read write) (hne : ∀ a, write a ≠ .null) :
    Undoes l (Decode.nullable read) fun x => x.elim .null write := by
  intro x w hw
  cases x with
  | none =>
    cases hw
    rfl
  | some a =>
    have hnull : w ≠ .null := hw.ne_null (hne a)
    rw [Decode.nullable, h a w hw]
    · rfl
    · exact hnull

theorem field?_of_rel (h : Undoes l read write) {x : Option α}
    (hrel : Option.Rel (Widens l) (x.map write) (o.get? name)) : Decode.field? o name read = .ok x := by
  unfold Decode.field?
  cases x with
  | none =>
    cases hfound : o.get? name with
    | none => rfl
    | some w =>
      rw [hfound] at hrel
      cases hrel
  | some a =>
    cases hfound : o.get? name with
    | none =>
      rw [hfound] at hrel
      cases hrel
    | some w =>
      rw [hfound] at hrel
      cases hrel with
      | some hw =>
        dsimp only
        rw [h a w hw]
        rfl

theorem field_of_rel (h : Undoes l read write) {x : Option α} (default : α)
    (hrel : Option.Rel (Widens l) (x.map write) (o.get? name)) :
    Decode.field o name read default = .ok (x.getD default) := by
  rw [Decode.field, field?_of_rel h hrel]
  rfl

theorem field_optional (h : Undoes l read write) (hne : ∀ a, write a ≠ .null) {x : Option α}
    (hrel : Option.Rel (Widens l) (x.map write) (o.get? name)) : Decode.field o name (Decode.nullable read) none = .ok x := by
  have hfield : Decode.field o name (Decode.nullable read) none = .ok ((x.map some).getD none) := by
    refine field_of_rel (undoes_nullable h hne) none ?_
    rw [Option.map_map]
    exact hrel
  rw [hfield]
  cases x <;> rfl

/-! ### Members of a written record -/

namespace Shows
variable {members : List (String × Layout)} {fields : Fields} (shown : Shows members (gathered fields) o)
include shown

theorem written (name : String) {x : Option Json} (hl : members.lookup name = some l) (hx : fields.value name = x) :
    Option.Rel (Widens l) x (o.get? name) := hx ▸ shown name l hl

theorem field (h : Undoes l read write) (name : String) (hl : members.lookup name = some l) {a default : α}
    (ha : fields.value name = some (write a)) : Decode.field o name read default = .ok a := by
  have hrel : Option.Rel (Widens l) ((some a).map write) (o.get? name) := shown.written name hl ha
  exact field_of_rel h default hrel

theorem required (h : Undoes l read write) (name : String) (hl : members.lookup name = some l) {a : α}
    (ha : fields.value name = some (write a)) : Decode.field? o name read = .ok (some a) := by
  have hrel : Option.Rel (Widens l) ((some a).map write) (o.get? name) := shown.written name hl ha
  exact field?_of_rel h hrel

theorem optional (h : Undoes l read write) (hne : ∀ a, write a ≠ .null) (name : String)
    (hl : members.lookup name = some l) {x : Option α} (hx : fields.value name = x.map write) :
    Decode.field o name (Decode.nullable read) none = .ok x := field_optional h hne (shown.written name hl hx)

/-- A member that is written only if it says more than its default. --/
theorem omitted (h : Undoes l read write) (name : String) (hl : members.lookup name = some l) {a default : α} {p : Prop}
    [Decidable p] (hp : p → a = default) (ha : fields.value name = if p then none else some (write a)) :
    Decode.field o name read default = .ok a := by
  split at ha
  · next hempty =>
    have hrel : Option.Rel (Widens l) ((none : Option α).map write) (o.get? name) := shown.written name hl ha
    rw [field_of_rel h default hrel, hp hempty]
    rfl
  · exact shown.field h name hl ha

end Shows

end

end AnsibleStaging
