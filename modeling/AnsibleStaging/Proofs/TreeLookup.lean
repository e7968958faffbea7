import AnsibleStaging.FileSystem.MemTree

/-! What stands at a place after a call on the tree. A file that is written stands there as written, and what stands
    elsewhere stays: making directories adds what is missing and changes nothing that is there. -/

namespace AnsibleStaging

namespace Path
variable {p q r : Path}

theorem Same.refl (p : Path) : p.Same p := rfl

theorem Same.symm (h : p.Same q) : q.Same p := Eq.symm h

theorem Same.trans (h : p.Same q) (h' : q.Same r) : p.Same r := Eq.trans h h'

end Path

namespace MemTree

variable {t : MemTree} {p q : Path} {n : Node}

/-! ### Putting a node -/

theorem find?_put (p : Path) (n : Node) (l : List (Path × Node)) (c : List Component) :
    ((put p n l).find? fun e => decide (e.1.components = c)).map (·.2) =
      if p.components = c then some n else (l.find? fun e => decide (e.1.components = c)).map (·.2) := by
  induction l with
  | nil =>
    by_cases hc : p.components = c
    · simp [put, hc]
    · simp [put, hc]
  | cons e rest ih =>
    obtain ⟨r, m⟩ := e
    unfold put
    split
    · next hr =>
      -- The entry is there under another spelling.
      have same : p.components = r.components := hr
      by_cases hc : r.components = c
      · simp [hc, same]
      · simp [hc, same]
    · next hr =>
      split
      · by_cases hc : p.components = c
        · simp [hc]
        · simp [hc]
      · by_cases hc : r.components = c
        · have : ¬p.components = c := fun h => hr (h.trans hc.symm)
          simp [hc, this]
        · rw [List.find?_cons_of_neg (by simpa using hc), List.find?_cons_of_neg (by simpa using hc)]
          exact ih

theorem get?_insert (t : MemTree) (p : Path) (n : Node) (q : Path) :
    (t.insert p n).get? q = if p.Same q then some n else t.get? q := find?_put p n t.entries q.components

theorem get?_insert_same (h : p.Same q) : (t.insert p n).get? q = some n := by rw [get?_insert, if_pos h]

theorem get?_insert_of_not_same (h : ¬p.Same q) : (t.insert p n).get? q = t.get? q := by rw [get?_insert, if_neg h]

theorem get?_congr (h : p.Same q) : t.get? p = t.get? q := by
  have : (fun e : Path × Node => decide (e.1.Same p)) = fun e => decide (e.1.Same q) := by
    funext e
    exact decide_eq_decide.mpr ⟨fun he => he.trans h, fun he => he.trans h.symm⟩
  rw [get?, this, get?]

/-! ### Making directories -/

theorem get?_makeMissing {mode : FileMode} {ds : List Path} (h : t.get? q = some n) :
    (makeMissing mode ds t).2.get? q = some n := by
  induction ds generalizing t with
  | nil => exact h
  | cons d rest ih =>
    unfold makeMissing
    split
    · exact ih h
    · exact h
    · next hd =>
      refine ih ?_
      rw [get?_insert_of_not_same fun hs => ?_]
      · exact h
      · rw [get?_congr hs, h] at hd
        cases hd

theorem get?_makeDirs {mode : FileMode} (h : t.get? q = some n) : (makeDirs p mode t).2.get? q = some n :=
  get?_makeMissing h

theorem get?_createParents (h : t.get? q = some n) : (createParents p t).2.get? q = some n := by
  unfold createParents
  split
  · exact get?_makeDirs h
  · exact h

/-! ### Writing -/

/-- A write is refused where a directory stands or a parent cannot be made; otherwise it puts the file. --/
theorem write_cases (p : Path) (data : ByteArray) (mode : FileMode) (t : MemTree) :
    (∃ e, (write p data mode t).1 = .error e ∧
        ((write p data mode t).2 = t ∨ (write p data mode t).2 = (createParents p t).2)) ∨
      ((∀ m, t.get? p ≠ some (.dir m)) ∧ (createParents p t).1 = .ok () ∧
        write p data mode t = (.ok (), (createParents p t).2.insert p (.file data mode))) := by
  unfold write
  split
  · exact Or.inl ⟨_, rfl, Or.inl rfl⟩
  · next hdir =>
    cases hc : createParents p t with
    | mk r t' =>
      cases r with
      | ok => exact Or.inr ⟨fun m hm => hdir m hm, rfl, rfl⟩
      | error e => exact Or.inl ⟨e, rfl, Or.inr rfl⟩

theorem get?_write {data : ByteArray} {mode : FileMode} (h : (write p data mode t).1 = .ok ()) (hq : p.Same q) :
    (write p data mode t).2.get? q = some (.file data mode) := by
  rcases write_cases p data mode t with ⟨e, he, -⟩ | ⟨-, -, hw⟩
  · rw [h] at he
    cases he
  · rw [hw]
    exact get?_insert_same hq

/-- A write keeps what stands anywhere else, and what stands where it writes the same. --/
theorem get?_write_of_some {data : ByteArray} {mode : FileMode} (h : t.get? q = some n)
    (hq : p.Same q → n = .file data mode) : (write p data mode t).2.get? q = some n := by
  rcases write_cases p data mode t with ⟨e, -, hw | hw⟩ | ⟨-, -, hw⟩
  · rw [hw, h]
  · rw [hw, get?_createParents h]
  · rw [hw, get?_insert]
    split
    · next hs => rw [hq hs]
    · exact get?_createParents h

/-! ### Reading -/

theorem read_snd (p : Path) (t : MemTree) : (read p t).2 = t := by
  unfold read
  split <;> rfl

end MemTree
end AnsibleStaging
