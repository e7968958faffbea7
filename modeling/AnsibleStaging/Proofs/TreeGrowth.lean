import AnsibleStaging.Proofs.PathAncestors
import AnsibleStaging.Proofs.TreeOrder

/-! How a tree grows. Calls add directories and replace files: what was a directory stays one, and so does a file. So a
    call that succeeds on a tree has succeeded on every tree before it, and once it has succeeded it only puts its
    file again. -/

namespace AnsibleStaging

namespace Path

/-- The directories that are made for a directory, the outermost first. --/
def dirs (p : Path) : List Path := (p.ancestors.filter fun a => !a.isEmpty).reverse

/-- The directories that are made for a file. --/
def parentDirs (p : Path) : List Path := p.parent.elim [] dirs

/-- No file stands where a directory is made for it. --/
theorem not_same_of_mem_parentDirs {p d : Path} (h : d ∈ p.parentDirs) : ¬d.Same p := by
  unfold parentDirs at h
  cases hp : p.parent with
  | none =>
    rw [hp] at h
    cases h
  | some q =>
    rw [hp] at h
    obtain ⟨c, hc⟩ := components_of_parent hp
    have hd : d.components ∈ q.dirs.map components := List.mem_map_of_mem h
    rw [dirs, components_ancestors] at hd
    have hle := ((List.mem_inits _ _).mp (List.mem_of_mem_tail hd)).length_le
    intro hs
    rw [show d.components = p.components from hs, hc, List.length_append, List.length_singleton] at hle
    omega

end Path

namespace MemTree
variable {t t' u : MemTree} {p q : Path} {n : Node} {mode : FileMode} {ds : List Path} {data : ByteArray}

/-- Whether it is a directory that stands at a path; none where nothing stands. --/
def kind (t : MemTree) (q : Path) : Option Bool := (t.get? q).map Node.isDir

theorem kind_congr (h : p.Same q) : t.kind p = t.kind q := by rw [kind, get?_congr h, kind]

theorem kind_insert (t : MemTree) (p : Path) (n : Node) (q : Path) :
    (t.insert p n).kind q = if p.Same q then some n.isDir else t.kind q := by
  unfold kind
  rw [get?_insert]
  split <;> rfl

theorem kind_eq_true : t.kind q = some true ↔ ∃ m, t.get? q = some (.dir m) := by
  unfold kind
  rcases t.get? q with _ | (m | ⟨d, m⟩) <;> simp [Node.isDir]

theorem kind_eq_false : t.kind q = some false ↔ ∃ d m, t.get? q = some (.file d m) := by
  unfold kind
  rcases t.get? q with _ | (m | ⟨d, m⟩) <;> simp [Node.isDir]

/-- `t'` is what `t` may become: everything is of the kind that it was, and at `kept` paths the bytes are the same. --/
structure Grows (kept : Path → Prop) (t t' : MemTree) : Prop where
  kinds : ∀ q b, t.kind q = some b → t'.kind q = some b
  contents : ∀ q, kept q → t'.contents q = t.contents q

variable {kept : Path → Prop}

theorem Grows.refl (t : MemTree) : Grows kept t t := ⟨fun _ _ h => h, fun _ _ => rfl⟩

theorem Grows.trans (h : Grows kept t u) (h' : Grows kept u t') : Grows kept t t' where
  kinds q b hq := h'.kinds q b (h.kinds q b hq)
  contents q hq := (h'.contents q hq).trans (h.contents q hq)

/-! ### Making directories -/

theorem createParents_eq (p : Path) : createParents p = makeMissing .privateDirectory p.parentDirs := by
  funext t
  unfold createParents Path.parentDirs
  cases p.parent <;> rfl

theorem contents_insert_dir (h : t.get? p = none) : (t.insert p (.dir mode)).contents q = t.contents q := by
  unfold contents
  rw [get?_insert]
  split
  · next hs =>
    rw [← get?_congr hs, h]
    rfl
  · rfl

theorem grows_makeMissing (mode : FileMode) (ds : List Path) (t : MemTree) :
    Grows kept t (makeMissing mode ds t).2 where
  kinds q b h := by
    obtain ⟨n, hn, rfl⟩ := Option.map_eq_some_iff.mp h
    rw [kind, get?_makeMissing hn]
    rfl
  contents q _ := by
    induction ds generalizing t with
    | nil => rfl
    | cons d rest ih =>
      unfold makeMissing
      split
      · exact ih t
      · rfl
      · next hd => rw [ih, contents_insert_dir hd]

/-- Directories are not made only if a file stands in the way. --/
theorem file_of_makeMissing_error {e : IoError} (h : (makeMissing mode ds t).1 = .error e) :
    ∃ d ∈ ds, t.kind d = some false := by
  induction ds generalizing t with
  | nil => cases h
  | cons d rest ih =>
    unfold makeMissing at h
    split at h
    · obtain ⟨d', hd', hk⟩ := ih h
      exact ⟨d', List.mem_cons_of_mem _ hd', hk⟩
    · next hd => exact ⟨d, List.mem_cons_self, kind_eq_false.mpr ⟨_, _, hd⟩⟩
    · obtain ⟨d', hd', hk⟩ := ih h
      rw [kind_insert] at hk
      split at hk
      · cases hk
      · exact ⟨d', List.mem_cons_of_mem _ hd', hk⟩

/-- Making directories leaves a directory at each of them and nothing new anywhere else. --/
theorem kind_makeMissing (h : (makeMissing mode ds t).1 = .ok ()) (q : Path) :
    (makeMissing mode ds t).2.kind q = if ∃ d ∈ ds, d.Same q then some true else t.kind q := by
  induction ds generalizing t with
  | nil => simp [makeMissing]
  | cons d rest ih =>
    have hcons : (∃ x ∈ d :: rest, x.Same q) ↔ d.Same q ∨ ∃ x ∈ rest, x.Same q := by simp
    unfold makeMissing at h ⊢
    split at h
    · next m hd =>
      simp only [ih h, hcons]
      by_cases hs : d.Same q
      · simp only [hs, true_or, ← kind_congr hs, kind_eq_true.mpr ⟨m, hd⟩, ite_self]
      · simp only [hs, false_or]
    · cases h
    · simp only [ih h, hcons, kind_insert]
      by_cases hs : d.Same q
      · simp only [hs, true_or, if_true, Node.isDir, ite_self]
      · simp only [hs, false_or, if_false]

theorem kind_makeDirs (h : (makeDirs p mode t).1 = .ok ()) (q : Path) :
    (makeDirs p mode t).2.kind q = if ∃ d ∈ p.dirs, d.Same q then some true else t.kind q := kind_makeMissing h q

theorem makeMissing_of_kind (h : ∀ d ∈ ds, t.kind d = some true) : makeMissing mode ds t = (.ok (), t) := by
  induction ds with
  | nil => rfl
  | cons d rest ih =>
    obtain ⟨m, hm⟩ := kind_eq_true.mp (h d List.mem_cons_self)
    unfold makeMissing
    rw [hm]
    exact ih fun d' hd' => h d' (List.mem_cons_of_mem _ hd')

/-- Directories that can be made in a tree could be made before. --/
theorem Grows.makeMissing_ok (g : Grows kept t t') (h : (makeMissing mode ds t').1 = .ok ()) :
    (makeMissing mode ds t).1 = .ok () := by
  cases hr : (makeMissing mode ds t).1 with
  | ok => rfl
  | error e =>
    obtain ⟨d, hd, hk⟩ := file_of_makeMissing_error hr
    have hmade : Grows kept t' (MemTree.makeMissing mode ds t').2 := grows_makeMissing mode ds t'
    have hk' := hmade.kinds d false (g.kinds d false hk)
    rw [kind_makeMissing h, if_pos ⟨d, hd, Path.Same.refl d⟩] at hk'
    cases hk'

/-! ### Writing -/

theorem write_ok_iff : (write p data mode t).1 = .ok () ↔
    t.kind p ≠ some true ∧ (makeMissing .privateDirectory p.parentDirs t).1 = .ok () := by
  rw [← createParents_eq, ne_eq, kind_eq_true]
  unfold write
  split
  · next m hm => simp [hm]
  · next hdir =>
    have hnot : ¬∃ m, t.get? p = some (.dir m) := fun ⟨m, hm⟩ => hdir m hm
    split
    · next hc => simp [hc, hnot]
    · next hc => simp [hc]

theorem write_of_ok (h : (write p data mode t).1 = .ok ()) :
    write p data mode t = (.ok (), (makeMissing .privateDirectory p.parentDirs t).2.insert p (.file data mode)) := by
  rcases write_cases p data mode t with ⟨e, he, -⟩ | ⟨-, -, hw⟩
  · rw [h] at he
    cases he
  · rw [hw, createParents_eq]

theorem kind_write (h : (write p data mode t).1 = .ok ()) (q : Path) : (write p data mode t).2.kind q =
    if p.Same q then some false else if ∃ d ∈ p.parentDirs, d.Same q then some true else t.kind q := by
  rw [write_of_ok h, kind_insert, kind_makeMissing (write_ok_iff.mp h).2]
  rfl

theorem Grows.write_ok (g : Grows kept t t') (h : (write p data mode t').1 = .ok ()) :
    (write p data mode t).1 = .ok () := by
  obtain ⟨hp, hd⟩ := write_ok_iff.mp h
  exact write_ok_iff.mpr ⟨fun hk => hp (g.kinds p true hk), g.makeMissing_ok hd⟩

theorem grows_write (data : ByteArray) (mode : FileMode) (t : MemTree) (hp : ∀ q, kept q → ¬p.Same q) :
    Grows kept t (write p data mode t).2 := by
  rcases write_cases p data mode t with ⟨e, -, hw | hw⟩ | ⟨hdir, -, hw⟩
  · rw [hw]
    exact .refl t
  · rw [hw, createParents_eq]
    exact grows_makeMissing _ _ _
  · rw [hw, createParents_eq]
    have g : Grows kept t _ := grows_makeMissing .privateDirectory p.parentDirs t
    refine ⟨fun q b hq => ?_, fun q hq => ?_⟩
    · rw [kind_insert]
      split
      · next hs =>
        -- What stood there was no directory.
        cases b with
        | false => rfl
        | true =>
          obtain ⟨m, hm⟩ := kind_eq_true.mp ((kind_congr hs).trans hq)
          exact absurd hm (hdir m)
      · exact g.kinds q b hq
    · rw [contents, get?_insert_of_not_same (hp q hq)]
      exact g.contents q hq

/-- Where its directories and a file stand, a write only replaces the file. --/
theorem write_of_kind (hd : ∀ d ∈ p.parentDirs, t.kind d = some true) (hp : t.kind p = some false) :
    write p data mode t = (.ok (), t.insert p (.file data mode)) := by
  have hmade : makeMissing .privateDirectory p.parentDirs t = (.ok (), t) := makeMissing_of_kind hd
  rw [write_of_ok (write_ok_iff.mpr ⟨by simp [hp], congrArg Prod.fst hmade⟩), hmade]

end MemTree
end AnsibleStaging
