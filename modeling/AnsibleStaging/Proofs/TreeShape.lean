import AnsibleStaging.Proofs.TreeGrowth

/-! The shape of a tree. Every place stands once, and whatever a stored path goes through stands as a directory. Both
    calls keep this shape, and the shape makes their failures harmless: above a file there are only directories, so
    when a call comes to a file that is in its way, it has made nothing yet. -/

namespace AnsibleStaging

/-! ### Places on the way -/

theorem mem_tail_inits {α : Type} {l m : List α} : m ∈ l.inits.tail ↔ m ≠ [] ∧ m <+: l := by
  cases l with
  | nil => simp
  | cons a l =>
    simp only [List.inits_cons, List.tail_cons, List.mem_map, List.mem_inits]
    constructor
    · rintro ⟨k, hk, rfl⟩
      exact ⟨List.cons_ne_nil a k, (List.prefix_cons_inj a).mpr hk⟩
    · rintro ⟨hne, hm⟩
      obtain ⟨b, k, rfl⟩ := List.exists_cons_of_ne_nil hne
      obtain ⟨rfl, hk⟩ := List.cons_prefix_cons.mp hm
      exact ⟨k, hk, rfl⟩

/-- Of two beginnings the one that stands first is the shorter one. --/
theorem pairwise_inits {α : Type} (l : List α) : l.inits.Pairwise fun a b => a <+: b ∧ a ≠ b := by
  induction l with
  | nil => exact List.pairwise_singleton _ _
  | cons a l ih =>
    rw [List.inits_cons, List.pairwise_cons]
    refine ⟨fun m hm => ⟨List.nil_prefix, ?_⟩, List.pairwise_map.mpr (ih.imp ?_)⟩
    · obtain ⟨k, -, rfl⟩ := List.mem_map.mp hm
      exact (List.cons_ne_nil a k).symm
    · rintro k k' ⟨hpre, hne⟩
      exact ⟨(List.prefix_cons_inj a).mpr hpre, fun h => hne (List.cons.inj h).2⟩

namespace Path
variable {p q d : Path}

/-- `p` goes through `d` and on: `d` is one of its proper ancestors, and not the empty path. --/
structure Above (d p : Path) : Prop where
  ne_nil : d.components ≠ []
  begins : d.components <+: p.components
  not_same : ¬d.Same p

theorem Above.not_above (h : d.Above p) : ¬p.Above d := fun h' =>
  h.not_same (h.begins.eq_of_length_le h'.begins.length_le)

theorem Above.trans (h : d.Above q) (h' : q.Above p) : d.Above p where
  ne_nil := h.ne_nil
  begins := h.begins.trans h'.begins
  not_same hs := h.not_above ⟨h'.ne_nil, (show d.components = p.components from hs) ▸ h'.begins, fun hq => h.not_same hq.symm⟩

theorem Above.congr {d' p' : Path} (h : d.Above p) (hd : d.Same d') (hp : p.Same p') : d'.Above p' := by
  obtain ⟨hne, hpre, hs⟩ := h
  exact ⟨fun hnil => hne (Eq.trans hd hnil), (show d'.components <+: p'.components from hd ▸ hp ▸ hpre),
    fun hs' => hs (Eq.trans hd (Eq.trans hs' (Eq.symm hp)))⟩

/-- The directories that are made for a directory are all that its path goes through, and itself. --/
theorem exists_mem_dirs_iff : (∃ d ∈ p.dirs, d.Same q) ↔ q.components ≠ [] ∧ q.components <+: p.components := by
  rw [← mem_tail_inits, ← components_ancestors, ← dirs, List.mem_map]
  rfl

theorem pairwise_dirs (p : Path) : p.dirs.Pairwise Above := by
  have h : (p.dirs.map components).Pairwise fun a b => a <+: b ∧ a ≠ b := by
    rw [dirs, components_ancestors]
    exact (pairwise_inits _).tail
  refine (List.pairwise_map.mp h).imp_of_mem ?_
  rintro a b ha - ⟨hpre, hne⟩
  exact ⟨(exists_mem_dirs_iff.mp ⟨a, ha, Same.refl a⟩).1, hpre, hne⟩

theorem exists_mem_parentDirs_iff : (∃ d ∈ p.parentDirs, d.Same q) ↔ q.Above p := by
  unfold parentDirs
  cases hp : p.parent with
  | none =>
    -- Only the empty path and the root have no parent.
    have hshort : p.components = [] ∨ p.components = [.root] := by
      rw [components_eq_spelled]
      exact spelled_of_parentChars_eq_none (Option.map_eq_none_iff.mp hp)
    refine ⟨fun ⟨_, hd, _⟩ => (List.not_mem_nil hd).elim, fun h => ?_⟩
    obtain ⟨hne, hpre, hs⟩ := h
    rcases hshort with h | h <;> rw [h] at hpre
    · exact absurd (List.prefix_nil.mp hpre) hne
    · refine absurd (hpre.eq_of_length_le ?_) (h ▸ hs)
      rw [List.length_singleton]
      exact List.length_pos_iff.mpr hne
  | some parent =>
    obtain ⟨c, hc⟩ := components_of_parent hp
    rw [Option.elim_some, exists_mem_dirs_iff]
    constructor
    · rintro ⟨hne, hpre⟩
      refine ⟨hne, hc ▸ hpre.trans (List.prefix_append _ _), fun hs => ?_⟩
      have hlen := hpre.length_le
      rw [show q.components = p.components from hs, hc, List.length_append, List.length_singleton] at hlen
      omega
    · rintro ⟨hne, hpre, hs⟩
      rw [hc] at hpre
      exact ⟨hne, (List.prefix_concat_iff.mp hpre).resolve_left fun h => hs (h.trans hc.symm)⟩

end Path

namespace MemTree
variable {t : MemTree} {p q d : Path} {mode : FileMode} {ds : List Path} {data : ByteArray} {e : IoError}

/-! ### Trees -/

/-- Whatever a path goes through stands as a directory, if anything stands at the path. --/
def Closed (t : MemTree) : Prop := ∀ d q, d.Above q → t.kind q ≠ none → t.kind d = some true

/-- Every place stands once, and every stored path stands in stored directories. --/
structure IsTree (t : MemTree) : Prop where
  distinct : t.entries.Pairwise fun a b => ¬a.1.Same b.1
  parents : ∀ a ∈ t.entries, ∀ d, d.Above a.1 → t.isDir d = true

theorem kind_ne_none_of_mem {a : Path × Node} (h : a ∈ t.entries) : t.kind a.1 ≠ none := by
  simp only [kind, get?, ne_eq, Option.map_eq_none_iff, List.find?_eq_none, decide_eq_true_eq, not_forall]
  exact ⟨a, h, fun hs => hs (Path.Same.refl a.1)⟩

theorem isDir_eq_true_iff : t.isDir q = true ↔ t.kind q = some true := by
  unfold isDir kind
  cases t.get? q <;> simp

theorem Ordered.isTree (ho : t.Ordered) (hc : t.Closed) : t.IsTree where
  distinct := List.Pairwise.imp Path.not_same_of_lt ho
  parents a ha d hd := isDir_eq_true_iff.mpr (hc d a.1 hd (kind_ne_none_of_mem ha))

/-! ### Making directories -/

/-- Directories are made up to the first one where a file stands. --/
theorem makeMissing_error_cases (h : (makeMissing mode ds t).1 = .error e) : ∃ before d after, ds = before ++ d :: after ∧
    t.kind d = some false ∧ (makeMissing mode ds t).2 = (makeMissing mode before t).2 := by
  induction ds generalizing t with
  | nil => cases h
  | cons d rest ih =>
    unfold makeMissing at h ⊢
    split at h
    · next m hd =>
      obtain ⟨before, x, after, rfl, hx, ht⟩ := ih h
      exact ⟨d :: before, x, after, rfl, hx, by simp only [ht, hd]⟩
    · next hd => exact ⟨[], d, rest, rfl, kind_eq_false.mpr ⟨_, _, hd⟩, rfl⟩
    · next hd =>
      obtain ⟨before, x, after, rfl, hx, ht⟩ := ih h
      rw [kind_insert] at hx
      split at hx
      · cases hx
      · exact ⟨d :: before, x, after, rfl, hx, by simp only [ht, hd]⟩

/-- Above a file there are only directories: nothing was missing before it. --/
theorem Closed.makeMissing_error (hc : t.Closed) (hds : ds.Pairwise Path.Above)
    (h : (makeMissing mode ds t).1 = .error e) : (makeMissing mode ds t).2 = t := by
  obtain ⟨before, d, after, rfl, hd, ht⟩ := makeMissing_error_cases h
  have above : ∀ x ∈ before, x.Above d := fun x hx =>
    (List.pairwise_append.mp hds).2.2 x hx d List.mem_cons_self
  have made : makeMissing mode before t = (.ok (), t) :=
    makeMissing_of_kind fun x hx => hc x d (above x hx) (by simp [hd])
  rw [ht, made]

theorem pairwise_parentDirs (p : Path) : p.parentDirs.Pairwise Path.Above := by
  unfold Path.parentDirs
  cases p.parent with
  | none => exact List.Pairwise.nil
  | some q => exact q.pairwise_dirs

theorem Closed.makeDirs_error (hc : t.Closed) (h : (makeDirs p mode t).1 = .error e) : (makeDirs p mode t).2 = t :=
  hc.makeMissing_error p.pairwise_dirs h

theorem Closed.makeDirs (hc : t.Closed) : (makeDirs p mode t).2.Closed := by
  cases hr : (MemTree.makeDirs p mode t).1 with
  | error e =>
    rw [hc.makeDirs_error hr]
    exact hc
  | ok =>
    intro d q hd hq
    simp only [kind_makeDirs hr, Path.exists_mem_dirs_iff] at hq ⊢
    split at hq
    · next hpre => exact if_pos ⟨hd.ne_nil, hd.begins.trans hpre.2⟩
    · rw [hc d q hd hq, ite_self]

/-! ### Writing -/

theorem Closed.write_error (hc : t.Closed) (h : (write p data mode t).1 = .error e) : (write p data mode t).2 = t := by
  unfold write at h ⊢
  split
  · rfl
  · next hdir =>
    rw [createParents_eq] at h ⊢
    split
    · next hmade => simp [hmade] at h
    · next e' t' hmade =>
      have failed : (makeMissing .privateDirectory p.parentDirs t).1 = .error e' := congrArg Prod.fst hmade
      have kept := hc.makeMissing_error (pairwise_parentDirs p) failed
      rwa [hmade] at kept

theorem Closed.write (hc : t.Closed) : (write p data mode t).2.Closed := by
  cases hr : (MemTree.write p data mode t).1 with
  | error e =>
    rw [hc.write_error hr]
    exact hc
  | ok =>
    have notDir := (write_ok_iff.mp hr).1
    intro d q hd hq
    rw [kind_write hr] at hq ⊢
    -- Nothing stands below the file, since no directory stood there.
    have apart : ¬p.Same d := by
      intro hs
      have hp : p.Above q := hd.congr (Path.Same.symm hs) (Path.Same.refl q)
      rw [if_neg hp.not_same, if_neg fun hd => hp.not_above (Path.exists_mem_parentDirs_iff.mp hd)] at hq
      exact notDir (hc p q hp hq)
    rw [if_neg apart]
    split at hq
    · next hs => exact if_pos (Path.exists_mem_parentDirs_iff.mpr (hd.congr (Path.Same.refl d) (Path.Same.symm hs)))
    · split at hq
      · next hq' =>
        have hp := Path.exists_mem_parentDirs_iff.mp hq'
        exact if_pos (Path.exists_mem_parentDirs_iff.mpr (hd.trans hp))
      · rw [hc d q hd hq, ite_self]

/-! ### All trees that calls build -/

theorem Reached.closed (h : t.Reached) : t.Closed := by
  induction h with
  | empty => exact fun _ _ _ hq => absurd rfl hq
  | makeDirs p mode _ ih => exact ih.makeDirs
  | write p data mode _ ih => exact ih.write

/-- Whatever calls have been made, the paths form a tree, and a call that fails leaves it as it was. --/
theorem reached_isTree (h : t.Reached) : t.IsTree ∧
    (∀ p mode e, (makeDirs p mode t).1 = .error e → (makeDirs p mode t).2 = t) ∧
    ∀ p data mode e, (write p data mode t).1 = .error e → (write p data mode t).2 = t :=
  ⟨h.ordered.isTree h.closed, fun _ _ _ => h.closed.makeDirs_error, fun _ _ _ _ => h.closed.write_error⟩

/-- Below a file no directory can be made, and none is. --/
theorem reached_isTree_file :
    let t := (write ⟨"a//./b"⟩ .empty .privateFile empty).2
    t.Reached ∧ t.spellings = [⟨"a"⟩, ⟨"a//./b"⟩] ∧ t.IsTree ∧
      (makeDirs ⟨"a/b/c/d"⟩ .privateDirectory t).1 = .error (.reported .other "a/b exists and is not a directory") ∧
      (makeDirs ⟨"a/b/c/d"⟩ .privateDirectory t).2 = t := by
  intro t
  have ht : t.Reached := .write _ _ _ .empty
  have hfails : (makeDirs ⟨"a/b/c/d"⟩ .privateDirectory t).1 =
      .error (.reported .other "a/b exists and is not a directory") := by decide +kernel
  exact ⟨ht, by decide +kernel, (reached_isTree ht).1, hfails, (reached_isTree ht).2.1 _ _ _ hfails⟩

end MemTree
end AnsibleStaging
