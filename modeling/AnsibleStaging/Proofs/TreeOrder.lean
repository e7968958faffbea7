import AnsibleStaging.Proofs.TreeLookup

/-! The order of a tree. The entries of every tree that calls have built stand in the order of their components, each
    place once. So such a tree is settled by its spellings and by what stands at each place, and a node that is put
    where one stands changes no spelling. -/

namespace AnsibleStaging

namespace Component

instance : Std.Irrefl (α := Component) (· < ·) where
  irrefl a := by
    rintro (h | ⟨-, h⟩)
    · exact Nat.lt_irrefl _ h
    · exact String.lt_irrefl _ h

instance : Trans (α := Component) (· < ·) (· < ·) (· < ·) where
  trans := by
    rintro a b c (h | ⟨h, hn⟩) (h' | ⟨h', hn'⟩)
    · exact Or.inl (Nat.lt_trans h h')
    · exact Or.inl (h' ▸ h)
    · exact Or.inl (h ▸ h')
    · exact Or.inr ⟨h.trans h', String.lt_trans hn hn'⟩

theorem eq_of_rank_name {a b : Component} (hr : a.rank = b.rank) (hn : a.name = b.name) : a = b := by
  cases a with
  | normal s =>
    cases b with
    | normal s' =>
      obtain rfl : s = s' := hn
      rfl
    | _ => cases hr
  | _ => cases b <;> first | rfl | cases hr

instance : Std.Trichotomous (α := Component) (· < ·) where
  trichotomous a b h h' := by
    have hr : a.rank = b.rank :=
      Nat.le_antisymm (Nat.not_lt.mp fun hlt => h' (Or.inl hlt)) (Nat.not_lt.mp fun hlt => h (Or.inl hlt))
    have hn : a.name = b.name :=
      String.le_antisymm (String.not_lt.mp fun hlt => h' (Or.inr ⟨hr.symm, hlt⟩))
        (String.not_lt.mp fun hlt => h (Or.inr ⟨hr, hlt⟩))
    exact eq_of_rank_name hr hn

end Component

namespace Path
variable {p q : Path}

theorem not_same_of_lt (h : p.components < q.components) : ¬p.Same q := by
  intro hs
  rw [show p.components = q.components from hs] at h
  exact List.lt_irrefl _ h

theorem lt_of_not_same (hs : ¬p.Same q) (h : ¬p.components < q.components) : q.components < p.components := by
  refine Classical.byContradiction fun h' => hs ?_
  exact List.le_antisymm (List.not_lt.mp h') (List.not_lt.mp h)

end Path

namespace MemTree
variable {t t' : MemTree} {p q : Path} {n : Node} {l l' : List (Path × Node)}

/-- The entries stand in the order of their components, each place once. --/
def Increasing (l : List (Path × Node)) : Prop := l.Pairwise fun a b => a.1.components < b.1.components

def Ordered (t : MemTree) : Prop := Increasing t.entries

def spellings (t : MemTree) : List Path := t.entries.map (·.1)

theorem mem_put {e : Path × Node} (h : e ∈ put p n l) : e.1.Same p ∨ e ∈ l := by
  induction l with
  | nil =>
    obtain rfl : e = (p, n) := by simpa [put] using h
    exact Or.inl rfl
  | cons a rest ih =>
    obtain ⟨q, m⟩ := a
    unfold put at h
    split at h
    · next hs =>
      rcases List.mem_cons.mp h with rfl | h
      · exact Or.inl hs.symm
      · exact Or.inr (List.mem_cons_of_mem _ h)
    · split at h
      · rcases List.mem_cons.mp h with rfl | h
        · exact Or.inl rfl
        · exact Or.inr h
      · rcases List.mem_cons.mp h with rfl | h
        · exact Or.inr List.mem_cons_self
        · exact (ih h).imp id (List.mem_cons_of_mem _)

theorem increasing_put (h : Increasing l) : Increasing (put p n l) := by
  induction l with
  | nil => exact List.pairwise_singleton _ _
  | cons a rest ih =>
    obtain ⟨q, m⟩ := a
    obtain ⟨hq, hrest⟩ := List.pairwise_cons.mp h
    unfold put
    split
    · exact List.pairwise_cons.mpr ⟨hq, hrest⟩
    · next hs =>
      split
      · next hlt =>
        refine List.pairwise_cons.mpr ⟨fun e he => ?_, h⟩
        rcases List.mem_cons.mp he with rfl | he
        · exact hlt
        · exact List.lt_trans hlt (hq e he)
      · next hlt =>
        refine List.pairwise_cons.mpr ⟨fun e he => ?_, ih hrest⟩
        rcases mem_put he with he | he
        · rw [show e.1.components = p.components from he]
          exact Path.lt_of_not_same hs hlt
        · exact hq e he

theorem map_fst_put (h : Increasing l) (hp : ∃ e ∈ l, e.1.Same p) : (put p n l).map (·.1) = l.map (·.1) := by
  induction l with
  | nil =>
    obtain ⟨e, he, -⟩ := hp
    cases he
  | cons a rest ih =>
    obtain ⟨q, m⟩ := a
    obtain ⟨hq, hrest⟩ := List.pairwise_cons.mp h
    obtain ⟨e, he, hsame⟩ := hp
    unfold put
    split
    · rfl
    · next hs =>
      have he' : e ∈ rest := by
        rcases List.mem_cons.mp he with rfl | he
        · exact absurd hsame.symm hs
        · exact he
      split
      · next hlt => exact absurd hsame.symm (Path.not_same_of_lt (List.lt_trans hlt (hq e he')))
      · simp only [List.map_cons, ih hrest ⟨e, he', hsame⟩]

theorem spellings_insert (h : t.Ordered) (hp : t.get? p = some n) (m : Node) :
    (t.insert p m).spellings = t.spellings := by
  refine map_fst_put h ?_
  rw [get?, Option.map_eq_some_iff] at hp
  obtain ⟨e, he, -⟩ := hp
  exact ⟨e, List.mem_of_find?_eq_some he, by simpa using List.find?_some he⟩

/-- Entries in order are the same if they have the same spellings and the same stands at each place. --/
theorem entries_ext (h : Increasing l) (h' : Increasing l') (hs : l.map (·.1) = l'.map (·.1))
    (hg : ∀ q, (⟨l⟩ : MemTree).get? q = (⟨l'⟩ : MemTree).get? q) : l = l' := by
  induction l generalizing l' with
  | nil => exact (List.map_eq_nil_iff.mp hs.symm).symm
  | cons a rest ih =>
    cases l' with
    | nil => cases hs
    | cons b rest' =>
      obtain ⟨q, m⟩ := a
      obtain ⟨q', m'⟩ := b
      obtain ⟨rfl, hs'⟩ : q = q' ∧ rest.map (·.1) = rest'.map (·.1) := by simpa using hs
      obtain ⟨hq, hrest⟩ := List.pairwise_cons.mp h
      obtain ⟨hq', hrest'⟩ := List.pairwise_cons.mp h'
      have hm : m = m' := by simpa [get?, Path.Same] using hg q
      subst hm
      refine congrArg _ (ih hrest hrest' hs' fun r => ?_)
      by_cases hr : q.Same r
      · -- After the entry at `r` there is none at `r`.
        have hnone : ∀ l : List (Path × Node), (∀ e ∈ l, q.components < e.1.components) →
            (⟨l⟩ : MemTree).get? r = none := by
          intro l hl
          simp only [get?, Option.map_eq_none_iff, List.find?_eq_none, decide_eq_true_eq]
          exact fun e he hsame => Path.not_same_of_lt (hl e he) (hr.trans hsame.symm)
        rw [hnone rest hq, hnone rest' hq']
      · simpa [get?, List.find?_cons, hr] using hg r

theorem ext_of_ordered (h : t.Ordered) (h' : t'.Ordered) (hs : t.spellings = t'.spellings)
    (hg : ∀ q, t.get? q = t'.get? q) : t = t' := congrArg MemTree.mk (entries_ext h h' hs hg)

/-! ### What calls build -/

theorem Ordered.insert (h : t.Ordered) : (t.insert p n).Ordered := increasing_put h

theorem Ordered.makeMissing {mode : FileMode} {ds : List Path} (h : t.Ordered) :
    (MemTree.makeMissing mode ds t).2.Ordered := by
  induction ds generalizing t with
  | nil => exact h
  | cons d rest ih =>
    unfold MemTree.makeMissing
    split
    · exact ih h
    · exact h
    · exact ih h.insert

theorem Ordered.createParents (h : t.Ordered) : (createParents p t).2.Ordered := by
  unfold MemTree.createParents
  split
  · exact h.makeMissing
  · exact h

theorem Ordered.write {data : ByteArray} {mode : FileMode} (h : t.Ordered) : (write p data mode t).2.Ordered := by
  rcases write_cases p data mode t with ⟨e, -, hw | hw⟩ | ⟨-, -, hw⟩
  · rw [hw]
    exact h
  · rw [hw]
    exact h.createParents
  · rw [hw]
    exact h.createParents.insert

/-- The trees that calls build, whether they succeed or not. --/
inductive Reached : MemTree → Prop
  | empty : Reached empty
  | makeDirs {t : MemTree} (p : Path) (mode : FileMode) (h : Reached t) : Reached (makeDirs p mode t).2
  | write {t : MemTree} (p : Path) (data : ByteArray) (mode : FileMode) (h : Reached t) :
      Reached (write p data mode t).2

theorem Reached.ordered (h : t.Reached) : t.Ordered := by
  induction h with
  | empty => exact List.Pairwise.nil
  | makeDirs p mode _ ih => exact ih.makeMissing
  | write p data mode _ ih => exact ih.write

end MemTree
end AnsibleStaging
