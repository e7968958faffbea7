import AnsibleStaging.Proofs.ConnectOrder
import AnsibleStaging.Proofs.TreeLookup

/-! Collaborators around a tree that is held in memory. Only making directories and writing touch the tree: each does
    its work there, or fails before it reaches the tree. So what stands in the tree after some calls is what their
    successful writes have left. -/

namespace AnsibleStaging
open Script

/-- What an exchange does to the tree. --/
def Stored : Exchange calls → MemTree → MemTree → Prop
  | ⟨.makeDirs p m, r⟩, t, t' =>
    (r = some (t.makeDirs p m).1 ∧ t' = (t.makeDirs p m).2) ∨ (r ≠ some (.ok ()) ∧ t' = t)
  | ⟨.write p d m, r⟩, t, t' =>
    (r = some (t.write p d m).1 ∧ t' = (t.write p d m).2) ∨ (r ≠ some (.ok ()) ∧ t' = t)
  | _, t, t' => t' = t

/-- The calls of a handler do to the tree what they are to do. --/
def InMemory {σ : Type} (h : Handler calls σ) (tree : σ → MemTree) : Prop :=
  ∀ c s, Stored ⟨c, (h c s).1⟩ (tree s) (tree (h c s).2)

namespace Stored
variable {x : Exchange calls} {t t' : MemTree} {p q : Path} {n : Node} {data : ByteArray}

/-- All that a call can do to the tree. --/
theorem cases (h : Stored x t t') : t' = t ∨ (∃ p m, x.call = .makeDirs p m ∧ t' = (t.makeDirs p m).2) ∨
    ∃ p data m, x.call = .write p data m ∧ t' = (t.write p data m).2 := by
  obtain ⟨c, r⟩ := x
  cases c with
  | makeDirs p m =>
    rcases h with ⟨-, rfl⟩ | ⟨-, rfl⟩
    · exact Or.inr (Or.inl ⟨p, m, rfl, rfl⟩)
    · exact Or.inl rfl
  | write p data m =>
    rcases h with ⟨-, rfl⟩ | ⟨-, rfl⟩
    · exact Or.inr (Or.inr ⟨p, data, m, rfl, rfl⟩)
    · exact Or.inl rfl
  | _ => exact Or.inl h

/-- A call keeps what stands anywhere, unless it writes something else there. --/
theorem get?_eq (h : Stored x t t') (ht : t.get? q = some n)
    (hx : ∀ p d m, x.call = .write p d m → p.Same q → n = .file d m) : t'.get? q = some n := by
  rcases h.cases with rfl | ⟨p, m, -, rfl⟩ | ⟨p, data, m, hc, rfl⟩
  · exact ht
  · exact MemTree.get?_makeDirs ht
  · exact MemTree.get?_write_of_some ht (hx p data m hc)

theorem get?_writing (h : Stored (writing p data) t t') (hq : p.Same q) :
    t'.get? q = some (.file data .privateFile) := by
  rcases h with ⟨hr, rfl⟩ | ⟨hr, -⟩
  · exact MemTree.get?_write (Option.some.inj hr).symm hq
  · exact absurd rfl hr

theorem eq_of_not_stages (h : Stored x t t') (hx : x.call.stages = false) : t' = t := by
  rcases h.cases with rfl | ⟨p, m, hc, -⟩ | ⟨p, data, m, hc, -⟩
  · rfl
  · rw [hc] at hx
    cases hx
  · rw [hc] at hx
    cases hx

end Stored

theorem occurs_external {l : Record} {t t' : MemTree} (h : Occurs Stored l t t') : Occurs Stored (external l) t t' := by
  refine h.filter fun x t t' hx hst => hst.eq_of_not_stages ?_
  have hcheck : x.call.isCheck = true := by simpa using hx
  rw [Call.eq_cancelled hcheck]
  rfl

theorem InMemory.occurs {σ : Type} {h : Handler calls σ} {tree : σ → MemTree} (hmem : InMemory h tree)
    {l : Record} {s s' : σ} (hl : Occurs h.Gives l s s') : Occurs Stored l (tree s) (tree s') := by
  refine hl.view ?_
  rintro ⟨c, r⟩ s s' hg
  have hs := hmem c s
  rw [show h c s = (r, s') from hg] at hs
  exact hs

theorem eq_of_not_stages {l : Record} {t t' : MemTree} (h : Occurs Stored l t t')
    (hl : ∀ x ∈ l, x.call.stages = false) : t' = t := by
  refine h.keeps (p := fun u => u = t) ?_ rfl
  rintro x hx u u' hs rfl
  exact hs.eq_of_not_stages (hl x hx)

/-! ### What is left standing -/

/-- None of the calls writes at `p` anything but `data`, for the owner alone. --/
def Spares (p : Path) (data : ByteArray) (l : Record) : Prop :=
  ∀ x ∈ l, ∀ q d m, x.call = .write q d m → q.Same p → d = data ∧ m = .privateFile

theorem spares_append {p : Path} {data : ByteArray} {l m : Record} :
    Spares p data (l ++ m) ↔ Spares p data l ∧ Spares p data m := List.forall_mem_append

/-- The file at `p` holds exactly `data`, for the owner alone. --/
def MemTree.Holds (t : MemTree) (p : Path) (data : ByteArray) : Prop := t.get? p = some (.file data .privateFile)

theorem holds_of_spares {p : Path} {data : ByteArray} {l : Record} {t t' : MemTree} (hl : Occurs Stored l t t')
    (hs : Spares p data l) (ht : t.Holds p data) : t'.Holds p data := by
  refine hl.keeps (p := fun t => t.Holds p data) ?_ ht
  intro x hx s s' hst h
  refine hst.get?_eq h fun q d m hc hsame => ?_
  obtain ⟨rfl, rfl⟩ := hs x hx q d m hc hsame
  rfl

theorem holds_of_last {p : Path} {data : ByteArray} {before after : Record} {t t' : MemTree}
    (hl : Occurs Stored (before ++ writing p data :: after) t t') (hs : Spares p data after) : t'.Holds p data := by
  obtain ⟨u, -, hrest⟩ := hl.of_append
  cases hrest with
  | cons first rest => exact holds_of_spares rest hs (first.get?_writing rfl)

end AnsibleStaging
