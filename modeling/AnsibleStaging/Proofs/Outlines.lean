import AnsibleStaging.FileSystem.Faults
import AnsibleStaging.Proofs.TreeGrowth
import AnsibleStaging.Proofs.World

/-! Trees without the bytes of their files. The outline of a tree has its paths, kinds and modes, and no operation looks at
    more than that: on trees with one outline it gives the same answer, but for the bytes that are read, and it
    leaves one outline. -/

namespace AnsibleStaging

def Node.outline : Node → Node
  | dir m => dir m
  | file _ m => file .empty m

namespace MemTree
/-- The tree without the bytes of its files: the paths, with kind and mode of what stands there. --/
def outline (t : MemTree) : MemTree := ⟨t.entries.map fun e => (e.1, e.2.outline)⟩

theorem get?_outline (t : MemTree) (p : Path) : t.outline.get? p = (t.get? p).map Node.outline := by
  unfold get? outline
  rw [List.find?_map, Option.map_map, Option.map_map]
  rfl

theorem put_outline (p : Path) (n : Node) (l : List (Path × Node)) :
    put p n.outline (l.map fun e => (e.1, e.2.outline)) = (put p n l).map fun e => (e.1, e.2.outline) := by
  induction l with
  | nil => rfl
  | cons e rest ih =>
    simp only [List.map_cons, put]
    split
    · rfl
    · split
      · rfl
      · rw [ih, List.map_cons]

theorem insert_outline (t : MemTree) (p : Path) (n : Node) : t.outline.insert p n.outline = (t.insert p n).outline :=
  congrArg MemTree.mk (put_outline p n t.entries)

/-! ### Operations -/

theorem makeMissing_outline (mode : FileMode) (ds : List Path) (t : MemTree) :
    makeMissing mode ds t.outline = ((makeMissing mode ds t).1, (makeMissing mode ds t).2.outline) := by
  induction ds generalizing t with
  | nil => rfl
  | cons d rest ih =>
    unfold makeMissing
    rw [get?_outline]
    rcases t.get? d with _ | (m | ⟨data, m⟩)
    · exact (congrArg (makeMissing mode rest) (insert_outline t d (.dir mode))).trans (ih _)
    · exact ih t
    · rfl

theorem write_outline (p : Path) (data : ByteArray) (mode : FileMode) (t : MemTree) :
    write p .empty mode t.outline = ((write p data mode t).1, (write p data mode t).2.outline) := by
  have parents : createParents p t.outline = ((createParents p t).1, (createParents p t).2.outline) := by
    rw [createParents_eq, makeMissing_outline]
  have put : (createParents p t).2.outline.insert p (.file .empty mode) =
      ((createParents p t).2.insert p (.file data mode)).outline := insert_outline _ p (.file data mode)
  unfold write
  rw [get?_outline, parents]
  rcases t.get? p with _ | (m | ⟨old, m⟩) <;> rcases hc : createParents p t with ⟨_ | _, u⟩ <;> rw [hc] at put <;>
    first
    | rfl
    | exact Prod.ext rfl put

theorem read_outline (p : Path) (t : MemTree) :
    (read p t.outline).1 = (read p t).1.map fun _ => ByteArray.empty := by
  unfold read
  rw [get?_outline]
  rcases t.get? p with _ | (m | ⟨data, m⟩) <;> rfl

end MemTree

/-! ### Behind faults -/

namespace Faults
variable {t t' : MemTree}

/-- The tree behind calls that are made to fail. --/
def files (f : Faults) : FileSystem MemTree := f.overlay MemTree.fileSystem

theorem makeDirs_of_outline (f : Faults) (p : Path) (mode : FileMode) (h : t.outline = t'.outline) :
    (f.files.makeDirs p mode t).1 = (f.files.makeDirs p mode t').1 ∧
      (f.files.makeDirs p mode t).2.outline = (f.files.makeDirs p mode t').2.outline := by
  simp only [files, overlay, guard]
  split
  · exact ⟨rfl, h⟩
  · have ht := MemTree.makeMissing_outline mode p.dirs t
    have ht' := MemTree.makeMissing_outline mode p.dirs t'
    exact Prod.mk.inj (ht.symm.trans ((congrArg _ h).trans ht'))

theorem write_of_outline (f : Faults) (p : Path) (data data' : ByteArray) (mode : FileMode) (h : t.outline = t'.outline) :
    (f.files.write p data mode t).1 = (f.files.write p data' mode t').1 ∧
      (f.files.write p data mode t).2.outline = (f.files.write p data' mode t').2.outline := by
  simp only [files, overlay, guard]
  split
  · exact ⟨rfl, h⟩
  · have ht := MemTree.write_outline p data mode t
    have ht' := MemTree.write_outline p data' mode t'
    exact Prod.mk.inj (ht.symm.trans ((congrArg _ h).trans ht'))

theorem read_of_outline (f : Faults) (p : Path) (h : t.outline = t'.outline) :
    (f.files.read p t).1.map (fun _ => ()) = (f.files.read p t').1.map fun _ => () := by
  simp only [files, overlay, guard]
  split
  · rfl
  · have ht := MemTree.read_outline p t
    rw [h, MemTree.read_outline] at ht
    have forget : ∀ r : Except IoError ByteArray, r.map (fun _ => ()) = (r.map fun _ => ByteArray.empty).map fun _ => () := by
      rintro (_ | _) <;> rfl
    exact (forget _).trans ((congrArg (Except.map fun _ => ()) ht.symm).trans (forget _).symm)

theorem read_snd (f : Faults) (p : Path) (t : MemTree) : (f.files.read p t).2 = t := by
  simp only [files, overlay, guard]
  split
  · rfl
  · exact MemTree.read_snd p t

end Faults

/-! ### Calls -/

/-- The call without the bytes that it writes. --/
def Call.outline : Call → Call
  | write p _ m => write p .empty m
  | c => c

end AnsibleStaging
