import AnsibleStaging.FileSystem.HostTree
import AnsibleStaging.Proofs.PathAncestors
import Mathlib.Data.List.TakeWhile

/-! Paths that spell a place plainly: a slash before each name and nothing else. A place is the row of names that lead to
    it. The pieces of such a path are the names, its parent drops the last one, and a name that is joined to it is one
    more, so all that a host asks about the path is read off the place. -/

namespace AnsibleStaging
namespace HostTree
open AnsibleStaging.Path

/-- A name that an entry of a host's tree can have: one component, without the NUL that ends every name there. --/
structure IsEntryName (name : String) : Prop extends IsName name where
  noNul : '\x00' ∉ name.toList

/-- The path that spells a place. --/
def pathTo (place : List String) : Path := ⟨placeText place⟩

variable {place : List String} {name : String}

/-! ### The text -/

/-- The text behind the slash at the start. --/
def body (place : List String) : List Char := ['/'].intercalate (place.map String.toList)

theorem toList_placeText (place : List String) : (placeText place).toList = '/' :: body place := by
  rw [placeText, String.toList_append, String.toList_intercalate]
  rfl

theorem body_concat (hplace : place ≠ []) (name : String) :
    body (place ++ [name]) = body place ++ '/' :: name.toList := by
  induction place with
  | nil => exact absurd rfl hplace
  | cons n rest ih =>
    cases rest with
    | nil => simp [body, List.intercalate]
    | cons m more =>
      have hmore := ih (List.cons_ne_nil m more)
      simp only [body, List.map_append, List.map_cons, List.cons_append, List.map_nil,
        List.intercalate_cons_cons] at hmore ⊢
      rw [hmore]
      simp

theorem body_singleton (name : String) : body [name] = name.toList := by simp [body, List.intercalate]

/-- The last name, and what stands before it and its slash. --/
theorem lastPiece_body (h : IsName name) (place : List String) :
    lastPiece (body (place ++ [name])).reverse = (name.toList.reverse, (body place).reverse) := by
  have hname : ∀ c ∈ name.toList.reverse, (c != '/') = true := fun c hc =>
    bne_iff_ne.mpr fun heq => h.notMem (heq ▸ List.mem_reverse.mp hc)
  rcases List.eq_nil_or_concat' place with rfl | ⟨before, last, rfl⟩
  · rw [List.nil_append, body_singleton, lastPiece, List.takeWhile_eq_self_iff.mpr hname,
      List.dropWhile_eq_nil_iff.mpr hname]
    rfl
  · rw [body_concat (by simp), List.reverse_append, List.reverse_cons, List.append_assoc,
      lastPiece, List.takeWhile_append_of_pos hname, List.dropWhile_append_of_pos hname]
    simp

theorem dropIdle_body (h : ∀ n ∈ place, IsName n) : dropIdle (body place).reverse = (body place).reverse := by
  rcases List.eq_nil_or_concat' place with rfl | ⟨before, last, rfl⟩
  · rw [show (body []).reverse = [] from rfl, dropIdle, dif_pos rfl]
  · have hlast : IsName last := h last (by simp)
    have hpiece := lastPiece_body hlast before
    rw [dropIdle]
    split
    · next hnil => exact hnil.symm
    · rw [if_neg]
      rw [hpiece]
      rintro (hnil | hdot)
      · exact hlast.ne_nil (List.reverse_eq_nil_iff.mp hnil)
      · exact hlast.ne_dot (List.reverse_eq_iff.mp hdot)

theorem segments_body (hplace : place ≠ []) (h : ∀ n ∈ place, IsName n) :
    segments (body place) = place.map String.toList := by
  induction place using List.reverseRecOn with
  | nil => exact absurd rfl hplace
  | append_singleton before last ih =>
    have hlast : segments last.toList = [last.toList] := segments_of_notMem (h last (by simp)).notMem
    rcases List.eq_nil_or_concat' before with rfl | ⟨x, y, hxy⟩
    · rw [List.nil_append, body_singleton, hlast]
      rfl
    · have hne : before ≠ [] := by simp [hxy]
      rw [body_concat hne, segments_append, ih hne (List.forall_mem_append.mp h).1, hlast, List.map_append]
      rfl

/-! ### What a host asks about a path -/

theorem pieces_pathTo (hplace : place ≠ []) (h : ∀ n ∈ place, IsName n) : pieces (pathTo place) = "" :: place := by
  have hsegments : segments (placeText place).toList = [] :: place.map String.toList := by
    rw [toList_placeText, segments, if_pos rfl, segments_body hplace h]
  rw [pieces, pathTo, hsegments, List.map_cons, List.map_map]
  congr 1
  exact List.map_id'' (fun n => String.ofList_toList) place

theorem isAbsolute_pathTo (place : List String) : (pathTo place).isAbsolute = true := by
  rw [isAbsolute, pathTo, toList_placeText]
  rfl

theorem isEmpty_pathTo (place : List String) : (pathTo place).isEmpty = false := by
  rw [isEmpty, pathTo]
  refine Bool.eq_false_iff.mpr fun h => ?_
  have hempty : placeText place = "" := String.isEmpty_iff.mp h
  have hlist := toList_placeText place
  rw [hempty] at hlist
  cases hlist

theorem contains_pathTo (h : ∀ n ∈ place, '\x00' ∉ n.toList) : (placeText place).toList.contains '\x00' = false := by
  rw [toList_placeText]
  refine Bool.eq_false_iff.mpr fun hmem => ?_
  have hbody : '\x00' ∉ body place := by
    induction place using List.reverseRecOn with
    | nil => simp [body]
    | append_singleton before last ih =>
      have hlast := h last (by simp)
      rcases List.eq_nil_or_concat' before with rfl | ⟨x, y, hxy⟩
      · rwa [List.nil_append, body_singleton]
      · rw [body_concat (by simp [hxy])]
        have := ih (List.forall_mem_append.mp h).1
        simp_all
  simp [hbody] at hmem

/-! ### Components and ancestors -/

theorem components_pathTo (h : ∀ n ∈ place, IsName n) :
    (pathTo place).components = .root :: place.map Component.normal := by
  have hpath : pathTo place = ⟨String.ofList ('/' :: body place)⟩ := eq_ofList _ (toList_placeText place)
  rw [hpath, components_root]
  congr 1
  rcases place with _ | ⟨n, rest⟩
  · rfl
  · rw [names, segments_body (List.cons_ne_nil n rest) h, List.filterMap_map]
    refine List.filterMap_eq_map_iff_forall_eq_some.mpr ?_
    exact fun m hm => component?_of_isName (h m hm)

theorem parent_pathTo (h : ∀ n ∈ place ++ [name], IsName n) :
    (pathTo (place ++ [name])).parent = some (pathTo place) := by
  have hname : IsName name := h name (by simp)
  have hplace : ∀ n ∈ place, IsName n := (List.forall_mem_append.mp h).1
  have hback : dropIdle (body (place ++ [name])).reverse = (body (place ++ [name])).reverse := dropIdle_body h
  have hpiece := lastPiece_body hname place
  have hchars : parentChars ('/' :: body (place ++ [name])) = some ('/' :: body place) := by
    have hdrop : ('/' :: body (place ++ [name])).drop (lead ('/' :: body (place ++ [name]))).length =
        body (place ++ [name]) := rfl
    unfold parentChars
    simp only [hdrop, hback]
    split
    · next hnil =>
      rw [hnil, lastPiece] at hpiece
      exact absurd (List.reverse_eq_nil_iff.mp (Prod.mk.inj hpiece).1.symm) hname.ne_nil
    · next c back hcons =>
      rw [← hcons, hpiece, dropIdle_body hplace, List.reverse_reverse]
      rfl
  rw [parent, pathTo, toList_placeText, hchars]
  exact congrArg some (eq_ofList _ (toList_placeText place)).symm

theorem ancestors_of_parent {p q : Path} (h : p.parent = some q) : p.ancestors = p :: q.ancestors := by
  obtain ⟨cs, hcs, rfl⟩ := Option.map_eq_some_iff.mp h
  unfold ancestors
  rw [ancestorChars]
  split
  · next hnone => simp [hnone] at hcs
  · next ps hsome =>
    rw [hcs] at hsome
    cases hsome
    rw [List.map_cons, String.ofList_toList, String.toList_ofList]

theorem parent_root : (pathTo []).parent = none := by decide +kernel

/-! ### Names -/

theorem fileName_pathTo (h : ∀ n ∈ place ++ [name], IsName n) : (pathTo (place ++ [name])).fileName = some name := by
  have hlast : (pathTo (place ++ [name])).components.getLast? = some (.normal name) := by
    rw [components_pathTo h, List.map_append, ← List.cons_append]
    exact List.getLast?_concat
  rw [fileName, hlast]

/-- The text of a place below the root does not end with a slash. --/
theorem getLast?_placeText (place : List String) (h : IsName name) :
    ∃ c, (placeText (place ++ [name])).toList.getLast? = some c ∧ c ≠ '/' := by
  obtain ⟨cs, c, hcs⟩ := (List.eq_nil_or_concat' name.toList).resolve_left h.ne_nil
  have hend : ∃ before, body (place ++ [name]) = before ++ name.toList := by
    rcases place with _ | ⟨n, rest⟩
    · exact ⟨[], body_singleton name⟩
    · exact ⟨body (n :: rest) ++ ['/'], by rw [body_concat (List.cons_ne_nil n rest)]; simp⟩
  obtain ⟨before, hbefore⟩ := hend
  refine ⟨c, ?_, fun heq => h.notMem (by simp [hcs, heq])⟩
  rw [toList_placeText, hbefore, hcs, ← List.append_assoc, ← List.cons_append]
  exact List.getLast?_concat

theorem join_pathTo (h : IsName name) (hplace : ∀ n ∈ place, IsName n) :
    (pathTo place).join name = pathTo (place ++ [name]) := by
  have hhead : name.toList.head? ≠ some '/' := fun hh => h.notMem (List.mem_of_mem_head? hh)
  unfold join
  rw [if_neg hhead]
  rcases List.eq_nil_or_concat' place with rfl | ⟨before, last, rfl⟩
  · rw [if_pos (Or.inr (by decide +kernel))]
    refine congrArg Path.mk (String.toList_inj.mp ?_)
    rw [toList_placeText, List.nil_append, body_singleton, pathTo, String.toList_append, toList_placeText]
    rfl
  · obtain ⟨c, hc, hne⟩ := getLast?_placeText before (hplace last (by simp))
    have hopen : ¬((pathTo (before ++ [last])).text.toList.getLast? = none ∨
        (pathTo (before ++ [last])).text.toList.getLast? = some '/') := by
      rw [pathTo, hc]
      simpa using hne
    rw [if_neg hopen]
    refine congrArg Path.mk (String.toList_inj.mp ?_)
    rw [toList_placeText, body_concat (by simp), pathTo, String.toList_append, String.toList_append, toList_placeText]
    simp

end HostTree
end AnsibleStaging
