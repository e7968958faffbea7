import AnsibleStaging.Proofs.PathComponents
import Mathlib.Data.List.Infix

/-! The parents of a path. `parent` takes the last component off the spelling, so the ancestors of a path spell out
    what the path goes through, component by component: made in order, each stands in the one made before it. -/

namespace AnsibleStaging
namespace Path

def spelled (cs : List Char) : List Component := components ⟨String.ofList cs⟩

theorem spelled_eq (cs : List Char) : spelled cs = leadComponents (lead cs) ++ names (cs.drop (lead cs).length) := by
  rw [spelled, components_eq, String.toList_ofList]

theorem components_eq_spelled (p : Path) : p.components = spelled p.text.toList := by
  rw [spelled, String.ofList_toList]

theorem spelled_nil : spelled [] = [] := components_empty

theorem component?_eq_none_iff {cs : List Char} : component? cs = none ↔ cs = [] ∨ cs = ['.'] := by
  unfold component?
  constructor
  · intro h
    split at h
    · assumption
    · split at h <;> cases h
  · intro h
    rw [if_pos h]

theorem lead_eq_nil_of_leadComponents {cs : List Char} (h : leadComponents (lead cs) = []) : lead cs = [] := by
  unfold lead at h ⊢
  split
  · simp [leadComponents] at h
  · simp [leadComponents] at h
  · simp [leadComponents] at h
  · rfl

theorem spelled_eq_nil_iff {cs : List Char} : spelled cs = [] ↔ cs = [] := by
  constructor
  · intro h
    rw [spelled_eq, List.append_eq_nil_iff] at h
    obtain ⟨hlead, hbody⟩ := h
    replace hlead := lead_eq_nil_of_leadComponents hlead
    rw [hlead, List.length_nil, List.drop_zero] at hbody
    -- The first piece would be a dot, and then the dot would be the lead.
    cases cs with
    | nil => rfl
    | cons c rest =>
      have hc : c ≠ '/' := by
        rintro rfl
        cases hlead
      obtain ⟨s, more, hs⟩ := List.exists_cons_of_ne_nil (segments_ne_nil rest)
      have hseg := segments_cons_of_ne hc hs
      rw [names, hseg, List.filterMap_eq_nil_iff] at hbody
      have hdot : c :: s = ['.'] := by
        rcases component?_eq_none_iff.mp (hbody _ List.mem_cons_self) with h | h
        · cases h
        · exact h
      rw [hdot] at hseg
      rcases eq_of_segments_dot hseg with ⟨h, -⟩ | ⟨_, h, -⟩ <;> rw [h] at hlead <;> cases hlead
  · rintro rfl
    exact spelled_nil

/-! ### The last piece -/

theorem names_of_notMem {cs : List Char} (h : '/' ∉ cs) : names cs = (component? cs).toList := by
  rw [names, segments_of_notMem h]
  cases hc : component? cs <;> simp [hc]

theorem notMem_lastPiece (back : List Char) : '/' ∉ (lastPiece back).1.reverse := by
  intro h
  have := List.all_eq_true.mp List.all_takeWhile _ (List.mem_reverse.mp h)
  simp at this

/-- A spelling that is written backwards is its last piece, and maybe a slash and the rest. --/
theorem lastPiece_eq (back : List Char) :
    (back = (lastPiece back).1 ∧ (lastPiece back).2 = []) ∨ back = (lastPiece back).1 ++ '/' :: (lastPiece back).2 := by
  have hb : back.takeWhile (· != '/') ++ back.dropWhile (· != '/') = back := List.takeWhile_append_dropWhile
  unfold lastPiece
  cases hd : back.dropWhile (· != '/') with
  | nil =>
    rw [hd, List.append_nil] at hb
    exact Or.inl ⟨hb.symm, rfl⟩
  | cons c rest =>
    have hc : c = '/' := by
      have := List.head?_dropWhile_not (· != '/') back
      rw [hd] at this
      simpa using this
    rw [hd, hc] at hb
    exact Or.inr hb.symm

theorem names_lastPiece (back : List Char) : names back.reverse =
    names (lastPiece back).2.reverse ++ (component? (lastPiece back).1.reverse).toList := by
  rcases lastPiece_eq back with ⟨hb, hrest⟩ | hb
  · rw [hrest, List.reverse_nil, names_nil, List.nil_append]
    conv_lhs => rw [hb]
    exact names_of_notMem (notMem_lastPiece back)
  · conv_lhs => rw [hb]
    rw [List.reverse_append, List.reverse_cons, List.append_assoc, List.singleton_append, names_append,
      names_of_notMem (notMem_lastPiece back)]

theorem idle_iff {back : List Char} : ((lastPiece back).1 = [] ∨ (lastPiece back).1 = ['.']) ↔
    component? (lastPiece back).1.reverse = none := by
  rw [component?_eq_none_iff, List.reverse_eq_nil_iff, List.reverse_eq_iff, List.reverse_singleton]

theorem names_dropIdle (back : List Char) : names (dropIdle back).reverse = names back.reverse := by
  fun_induction dropIdle back with
  | case1 => rfl
  | case2 back _ hidle ih => rw [ih, names_lastPiece back, idle_iff.mp hidle, Option.toList_none, List.append_nil]
  | case3 => rfl

theorem lastPiece_suffix (back : List Char) : (lastPiece back).2 <:+ back :=
  (List.drop_suffix 1 _).trans (List.dropWhile_suffix _)

theorem dropIdle_suffix (back : List Char) : dropIdle back <:+ back := by
  fun_induction dropIdle back with
  | case1 => exact List.suffix_rfl
  | case2 back _ _ ih => exact ih.trans (lastPiece_suffix back)
  | case3 => exact List.suffix_rfl

/-- What is left without idle pieces ends with a piece that means something. --/
theorem component?_dropIdle (back : List Char) (h : dropIdle back ≠ []) :
    ∃ c, component? (lastPiece (dropIdle back)).1.reverse = some c := by
  fun_induction dropIdle back with
  | case1 => exact absurd rfl h
  | case2 back _ _ ih => exact ih h
  | case3 back _ hidle => exact Option.ne_none_iff_exists'.mp fun hc => hidle (idle_iff.mpr hc)

/-! ### The parent -/

theorem lead_cases (cs : List Char) :
    (∃ rest, cs = '/' :: rest ∧ lead cs = ['/']) ∨ (cs = ['.'] ∧ lead cs = ['.']) ∨
      (∃ rest, cs = '.' :: '/' :: rest ∧ lead cs = ['.']) ∨
      ((∀ rest, cs ≠ '/' :: rest) ∧ (∀ rest, cs ≠ '.' :: '/' :: rest) ∧ lead cs = []) := by
  unfold lead
  split
  · exact Or.inl ⟨_, rfl, rfl⟩
  · exact Or.inr (Or.inl ⟨rfl, rfl⟩)
  · exact Or.inr (Or.inr (Or.inl ⟨_, rfl, rfl⟩))
  · next hroot _ hdots => exact Or.inr (Or.inr (Or.inr ⟨hroot, hdots, rfl⟩))

/-- A spelling of which the end is cut off keeps its lead, unless a dot alone is left of it. --/
theorem lead_cut {cs x : List Char} (hx : x <+: cs.drop (lead cs).length) (hdot : x ≠ ['.']) :
    lead (lead cs ++ x) = lead cs := by
  obtain ⟨rest, hrest⟩ := hx
  rcases lead_cases cs with ⟨body, -, hl⟩ | ⟨rfl, -⟩ | ⟨body, rfl, hl⟩ | ⟨hroot, hdots, hl⟩
  · rw [hl]
    rfl
  · obtain rfl : x = [] := (List.append_eq_nil_iff.mp hrest).1
    rfl
  · rw [hl] at hrest ⊢
    rcases x with _ | ⟨c, x⟩
    · rfl
    · obtain ⟨rfl, -⟩ : c = '/' ∧ _ := by simpa using hrest
      rfl
  · rw [hl] at hrest ⊢
    rw [List.length_nil, List.drop_zero] at hrest
    subst hrest
    refine lead_eq_nil ?_ hdot ?_
    · rintro y hy
      exact hroot (y ++ rest) (by rw [List.nil_append] at hy; rw [hy, List.cons_append])
    · rintro y hy
      exact hdots (y ++ rest) (by rw [List.nil_append] at hy; rw [hy, List.cons_append, List.cons_append])

theorem spelled_of_parentChars_eq_none {cs : List Char} (h : parentChars cs = none) :
    spelled cs = [] ∨ spelled cs = [.root] := by
  have hbody := names_dropIdle (cs.drop (lead cs).length).reverse
  unfold parentChars at h
  dsimp only at h
  split at h
  · next heq =>
    rw [heq, List.reverse_reverse, List.reverse_nil, names_nil] at hbody
    rw [spelled_eq, ← hbody, List.append_nil]
    split at h
    · cases h
    · next hdot =>
      unfold leadComponents
      split
      · exact Or.inr rfl
      · next hl => exact absurd hl hdot
      · exact Or.inl rfl
  · cases h

theorem spelled_of_parentChars {cs ps : List Char} (h : parentChars cs = some ps) :
    ∃ c, spelled cs = spelled ps ++ [c] := by
  have hbody := names_dropIdle (cs.drop (lead cs).length).reverse
  have hsuffix := dropIdle_suffix (cs.drop (lead cs).length).reverse
  unfold parentChars at h
  dsimp only at h
  split at h
  · next heq =>
    rw [heq, List.reverse_reverse, List.reverse_nil, names_nil] at hbody
    split at h
    · next hdot =>
      cases h
      refine ⟨.current, ?_⟩
      rw [spelled_eq, ← hbody, hdot, spelled_nil]
      rfl
    · cases h
  · next c back heq =>
    cases h
    obtain ⟨last, hlast⟩ := component?_dropIdle (cs.drop (lead cs).length).reverse (by simp [heq])
    refine ⟨last, ?_⟩
    rw [heq] at hbody hsuffix hlast
    rw [List.reverse_reverse] at hbody
    have hcut : (dropIdle (lastPiece (c :: back)).2).reverse <+: cs.drop (lead cs).length := by
      have := List.reverse_prefix.mpr ((dropIdle_suffix _).trans ((lastPiece_suffix _).trans hsuffix))
      rwa [List.reverse_reverse] at this
    have hdot : (dropIdle (lastPiece (c :: back)).2).reverse ≠ ['.'] := by
      intro hd
      obtain ⟨c', hc'⟩ := component?_dropIdle (lastPiece (c :: back)).2 (by
        intro hnil
        simp [hnil] at hd)
      rw [List.reverse_eq_iff.mp hd] at hc'
      simp [lastPiece, component?] at hc'
    rw [spelled_eq, ← hbody, names_lastPiece, hlast, spelled_eq, lead_cut hcut hdot, List.drop_left, names_dropIdle,
      List.append_assoc]
    rfl

theorem components_of_parent {p q : Path} (h : p.parent = some q) : ∃ c, p.components = q.components ++ [c] := by
  unfold parent at h
  obtain ⟨ps, hps, rfl⟩ := Option.map_eq_some_iff.mp h
  rw [components_eq_spelled p]
  exact spelled_of_parentChars hps

/-! ### All parents -/

theorem spelled_ancestorChars (cs : List Char) :
    ((ancestorChars cs).filter fun x => !x.isEmpty).reverse.map spelled = (spelled cs).inits.tail := by
  fun_induction ancestorChars cs with
  | case1 cs h =>
    rcases spelled_of_parentChars_eq_none h with hs | hs
    · rw [spelled_eq_nil_iff.mp hs]
      rfl
    · have hne : cs ≠ [] := fun h => by simp [h, spelled_nil] at hs
      simp [hs, hne]
  | case2 cs ps h ih =>
    obtain ⟨c, hc⟩ := spelled_of_parentChars h
    have hne : cs ≠ [] := fun h => by simp [h, spelled_nil] at hc
    have hinits : (spelled ps).inits ≠ [] := fun h => absurd (congrArg List.length h) (by simp)
    rw [List.filter_cons_of_pos (by simpa using hne), List.reverse_cons, List.map_append, ih, hc, List.inits_append,
      List.tail_append_of_ne_nil hinits]
    simp [hc]

/-- The paths that making a directory goes through spell the beginnings of its components, the shortest first. --/
theorem components_ancestors (p : Path) :
    ((p.ancestors.filter fun a => !a.isEmpty).reverse).map components = p.components.inits.tail := by
  have hempty : ((fun a : Path => !a.isEmpty) ∘ fun cs => ⟨String.ofList cs⟩) = fun cs : List Char => !cs.isEmpty := by
    funext cs
    cases cs <;> simp [isEmpty, String.isEmpty_iff]
  rw [ancestors, List.filter_map, hempty, ← List.map_reverse, List.map_map, components_eq_spelled p]
  exact spelled_ancestorChars p.text.toList

end Path
end AnsibleStaging
