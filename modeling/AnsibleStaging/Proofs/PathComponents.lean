import AnsibleStaging.Staging

/-! The components of a path, read off its spelling. A spelling is a lead (the root, or a dot that starts a relative
    path) and a body, and the body's pieces between slashes give the rest. So one more name after a slash is one more
    component, whatever stands before it: this is how every staged file is named. -/

namespace AnsibleStaging
namespace Path

/-! ### Pieces -/

theorem segments_ne_nil (cs : List Char) : segments cs ≠ [] := by
  cases cs with
  | nil => simp [segments]
  | cons c rest =>
    by_cases hc : c = '/'
    · simp [segments, hc]
    · simp only [segments, hc, ↓reduceIte]
      split <;> simp

theorem segments_cons_of_ne {c : Char} {cs s : List Char} {more : List (List Char)} (hc : c ≠ '/')
    (h : segments cs = s :: more) : segments (c :: cs) = (c :: s) :: more := by
  simp only [segments, hc, ↓reduceIte, h]

theorem segments_of_notMem {cs : List Char} (h : '/' ∉ cs) : segments cs = [cs] := by
  induction cs with
  | nil => rfl
  | cons c rest ih =>
    simp only [List.mem_cons, not_or] at h
    exact segments_cons_of_ne (fun hc => h.1 hc.symm) (ih h.2)

theorem segments_append (x y : List Char) : segments (x ++ '/' :: y) = segments x ++ segments y := by
  induction x with
  | nil => simp [segments]
  | cons c x ih =>
    by_cases hc : c = '/'
    · simp [segments, hc, ih]
    · obtain ⟨s, more, hs⟩ := List.exists_cons_of_ne_nil (segments_ne_nil x)
      rw [hs] at ih
      rw [List.cons_append, segments_cons_of_ne hc ih, segments_cons_of_ne hc hs, List.cons_append]
      rfl

theorem notMem_of_mem_segments {cs s : List Char} (h : s ∈ segments cs) : '/' ∉ s := by
  induction cs generalizing s with
  | nil =>
    obtain rfl := List.mem_singleton.mp h
    simp
  | cons c rest ih =>
    by_cases hc : c = '/'
    · simp only [segments, hc, ↓reduceIte, List.mem_cons] at h
      rcases h with rfl | h
      · simp
      · exact ih h
    · obtain ⟨s', more, hs⟩ := List.exists_cons_of_ne_nil (segments_ne_nil rest)
      rw [segments_cons_of_ne hc hs] at h
      rcases List.mem_cons.mp h with rfl | h
      · have := ih (hs ▸ List.mem_cons_self)
        simp only [List.mem_cons, not_or]
        exact ⟨fun hc' => hc hc'.symm, this⟩
      · exact ih (hs ▸ List.mem_cons_of_mem _ h)

/-! ### Names -/

/-- A text that is one component wherever it stands. --/
structure IsName (name : String) : Prop where
  ne_nil : name.toList ≠ []
  ne_dot : name.toList ≠ ['.']
  ne_dots : name.toList ≠ ['.', '.']
  notMem : '/' ∉ name.toList

theorem component?_of_isName {name : String} (h : IsName name) : component? name.toList = some (.normal name) := by
  unfold component?
  rw [if_neg (not_or.mpr ⟨h.ne_nil, h.ne_dot⟩), if_neg h.ne_dots, String.ofList_toList]

theorem isName_of_component? {cs : List Char} {name : String} (hcs : '/' ∉ cs)
    (h : component? cs = some (.normal name)) : IsName name := by
  unfold component? at h
  split at h
  · cases h
  · next h₁ =>
    split at h
    · cases h
    · next h₂ =>
      obtain ⟨h₀, h₁⟩ := not_or.mp h₁
      cases h
      constructor <;> rw [String.toList_ofList] <;> assumption

theorem isName_uid {u : Uid} (h : u.isPathSafe = true) : IsName u.text := by
  simp only [Uid.isPathSafe, Uid.isEmpty, Bool.and_eq_true, Bool.not_eq_true', bne_iff_ne, ne_eq, List.any_eq_false]
    at h
  obtain ⟨⟨⟨hempty, hdot⟩, hdots⟩, hforbidden⟩ := h
  constructor
  · intro hnil
    rw [String.toList_eq_nil_iff.mp hnil] at hempty
    simp at hempty
  · intro hd
    exact hdot (String.toList_inj.mp hd)
  · intro hd
    exact hdots (String.toList_inj.mp hd)
  · intro hmem
    exact hforbidden _ hmem (by simp [Uid.isForbidden])

/-! ### Lead and body -/

/-- The components of a spelling's body. --/
def names (body : List Char) : List Component := (segments body).filterMap component?

theorem names_nil : names [] = [] := by simp [names, segments, component?]

theorem names_append (x y : List Char) : names (x ++ '/' :: y) = names x ++ names y := by
  rw [names, segments_append, List.filterMap_append]
  rfl

theorem names_slash (y : List Char) : names ('/' :: y) = names y := by
  have := names_append [] y
  rwa [names_nil, List.nil_append, List.nil_append] at this

theorem names_of_isName {name : String} (h : IsName name) : names name.toList = [.normal name] := by
  rw [names, segments_of_notMem h.notMem, List.filterMap_cons, component?_of_isName h, List.filterMap_nil]

/-- The component that a lead stands for. --/
def leadComponents : List Char → List Component
  | ['/'] => [.root]
  | ['.'] => [.current]
  | _ => []

/-- A spelling that starts neither at the root nor with a dot of its own. --/
theorem lead_eq_nil {cs : List Char} (hroot : ∀ rest, cs ≠ '/' :: rest) (hdot : cs ≠ ['.'])
    (hdots : ∀ rest, cs ≠ '.' :: '/' :: rest) : lead cs = [] := by
  unfold lead
  split
  · exact absurd rfl (hroot _)
  · exact absurd rfl hdot
  · exact absurd rfl (hdots _)
  · rfl

/-- A first piece that is a dot is all of the spelling, or a slash follows it. --/
theorem eq_of_segments_dot {cs : List Char} {more : List (List Char)} (h : segments cs = ['.'] :: more) :
    (cs = ['.'] ∧ more = []) ∨ ∃ rest, cs = '.' :: '/' :: rest ∧ more = segments rest := by
  rcases cs with _ | ⟨c, rest⟩
  · simp [segments] at h
  · by_cases hc : c = '/'
    · simp [segments, hc] at h
    · obtain ⟨s, more', hrest⟩ := List.exists_cons_of_ne_nil (segments_ne_nil rest)
      rw [segments_cons_of_ne hc hrest] at h
      obtain ⟨⟨rfl, rfl⟩, rfl⟩ : (c = '.' ∧ s = []) ∧ more' = more := by simpa using h
      rcases rest with _ | ⟨d, rest⟩
      · simp only [segments, List.cons.injEq, true_and] at hrest
        exact Or.inl ⟨rfl, hrest.symm⟩
      · by_cases hd : d = '/'
        · subst hd
          simp only [segments, ↓reduceIte, List.cons.injEq, true_and] at hrest
          exact Or.inr ⟨rest, rfl, hrest.symm⟩
        · obtain ⟨s', more'', hrest'⟩ := List.exists_cons_of_ne_nil (segments_ne_nil rest)
          rw [segments_cons_of_ne hd hrest'] at hrest
          simp at hrest

theorem components_eq (p : Path) : p.components =
    leadComponents (lead p.text.toList) ++ names (p.text.toList.drop (lead p.text.toList).length) := by
  unfold components
  generalize p.text.toList = cs
  split
  · rfl
  · next hroot =>
    split
    · next more hs =>
      rcases eq_of_segments_dot hs with ⟨rfl, rfl⟩ | ⟨rest, rfl, rfl⟩
      · simp [lead, leadComponents, names_nil]
      · simp only [lead, leadComponents, List.length_singleton, List.drop_succ_cons, List.drop_zero, names_slash]
        rfl
    · next hs =>
      have hlead : lead cs = [] := by
        refine lead_eq_nil hroot ?_ ?_
        · rintro rfl
          exact hs [] rfl
        · rintro rest rfl
          exact hs (segments rest) (by simp [segments])
      rw [hlead]
      rfl

/-! ### One more name -/

theorem lead_append {cs : List Char} (h : cs ≠ []) (rest : List Char) : lead (cs ++ '/' :: rest) = lead cs := by
  rcases cs with _ | ⟨c, cs⟩
  · exact absurd rfl h
  · by_cases hroot : c = '/'
    · subst hroot
      rfl
    · by_cases hdot : c = '.'
      · subst hdot
        rcases cs with _ | ⟨d, cs⟩
        · rfl
        · by_cases hd : d = '/'
          · subst hd
            rfl
          · rw [lead_eq_nil, lead_eq_nil] <;> simp [hd]
      · rw [lead_eq_nil, lead_eq_nil] <;> simp [hroot, hdot]

theorem length_lead_le (cs : List Char) : (lead cs).length ≤ cs.length := by
  unfold lead
  split <;> simp

/-- A slash and more after a spelling adds the components of what follows. --/
theorem components_append {cs : List Char} (h : cs ≠ []) (rest : List Char) :
    components ⟨String.ofList (cs ++ '/' :: rest)⟩ = components ⟨String.ofList cs⟩ ++ names rest := by
  rw [components_eq, components_eq, String.toList_ofList, String.toList_ofList, lead_append h,
    List.drop_append_of_le_length (length_lead_le cs), names_append, List.append_assoc]

theorem components_name {name : String} (h : IsName name) : components ⟨name⟩ = [.normal name] := by
  have hlead : lead name.toList = [] := by
    refine lead_eq_nil ?_ h.ne_dot ?_
    · intro rest hr
      exact h.notMem (hr ▸ List.mem_cons_self)
    · intro rest hr
      exact h.notMem (by rw [hr]; simp)
  rw [components_eq, hlead]
  exact names_of_isName h

theorem components_root (rest : List Char) : components ⟨String.ofList ('/' :: rest)⟩ = .root :: names rest := by
  rw [components_eq, String.toList_ofList]
  rfl

theorem components_empty : components ⟨""⟩ = [] := by decide

theorem eq_ofList {p : Path} (cs : List Char) (h : p.text.toList = cs) : p = ⟨String.ofList cs⟩ := by
  rw [← h, String.ofList_toList]

/-- A name that is joined to a path is the last component, after those of the path. --/
theorem components_join (d : Path) {name : String} (h : IsName name) :
    (d.join name).components = d.components ++ [.normal name] := by
  have hhead : name.toList.head? ≠ some '/' := fun hh => h.notMem (List.mem_of_mem_head? hh)
  obtain ⟨cs, hcs⟩ : ∃ cs, d.text.toList = cs := ⟨_, rfl⟩
  unfold join
  rw [if_neg hhead, hcs]
  rcases List.eq_nil_or_concat cs with rfl | ⟨x, c, rfl⟩
  · -- The empty path.
    have hd : d.text = "" := String.toList_eq_nil_iff.mp hcs
    obtain rfl : d = ⟨""⟩ := congrArg Path.mk hd
    rw [List.getLast?_nil, if_pos (Or.inl rfl), String.empty_append, components_name h, components_empty]
    rfl
  · rw [List.concat_eq_append] at hcs ⊢
    rw [List.getLast?_concat]
    by_cases hc : c = '/'
    · -- The path ends with a slash already.
      subst hc
      rw [if_pos (Or.inr rfl), eq_ofList _ hcs,
        eq_ofList (p := ⟨_ ++ name⟩) (x ++ '/' :: name.toList) (by simp)]
      rcases x with _ | ⟨y, x⟩
      · rw [List.nil_append, List.nil_append, components_root, components_root, names_of_isName h, names_nil]
        rfl
      · rw [components_append (List.cons_ne_nil y x), components_append (List.cons_ne_nil y x), names_of_isName h,
          names_nil, List.append_nil]
    · rw [if_neg (by simp [hc]), eq_ofList _ hcs,
        eq_ofList (p := ⟨_ ++ "/" ++ name⟩) (x ++ [c] ++ '/' :: name.toList) (by simp),
        components_append (by simp), names_of_isName h]

/-! ### The last component -/

theorem isName_of_mem_components {p : Path} {name : String} (h : .normal name ∈ p.components) : IsName name := by
  rw [components_eq, List.mem_append] at h
  rcases h with h | h
  · unfold leadComponents at h
    split at h <;> simp at h
  · obtain ⟨s, hs, hc⟩ := List.mem_filterMap.mp h
    exact isName_of_component? (notMem_of_mem_segments hs) hc

/-- The name of a file is one component. --/
theorem isName_of_fileName {p : Path} {name : String} (h : p.fileName = some name) : IsName name := by
  unfold fileName at h
  split at h
  · next s hs =>
    cases h
    exact isName_of_mem_components (List.mem_of_getLast? hs)
  · cases h

theorem fileName_join (d : Path) {name : String} (h : IsName name) : (d.join name).fileName = some name := by
  unfold fileName
  rw [components_join d h, List.getLast?_concat]

theorem same_join_iff {d d' : Path} {n n' : String} (h : IsName n) (h' : IsName n') :
    (d.join n).Same (d'.join n') ↔ d.Same d' ∧ n = n' := by
  unfold Same
  rw [components_join d h, components_join d' h']
  constructor
  · intro heq
    obtain ⟨hd, hn⟩ := List.append_inj' heq rfl
    exact ⟨hd, by simpa using hn⟩
  · rintro ⟨hd, rfl⟩
    rw [hd]

end Path
end AnsibleStaging
