import AnsibleStaging.Proofs.TreeShape

/-! The names that staging gives. A file is named by the last piece of the name that was asked for, and a directory by a
    uid, and both are taken only if they are one component wherever they are joined. So what is named so lies in the
    directory that it is joined to, neither above nor deeper, and the directories of two uids have nothing in common. -/

namespace AnsibleStaging

namespace Path
variable {d p q : Path}

/-! ### Pieces of a spelling -/

theorem segments_eq_splitOn (cs : List Char) : segments cs = cs.splitOn '/' := by
  induction cs with
  | nil => rfl
  | cons c rest ih =>
    rw [List.splitOn_cons_eq_if_modifyHead]
    by_cases hc : c = '/'
    · simp [segments, hc, ih]
    · obtain ⟨s, more, hs⟩ := List.exists_cons_of_ne_nil (segments_ne_nil rest)
      rw [segments_cons_of_ne hc hs, ← ih, hs, if_neg (by simpa using hc), List.modifyHead_cons]

/-- The lead of a spelling has no name in it. --/
theorem names_drop_lead (cs : List Char) : names (cs.drop (lead cs).length) = names cs := by
  rcases lead_cases cs with ⟨rest, rfl, hl⟩ | ⟨rfl, hl⟩ | ⟨rest, rfl, hl⟩ | ⟨-, -, hl⟩
  · rw [hl, names_slash]
    rfl
  · rfl
  · rw [hl, show '.' :: '/' :: rest = ['.'] ++ '/' :: rest from rfl, names_append]
    exact names_slash rest
  · rw [hl]
    rfl

/-- The pieces between the slashes that mean something: those that are neither empty nor a dot. --/
def usable (cs : List Char) : List (List Char) := (cs.splitOn '/').filter fun s => s ≠ [] ∧ s ≠ ['.']

/-- What a usable piece means. --/
def meaning (s : List Char) : Component := if s = ['.', '.'] then .parent else .normal (String.ofList s)

theorem names_eq_usable (cs : List Char) : names cs = (usable cs).map meaning := by
  unfold names usable
  rw [segments_eq_splitOn]
  induction cs.splitOn '/' with
  | nil => rfl
  | cons s more ih =>
    rw [List.filterMap_cons, ih]
    unfold component?
    by_cases hs : s = [] ∨ s = ['.']
    · rw [if_pos hs, List.filter_cons_of_neg (by simpa [or_iff_not_imp_left] using hs)]
    · rw [if_neg hs, List.filter_cons_of_pos (by simpa [not_or] using hs), List.map_cons, meaning]
      by_cases hdots : s = ['.', '.']
      · rw [if_pos hdots, if_pos hdots]
      · rw [if_neg hdots, if_neg hdots]

/-- The lead of a spelling is no name. --/
theorem getLast?_leadComponents_ne (start : List Char) (name : String) :
    (leadComponents start).getLast? ≠ some (.normal name) := by
  unfold leadComponents
  split <;> simp

/-- The last component is what the last usable piece means; without one it is no name. --/
theorem fileName_eq (p : Path) :
    p.fileName = ((usable p.text.toList).getLast?.map String.ofList).filter (· ≠ "..") := by
  unfold fileName
  rw [components_eq, names_drop_lead, names_eq_usable, List.getLast?_append, List.getLast?_map]
  cases (usable p.text.toList).getLast? with
  | none =>
    rw [Option.map_none, Option.none_or]
    split
    · next name hname => exact absurd hname (getLast?_leadComponents_ne _ name)
    · rfl
  | some s =>
    by_cases hs : s = ['.', '.']
    · subst hs
      rfl
    · have hname : String.ofList s ≠ ".." := fun h => hs (by rw [← String.toList_ofList (l := s), h]; rfl)
      simp [meaning, hs, hname, Option.filter_some]

/-- What is joined to a directory has that directory as its parent. --/
theorem parent_join (d : Path) {name : String} (h : IsName name) : ∃ q, (d.join name).parent = some q ∧ q.Same d := by
  have joined := components_join d h
  cases hp : (d.join name).parent with
  | none =>
    rw [components_eq_spelled] at joined
    rcases spelled_of_parentChars_eq_none (Option.map_eq_none_iff.mp hp) with hs | hs <;> rw [hs] at joined
    · exact absurd joined.symm (List.append_ne_nil_of_right_ne_nil _ (List.cons_ne_nil _ _))
    · have lone : [] ++ [Component.root] = d.components ++ [.normal name] := joined
      cases (List.append_inj' lone rfl).2
  | some q =>
    obtain ⟨last, hq⟩ := components_of_parent hp
    exact ⟨q, rfl, (List.append_inj' (hq.symm.trans joined) rfl).1⟩

/-! ### Directories of one depth -/

theorem Above.length_lt (h : d.Above p) : d.components.length < p.components.length :=
  Nat.lt_of_le_of_ne h.begins.length_le fun hlen => h.not_same (h.begins.eq_of_length hlen)

/-- Of the directories that a path goes through there is one of each depth. --/
theorem Above.same_of_length_eq (h : d.Above p) (h' : q.Above p) (hlen : d.components.length = q.components.length) :
    d.Same q :=
  (List.prefix_of_prefix_length_le h.begins h'.begins hlen.le).eq_of_length hlen

end Path

/-! ### Files -/

namespace Staging

/-- The last usable piece of a file name, if there is one. --/
def lastUsable? (filename : String) : Option String := (Path.usable filename.toList).getLast?.map String.ofList

/-- A file name is taken by its last usable piece, unless that leads up. What is taken is one component that names itself,
    and joined to any directory it is a file in that directory. --/
theorem safeFileName_usable (filename : String) : safeFileName filename = (lastUsable? filename).filter (· ≠ "..") ∧
    ∀ name, safeFileName filename = some name →
      (name ≠ "" ∧ '/' ∉ name.toList ∧ name ≠ "." ∧ name ≠ "..") ∧ safeFileName name = some name ∧
      ∀ d : Path, (∃ q, (d.join name).parent = some q ∧ q.Same d) ∧ (d.join name).fileName = some name := by
  refine ⟨Path.fileName_eq _, fun name hname => ?_⟩
  have isName : Path.IsName name := Path.isName_of_fileName hname
  refine ⟨⟨?_, isName.notMem, ?_, ?_⟩, ?_, fun d => ⟨Path.parent_join d isName, Path.fileName_join d isName⟩⟩
  · exact fun h => isName.ne_nil (by rw [h]; rfl)
  · exact fun h => isName.ne_dot (by rw [h]; rfl)
  · exact fun h => isName.ne_dots (by rw [h]; rfl)
  · unfold safeFileName Path.fileName
    rw [Path.components_name isName]
    rfl

/-- A file name that leads up and down again is taken by the name it ends with. --/
theorem safeFileName_usable_traversal : safeFileName "../../etc/./passwd//." = some "passwd" ∧
    safeFileName "passwd" = some "passwd" ∧ ∃ q, ((Path.mk "./run").join "passwd").parent = some q ∧ q.Same ⟨"./run"⟩ := by
  have taken : safeFileName "../../etc/./passwd//." = some "passwd" := by decide +kernel
  obtain ⟨-, again, placed⟩ := (safeFileName_usable "../../etc/./passwd//.").2 _ taken
  exact ⟨taken, again, (placed _).1⟩

/-! ### Directories -/

theorem dir_eq_ok_iff {s : Staging} {uid : Uid} {d : Path} :
    s.dir uid = .ok d ↔ uid.isPathSafe = true ∧ s.base.join uid.text = d := by
  unfold dir
  split
  · next safe => simp [safe]
  · next notSafe => simp [notSafe]

/-- A uid has a directory if it is path safe, and the directory is the one that its text names under the base. So a uid
    has one directory however the base is spelled, and what lies below it lies below no other one. --/
theorem dir_keyed (s : Staging) : (∀ uid, (∃ d, s.dir uid = .ok d) ↔ uid.isPathSafe = true) ∧
    (∀ uid d, s.dir uid = .ok d → d.components = s.base.components ++ [.normal uid.text] ∧
      (∃ q, d.parent = some q ∧ q.Same s.base) ∧ d.fileName = some uid.text) ∧
    ∀ uid uid' d d', s.dir uid = .ok d → s.dir uid' = .ok d' → (d.Same d' ↔ uid = uid') ∧
      (uid ≠ uid' → ¬d.Above d' ∧ ¬d'.Above d ∧ ∀ p, d.Above p → ¬d'.Above p) := by
  refine ⟨fun uid => by simp [dir_eq_ok_iff], fun uid d hd => ?_, fun uid uid' d d' hd hd' => ?_⟩
  · obtain ⟨safe, rfl⟩ := dir_eq_ok_iff.mp hd
    have isName := Path.isName_uid safe
    exact ⟨Path.components_join _ isName, Path.parent_join _ isName, Path.fileName_join _ isName⟩
  · obtain ⟨safe, rfl⟩ := dir_eq_ok_iff.mp hd
    obtain ⟨safe', rfl⟩ := dir_eq_ok_iff.mp hd'
    have sameIff : (s.base.join uid.text).Same (s.base.join uid'.text) ↔ uid = uid' := by
      rw [Path.same_join_iff (Path.isName_uid safe) (Path.isName_uid safe')]
      exact ⟨fun h => congrArg Uid.mk h.2, fun h => ⟨Path.Same.refl _, congrArg Uid.text h⟩⟩
    have depth : (s.base.join uid.text).components.length = (s.base.join uid'.text).components.length := by
      rw [Path.components_join _ (Path.isName_uid safe), Path.components_join _ (Path.isName_uid safe')]
      simp only [List.length_append, List.length_singleton]
    refine ⟨sameIff, fun hne => ⟨fun h => ?_, fun h => ?_, fun p h h' => ?_⟩⟩
    · exact absurd depth h.length_lt.ne
    · exact absurd depth h.length_lt.ne'
    · exact hne (sameIff.mp (h.same_of_length_eq h' depth))

/-- A uid that goes on after another one, and one that differs by a blank, have directories of their own. --/
theorem dir_keyed_alike : let s : Staging := ⟨⟨"./work//."⟩⟩
    s.dir ⟨"run"⟩ = .ok ⟨"./work//./run"⟩ ∧ s.dir ⟨"run "⟩ = .ok ⟨"./work//./run "⟩ ∧
      (Path.mk "./work//./run").fileName = some "run" ∧ ¬(Path.mk "./work//./run").Above ⟨"./work//./run "⟩ := by
  intro s
  have hd : s.dir ⟨"run"⟩ = .ok ⟨"./work//./run"⟩ := by decide +kernel
  have hd' : s.dir ⟨"run "⟩ = .ok ⟨"./work//./run "⟩ := by decide +kernel
  exact ⟨hd, hd', ((dir_keyed s).2.1 _ _ hd).2.2, (((dir_keyed s).2.2 _ _ _ _ hd hd').2 (by decide)).1⟩

end Staging
end AnsibleStaging
