import AnsibleStaging.Proofs.HostFiles
import AnsibleStaging.Proofs.Results

/-! Where paths lead in a host's tree. A path that leads to a place still leads there when there are more directories, so
    what has been made stays within reach. The last piece of a path is looked up in the directory that the pieces before
    it lead to, and it is the name of the file if the path has one. Without steps upwards, the place has one name for
    each name in the path. -/

namespace AnsibleStaging

/-! ### Pieces and components -/

namespace Path

/-- What a path means besides its lead is what its pieces mean. --/
theorem components_eq_names (p : Path) :
    p.components = leadComponents (lead p.text.toList) ++ names p.text.toList := by
  rw [components_eq]
  congr 1
  generalize p.text.toList = cs
  have hdot : names ['.'] = [] := by simp [names, segments, component?]
  rcases lead_cases cs with ⟨rest, rfl, h⟩ | ⟨rfl, h⟩ | ⟨rest, rfl, h⟩ | ⟨-, -, h⟩
  · rw [h]
    exact (names_slash rest).symm
  · rw [h, hdot]
    exact names_nil
  · have hrest := names_append ['.'] rest
    rw [hdot] at hrest
    rw [h]
    exact (names_slash rest).trans hrest.symm
  · rw [h]
    rfl

theorem component?_eq_parent {cs : List Char} : component? cs = some .parent ↔ cs = ['.', '.'] := by
  unfold component?
  split
  · next h => rcases h with rfl | rfl <;> simp
  · split
    · next h => simp [h]
    · next h => simpa using h

theorem parent_mem_components {p : Path} : .parent ∈ p.components ↔ ['.', '.'] ∈ segments p.text.toList := by
  have hlead : Component.parent ∉ leadComponents (lead p.text.toList) := by
    unfold leadComponents
    split <;> simp
  rw [components_eq_names, List.mem_append, or_iff_right hlead, names, List.mem_filterMap]
  constructor
  · rintro ⟨s, hs, hc⟩
    rwa [component?_eq_parent.mp hc] at hs
  · exact fun h => ⟨_, h, component?_eq_parent.mpr rfl⟩

/-- A component that is neither a name nor a step upwards is the first. --/
theorem components_concat {p : Path} {cs : List Component} {c : Component} (h : p.components = cs ++ [c]) :
    (∃ name, c = .normal name) ∨ c = .parent ∨ cs = [] := by
  rw [components_eq_names] at h
  rcases List.eq_nil_or_concat' (names p.text.toList) with hnil | ⟨before, last, hlast⟩
  · rw [hnil, List.append_nil] at h
    have hlength : (leadComponents (lead p.text.toList)).length ≤ 1 := by
      unfold leadComponents
      split <;> simp
    rw [h, List.length_append] at hlength
    exact Or.inr (Or.inr (List.eq_nil_of_length_eq_zero (by simpa using hlength)))
  · rw [hlast, ← List.append_assoc] at h
    obtain rfl : last = c := by simpa using (List.append_inj' h rfl).2
    obtain ⟨s, -, hs⟩ := List.mem_filterMap.mp (hlast ▸ List.mem_append_right before List.mem_cons_self)
    unfold component? at hs
    split at hs
    · cases hs
    · split at hs
      · cases hs
        exact Or.inr (Or.inl rfl)
      · cases hs
        exact Or.inl ⟨_, rfl⟩

theorem components_eq_nil {p : Path} : p.components = [] ↔ p.isEmpty = true := by
  rw [components_eq_spelled, spelled_eq_nil_iff, isEmpty, String.isEmpty_iff, String.toList_eq_nil_iff]

theorem isAbsolute_iff {p : Path} : p.isAbsolute = true ↔ ∃ cs, p.components = .root :: cs := by
  rw [components_eq_names, isAbsolute]
  generalize p.text.toList = cs
  constructor
  · intro h
    cases cs with
    | nil => cases h
    | cons c rest =>
      obtain rfl : c = '/' := by simpa using h
      exact ⟨_, rfl⟩
  · rintro ⟨more, h⟩
    have hroot : Component.root ∉ names cs := fun hmem => by
      obtain ⟨s, -, hs⟩ := List.mem_filterMap.mp hmem
      unfold component? at hs
      split at hs
      · cases hs
      · split at hs <;> cases hs
    rcases lead_cases cs with ⟨rest, rfl, -⟩ | ⟨rfl, hlead⟩ | ⟨rest, rfl, hlead⟩ | ⟨-, -, hlead⟩
    · rfl
    · rw [hlead] at h
      cases h
    · rw [hlead] at h
      cases h
    · rw [hlead] at h
      have hnames : names cs = .root :: more := h
      exact absurd (hnames ▸ List.mem_cons_self) hroot

/-- The names of a path, one after the other. --/
def nameOf? : Component → Option String
  | .normal s => some s
  | _ => none

theorem names_filterMap_nameOf? {l : List (List Char)} (h : ['.', '.'] ∉ l) :
    (l.filterMap component?).filterMap nameOf? = (l.map String.ofList).filter fun s => s ≠ "" ∧ s ≠ "." := by
  induction l with
  | nil => rfl
  | cons s rest ih =>
    obtain ⟨hs, hrest⟩ := not_or.mp (mt List.mem_cons.mpr h)
    rw [List.map_cons, List.filter_cons, ← ih hrest, List.filterMap_cons]
    have hempty : String.ofList s = "" ↔ s = [] := by rw [← String.toList_inj, String.toList_ofList]; rfl
    have hdot : String.ofList s = "." ↔ s = ['.'] := by rw [← String.toList_inj, String.toList_ofList]; rfl
    by_cases hidle : s = [] ∨ s = ['.']
    · have hname : component? s = none := if_pos hidle
      rw [hname, if_neg (by simp only [ne_eq, hempty, hdot, decide_eq_true_eq]; tauto)]
    · have hname : component? s = some (.normal (String.ofList s)) := by
        rw [component?, if_neg hidle, if_neg fun h => hs h.symm]
      rw [hname, if_pos (by simp only [ne_eq, hempty, hdot, decide_eq_true_eq]; tauto)]
      rfl

end Path

namespace HostTree
open AnsibleStaging.Path

variable {t u : HostTree} {p : Path} {place base : List String} {name : String} {w : Target}

theorem pieces_join (d : Path) (h : IsName name) : ∃ before, pieces (d.join name) = before ++ [name] := by
  have hlast : (segments name.toList).map String.ofList = [name] := by
    rw [segments_of_notMem h.notMem, List.map_singleton, String.ofList_toList]
  have hslash : ∀ cs : List Char, ((segments (cs ++ '/' :: name.toList)).map String.ofList) =
      (segments cs).map String.ofList ++ [name] := fun cs => by
    rw [segments_append, List.map_append, hlast]
  have hhead : name.toList.head? ≠ some '/' := fun hh => h.notMem (List.mem_of_mem_head? hh)
  unfold pieces join
  rw [if_neg hhead]
  split
  · rcases List.eq_nil_or_concat' d.text.toList with hnil | ⟨cs, c, hc⟩
    · exact ⟨[], by rw [String.toList_append, hnil]; exact hlast⟩
    · have hend : c = '/' := by
        have hopen : d.text.toList.getLast? = none ∨ d.text.toList.getLast? = some '/' := by assumption
        simpa [hc] using hopen
      refine ⟨(segments cs).map String.ofList, ?_⟩
      rw [String.toList_append, hc, hend, List.append_assoc, List.singleton_append]
      exact hslash cs
  · refine ⟨(segments d.text.toList).map String.ofList, ?_⟩
    rw [String.toList_append, String.toList_append, List.append_assoc]
    exact hslash d.text.toList

/-! ### Walking -/

theorem requireDir_eq_ok : t.requireDir place = .ok () ↔ ∃ m, t.get? place = some (.dir m) := by
  unfold requireDir
  rcases t.get? place with _ | (m | ⟨data, m⟩) <;> simp

theorem walk_append (t : HostTree) (base first rest : List String) :
    t.walk base (first ++ rest) = (t.walk base first).bind fun place => t.walk place rest := by
  induction first generalizing base with
  | nil => rfl
  | cons piece more ih =>
    rw [List.cons_append, walk, walk]
    cases t.requireDir base with
    | error e => rfl
    | ok _ =>
      simp only [bind, Except.bind]
      split
      · exact ih base
      · split
        · exact ih base.dropLast
        · split
          · rfl
          · exact ih (base ++ [piece])

/-- Pieces that mean nothing lead nowhere else. --/
theorem walk_blank {l : List String} (hl : ∀ s ∈ l, s = "") (h : t.requireDir base = .ok ()) :
    t.walk base l = .ok base := by
  induction l with
  | nil => rfl
  | cons s rest ih =>
    rw [walk, h, if_pos (Or.inl (hl s List.mem_cons_self))]
    exact ih fun s hs => hl s (List.mem_cons_of_mem _ hs)

theorem walk_single (h : t.requireDir base = .ok ()) (hempty : name ≠ "") (hdot : isDot name = false)
    (hlength : HostLimits.exceeds t.limits.name name = false) : t.walk base [name] = .ok (base ++ [name]) := by
  simp only [isDot, Bool.or_eq_false_iff, beq_eq_false_iff_ne] at hdot
  rw [walk, h, if_neg (not_or.mpr ⟨hempty, hdot.1⟩), if_neg hdot.2, if_neg (by simp [hlength])]
  rfl

/-- Without steps upwards, each name is one more name of the place. --/
theorem walk_eq {l : List String} (h : t.walk base l = .ok place) (hdots : ".." ∉ l) :
    place = base ++ l.filter fun s => s ≠ "" ∧ s ≠ "." := by
  induction l generalizing base with
  | nil =>
    cases h
    simp
  | cons s rest ih =>
    obtain ⟨hs, hrest⟩ := not_or.mp (mt List.mem_cons.mpr hdots)
    rw [walk] at h
    obtain ⟨_, -, h⟩ := eq_ok_of_bind h
    by_cases hidle : s = "" ∨ s = "."
    · rw [if_pos hidle] at h
      rw [List.filter_cons_of_neg (by simp only [decide_eq_true_eq]; tauto)]
      exact ih h hrest
    · rw [if_neg hidle, if_neg fun heq => hs heq.symm] at h
      rw [List.filter_cons_of_pos (by simp only [decide_eq_true_eq]; tauto)]
      split at h
      · cases h
      · rw [ih h hrest, List.append_assoc]
        rfl

/-! ### The last piece -/

theorem resolve_eq_ok : t.resolve p = .ok place ↔ t.inspect p = .ok () ∧ t.walk (t.start p) (pieces p) = .ok place := by
  rw [resolve]
  constructor
  · intro h
    obtain ⟨_, hinspect, h⟩ := eq_ok_of_bind h
    exact ⟨hinspect, eq_ok_of_mapError h⟩
  · rintro ⟨hinspect, hwalk⟩
    rw [hinspect, hwalk]
    rfl

/-- The last piece that is not empty is looked up where the pieces before it lead to. --/
theorem target?_eq_some : t.target? p = .ok (some w) ↔
    t.inspect p = .ok () ∧ ∃ before, (pieces p).reverse.dropWhile (· == "") = w.name :: before ∧
      t.walk (t.start p) before.reverse = .ok w.parent ∧ t.requireDir w.parent = .ok () ∧
      ¬(w.name ≠ "." ∧ w.name ≠ ".." ∧ HostLimits.exceeds t.limits.name w.name) ∧
      w.slashed = ((pieces p).reverse.head? == some "") := by
  rw [target?]
  constructor
  · intro h
    obtain ⟨_, hinspect, h⟩ := eq_ok_of_bind h
    refine ⟨hinspect, ?_⟩
    dsimp only at h
    split at h
    · cases h
    · next name before hpieces =>
      obtain ⟨parent, hwalk, h⟩ := eq_ok_of_bind h
      obtain ⟨_, hdir, h⟩ := eq_ok_of_bind h
      split at h
      · cases h
      · next hlength =>
        cases h
        exact ⟨before, hpieces, eq_ok_of_mapError hwalk, eq_ok_of_mapError hdir, hlength, rfl⟩
  · rintro ⟨hinspect, before, hpieces, hwalk, hdir, hlength, hslashed⟩
    rw [hinspect]
    simp only [bind, Except.bind]
    split
    · next hnil =>
      rw [hpieces] at hnil
      cases hnil
    · next name before' hcons =>
      rw [hpieces] at hcons
      cases hcons
      rw [hwalk]
      simp only [Except.mapError]
      rw [hdir]
      simp only [if_neg hlength]
      rw [← hslashed]

/-- The pieces of a path whose last piece is found, the ones behind it empty. --/
theorem pieces_of_target? (h : t.target? p = .ok (some w)) : ∃ before blanks, pieces p = before ++ w.name :: blanks ∧
    (∀ s ∈ blanks, s = "") ∧ w.name ≠ "" ∧ t.walk (t.start p) before = .ok w.parent ∧
      (w.slashed = false → blanks = []) := by
  obtain ⟨-, before, hpieces, hwalk, -, -, hslashed⟩ := target?_eq_some.mp h
  have hsplit := List.takeWhile_append_dropWhile (p := (· == "")) (l := (pieces p).reverse)
  refine ⟨before.reverse, ((pieces p).reverse.takeWhile (· == "")).reverse, ?_, fun s hs => ?_, ?_, hwalk,
    fun hopen => ?_⟩
  · rw [hpieces] at hsplit
    simpa using (congrArg List.reverse hsplit).symm
  · simpa using List.all_eq_true.mp List.all_takeWhile s (List.mem_reverse.mp hs)
  · have hfirst := List.head?_dropWhile_not (· == "") (pieces p).reverse
    rw [hpieces] at hfirst
    simpa using hfirst
  · rw [hopen] at hslashed
    cases hback : (pieces p).reverse with
    | nil => rfl
    | cons s rest =>
      rw [hback] at hslashed
      have hs : (s == "") = false := by simpa using hslashed.symm
      rw [List.takeWhile_cons, hs]
      rfl

/-- Where the last piece is looked up, the path leads to. --/
theorem resolve_of_target? (h : t.target? p = .ok (some w)) (hdot : isDot w.name = false)
    (hend : w.slashed = true → t.requireDir (w.parent ++ [w.name]) = .ok ()) :
    t.resolve p = .ok (w.parent ++ [w.name]) := by
  obtain ⟨hinspect, -, -, -, hdir, hlength, -⟩ := target?_eq_some.mp h
  obtain ⟨before, blanks, hpieces, hblanks, hempty, hwalk, hopen⟩ := pieces_of_target? h
  have hshort : HostLimits.exceeds t.limits.name w.name = false := by
    simp only [isDot, Bool.or_eq_false_iff, beq_eq_false_iff_ne] at hdot
    simpa [hdot.1, hdot.2] using hlength
  have hblank : t.walk (w.parent ++ [w.name]) blanks = .ok (w.parent ++ [w.name]) := by
    cases hslashed : w.slashed with
    | true => exact walk_blank hblanks (hend hslashed)
    | false => rw [hopen hslashed, walk]
  refine resolve_eq_ok.mpr ⟨hinspect, ?_⟩
  rw [hpieces, walk_append, hwalk]
  change t.walk w.parent ([w.name] ++ blanks) = _
  rw [walk_append, walk_single hdir hempty hdot hshort]
  exact hblank

/-- What is made of the last piece of a path has succeeded, so there is one and it is no dot. --/
theorem ok_of_target? {none' dots : IoError} {f : Target → Except IoError HostTree}
    (h : (t.target? p >>= fun found => match found with
      | none => .error none'
      | some w => if isDot w.name then .error dots else f w) = .ok u) :
    ∃ w, t.target? p = .ok (some w) ∧ isDot w.name = false ∧ f w = .ok u := by
  obtain ⟨found, htarget, h⟩ := eq_ok_of_bind h
  cases found with
  | none => cases h
  | some w =>
    dsimp only at h
    split at h
    · cases h
    · next hdot => exact ⟨w, htarget, by simpa using hdot, h⟩

/-- A last piece that is a name is the name of the file. --/
theorem fileName_of_target? (h : t.target? p = .ok (some w)) (hdot : isDot w.name = false) :
    p.fileName = some w.name := by
  obtain ⟨before, blanks, hpieces, hblanks, hempty, -⟩ := pieces_of_target? h
  have hsegments : segments p.text.toList = before.map String.toList ++ w.name.toList :: blanks.map String.toList := by
    have hlists := congrArg (List.map String.toList) hpieces
    rw [pieces, List.map_map, List.map_append, List.map_cons] at hlists
    rw [← hlists]
    exact (List.map_id'' (fun s => String.toList_ofList) _).symm
  have hblank : (blanks.map String.toList).filterMap component? = [] := by
    refine List.filterMap_eq_nil_iff.mpr fun s hs => ?_
    obtain ⟨b, hb, rfl⟩ := List.mem_map.mp hs
    rw [hblanks b hb]
    rfl
  have hmem : w.name.toList ∈ segments p.text.toList := by simp [hsegments]
  have hname : IsName w.name := by
    simp only [isDot, Bool.or_eq_false_iff, beq_eq_false_iff_ne] at hdot
    exact ⟨fun heq => hempty (String.toList_inj.mp heq), fun heq => hdot.1 (String.toList_inj.mp heq),
      fun heq => hdot.2 (String.toList_inj.mp heq), notMem_of_mem_segments hmem⟩
  have hlast : p.components.getLast? = some (.normal w.name) := by
    rw [components_eq_names, names, hsegments, List.filterMap_append, List.filterMap_cons, component?_of_isName hname,
      hblank]
    dsimp only
    rw [← List.append_assoc]
    exact List.getLast?_concat
  rw [fileName, hlast]

/-- What is joined to a path is the last name of its place. --/
theorem resolve_join {d : Path} (hname : IsName name) (h : t.resolve (d.join name) = .ok place) :
    ∃ dir, place = dir ++ [name] := by
  obtain ⟨before, hpieces⟩ := pieces_join d hname
  obtain ⟨-, hwalk⟩ := resolve_eq_ok.mp h
  rw [hpieces, walk_append] at hwalk
  obtain ⟨dir, -, hlast⟩ := eq_ok_of_bind hwalk
  refine ⟨dir, ?_⟩
  have hempty : name ≠ "" := fun heq => hname.ne_nil (by rw [heq]; rfl)
  have hdot : name ≠ "." := fun heq => hname.ne_dot (by rw [heq]; rfl)
  have hdots : ".." ∉ [name] := fun hmem => hname.ne_dots (by rw [← List.mem_singleton.mp hmem]; rfl)
  rw [walk_eq hlast hdots]
  simp [hempty, hdot]

/-- Without steps upwards, a path leads to the place that its names spell. --/
theorem resolve_eq (h : t.resolve p = .ok place) (hdots : Component.parent ∉ p.components) :
    place = t.start p ++ p.components.filterMap nameOf? := by
  have hsegments : ['.', '.'] ∉ segments p.text.toList := mt parent_mem_components.mpr hdots
  have hpieces : ".." ∉ pieces p := fun hmem => by
    obtain ⟨s, hs, heq⟩ := List.mem_map.mp hmem
    rw [← String.toList_inj, String.toList_ofList] at heq
    rw [heq] at hs
    exact hsegments hs
  have hlead : (leadComponents (lead p.text.toList)).filterMap nameOf? = [] := by
    unfold leadComponents
    split <;> rfl
  rw [walk_eq (resolve_eq_ok.mp h).2 hpieces, components_eq_names, List.filterMap_append, hlead, List.nil_append, names,
    names_filterMap_nameOf? hsegments]
  rfl

/-! ### More directories -/

/-- Each directory of one tree is a directory of the other, so paths lead to the same places. --/
structure Leads (t u : HostTree) : Prop where
  limits : u.limits = t.limits
  current : u.current = t.current
  dirs : ∀ place m, t.get? place = some (.dir m) → ∃ m', u.get? place = some (.dir m')

namespace Leads

theorem requireDir (h : Leads t u) (hdir : t.requireDir place = .ok ()) : u.requireDir place = .ok () := by
  obtain ⟨m, hm⟩ := requireDir_eq_ok.mp hdir
  exact requireDir_eq_ok.mpr (h.dirs place m hm)

theorem walk (h : Leads t u) {l : List String} (hwalk : t.walk base l = .ok place) : u.walk base l = .ok place := by
  induction l generalizing base with
  | nil => exact hwalk
  | cons piece rest ih =>
    rw [HostTree.walk] at hwalk ⊢
    obtain ⟨_, hdir, hwalk⟩ := eq_ok_of_bind hwalk
    rw [h.requireDir hdir, h.limits]
    simp only [bind, Except.bind]
    split at hwalk
    · next hidle =>
      rw [if_pos hidle]
      exact ih hwalk
    · next hidle =>
      rw [if_neg hidle]
      split at hwalk
      · next hdots =>
        rw [if_pos hdots]
        exact ih hwalk
      · next hdots =>
        rw [if_neg hdots]
        split at hwalk
        · cases hwalk
        · next hlength =>
          rw [if_neg hlength]
          exact ih hwalk

theorem inspect (h : Leads t u) (p : Path) : u.inspect p = t.inspect p := by
  unfold HostTree.inspect
  rw [h.limits]

theorem start (h : Leads t u) (p : Path) : u.start p = t.start p := by
  unfold HostTree.start
  rw [h.current]

theorem resolve (h : Leads t u) (hplace : t.resolve p = .ok place) : u.resolve p = .ok place := by
  obtain ⟨hinspect, hwalk⟩ := resolve_eq_ok.mp hplace
  rw [← h.inspect] at hinspect
  rw [← h.start] at hwalk
  exact resolve_eq_ok.mpr ⟨hinspect, h.walk hwalk⟩

theorem target? (h : Leads t u) (hw : t.target? p = .ok (some w)) : u.target? p = .ok (some w) := by
  obtain ⟨hinspect, before, hpieces, hwalk, hdir, hlength, hslashed⟩ := target?_eq_some.mp hw
  rw [← h.inspect] at hinspect
  rw [← h.start] at hwalk
  rw [← h.limits] at hlength
  exact target?_eq_some.mpr ⟨hinspect, before, hpieces, h.walk hwalk, h.requireDir hdir, hlength, hslashed⟩

end Leads

end HostTree
end AnsibleStaging
