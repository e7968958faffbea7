import AnsibleStaging.Proofs.TreeShape
import Mathlib.Data.List.Nodup

/-! What a tree means. A place is a row of components, and a tree is a map from places to nodes: how a path is spelled
    decides neither what a call does nor whether it fails. On the places each call is said in one line, and a tree that
    calls have built does the same. So what is read at a path is what was last written at its place. -/

namespace AnsibleStaging

/-- What stands at each place. --/
abbrev Places := List Component → Option Node

namespace Places

def isFile (f : Places) (c : List Component) : Bool := (f c).elim false fun n => !n.isDir

def isDir (f : Places) (c : List Component) : Bool := (f c).elim false Node.isDir

/-- The places on the way to a place, and the place itself: its beginnings but for the empty one. --/
def way (c : List Component) : List (List Component) := c.inits.tail

/-- Makes a directory wherever one is missing on the way to a place, unless a file is in the way. --/
def makeDirs (f : Places) (c : List Component) (mode : FileMode) : Option Places :=
  if (way c).any f.isFile then none
  else some fun d => if f d = none ∧ d ∈ way c then some (.dir mode) else f d

/-- Replaces the file at a place, unless a directory is there or a file is in the way. --/
def write (f : Places) (c : List Component) (data : ByteArray) (mode : FileMode) : Option Places :=
  if f.isDir c then none
  else (f.makeDirs c.dropLast .privateDirectory).map fun g d => if c = d then some (.file data mode) else g d

end Places

namespace Path
open Places

theorem map_dirs (p : Path) : p.dirs.map components = way p.components := components_ancestors p

theorem parentDirs_eq (p : Path) : p.parentDirs = (p.ancestors.tail.filter fun a => !a.isEmpty).reverse := by
  unfold parentDirs dirs parent ancestors
  rw [ancestorChars]
  cases hp : parentChars p.text.toList with
  | none => rfl
  | some ps => simp

theorem map_parentDirs (p : Path) : p.parentDirs.map components = way p.components.dropLast := by
  unfold parentDirs
  cases hp : p.parent with
  | none =>
    rcases spelled_of_parentChars_eq_none (Option.map_eq_none_iff.mp hp) with h | h <;>
      rw [components_eq_spelled, h] <;> rfl
  | some q =>
    obtain ⟨c, hc⟩ := components_of_parent hp
    rw [Option.elim_some, map_dirs, hc, List.dropLast_concat]

end Path

namespace MemTree
variable {t : MemTree} {p : Path} {mode : FileMode} {data : ByteArray} {ds : List Path} {c : List Component}

def places (t : MemTree) : Places := fun c => (t.entries.find? fun e => decide (e.1.components = c)).map (·.2)

theorem get?_eq_places (t : MemTree) (p : Path) : t.get? p = t.places p.components := rfl

theorem places_insert (t : MemTree) (p : Path) (n : Node) (c : List Component) :
    (t.insert p n).places c = if p.components = c then some n else t.places c := find?_put p n t.entries c

theorem isFile_places : t.places.isFile p.components = true ↔ t.kind p = some false := by
  unfold Places.isFile kind
  rw [get?_eq_places]
  cases t.places p.components <;> simp

theorem isDir_places : t.places.isDir p.components = true ↔ t.kind p = some true := isDir_eq_true_iff

/-! ### Making directories -/

theorem makeMissing_ok_iff : (makeMissing mode ds t).1 = .ok () ↔ ∀ d ∈ ds, t.kind d ≠ some false := by
  constructor
  · intro h d hd hfile
    have grown : Grows (fun _ => False) t (makeMissing mode ds t).2 := grows_makeMissing mode ds t
    have still := grown.kinds d false hfile
    rw [kind_makeMissing h, if_pos ⟨d, hd, Path.Same.refl d⟩] at still
    cases still
  · intro h
    cases hr : (makeMissing mode ds t).1 with
    | ok => rfl
    | error e =>
      obtain ⟨d, hd, hfile⟩ := file_of_makeMissing_error hr
      exact absurd hfile (h d hd)

theorem places_makeMissing (h : (makeMissing mode ds t).1 = .ok ()) (c : List Component) :
    (makeMissing mode ds t).2.places c =
      if t.places c = none ∧ c ∈ ds.map Path.components then some (.dir mode) else t.places c := by
  induction ds generalizing t with
  | nil => simp [makeMissing]
  | cons d rest ih =>
    unfold makeMissing at h ⊢
    split at h
    · next m hd =>
      -- A directory is there already.
      rw [get?_eq_places] at hd
      simp only [ih h, List.map_cons, List.mem_cons]
      by_cases hc : c = d.components
      · simp [hc, hd]
      · simp [hc]
    · cases h
    · next hd =>
      rw [get?_eq_places] at hd
      simp only [ih h, places_insert, List.map_cons, List.mem_cons]
      by_cases hc : d.components = c
      · subst hc
        simp [hd]
      · simp [hc, Ne.symm hc]

/-- The call does to the tree what is to be done to its places; otherwise it fails and the tree stays as it was. --/
def Performs (t : MemTree) (r : Except IoError Unit × MemTree) : Option Places → Prop
  | some f => r.1 = .ok () ∧ r.2.places = f
  | none => (∃ e, r.1 = .error e) ∧ r.2 = t

theorem exists_error_of_ne_ok {r : Except IoError Unit} (h : r ≠ .ok ()) : ∃ e, r = .error e := by
  cases r with
  | ok => exact absurd rfl h
  | error e => exact ⟨e, rfl⟩

/-- Directories are made for paths as their places are made. --/
theorem makeMissing_cases (t : MemTree) (mode : FileMode) (hds : ds.map Path.components = Places.way c) :
    (t.places.makeDirs c mode = none ∧ (makeMissing mode ds t).1 ≠ .ok ()) ∨
      ((makeMissing mode ds t).1 = .ok () ∧ t.places.makeDirs c mode = some (makeMissing mode ds t).2.places) := by
  unfold Places.makeDirs
  split
  · next hblocked =>
    refine Or.inl ⟨rfl, fun hok => ?_⟩
    obtain ⟨d, hd, hfile⟩ := List.any_eq_true.mp hblocked
    rw [← hds] at hd
    obtain ⟨p, hp, rfl⟩ := List.mem_map.mp hd
    exact makeMissing_ok_iff.mp hok p hp (isFile_places.mp hfile)
  · next hfree =>
    have hok : (makeMissing mode ds t).1 = .ok () := makeMissing_ok_iff.mpr fun d hd hfile =>
      hfree (List.any_eq_true.mpr ⟨d.components, hds ▸ List.mem_map_of_mem hd, isFile_places.mpr hfile⟩)
    refine Or.inr ⟨hok, ?_⟩
    congr 1
    funext d
    rw [places_makeMissing hok, hds]

theorem performs_makeDirs (hc : t.Closed) (p : Path) (mode : FileMode) :
    Performs t (makeDirs p mode t) (t.places.makeDirs p.components mode) := by
  rcases makeMissing_cases t mode p.map_dirs with ⟨hspec, hfails⟩ | ⟨hok, hspec⟩
  · rw [hspec]
    obtain ⟨e, he⟩ := exists_error_of_ne_ok hfails
    exact ⟨⟨e, he⟩, hc.makeDirs_error he⟩
  · rw [hspec]
    exact ⟨hok, rfl⟩

/-! ### Writing -/

theorem performs_write (hc : t.Closed) (p : Path) (data : ByteArray) (mode : FileMode) :
    Performs t (write p data mode t) (t.places.write p.components data mode) := by
  have fails : (write p data mode t).1 ≠ .ok () → Performs t (write p data mode t) none := fun h => by
    obtain ⟨e, he⟩ := exists_error_of_ne_ok h
    exact ⟨⟨e, he⟩, hc.write_error he⟩
  unfold Places.write
  split
  · next hdir => exact fails fun hok => (write_ok_iff.mp hok).1 (isDir_places.mp hdir)
  · next hdir =>
    rcases makeMissing_cases t .privateDirectory p.map_parentDirs with ⟨hspec, hno⟩ | ⟨hmade, hspec⟩
    · rw [hspec]
      exact fails fun hok => hno (write_ok_iff.mp hok).2
    · have hok : (write p data mode t).1 = .ok () :=
        write_ok_iff.mpr ⟨fun hd => hdir (isDir_places.mpr hd), hmade⟩
      rw [hspec]
      refine ⟨hok, ?_⟩
      rw [write_of_ok hok]
      funext d
      exact places_insert _ _ _ d

/-! ### Reading -/

inductive FileCall where
  | makeDirs (p : Path) (mode : FileMode)
  | write (p : Path) (data : ByteArray) (mode : FileMode)
  | read (p : Path)

/-- The tree that some calls have built, of which the latest stands first. --/
def after : List FileCall → MemTree
  | [] => empty
  | .makeDirs p mode :: earlier => (makeDirs p mode (after earlier)).2
  | .write p data mode :: earlier => (write p data mode (after earlier)).2
  | .read p :: earlier => (read p (after earlier)).2

/-- The bytes of the latest successful write at the place of a path. --/
def latestWrite (p : Path) : List FileCall → Option ByteArray
  | [] => none
  | .write q data mode :: earlier =>
    if q.Same p ∧ (write q data mode (after earlier)).1.isOk then some data else latestWrite p earlier
  | _ :: earlier => latestWrite p earlier

theorem reached_after (history : List FileCall) : (after history).Reached := by
  induction history with
  | nil => exact .empty
  | cons call earlier ih =>
    cases call with
    | makeDirs p mode => exact .makeDirs p mode ih
    | write p data mode => exact .write p data mode ih
    | read p =>
      rw [after, read_snd]
      exact ih

theorem toOption_read (p : Path) (t : MemTree) : (read p t).1.toOption = t.contents p := by
  unfold read contents
  rcases t.get? p with _ | (m | ⟨d, m⟩) <;> rfl

theorem read_notFound_iff : (∃ e, (read p t).1 = .error e ∧ e.kind = .notFound) ↔ t.get? p = none := by
  unfold read
  rcases t.get? p with _ | (m | ⟨d, m⟩) <;> simp [IoError.kind]

theorem contents_makeDirs (p q : Path) (mode : FileMode) (t : MemTree) :
    (makeDirs q mode t).2.contents p = t.contents p := by
  have grown : Grows (fun _ => True) t (makeDirs q mode t).2 := grows_makeMissing mode q.dirs t
  exact grown.contents p trivial

/-- What stands as a file at a place is what was last written there. --/
theorem contents_after (p : Path) (history : List FileCall) : (after history).contents p = latestWrite p history := by
  induction history with
  | nil => rfl
  | cons call earlier ih =>
    cases call with
    | makeDirs q mode => exact (contents_makeDirs p q mode _).trans ih
    | read q =>
      rw [after, read_snd]
      exact ih
    | write q data mode =>
      rw [after, latestWrite]
      split
      · next h =>
        obtain ⟨hs, hok⟩ := h
        have written : (write q data mode (after earlier)).1 = .ok () := by
          cases hr : (write q data mode (after earlier)).1 with
          | ok => rfl
          | error e =>
            rw [hr] at hok
            cases hok
        rw [contents, get?_write written hs]
        rfl
      · next h =>
        rw [← ih]
        by_cases hs : q.Same p
        · -- The write failed, so it has changed nothing.
          have failed : ∃ e, (write q data mode (after earlier)).1 = .error e :=
            exists_error_of_ne_ok fun hok => h ⟨hs, by rw [hok]; rfl⟩
          obtain ⟨e, he⟩ := failed
          rw [(reached_after earlier).closed.write_error he]
        · have grown : Grows (fun r => ¬q.Same r) (after earlier) (write q data mode (after earlier)).2 :=
            grows_write data mode _ fun _ => id
          exact grown.contents p hs

/-! ### Files -/

theorem Ordered.files (h : t.Ordered) : t.files.Pairwise fun a b => a.components < b.components :=
  List.pairwise_map.mpr (h.sublist List.filter_sublist)

theorem exists_mem_of_places {n : Node} (h : t.places c = some n) : ∃ p, (p, n) ∈ t.entries ∧ p.components = c := by
  obtain ⟨⟨p, m⟩, hfound, rfl⟩ := Option.map_eq_some_iff.mp h
  exact ⟨p, List.mem_of_find?_eq_some hfound, by simpa using List.find?_some hfound⟩

/-- Of entries in order, each stands at its place. --/
theorem Ordered.places_of_mem (h : t.Ordered) {n : Node} (hmem : (p, n) ∈ t.entries) :
    t.places p.components = some n := by
  have distinct : (t.entries.map fun e => e.1.components).Nodup :=
    List.pairwise_map.mpr (List.Pairwise.imp Path.not_same_of_lt h)
  cases hf : t.places p.components with
  | none =>
    have absent := List.find?_eq_none.mp (Option.map_eq_none_iff.mp hf) _ hmem
    simp at absent
  | some m =>
    obtain ⟨q, hq, hs⟩ := exists_mem_of_places hf
    rw [(Prod.mk.inj (List.inj_on_of_nodup_map distinct hq hmem hs)).2]

theorem mem_files : p ∈ t.files ↔ ∃ data mode, (p, .file data mode) ∈ t.entries := by
  unfold files
  rw [List.mem_map]
  constructor
  · rintro ⟨⟨q, n⟩, hmem, rfl⟩
    obtain ⟨hmem, hfile⟩ := List.mem_filter.mp hmem
    cases n with
    | dir m => cases hfile
    | file data mode => exact ⟨data, mode, hmem⟩
  · rintro ⟨data, mode, hmem⟩
    exact ⟨_, List.mem_filter.mpr ⟨hmem, rfl⟩, rfl⟩

theorem isFile_eq_true {f : Places} : f.isFile c = true ↔ ∃ data mode, f c = some (.file data mode) := by
  unfold Places.isFile
  rcases f c with _ | (m | ⟨d, m⟩) <;> simp [Node.isDir]

theorem Ordered.isFile_iff (h : t.Ordered) (c : List Component) :
    t.places.isFile c = true ↔ ∃! p, p ∈ t.files ∧ p.components = c := by
  rw [isFile_eq_true]
  constructor
  · rintro ⟨data, mode, hfile⟩
    obtain ⟨p, hmem, hp⟩ := exists_mem_of_places hfile
    refine ⟨p, ⟨mem_files.mpr ⟨data, mode, hmem⟩, hp⟩, ?_⟩
    rintro q ⟨hq, hqc⟩
    -- Two spellings of the place would not both be listed.
    have distinct : (t.files.map Path.components).Nodup :=
      List.pairwise_map.mpr (h.files.imp Path.not_same_of_lt)
    exact List.inj_on_of_nodup_map distinct hq (mem_files.mpr ⟨data, mode, hmem⟩) (hqc.trans hp.symm)
  · rintro ⟨p, ⟨hp, rfl⟩, -⟩
    obtain ⟨data, mode, hmem⟩ := mem_files.mp hp
    exact ⟨data, mode, h.places_of_mem hmem⟩

/-! ### All calls -/

/-- After any calls the tree does what is to be done to its places. What is read is what was written last, nothing is
    found only where nothing stands, and the files are listed in the order of their places, each once. The places on
    the way to a path are those of its ancestors. --/
theorem after_refines_places (history : List FileCall) :
    let t := after history
    (∀ p mode, Performs t (makeDirs p mode t) (t.places.makeDirs p.components mode)) ∧
    (∀ p data mode, Performs t (write p data mode t) (t.places.write p.components data mode)) ∧
    (∀ p : Path, (p.ancestors.filter fun a => !a.isEmpty).reverse.map Path.components = Places.way p.components ∧
      (p.ancestors.tail.filter fun a => !a.isEmpty).reverse.map Path.components = Places.way p.components.dropLast) ∧
    (∀ p, (read p t).2 = t ∧ (read p t).1.toOption = latestWrite p history ∧
      ((∃ e, (read p t).1 = .error e ∧ e.kind = .notFound) ↔ t.places p.components = none)) ∧
    (t.files.Pairwise fun a b => a.components < b.components) ∧
    ∀ c, t.places.isFile c = true ↔ ∃! p, p ∈ t.files ∧ p.components = c := by
  intro t
  have reached : t.Reached := reached_after history
  refine ⟨performs_makeDirs reached.closed, performs_write reached.closed, fun p => ⟨p.map_dirs, ?_⟩, fun p => ?_,
    reached.ordered.files, reached.ordered.isFile_iff⟩
  · rw [← p.parentDirs_eq]
    exact p.map_parentDirs
  · exact ⟨read_snd p t, (toOption_read p t).trans (contents_after p history), read_notFound_iff⟩

/-- A file is read under another spelling. --/
example : (read ⟨"work//u/."⟩ (after [.write ⟨"work/u"⟩ .empty .privateFile])).1.toOption = some .empty := by decide +kernel

end MemTree
end AnsibleStaging
