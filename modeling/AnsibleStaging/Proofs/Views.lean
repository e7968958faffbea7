import AnsibleStaging.Proofs.HostPaths
import AnsibleStaging.Proofs.Places

/-! What is seen of a file tree below the root: where directories stand, and where files with which bytes and mode. On
    such a view each call is said in one line, and a call that fails leaves it alone. The tree in memory does what is
    said, as long as all its entries are spelled from the root. -/

namespace AnsibleStaging

/-- What is seen of an entry. The mode of a directory is nothing that staging relies on. --/
inductive Sight where
  | dir
  | file (data : ByteArray) (mode : FileMode)
deriving DecidableEq

namespace Sight

def isFile : Sight → Bool
  | dir => false
  | file _ _ => true

def data? : Sight → Option ByteArray
  | dir => none
  | file data _ => some data

end Sight

/-- What is seen at each place. --/
abbrev View := List String → Option Sight

/-- A call at a place, which is spelled from the root. --/
inductive PlaceCall where
  | makeDirs (place : List String) (mode : FileMode)
  | write (place : List String) (data : ByteArray) (mode : FileMode)
  | read (place : List String)

namespace PlaceCall

def place : PlaceCall → List String
  | makeDirs place _ => place
  | write place _ _ => place
  | read place => place

/-- The mode that a call gives what it makes. --/
def mode? : PlaceCall → Option FileMode
  | makeDirs _ mode => some mode
  | write _ _ mode => some mode
  | read _ => none

/-- The place is below the root, all on the way to it has a name, and the mode has permission bits only. --/
structure Proper (call : PlaceCall) : Prop where
  below : call.place ≠ []
  names : ∀ n ∈ call.place, HostTree.IsEntryName n
  bits : ∀ mode ∈ call.mode?, mode.bits ≤ 0o777

end PlaceCall

namespace FileSystem
variable {σ : Type}

/-- Does a call. The answer has bytes only where a file was read. --/
def perform (fs : FileSystem σ) : PlaceCall → FileAction σ (Option ByteArray)
  | .makeDirs place mode, s => ((fs.makeDirs (HostTree.pathTo place) mode s).1.map fun _ => none,
      (fs.makeDirs (HostTree.pathTo place) mode s).2)
  | .write place data mode, s => ((fs.write (HostTree.pathTo place) data mode s).1.map fun _ => none,
      (fs.write (HostTree.pathTo place) data mode s).2)
  | .read place, s => ((fs.read (HostTree.pathTo place) s).1.map some, (fs.read (HostTree.pathTo place) s).2)

/-- The state after some calls, in the order in which they are made. --/
def after (fs : FileSystem σ) : List PlaceCall → σ → σ
  | [], s => s
  | call :: rest, s => fs.after rest (fs.perform call s).2

theorem after_concat (fs : FileSystem σ) (calls : List PlaceCall) (call : PlaceCall) (s : σ) :
    fs.after (calls ++ [call]) s = (fs.perform call (fs.after calls s)).2 := by
  induction calls generalizing s with
  | nil => rfl
  | cons c rest ih => exact ih _

end FileSystem

namespace View
variable {v : View} {place d : List String} {data : ByteArray} {mode : FileMode}

def isFile (v : View) (place : List String) : Bool := (v place).elim false Sight.isFile

def put (v : View) (place : List String) (s : Sight) : View := fun d => if d = place then some s else v d

/-- Makes a directory wherever one is missing on the way to a place, unless a file is in the way. --/
def makeDirs (v : View) (place : List String) : Option View :=
  if place.inits.any v.isFile then none
  else some fun d => if v d = none ∧ d ∈ place.inits then some .dir else v d

/-- Replaces the file at a place, unless a directory is there or a file is in the way. --/
def write (v : View) (place : List String) (data : ByteArray) (mode : FileMode) : Option View :=
  if v place = some .dir then none
  else (v.makeDirs place.dropLast).map fun w => w.put place (.file data mode)

def contents (v : View) (place : List String) : Option ByteArray := (v place).bind Sight.data?

/-- The answer to a call and what is seen then; nothing if the call fails. --/
def perform (v : View) : PlaceCall → Option (Option ByteArray × View)
  | .makeDirs place _ => (v.makeDirs place).map fun w => (none, w)
  | .write place data mode => (v.write place data mode).map fun w => (none, w)
  | .read place => (v.contents place).map fun data => (some data, v)

/-- What is seen after a call. --/
def next (v : View) (call : PlaceCall) : View := ((v.perform call).map Prod.snd).getD v

theorem isFile_eq_true : v.isFile d = true ↔ ∃ data mode, v d = some (.file data mode) := by
  unfold isFile
  rcases v d with _ | (_ | ⟨data, mode⟩) <;> simp [Sight.isFile]

/-! ### The shape of a view -/

/-- The root is a directory, and so is whatever a place goes through where something is. --/
structure IsTree (v : View) : Prop where
  root : v [] = some .dir
  closed : ∀ d place, d <+: place → d ≠ place → v place ≠ none → v d = some .dir

/-- The three ways to come to a place: to a directory, into a file, and to nothing. --/
theorem cases_place (v : View) (place : List String) : v place = some .dir ∨ place.inits.any v.isFile = true ∨
    (place.inits.any v.isFile = false ∧ v place = none) := by
  rcases hv : v place with _ | (_ | ⟨data, mode⟩)
  · cases hany : place.inits.any v.isFile with
    | true => exact Or.inr (Or.inl rfl)
    | false => exact Or.inr (Or.inr ⟨rfl, rfl⟩)
  · exact Or.inl rfl
  · refine Or.inr (Or.inl (List.any_eq_true.mpr ⟨place, ?_, isFile_eq_true.mpr ⟨data, mode, hv⟩⟩))
    exact (List.mem_inits _ _).mpr (List.prefix_refl place)

theorem IsTree.dir_above (h : v.IsTree) (hd : d <+: place) (hplace : v place = some .dir) : v d = some .dir := by
  by_cases heq : d = place
  · rw [heq, hplace]
  · exact h.closed d place hd heq (by simp [hplace])

theorem IsTree.free_of_dir (h : v.IsTree) (hplace : v place = some .dir) : place.inits.any v.isFile = false := by
  refine Bool.eq_false_iff.mpr fun hany => ?_
  obtain ⟨d, hd, hfile⟩ := List.any_eq_true.mp hany
  obtain ⟨data, mode, hfile⟩ := isFile_eq_true.mp hfile
  rw [h.dir_above ((List.mem_inits _ _).mp hd) hplace] at hfile
  cases hfile

theorem makeDirs_of_dir (h : v.IsTree) (hplace : v place = some .dir) : v.makeDirs place = some v := by
  rw [makeDirs, if_neg (by simp [h.free_of_dir hplace])]
  congr 1
  funext d
  split
  · next hd => exact absurd hd.1 (by simp [h.dir_above ((List.mem_inits _ _).mp hd.2) hplace])
  · rfl

theorem IsTree.makeDirs {w : View} (h : v.IsTree) (hw : v.makeDirs place = some w) : w.IsTree := by
  unfold View.makeDirs at hw
  split at hw
  · cases hw
  · next hfree =>
    cases hw
    refine ⟨by simp [h.root], fun d q hd hne hq => ?_⟩
    by_cases hpast : v q = none
    · -- The place is new, so it is on the way and so is what it goes through.
      have hmem : q ∈ place.inits := by
        by_contra hq'
        exact hq (by simp [hpast, hq'])
      have hd' : d ∈ place.inits := (List.mem_inits _ _).mpr (hd.trans ((List.mem_inits _ _).mp hmem))
      rcases hv : v d with _ | (_ | ⟨data, mode⟩)
      · simp [hd']
      · rfl
      · exact absurd (List.any_eq_true.mpr ⟨d, hd', isFile_eq_true.mpr ⟨data, mode, hv⟩⟩) hfree
    · have hdir : v d = some .dir := h.closed d q hd hne hpast
      simp [hdir]

/-- What a tree shows after the directories are made. --/
theorem makeDirs_eq_some {w : View} (hw : v.makeDirs place = some w) :
    place.inits.any v.isFile = false ∧ w = fun d => if v d = none ∧ d ∈ place.inits then some .dir else v d := by
  unfold View.makeDirs at hw
  split at hw
  · cases hw
  · next hfree =>
    cases hw
    exact ⟨Bool.eq_false_iff.mpr hfree, rfl⟩

theorem makeDirs_place {w : View} (hw : v.makeDirs place = some w) : w place = some .dir := by
  obtain ⟨hfree, rfl⟩ := makeDirs_eq_some hw
  rcases cases_place v place with hdir | hblocked | ⟨-, hnone⟩
  · simp [hdir]
  · simp [hfree] at hblocked
  · simp [hnone]

theorem makeDirs_aside {w : View} (hw : v.makeDirs place = some w) (hd : ¬d <+: place) : w d = v d := by
  obtain ⟨-, rfl⟩ := makeDirs_eq_some hw
  exact if_neg fun h => hd ((List.mem_inits _ _).mp h.2)

theorem not_concat_above (place : List String) (name : String) : ¬place ++ [name] <+: place := fun h => by
  have := h.length_le
  rw [List.length_append, List.length_singleton] at this
  omega

theorem inits_concat (place : List String) (name : String) :
    (place ++ [name]).inits = place.inits ++ [place ++ [name]] := by
  rw [List.inits_append]
  simp

/-- One more directory behind those that are made. --/
theorem makeDirs_concat {w : View} {name : String} (hw : v.makeDirs place = some w) (hnone : v (place ++ [name]) = none) :
    v.makeDirs (place ++ [name]) = some (w.put (place ++ [name]) .dir) := by
  obtain ⟨hfree, rfl⟩ := makeDirs_eq_some hw
  have hfile : v.isFile (place ++ [name]) = false := by simp [isFile, hnone]
  rw [makeDirs, inits_concat, if_neg (by simp [hfree, hfile])]
  congr 1
  funext d
  by_cases hd : d = place ++ [name]
  · simp [hd, hnone, put]
  · simp [hd, put]

/-- A file in a directory leaves a tree, unless it takes the place of another directory. --/
theorem IsTree.put_file {parent : List String} {name : String} (h : v.IsTree) (hparent : v parent = some .dir)
    (hplace : v (parent ++ [name]) ≠ some .dir) (data : ByteArray) (mode : FileMode) :
    (v.put (parent ++ [name]) (.file data mode)).IsTree := by
  refine ⟨by simp [put, h.root], fun d q hd hne hq => ?_⟩
  unfold put at hq ⊢
  by_cases hnew : q = parent ++ [name]
  · subst hnew
    rw [if_neg hne]
    exact h.dir_above ((List.prefix_concat_iff.mp hd).resolve_left hne) hparent
  · rw [if_neg hnew] at hq
    have hd' : v d = some .dir := h.closed d q hd hne hq
    rw [if_neg (by rintro rfl; exact hplace hd'), hd']

theorem IsTree.write {w : View} (h : v.IsTree) (hw : v.write place data mode = some w) : w.IsTree := by
  unfold View.write at hw
  split at hw
  · cases hw
  · next hdir =>
    obtain ⟨u, hu, rfl⟩ := Option.map_eq_some_iff.mp hw
    rcases List.eq_nil_or_concat' place with rfl | ⟨parent, name, rfl⟩
    · exact absurd h.root hdir
    · rw [List.dropLast_concat] at hu
      refine (h.makeDirs hu).put_file (makeDirs_place hu) ?_ data mode
      rwa [makeDirs_aside hu (not_concat_above parent name)]

/-- A view stays as it is, or a call that does well changes it. --/
theorem next_cases (v : View) (call : PlaceCall) : v.next call = v ∨
    (∃ place mode, call = .makeDirs place mode ∧ v.makeDirs place = some (v.next call)) ∨
    ∃ place data mode, call = .write place data mode ∧ v.write place data mode = some (v.next call) := by
  unfold View.next
  cases call with
  | makeDirs place mode =>
    cases hw : v.makeDirs place with
    | none => exact Or.inl (by simp [View.perform, hw])
    | some w => exact Or.inr (Or.inl ⟨place, mode, rfl, by simp [View.perform, hw]⟩)
  | write place data mode =>
    cases hw : v.write place data mode with
    | none => exact Or.inl (by simp [View.perform, hw])
    | some w => exact Or.inr (Or.inr ⟨place, data, mode, rfl, by simp [View.perform, hw]⟩)
  | read place =>
    cases hdata : v.contents place with
    | none => exact Or.inl (by simp [View.perform, hdata])
    | some data => exact Or.inl (by simp [View.perform, hdata])

theorem IsTree.next (h : v.IsTree) (call : PlaceCall) : (v.next call).IsTree := by
  rcases next_cases v call with hsame | ⟨place, mode, -, hw⟩ | ⟨place, data, mode, -, hw⟩
  · rwa [hsame]
  · exact h.makeDirs hw
  · exact h.write hw

/-- A file is seen after a call where it was seen before, or where the call has written it. --/
theorem file_of_next {call : PlaceCall} (h : v.next call d = some (.file data mode)) :
    v d = some (.file data mode) ∨ call = .write d data mode := by
  have made : ∀ {place w}, v.makeDirs place = some w → w d = some (.file data mode) → v d = some (.file data mode) := by
    intro place w hw hfile
    obtain ⟨-, rfl⟩ := makeDirs_eq_some hw
    dsimp only at hfile
    split at hfile
    · cases hfile
    · exact hfile
  rcases next_cases v call with hsame | ⟨place, m, -, hw⟩ | ⟨place, data', m, rfl, hw⟩
  · exact Or.inl (hsame ▸ h)
  · exact Or.inl (made hw h)
  · unfold View.write at hw
    split at hw
    · cases hw
    · obtain ⟨u, hu, hnext⟩ := Option.map_eq_some_iff.mp hw
      rw [← hnext] at h
      unfold put at h
      split at h
      · next heq =>
        cases h
        exact Or.inr (by rw [heq])
      · exact Or.inl (made hu h)

/-! ### Doing what is said -/

/-- What a call does to the state shows what is said on its view. --/
def Shows {σ : Type} (view : σ → View) (s : σ) (r : Except IoError Unit × σ) : Option View → Prop
  | some w => r.1 = .ok () ∧ view r.2 = w
  | none => (∃ e, r.1 = .error e) ∧ view r.2 = view s

end View

/-- A call is answered as it is on the view, and shows what the view shows next. --/
structure FileSystem.Follows {σ : Type} (fs : FileSystem σ) (view : σ → View) (s : σ) (call : PlaceCall) : Prop where
  answer : (fs.perform call s).1.toOption = ((view s).perform call).map Prod.fst
  seen : view (fs.perform call s).2 = (view s).next call

section
variable {σ : Type} {fs : FileSystem σ} {view : σ → View} {s : σ} {r : Except IoError Unit × σ} {o : Option View}

theorem View.Shows.answer (h : View.Shows view s r o) :
    (r.1.map fun _ => (none : Option ByteArray)).toOption = (o.map fun w => (none, w)).map Prod.fst := by
  cases o with
  | none =>
    obtain ⟨⟨e, he⟩, -⟩ := h
    rw [he]
    rfl
  | some w =>
    rw [h.1]
    rfl

theorem View.Shows.seen (h : View.Shows view s r o) :
    view r.2 = ((o.map fun w => ((none : Option ByteArray), w)).map Prod.snd).getD (view s) := by
  cases o with
  | none => exact h.2
  | some w => exact h.2

theorem follows_makeDirs {place : List String} {mode : FileMode}
    (h : View.Shows view s (fs.makeDirs (HostTree.pathTo place) mode s) ((view s).makeDirs place)) :
    fs.Follows view s (.makeDirs place mode) := ⟨h.answer, h.seen⟩

theorem follows_write {place : List String} {data : ByteArray} {mode : FileMode}
    (h : View.Shows view s (fs.write (HostTree.pathTo place) data mode s) ((view s).write place data mode)) :
    fs.Follows view s (.write place data mode) := ⟨h.answer, h.seen⟩

theorem follows_read {place : List String}
    (hdata : (fs.read (HostTree.pathTo place) s).1.toOption = (view s).contents place)
    (hstate : view (fs.read (HostTree.pathTo place) s).2 = view s) : fs.Follows view s (.read place) := by
  constructor
  · change ((fs.read (HostTree.pathTo place) s).1.map some).toOption = (((view s).contents place).map _).map Prod.fst
    rw [← hdata]
    cases (fs.read (HostTree.pathTo place) s).1 <;> rfl
  · change view (fs.read (HostTree.pathTo place) s).2 = _
    rw [hstate]
    cases hdata : (view s).contents place <;> simp [View.next, View.perform, hdata]

end

/-! ### The tree in memory -/

def Node.sight : Node → Sight
  | .dir _ => .dir
  | .file data mode => .file data mode

/-- The place as the tree in memory has it. --/
def rooted (place : List String) : List Component := .root :: place.map Component.normal

namespace Places
variable {f g : Places} {place : List String} {data : ByteArray} {mode : FileMode}

def view (f : Places) : View := fun place => if place = [] then some .dir else (f (rooted place)).map Node.sight

/-- Whatever is there is below the root, which is no file. --/
structure IsRooted (f : Places) : Prop where
  root : f.isFile (rooted []) = false
  below : ∀ c, f c ≠ none → ∃ place, c = rooted place

theorem rooted_injective : Function.Injective rooted := by
  intro a b h
  exact List.map_injective_iff.mpr (fun x y hxy => by cases hxy; rfl) (List.cons.inj h).2

theorem way_rooted (place : List String) : way (rooted place) = place.inits.map rooted := by
  rw [way, rooted, List.inits_cons, List.tail_cons, List.map_inits, List.map_map]
  rfl

theorem IsRooted.isFile_view (h : f.IsRooted) (place : List String) : f.isFile (rooted place) = f.view.isFile place := by
  unfold View.isFile view
  split
  · next hnil =>
    rw [hnil, h.root]
    rfl
  · unfold isFile
    rcases f (rooted place) with _ | (m | ⟨d, m⟩) <;> rfl

theorem IsRooted.any_isFile (h : f.IsRooted) (place : List String) :
    (way (rooted place)).any f.isFile = place.inits.any f.view.isFile := by
  rw [way_rooted, List.any_map]
  exact congrArg (place.inits.any ·) (funext h.isFile_view)

/-- Directories on the way to a place below the root are seen where they are made. --/
theorem IsRooted.makeDirs (h : f.IsRooted) (place : List String) (mode : FileMode) :
    (f.makeDirs (rooted place) mode).map view = f.view.makeDirs place ∧
      ∀ g, f.makeDirs (rooted place) mode = some g → g.IsRooted := by
  unfold Places.makeDirs View.makeDirs
  rw [h.any_isFile, way_rooted]
  split
  · exact ⟨rfl, fun g hg => by cases hg⟩
  · next hfree =>
    refine ⟨congrArg some (funext fun d => ?_), ?_⟩
    · unfold view
      by_cases hd : d = []
      · simp [hd]
      · simp only [hd, if_false, Option.map_eq_none_iff, List.mem_map_of_injective rooted_injective]
        split <;> rfl
    · rintro g ⟨⟩
      refine ⟨?_, fun c hc => ?_⟩
      · have := h.root
        unfold isFile at this ⊢
        beta_reduce
        split
        · rfl
        · exact this
      · split at hc
        · next hway =>
          obtain ⟨d, -, hd⟩ := List.mem_map.mp hway.2
          exact ⟨d, hd.symm⟩
        · exact h.below c hc

theorem IsRooted.write (h : f.IsRooted) (hplace : place ≠ []) (data : ByteArray) (mode : FileMode) :
    (f.write (rooted place) data mode).map view = f.view.write place data mode ∧
      ∀ g, f.write (rooted place) data mode = some g → g.IsRooted := by
  have hdir : f.isDir (rooted place) = true ↔ f.view place = some .dir := by
    unfold isDir view
    rw [if_neg hplace]
    rcases f (rooted place) with _ | (m | ⟨d, m⟩) <;> simp [Node.isDir, Node.sight]
  have hlast : (rooted place).dropLast = rooted place.dropLast := by
    obtain ⟨n, rest, rfl⟩ := List.exists_cons_of_ne_nil hplace
    simp [rooted, List.map_dropLast]
  obtain ⟨hview, hrooted⟩ := h.makeDirs place.dropLast .privateDirectory
  unfold Places.write View.write
  rw [hlast, ← hview]
  by_cases hd : f.view place = some .dir
  · rw [if_pos (hdir.mpr hd), if_pos hd]
    exact ⟨rfl, fun g hg => by cases hg⟩
  · rw [if_neg (hdir.not.mpr hd), if_neg hd, Option.map_map, Option.map_map]
    refine ⟨congrArg (Option.map · _) (funext fun g => funext fun d => ?_), fun g hg => ?_⟩
    · dsimp only [Function.comp, view, View.put]
      by_cases hnil : d = []
      · simp [hnil, hplace.symm]
      · simp only [hnil, if_false, rooted_injective.eq_iff, eq_comm (a := place)]
        split <;> rfl
    · obtain ⟨u, hu, rfl⟩ := Option.map_eq_some_iff.mp hg
      have hu := hrooted u hu
      refine ⟨?_, fun c hc => ?_⟩
      · have := hu.root
        unfold isFile at this ⊢
        beta_reduce
        rwa [if_neg fun heq => hplace (rooted_injective heq)]
      · split at hc
        · next heq => exact ⟨place, heq.symm⟩
        · exact hu.below c hc

end Places

namespace MemTree
variable {t : MemTree} {place : List String}

def view (t : MemTree) : View := t.places.view

theorem Performs.shows {r : Except IoError Unit × MemTree} {o : Option Places} (h : Performs t r o) :
    View.Shows view t r (o.map Places.view) := by
  cases o with
  | none =>
    obtain ⟨hfails, hsame⟩ := h
    exact ⟨hfails, congrArg view hsame⟩
  | some f =>
    obtain ⟨hok, hplaces⟩ := h
    exact ⟨hok, congrArg Places.view hplaces⟩

theorem Performs.isRooted {r : Except IoError Unit × MemTree} {o : Option Places} (h : Performs t r o)
    (ht : t.places.IsRooted) (ho : ∀ g, o = some g → g.IsRooted) : r.2.places.IsRooted := by
  cases o with
  | none =>
    rw [h.2]
    exact ht
  | some f =>
    rw [h.2]
    exact ho f rfl

/-- The tree in memory answers a call as is said on its view, and shows what is to be seen then. --/
theorem follows_call {call : PlaceCall} (hcall : call.Proper) (hc : t.Closed) (ht : t.places.IsRooted) :
    fileSystem.Follows view t call ∧ (fileSystem.perform call t).2.Closed ∧
      (fileSystem.perform call t).2.places.IsRooted := by
  have hcomponents : (HostTree.pathTo call.place).components = rooted call.place :=
    HostTree.components_pathTo fun n hn => (hcall.names n hn).toIsName
  cases call with
  | makeDirs place mode =>
    have hdone := performs_makeDirs hc (HostTree.pathTo place) mode
    rw [show (HostTree.pathTo place).components = rooted place from hcomponents] at hdone
    obtain ⟨hview, hrooted⟩ := ht.makeDirs place mode
    exact ⟨follows_makeDirs (hview ▸ hdone.shows), hc.makeDirs, hdone.isRooted ht hrooted⟩
  | write place data mode =>
    have hdone := performs_write hc (HostTree.pathTo place) data mode
    rw [show (HostTree.pathTo place).components = rooted place from hcomponents] at hdone
    obtain ⟨hview, hrooted⟩ := ht.write hcall.below data mode
    exact ⟨follows_write (hview ▸ hdone.shows), hc.write, hdone.isRooted ht hrooted⟩
  | read place =>
    have hdata : (read (HostTree.pathTo place) t).1.toOption = t.view.contents place := by
      rw [toOption_read, contents, get?_eq_places,
        show (HostTree.pathTo place).components = rooted place from hcomponents]
      unfold View.contents view Places.view
      rw [if_neg (show place ≠ [] from hcall.below)]
      rcases t.places (rooted place) with _ | (m | ⟨d, m⟩) <;> rfl
    have hstate : (fileSystem.perform (.read place) t).2 = t := read_snd (HostTree.pathTo place) t
    rw [hstate]
    exact ⟨follows_read hdata (congrArg view hstate), hc, ht⟩

end MemTree
end AnsibleStaging
