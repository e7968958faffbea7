import AnsibleStaging.Proofs.Views

/-! A host's tree does what is said on its view. A path is followed to the directory before its last name: that comes to
    a directory, runs into a file, or finds nothing, and in a tree there is no fourth way. Directories are made from the
    first missing one downwards. A file is replaced through another one beside it, which is gone in the end: it has
    taken the name of the target, or it was removed. -/

namespace AnsibleStaging

def HostNode.sight : HostNode → Sight
  | .dir _ => .dir
  | .file data mode => .file data mode

/-- A host that takes names and paths of any length. --/
def HostLimits.unbounded : HostLimits := ⟨none, none⟩

namespace HostTree

variable {t u : HostTree} {place parent base rest d : List String} {name : String} {mode : FileMode} {n : HostNode}

def view (t : HostTree) : View := fun place => (t.get? place).map HostNode.sight

/-! ### Entries -/

theorem get?_put (hplace : place ≠ []) (n : HostNode) (d : List String) :
    (t.put place n).get? d = if d = place then some n else t.get? d := by
  unfold get? put
  by_cases hd : d = []
  · rw [if_pos hd, if_neg (hd ▸ hplace.symm), if_pos hd]
  · rw [if_neg hd, if_neg hd, List.find?_cons]
    by_cases heq : d = place
    · simp [heq]
    · rw [if_neg heq, List.find?_filter]
      have hne : (place == d) = false := by simpa using fun h => heq h.symm
      rw [hne]
      congr 1
      change List.find? _ t.entries = _
      congr 1
      funext e
      by_cases he : e.1 = d
      · simp [he, heq]
      · simp [he]

theorem get?_erase (hplace : place ≠ []) (d : List String) :
    (t.erase place).get? d = if d = place then none else t.get? d := by
  unfold get? erase
  by_cases hd : d = []
  · rw [if_pos hd, if_neg (hd ▸ hplace.symm), if_pos hd]
  · rw [if_neg hd, if_neg hd, List.find?_filter]
    by_cases heq : d = place
    · simp [heq]
    · rw [if_neg heq]
      congr 2
      funext e
      by_cases he : e.1 = d
      · simp [he, heq]
      · simp [he]

theorem view_put (hplace : place ≠ []) (n : HostNode) :
    (t.put place n).view = t.view.put place n.sight := by
  funext d
  unfold view View.put
  rw [get?_put hplace]
  split <;> rfl

theorem view_eq_dir : t.view d = some .dir ↔ ∃ m, t.get? d = some (.dir m) := by
  unfold view
  rcases t.get? d with _ | (m | ⟨data, m⟩) <;> simp [HostNode.sight]

theorem view_eq_file {data : ByteArray} : t.view d = some (.file data mode) ↔ t.get? d = some (.file data mode) := by
  unfold view
  rcases t.get? d with _ | (m | ⟨data, m⟩) <;> simp [HostNode.sight]

theorem view_eq_none : t.view d = none ↔ t.get? d = none := Option.map_eq_none_iff

/-! ### Following a path -/

/-- Follows names to a directory. --/
def enter (t : HostTree) (base names : List String) : Except HostCode (List String) := do
  let q ← t.walk base names
  t.requireDir q
  return q

theorem walk_name (hname : IsEntryName name) (hlimits : t.limits = .unbounded) (base rest : List String) :
    t.walk base (name :: rest) = (t.requireDir base).bind fun _ => t.walk (base ++ [name]) rest := by
  have hempty : ¬(name = "" ∨ name = ".") := by
    rintro (rfl | rfl)
    · exact hname.ne_nil rfl
    · exact hname.ne_dot rfl
  have hdots : name ≠ ".." := by
    rintro rfl
    exact hname.ne_dots rfl
  rw [walk, if_neg hempty, if_neg hdots, hlimits, if_neg (by simp [HostLimits.exceeds, HostLimits.unbounded])]
  rfl

theorem enter_cons (hname : IsEntryName name) (hlimits : t.limits = .unbounded) (base rest : List String) :
    t.enter base (name :: rest) = (t.requireDir base).bind fun _ => t.enter (base ++ [name]) rest := by
  rw [enter, walk_name hname hlimits]
  cases t.requireDir base <;> rfl

theorem requireDir_eq (t : HostTree) (place : List String) : t.requireDir place =
    if t.view place = some .dir then .ok () else .error (if t.view.isFile place then .notDirectory else .noEntry) := by
  unfold requireDir View.isFile view
  rcases t.get? place with _ | (m | ⟨data, m⟩) <;> simp [HostNode.sight, Sight.isFile]

/-- In a tree, names lead to a directory, into a file or to nothing. --/
theorem enter_eq (ht : t.view.IsTree) (hlimits : t.limits = .unbounded) {names : List String}
    (hnames : ∀ n ∈ names, IsEntryName n) (base : List String) : t.enter base names =
      if t.view (base ++ names) = some .dir then .ok (base ++ names)
      else .error (if names.inits.any (fun d => t.view.isFile (base ++ d)) then .notDirectory else .noEntry) := by
  induction names generalizing base with
  | nil =>
    rw [enter, walk, List.append_nil]
    change ((t.requireDir base).bind fun _ => Except.ok base) = _
    rw [requireDir_eq]
    split
    · rfl
    · simp [Except.bind]
  | cons name rest ih =>
    have hany : (name :: rest).inits.any (fun d => t.view.isFile (base ++ d)) =
        (t.view.isFile base || rest.inits.any fun d => t.view.isFile (base ++ [name] ++ d)) := by
      rw [List.inits_cons, List.any_cons, List.append_nil, List.any_map]
      congr 2
      funext d
      simp
    rw [enter_cons (hnames name List.mem_cons_self) hlimits, hany, requireDir_eq, ih (List.forall_mem_cons.mp hnames).2,
      List.append_assoc, List.singleton_append]
    by_cases hbase : t.view base = some .dir
    · have hfree : t.view.isFile base = false := by simp [View.isFile, hbase, Sight.isFile]
      rw [if_pos hbase, hfree, Bool.false_or]
      rfl
    · -- Nothing is behind what is no directory.
      have hpast : ∀ q, base <+: q → base ≠ q → t.view q = none := fun q hq hne => by
        by_contra h
        exact hbase (ht.closed base q hq hne h)
      have hnone : t.view (base ++ name :: rest) = none := hpast _ (List.prefix_append _ _) (by simp)
      have hend : t.view (base ++ name :: rest) ≠ some .dir := by simp [hnone]
      have hno : (rest.inits.any fun d => t.view.isFile (base ++ [name] ++ d)) = false := by
        refine List.any_eq_false.mpr fun d _ => ?_
        rw [View.isFile, hpast _ ⟨[name] ++ d, by simp⟩ (by simp)]
        simp
      rw [if_neg hbase, if_neg hend, if_neg hend, hno, Bool.or_false]
      rfl

theorem enter_ok (ht : t.view.IsTree) (hlimits : t.limits = .unbounded) (hnames : ∀ n ∈ place, IsEntryName n)
    (hdir : t.view place = some .dir) : t.enter [] place = .ok place := by
  rw [enter_eq ht hlimits hnames, List.nil_append, if_pos hdir]

theorem enter_blocked (ht : t.view.IsTree) (hlimits : t.limits = .unbounded) (hnames : ∀ n ∈ place, IsEntryName n)
    (hfile : place.inits.any t.view.isFile = true) : t.enter [] place = .error .notDirectory := by
  have hdir : t.view place ≠ some .dir := fun hdir => by simp [ht.free_of_dir hdir] at hfile
  rw [enter_eq ht hlimits hnames, List.nil_append, if_neg hdir]
  simp only [List.nil_append]
  rw [if_pos hfile]

theorem enter_missing (ht : t.view.IsTree) (hlimits : t.limits = .unbounded) (hnames : ∀ n ∈ place, IsEntryName n)
    (hfree : place.inits.any t.view.isFile = false) (hnone : t.view place = none) :
    t.enter [] place = .error .noEntry := by
  rw [enter_eq ht hlimits hnames, List.nil_append, if_neg (by simp [hnone])]
  simp only [List.nil_append]
  rw [if_neg (by simp [hfree])]

/-! ### The last name -/

theorem inspect_pathTo (hlimits : t.limits = .unbounded) (hnames : ∀ n ∈ place, IsEntryName n) :
    t.inspect (pathTo place) = .ok () := by
  have hnul : (pathTo place).text.toList.contains '\x00' = false := contains_pathTo fun n hn => (hnames n hn).noNul
  rw [inspect, if_neg (by rw [hnul]; nofun), if_neg (by simp [isEmpty_pathTo]), hlimits]
  rfl

theorem start_pathTo (t : HostTree) (place : List String) : t.start (pathTo place) = [] :=
  if_pos (isAbsolute_pathTo place)

theorem walk_concat (hlimits : t.limits = .unbounded) {names : List String}
    (hnames : ∀ n ∈ names ++ [name], IsEntryName n) (base : List String) : t.walk base (names ++ [name]) = (t.enter base names).map (· ++ [name]) := by
  induction names generalizing base with
  | nil =>
    rw [List.nil_append, walk_name (hnames name (by simp)) hlimits, enter, walk]
    change _ = ((t.requireDir base).bind fun _ => Except.ok base).map _
    cases t.requireDir base <;> rfl
  | cons first rest ih =>
    have hfirst : IsEntryName first := hnames first (by simp)
    rw [List.cons_append, walk_name hfirst hlimits, ih fun n hn => hnames n (List.mem_cons_of_mem _ hn),
      enter_cons hfirst hlimits]
    cases t.requireDir base <;> rfl

/-- The empty piece in front of a path that starts at the root. --/
theorem walk_root (t : HostTree) (names : List String) : t.walk [] ("" :: names) = t.walk [] names := by
  rw [walk, if_pos (Or.inl rfl)]
  rfl

theorem resolve_pathTo (hlimits : t.limits = .unbounded) (hnames : ∀ n ∈ parent ++ [name], IsEntryName n) :
    t.resolve (pathTo (parent ++ [name])) = ((t.enter [] parent).map (· ++ [name])).mapError .host := by
  have hpieces := @pieces_pathTo (parent ++ [name]) (by simp) fun n hn => (hnames n hn).toIsName
  rw [resolve, inspect_pathTo hlimits hnames, start_pathTo, hpieces, walk_root, walk_concat hlimits hnames]
  rfl

theorem target?_pathTo (hlimits : t.limits = .unbounded) (hnames : ∀ n ∈ parent ++ [name], IsEntryName n) :
    t.target? (pathTo (parent ++ [name])) =
      ((t.enter [] parent).map fun q => some (Target.mk q name false)).mapError .host := by
  have hname : IsEntryName name := hnames name (by simp)
  have hpieces := @pieces_pathTo (parent ++ [name]) (by simp) fun n hn => (hnames n hn).toIsName
  have hne : (name == "") = false := by simpa using fun h => hname.ne_nil (by rw [h]; rfl)
  have hback : (pieces (pathTo (parent ++ [name]))).reverse = name :: (parent.reverse ++ [""]) := by
    rw [hpieces]
    simp
  have hdrop : (name :: (parent.reverse ++ [""])).dropWhile (· == "") = name :: (parent.reverse ++ [""]) := by
    rw [List.dropWhile_cons, hne]
    rfl
  have hhead : ((name :: (parent.reverse ++ [""])).head? == some "") = false := by simpa using hne
  have hwalk : t.walk (t.start (pathTo (parent ++ [name]))) (parent.reverse ++ [""]).reverse = t.walk [] parent := by
    rw [start_pathTo, List.reverse_append, List.reverse_reverse]
    exact walk_root t parent
  have hshort : ¬(name ≠ "." ∧ name ≠ ".." ∧ HostLimits.exceeds t.limits.name name = true) := by
    rw [hlimits]
    rintro ⟨-, -, hlong⟩
    cases hlong
  simp only [target?, inspect_pathTo hlimits hnames, hback, hdrop, hwalk, hhead, hshort, if_false, enter]
  cases t.walk [] parent with
  | error e => rfl
  | ok q =>
    cases hdir : t.requireDir q <;>
      simp [hdir, Except.mapError, Except.map, bind, Except.bind, pure, Except.pure]

/-! ### Making directories -/

/-- A host that hinders nothing: its entries form a tree, and names and paths may be of any length. --/
structure Sound (t : HostTree) : Prop where
  tree : t.view.IsTree
  limits : t.limits = .unbounded

theorem isDot_of_isEntryName (hname : IsEntryName name) : isDot name = false := by
  have hdot : (name == ".") = false := by simpa using fun h => hname.ne_dot (by rw [h]; rfl)
  have hdots : (name == "..") = false := by simpa using fun h => hname.ne_dots (by rw [h]; rfl)
  rw [isDot, hdot, hdots]
  rfl

section
variable (h : t.Sound) (hnames : ∀ n ∈ parent ++ [name], IsEntryName n)
include h hnames

theorem makeDir_error {code : HostCode} (henter : t.enter [] parent = .error code) (mode : FileMode) :
    makeDir (pathTo (parent ++ [name])) mode t = .error (.host code) := by
  rw [makeDir, target?_pathTo h.limits hnames, henter]
  rfl

theorem target?_ok (hparent : t.view parent = some .dir) :
    t.target? (pathTo (parent ++ [name])) = .ok (some ⟨parent, name, false⟩) := by
  rw [target?_pathTo h.limits hnames, enter_ok h.tree h.limits (List.forall_mem_append.mp hnames).1 hparent]
  rfl

theorem resolve_ok (hparent : t.view parent = some .dir) :
    t.resolve (pathTo (parent ++ [name])) = .ok (parent ++ [name]) := by
  rw [resolve_pathTo h.limits hnames, enter_ok h.tree h.limits (List.forall_mem_append.mp hnames).1 hparent]
  rfl

theorem makeDir_new (hparent : t.view parent = some .dir) (hnone : t.view (parent ++ [name]) = none) (mode : FileMode) :
    ∃ m, makeDir (pathTo (parent ++ [name])) mode t = .ok (t.put (parent ++ [name]) (.dir m)) := by
  have hdot := isDot_of_isEntryName (hnames name (by simp))
  refine ⟨⟨mode.bits &&& 0o1777 &&& (0o7777 ^^^ t.masked)⟩, ?_⟩
  simp [makeDir, target?_ok h hnames hparent, hdot, view_eq_none.mp hnone, bind, Except.bind]

theorem makeDir_taken (hparent : t.view parent = some .dir) (hsome : t.view (parent ++ [name]) ≠ none) (mode : FileMode) :
    makeDir (pathTo (parent ++ [name])) mode t = .error (.host .taken) := by
  have hdot := isDot_of_isEntryName (hnames name (by simp))
  obtain ⟨n, hn⟩ := Option.ne_none_iff_exists'.mp (view_eq_none.not.mp hsome)
  simp [makeDir, target?_ok h hnames hparent, hdot, hn, bind, Except.bind]

theorem isDir_pathTo (hparent : t.view parent = some .dir) :
    t.isDir (pathTo (parent ++ [name])) = true ↔ t.view (parent ++ [name]) = some .dir := by
  rw [isDir, resolve_ok h hnames hparent]
  change (t.requireDir (parent ++ [name])).isOk = true ↔ _
  rw [requireDir_eq]
  split
  · next hdir => simp [hdir, Except.isOk, Except.toBool]
  · next hdir => simp [hdir, Except.isOk, Except.toBool]

end

/-- Another tree with the same limits and names to give. --/
structure Alongside (t u : HostTree) : Prop where
  limits : u.limits = t.limits
  named : u.named = t.named

/-- `u` is `t` with all directories on the way to a place. --/
structure Made (t u : HostTree) (place : List String) : Prop extends Alongside t u where
  shows : t.view.makeDirs place = some u.view

theorem Made.sound (h : t.Sound) (hm : Made t u place) : u.Sound := ⟨h.tree.makeDirs hm.shows, hm.limits.trans h.limits⟩

theorem made_of_dir (h : t.Sound) (hdir : t.view place = some .dir) : Made t t place :=
  ⟨⟨rfl, rfl⟩, View.makeDirs_of_dir h.tree hdir⟩

/-- One more directory is made behind the others. --/
theorem Made.concat (hm : Made t u parent) (hnone : t.view (parent ++ [name]) = none) (m : FileMode) :
    Made t (u.put (parent ++ [name]) (.dir m)) (parent ++ [name]) where
  limits := hm.limits
  named := hm.named
  shows := by
    rw [view_put (by simp), View.makeDirs_concat hm.shows hnone]
    rfl

/-- Climbing up from a place and then down again makes all directories on the way to it. --/
theorem climb_pathTo (h : t.Sound) (mode : FileMode) (hplace : place ≠ []) (hnames : ∀ n ∈ place, IsEntryName n)
    (missing : List Path) :
    (place.inits.any t.view.isFile = true → ∃ e, climb mode (pathTo place).ancestors missing t = .error e) ∧
    (place.inits.any t.view.isFile = false → ∃ made u w,
      climb mode (pathTo place).ancestors missing t = .ok (made ++ missing, u) ∧
      (∀ rest, descend mode (made ++ rest) u = descend mode rest w) ∧ Made t w place) := by
  induction place using List.reverseRecOn generalizing missing with
  | nil => exact absurd rfl hplace
  | append_singleton parent name ih =>
    have hparent := parent_pathTo fun n hn => (hnames n hn).toIsName
    have hopen : ¬((pathTo (parent ++ [name])).isEmpty = true ∨ (pathTo (parent ++ [name])).parent.isNone = true) := by
      rw [isEmpty_pathTo, hparent]
      simp
    have hany : (parent ++ [name]).inits.any t.view.isFile =
        (parent.inits.any t.view.isFile || t.view.isFile (parent ++ [name])) := by
      rw [View.inits_concat]
      simp
    have hbefore : ∀ n ∈ parent, IsEntryName n := (List.forall_mem_append.mp hnames).1
    rw [ancestors_of_parent hparent, climb, if_neg hopen, hany]
    rcases View.cases_place t.view parent with hdir | hblocked | ⟨hfree, hmissing⟩
    · -- The parent is a directory, so it is settled here.
      rw [h.tree.free_of_dir hdir, Bool.false_or]
      rcases hplace : t.view (parent ++ [name]) with _ | (_ | ⟨data, m⟩)
      · -- Nothing is at the place.
        obtain ⟨m, hm⟩ := makeDir_new h hnames hdir hplace mode
        rw [hm]
        refine ⟨fun hfile => ?_, fun _ => ⟨[], _, _, rfl, fun _ => rfl, (made_of_dir h hdir).concat hplace m⟩⟩
        simp [View.isFile, hplace] at hfile
      · -- A directory is there already.
        have hthere : t.isDir (pathTo (parent ++ [name])) = true := (isDir_pathTo h hnames hdir).mpr hplace
        rw [makeDir_taken h hnames hdir (by simp [hplace])]
        refine ⟨fun hfile => ?_, fun _ => ⟨[], t, t, ?_, fun _ => rfl, made_of_dir h hplace⟩⟩
        · simp [View.isFile, hplace, Sight.isFile] at hfile
        · change (if _ then _ else if _ ∧ t.isDir (pathTo (parent ++ [name])) = true then _ else _) = _
          rw [if_neg (by decide), if_pos ⟨rfl, hthere⟩]
          rfl
      · -- A file is in the place of the directory.
        have hthere : ¬t.isDir (pathTo (parent ++ [name])) = true := by
          simp [isDir_pathTo h hnames hdir, hplace]
        rw [makeDir_taken h hnames hdir (by simp [hplace])]
        refine ⟨fun _ => ⟨.host .taken, ?_⟩, fun hfree => ?_⟩
        · change (if _ then _ else if _ ∧ t.isDir (pathTo (parent ++ [name])) = true then _ else _) = _
          rw [if_neg (by decide), if_neg fun hno => hthere hno.2]
        · simp [View.isFile, hplace, Sight.isFile] at hfree
    · -- A file is further up, so climbing ends here.
      rw [makeDir_error h hnames (enter_blocked h.tree h.limits hbefore hblocked), hblocked]
      exact ⟨fun _ => ⟨.host .notDirectory, rfl⟩, fun hfree => by cases hfree⟩
    · -- The parent is missing, so it is made first.
      have hroot : parent ≠ [] := by
        rintro rfl
        rw [h.tree.root] at hmissing
        cases hmissing
      have hplace : t.view (parent ++ [name]) = none := by
        by_contra hno
        rw [h.tree.closed parent _ (List.prefix_append _ _) (by simp) hno] at hmissing
        cases hmissing
      obtain ⟨-, hclimb⟩ := ih hroot hbefore (pathTo (parent ++ [name]) :: missing)
      obtain ⟨made, u, w, hok, hdescend, hw⟩ := hclimb hfree
      have hwdir : w.view parent = some .dir := View.makeDirs_place hw.shows
      have hwnone : w.view (parent ++ [name]) = none := by
        rw [View.makeDirs_aside hw.shows (View.not_concat_above parent name), hplace]
      obtain ⟨m, hm⟩ := makeDir_new (hw.sound h) hnames hwdir hwnone mode
      rw [makeDir_error h hnames (enter_missing h.tree h.limits hbefore hfree hmissing), hfree]
      refine ⟨fun hfile => ?_, fun _ => ⟨made ++ [pathTo (parent ++ [name])], u, _, ?_, ?_, hw.concat hplace m⟩⟩
      · simp [View.isFile, hplace] at hfile
      · rw [List.append_assoc]
        exact hok
      · intro rest
        rw [List.append_assoc, hdescend, List.singleton_append, descend, hm]

/-- Directories are made on the host as is said on its view. --/
theorem makeDirs_cases (h : t.Sound) (hnames : ∀ n ∈ place, IsEntryName n) (mode : FileMode) :
    (t.view.makeDirs place = none ∧ ∃ e, makeDirs (pathTo place) mode t = (.error e, t)) ∨
      ∃ w, Made t w place ∧ makeDirs (pathTo place) mode t = (.ok (), w) := by
  rcases List.eq_nil_or_concat' place with rfl | ⟨parent, name, hconcat⟩
  · refine Or.inr ⟨t, made_of_dir h h.tree.root, ?_⟩
    rw [makeDirs, if_pos (Or.inr (by rw [parent_root]; rfl))]
  · have hplace : place ≠ [] := by simp [hconcat]
    have hopen : ¬((pathTo place).isEmpty = true ∨ (pathTo place).parent.isNone = true) := by
      rw [isEmpty_pathTo, hconcat, parent_pathTo fun n hn => (hnames n (by simpa [hconcat] using hn)).toIsName]
      simp
    obtain ⟨hblocked, hfree⟩ := climb_pathTo h mode hplace hnames []
    rw [makeDirs, if_neg hopen]
    cases hany : place.inits.any t.view.isFile with
    | true =>
      obtain ⟨e, he⟩ := hblocked hany
      rw [he]
      exact Or.inl ⟨if_pos hany, e, rfl⟩
    | false =>
      obtain ⟨made, u, w, hok, hdescend, hw⟩ := hfree hany
      have hdone := hdescend []
      rw [List.append_nil] at hok hdone
      rw [hok]
      exact Or.inr ⟨w, hw, hdone⟩

theorem shows_makeDirs (h : t.Sound) (hnames : ∀ n ∈ place, IsEntryName n) (mode : FileMode) :
    View.Shows view t (makeDirs (pathTo place) mode t) (t.view.makeDirs place) ∧
      (makeDirs (pathTo place) mode t).2.limits = t.limits := by
  rcases makeDirs_cases h hnames mode with ⟨hspec, e, he⟩ | ⟨w, hw, hok⟩
  · rw [hspec, he]
    exact ⟨⟨⟨e, rfl⟩, rfl⟩, rfl⟩
  · rw [hw.shows, hok]
    exact ⟨⟨rfl, rfl⟩, hw.limits⟩

end HostTree
end AnsibleStaging
