import AnsibleStaging.Proofs.HostViews

/-! Files on a host, and the tree in memory as a double of the host. A file is replaced through another one beside it,
    which is gone in the end: it has taken the name of the target, or it was removed. So each call does what is said on
    the view, just as it does in memory, and from the same start the two show the same after every call. -/

namespace AnsibleStaging
namespace HostTree
open HostCalls (temporaryName)

variable {t u : HostTree} {place parent : List String} {name : String} {mode : FileMode}

/-! ### The file beside -/

/-- `u` is `t` with a file at a place. --/
structure Beside (t u : HostTree) (place : List String) (data : ByteArray) (mode : FileMode) : Prop extends
    Alongside t u where
  shows : u.view = t.view.put place (.file data mode)

theorem Beside.here {data : ByteArray} (hb : Beside t u place data mode) : u.get? place = some (.file data mode) := by
  rw [← view_eq_file, hb.shows, View.put, if_pos rfl]

section
variable {data : ByteArray} (h : t.Sound) (hnames : ∀ n ∈ parent ++ [name], IsEntryName n)
  (hparent : t.view parent = some .dir) (hnone : t.view (parent ++ [name]) = none)
include h hnames hparent hnone

theorem createNew_beside (mode : FileMode) :
    ∃ u m, createNew (pathTo (parent ++ [name])) mode t = (.ok (), u) ∧ Beside t u (parent ++ [name]) .empty m := by
  have hdot := isDot_of_isEntryName (hnames name (by simp))
  have hdone : createNew (pathTo (parent ++ [name])) mode t =
      (.ok (), t.put (parent ++ [name]) (.file .empty ⟨mode.bits &&& (0o7777 ^^^ t.masked)⟩)) := by
    simp [createNew, update, target?_ok h hnames hparent, hdot, view_eq_none.mp hnone, bind, Except.bind]
  exact ⟨_, ⟨mode.bits &&& (0o7777 ^^^ t.masked)⟩, hdone, ⟨rfl, rfl⟩, view_put (by simp) _⟩

omit hnames in
theorem Beside.sound (hb : Beside t u (parent ++ [name]) data mode) : u.Sound where
  tree := by
    rw [hb.shows]
    exact h.tree.put_file hparent (by simp [hnone]) data mode
  limits := hb.limits.trans h.limits

omit h hnames hnone in
theorem Beside.dir_parent (hb : Beside t u (parent ++ [name]) data mode) : u.view parent = some .dir := by
  rw [hb.shows, View.put, if_neg (by simp), hparent]

theorem changeFile_beside (change : ByteArray → FileMode → HostNode) {data' : ByteArray} {mode' : FileMode}
    (hb : Beside t u (parent ++ [name]) data mode) (hchange : change data mode = .file data' mode') :
    ∃ u', changeFile (pathTo (parent ++ [name])) change u = (.ok (), u') ∧
      Beside t u' (parent ++ [name]) data' mode' := by
  have hsound := hb.sound h hparent hnone
  have hdone : changeFile (pathTo (parent ++ [name])) change u =
      (.ok (), u.put (parent ++ [name]) (.file data' mode')) := by
    simp [changeFile, update, resolve_ok hsound hnames (hb.dir_parent hparent), hb.here, hchange, bind, Except.bind]
  refine ⟨_, hdone, ⟨hb.limits, hb.named⟩, ?_⟩
  rw [view_put (by simp), hb.shows]
  funext d
  unfold View.put
  split <;> rfl

omit h hnames hparent in
/-- Without the file, the tree looks as it did before. --/
theorem Beside.erase_view (hb : Beside t u (parent ++ [name]) data mode) :
    (u.erase (parent ++ [name])).view = t.view := by
  funext d
  have hrest := congrFun hb.shows d
  unfold view View.put at hrest
  unfold view
  rw [get?_erase (by simp)]
  split
  · next heq =>
    subst heq
    exact hnone.symm
  · next hne =>
    rw [if_neg hne] at hrest
    exact hrest

theorem remove_beside (hb : Beside t u (parent ++ [name]) data mode) :
    remove (pathTo (parent ++ [name])) u = u.erase (parent ++ [name]) := by
  simp [remove, resolve_ok (hb.sound h hparent hnone) hnames (hb.dir_parent hparent), hb.here]

end

section
variable {data : ByteArray} {fresh : String} (h : t.Sound) (hnames : ∀ n ∈ parent ++ [name], IsEntryName n)
  (hfresh : ∀ n ∈ parent ++ [fresh], IsEntryName n) (hparent : t.view parent = some .dir)
  (hnone : t.view (parent ++ [fresh]) = none) (hne : name ≠ fresh)
include h hnames hfresh hparent hnone hne

theorem rename_over_dir (hb : Beside t u (parent ++ [fresh]) data mode) (hdir : t.view (parent ++ [name]) = some .dir) :
    rename (pathTo (parent ++ [fresh])) (pathTo (parent ++ [name])) u = (.error (.host .isDirectory), u) := by
  have hsound := hb.sound h hparent hnone
  have hdot := isDot_of_isEntryName (hnames name (by simp))
  have htarget : u.view (parent ++ [name]) = some .dir := by
    rw [hb.shows, View.put, if_neg (by simpa using hne), hdir]
  obtain ⟨m, htarget⟩ := view_eq_dir.mp htarget
  simp [rename, update, resolve_ok hsound hfresh (hb.dir_parent hparent),
    target?_ok hsound hnames (hb.dir_parent hparent), hdot, hb.here, htarget, bind, Except.bind]

theorem rename_ok (hb : Beside t u (parent ++ [fresh]) data mode) (hdir : t.view (parent ++ [name]) ≠ some .dir) :
    ∃ w, rename (pathTo (parent ++ [fresh])) (pathTo (parent ++ [name])) u = (.ok (), w) ∧
      Beside t w (parent ++ [name]) data mode := by
  have hsound := hb.sound h hparent hnone
  have hdot := isDot_of_isEntryName (hnames name (by simp))
  have htarget : u.view (parent ++ [name]) ≠ some .dir := by
    rwa [hb.shows, View.put, if_neg (by simpa using hne)]
  have hdone : rename (pathTo (parent ++ [fresh])) (pathTo (parent ++ [name])) u =
      (.ok (), (u.erase (parent ++ [fresh])).put (parent ++ [name]) (.file data mode)) := by
    have hthere : ∀ m, u.get? (parent ++ [name]) ≠ some (.dir m) := fun m hm => htarget (view_eq_dir.mpr ⟨m, hm⟩)
    rcases hget : u.get? (parent ++ [name]) with _ | (m | ⟨old, m⟩)
    · simp [rename, update, resolve_ok hsound hfresh (hb.dir_parent hparent),
        target?_ok hsound hnames (hb.dir_parent hparent), hdot, hb.here, hget, bind, Except.bind]
    · exact absurd hget (hthere m)
    · simp [rename, update, resolve_ok hsound hfresh (hb.dir_parent hparent),
        target?_ok hsound hnames (hb.dir_parent hparent), hdot, hb.here, hget, bind, Except.bind]
  refine ⟨_, hdone, ⟨hb.limits, hb.named⟩, ?_⟩
  rw [view_put (by simp), hb.erase_view hnone]
  rfl

omit hnames hne in
/-- The file beside gets the contents and the mode before it is renamed. --/
theorem fillAndRename_eq (names : Nat → String) (data : ByteArray) (hmode : mode.bits ≤ 0o777) (p : Path) : ∃ u,
    Beside t u (parent ++ [fresh]) data mode ∧
      (callsNaming names).fillAndRename (pathTo (parent ++ [fresh])) p data mode t =
        rename (pathTo (parent ++ [fresh])) p u := by
  have hbits : (⟨mode.bits &&& 0o7777⟩ : FileMode) = mode := by
    have hmask : mode.bits &&& (2 ^ 12 - 1) = mode.bits := by
      rw [Nat.and_two_pow_sub_one_eq_mod]
      omega
    exact congrArg FileMode.mk hmask
  obtain ⟨u₁, m, hcreate, hb₁⟩ := createNew_beside h hfresh hparent hnone mode
  have hmore : HostNode.file (ByteArray.empty ++ data) m = .file data m := by rw [ByteArray.empty_append]
  obtain ⟨u₂, happend, hb₂⟩ := changeFile_beside h hfresh hparent hnone (fun d m => .file (d ++ data) m) hb₁ hmore
  obtain ⟨u₃, hflush, hb₃⟩ := changeFile_beside h hfresh hparent hnone .file hb₂ rfl
  have hmasked : HostNode.file data ⟨mode.bits &&& 0o7777⟩ = .file data mode := by rw [hbits]
  obtain ⟨u₄, hset, hb₄⟩ :=
    changeFile_beside h hfresh hparent hnone (fun d _ => .file d ⟨mode.bits &&& 0o7777⟩) hb₃ hmasked
  refine ⟨u₄, hb₄, ?_⟩
  have hcreate : (callsNaming names).createNew (pathTo (parent ++ [fresh])) mode t = (.ok (), u₁) := hcreate
  have happend : (callsNaming names).append (pathTo (parent ++ [fresh])) data u₁ = (.ok (), u₂) := happend
  have hflush : (callsNaming names).flush (pathTo (parent ++ [fresh])) u₂ = (.ok (), u₃) := hflush
  have hset : (callsNaming names).setMode (pathTo (parent ++ [fresh])) mode u₃ = (.ok (), u₄) := hset
  simp only [HostCalls.fillAndRename, FileAction.andThen, hcreate, happend, hflush, hset]
  rfl

end

/-! ### Replacing a file -/

/-- A text that may stand in the name of an entry. --/
structure IsToken (token : String) : Prop where
  notMem : '/' ∉ token.toList
  noNul : '\x00' ∉ token.toList

theorem isToken_counted (n : Nat) : IsToken (counted n) := by
  have hchars : ∀ c ∈ (counted n).toList, c.isDigit = true := by
    intro c hc
    rw [counted, String.toList_ofList, List.mem_append, List.mem_replicate] at hc
    rcases hc with ⟨-, rfl⟩ | hc
    · decide
    · exact Nat.isDigit_of_mem_toDigits (by decide) (by decide) hc
  exact ⟨fun h => by simpa using hchars _ h, fun h => by simpa using hchars _ h⟩

theorem toList_temporaryName (name token : String) : (temporaryName name token).toList =
    '.' :: (name.toList ++ '.' :: (token.toList ++ ['.', 't', 'm', 'p'])) := by
  simp [temporaryName]

/-- The name that is made up for the file beside. --/
theorem isName_temporaryName {token : String} (hname : Path.IsName name) (htoken : '/' ∉ token.toList) :
    Path.IsName (temporaryName name token) := by
  have hlong : 2 < (temporaryName name token).toList.length := by
    rw [toList_temporaryName]
    simp
    omega
  refine ⟨?_, ?_, ?_, ?_⟩
  · intro hnil
    simp [hnil] at hlong
  · intro hdot
    simp [hdot] at hlong
  · intro hdots
    simp [hdots] at hlong
  · rw [toList_temporaryName]
    simp [hname.notMem, htoken]

theorem isEntryName_temporaryName {token : String} (hname : IsEntryName name)
    (htoken : IsToken token) : IsEntryName (temporaryName name token) := by
  refine ⟨isName_temporaryName hname.toIsName htoken.notMem, ?_⟩
  rw [toList_temporaryName]
  simp [hname.noNul, htoken.noNul]

theorem temporaryName_ne (name token : String) : name ≠ temporaryName name token := fun h => by
  have hlength := congrArg (fun s : String => s.toList.length) h
  simp [temporaryName] at hlength
  omega

/-- Nothing has the name that is made up when a file is replaced. --/
def FreshFor (names : Nat → String) (t : HostTree) : PlaceCall → Prop
  | .write place _ _ => ∀ name ∈ place.getLast?, t.get? (place.dropLast ++ [temporaryName name (names t.named)]) = none
  | _ => True

section
variable {names : Nat → String} {data : ByteArray} (hnames : ∀ n ∈ parent ++ [name], IsEntryName n)
include hnames

theorem beside_pathTo {token : String} (htoken : IsToken token) :
    HostCalls.beside (pathTo (parent ++ [name])) name token = pathTo (parent ++ [temporaryName name token]) := by
  have hplain : ∀ n ∈ parent ++ [name], Path.IsName n := fun n hn => (hnames n hn).toIsName
  have hfresh := isEntryName_temporaryName (hnames name (by simp)) htoken
  rw [HostCalls.beside, Path.withFileName, fileName_pathTo hplain, parent_pathTo hplain]
  exact join_pathTo hfresh.toIsName fun n hn => hplain n (by simp [hn])

theorem makeParents_pathTo (t : HostTree) : (callsNaming names).makeParents (pathTo (parent ++ [name])) t =
    makeDirs (pathTo parent) .privateDirectory t := by
  rw [HostCalls.makeParents, parent_pathTo fun n hn => (hnames n hn).toIsName]
  change (if (pathTo parent).isEmpty = true then _ else makeDirs (pathTo parent) .privateDirectory t) = _
  rw [if_neg (by rw [isEmpty_pathTo]; nofun)]

theorem replaceFile_error {e : IoError} (hmake : makeDirs (pathTo parent) .privateDirectory t = (.error e, u)) :
    (callsNaming names).replaceFile (pathTo (parent ++ [name])) data mode t = (.error e, u) := by
  rw [HostCalls.replaceFile, FileAction.andThen, makeParents_pathTo hnames, hmake]

/-- When the parents are there, the file beside is filled and renamed, or removed again. --/
theorem replaceFile_ok (hmake : makeDirs (pathTo parent) .privateDirectory t = (.ok (), u))
    (htoken : IsToken (names u.named)) :
    (callsNaming names).replaceFile (pathTo (parent ++ [name])) data mode t =
      match (callsNaming names).fillAndRename (pathTo (parent ++ [temporaryName name (names u.named)]))
          (pathTo (parent ++ [name])) data mode { u with named := u.named + 1 } with
      | (.ok (), s) => (.ok (), s)
      | (.error e, s) => (.error e, remove (pathTo (parent ++ [temporaryName name (names u.named)])) s) := by
  rw [HostCalls.replaceFile, FileAction.andThen, makeParents_pathTo hnames, hmake, ← beside_pathTo hnames htoken,
    fileName_pathTo fun n hn => (hnames n hn).toIsName]
  have hname : (callsNaming names).freshName u = (names u.named, { u with named := u.named + 1 }) := rfl
  rcases hfill : (callsNaming names).fillAndRename (HostCalls.beside (pathTo (parent ++ [name])) name (names u.named))
    (pathTo (parent ++ [name])) data mode { u with named := u.named + 1 } with ⟨_ | _, s⟩ <;>
  simp only [hname, hfill]
  · rfl

/-- A file is replaced on the host as is said on its view, and nothing is left of the file beside. --/
theorem shows_write (h : t.Sound) (hmode : mode.bits ≤ 0o777)
    (htokens : ∀ k, IsToken (names k))
    (hfresh : FreshFor names t (.write (parent ++ [name]) data mode)) :
    View.Shows view t ((callsNaming names).replaceFile (pathTo (parent ++ [name])) data mode t)
        (t.view.write (parent ++ [name]) data mode) ∧
      ((callsNaming names).replaceFile (pathTo (parent ++ [name])) data mode t).2.limits = t.limits := by
  have hbefore : ∀ n ∈ parent, IsEntryName n := (List.forall_mem_append.mp hnames).1
  rw [View.write, List.dropLast_concat]
  rcases makeDirs_cases h hbefore .privateDirectory with ⟨hspec, e, he⟩ | ⟨w, hw, hok⟩
  · -- A file is on the way.
    rw [replaceFile_error hnames he, hspec, Option.map_none, ite_self]
    exact ⟨⟨⟨e, rfl⟩, rfl⟩, rfl⟩
  · have htoken := htokens w.named
    have hnew := isEntryName_temporaryName (hnames name (by simp)) htoken
    have hnews : ∀ n ∈ parent ++ [temporaryName name (names w.named)], IsEntryName n :=
      List.forall_mem_append.mpr ⟨hbefore, List.forall_mem_singleton.mpr hnew⟩
    -- The tree once the name is made up.
    let s : HostTree := { w with named := w.named + 1 }
    have hs : s.Sound := ⟨(hw.sound h).tree, (hw.sound h).limits⟩
    have hdir : s.view parent = some .dir := View.makeDirs_place hw.shows
    have hnone : s.view (parent ++ [temporaryName name (names w.named)]) = none := by
      refine (View.makeDirs_aside hw.shows (View.not_concat_above parent _)).trans (view_eq_none.mpr ?_)
      have hthen := hfresh name (by simp)
      rwa [List.dropLast_concat, ← hw.named] at hthen
    have hplace : s.view (parent ++ [name]) = t.view (parent ++ [name]) :=
      View.makeDirs_aside hw.shows (View.not_concat_above parent name)
    have hrename := temporaryName_ne name (names w.named)
    obtain ⟨u, hu, hfill⟩ := fillAndRename_eq hs hnews hdir hnone names data hmode (pathTo (parent ++ [name]))
    rw [replaceFile_ok hnames hok htoken, hw.shows, Option.map_some]
    by_cases hover : t.view (parent ++ [name]) = some .dir
    · -- The name is taken by a directory, so the file beside is removed.
      have hsame : w.view = t.view := by
        have hparent : t.view parent = some .dir := h.tree.dir_above (List.prefix_append _ _) hover
        have hshows := hw.shows
        rw [View.makeDirs_of_dir h.tree hparent] at hshows
        exact (Option.some.inj hshows).symm
      rw [hfill, rename_over_dir hs hnames hnews hdir hnone hrename hu (hplace.trans hover), if_pos hover]
      simp only [remove_beside hs hnews hdir hnone hu]
      exact ⟨⟨⟨_, rfl⟩, (hu.erase_view hnone).trans hsame⟩, hu.limits.trans hw.limits⟩
    · obtain ⟨x, hx, hb⟩ := rename_ok hs hnames hnews hdir hnone hrename hu (by rwa [hplace])
      rw [hfill, hx, if_neg hover]
      exact ⟨⟨rfl, hb.shows⟩, hb.limits.trans hw.limits⟩

end

/-! ### Reading -/

theorem read_snd (p : Path) (t : HostTree) : (read p t).2 = t := by
  unfold read
  split <;> rfl

theorem toOption_read (h : t.Sound) (hnames : ∀ n ∈ parent ++ [name], IsEntryName n) :
    (read (pathTo (parent ++ [name])) t).1.toOption = t.view.contents (parent ++ [name]) := by
  by_cases hparent : t.view parent = some .dir
  · have hresolve := resolve_ok h hnames hparent
    unfold View.contents view
    rcases hget : t.get? (parent ++ [name]) with _ | (m | ⟨data, m⟩)
    · have hlook : t.lookUp (pathTo (parent ++ [name])) = .error (.host .noEntry) := by
        simp [lookUp, hresolve, hget, bind, Except.bind]
      rw [read, hlook]
      rfl
    · have hlook : t.lookUp (pathTo (parent ++ [name])) = .ok (.dir m) := by
        simp [lookUp, hresolve, hget, bind, Except.bind]
      rw [read, hlook]
      rfl
    · have hlook : t.lookUp (pathTo (parent ++ [name])) = .ok (.file data m) := by
        simp [lookUp, hresolve, hget, bind, Except.bind]
      rw [read, hlook]
      rfl
  · -- Nothing is behind what is no directory.
    have hnone : t.view (parent ++ [name]) = none := by
      by_contra h'
      exact hparent (h.tree.closed parent _ (List.prefix_append _ _) (by simp) h')
    have hresolve : ∃ e, t.resolve (pathTo (parent ++ [name])) = .error e := by
      rw [resolve_pathTo h.limits hnames, enter_eq h.tree h.limits (List.forall_mem_append.mp hnames).1, List.nil_append,
        if_neg hparent]
      exact ⟨_, rfl⟩
    obtain ⟨e, he⟩ := hresolve
    unfold read lookUp View.contents
    rw [he, hnone]
    rfl

/-! ### All calls -/

/-- The host answers a call as is said on its view, and shows what is to be seen then. --/
theorem follows_call {names : Nat → String} {call : PlaceCall} (h : t.Sound) (hcall : call.Proper)
    (htokens : ∀ k, IsToken (names k)) (hfresh : FreshFor names t call) :
    (callsNaming names).fileSystem.Follows view t call ∧ ((callsNaming names).fileSystem.perform call t).2.Sound := by
  have sound : (callsNaming names).fileSystem.Follows view t call →
      ((callsNaming names).fileSystem.perform call t).2.limits = t.limits →
      (callsNaming names).fileSystem.Follows view t call ∧ ((callsNaming names).fileSystem.perform call t).2.Sound :=
    fun hfollows hlimits => ⟨hfollows, by rw [hfollows.seen]; exact h.tree.next call, hlimits.trans h.limits⟩
  cases call with
  | makeDirs place mode =>
    obtain ⟨hshows, hlimits⟩ := shows_makeDirs h hcall.names mode
    exact sound (follows_makeDirs hshows) hlimits
  | write place data mode =>
    obtain ⟨parent, name, rfl⟩ := (List.eq_nil_or_concat' place).resolve_left hcall.below
    obtain ⟨hshows, hlimits⟩ := shows_write hcall.names h (hcall.bits mode rfl) htokens hfresh
    exact sound (follows_write hshows) hlimits
  | read place =>
    obtain ⟨parent, name, rfl⟩ := (List.eq_nil_or_concat' place).resolve_left hcall.below
    have hstate : (read (pathTo (parent ++ [name])) t).2 = t := read_snd _ t
    exact sound (follows_read (toOption_read h hcall.names) (congrArg view hstate)) (congrArg limits hstate)

end HostTree
end AnsibleStaging
