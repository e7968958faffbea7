import AnsibleStaging.Proofs.HostDirs

/-! Writes that break off. A host may refuse each call that a write is made of, and it may refuse one part of the way:
    after some of the directories, or after some of the bytes. The new contents are filled in under a name that nothing
    else has, so that up to the last call nothing but this file has come in. The last call gives it the name of the
    target or changes nothing, and then the file is removed. -/

namespace AnsibleStaging

/-! ### Actions that end well or badly -/

namespace FileAction
variable {σ : Type} {act first second : FileAction σ Unit} {before good between bad : σ → Prop}

/-- From what holds before, the action comes to one thing if it ends well and to another if it fails. --/
def Ends (act : FileAction σ Unit) (before good bad : σ → Prop) : Prop :=
  ∀ s, before s → match act s with
    | (.ok (), u) => good u
    | (.error _, u) => bad u

theorem Ends.andThen (h : first.Ends before between bad) (h' : second.Ends between good bad) :
    (first.andThen second).Ends before good bad := by
  intro s hs
  have hfirst := h s hs
  rcases heq : first s with ⟨e | _, u⟩
  · rw [heq] at hfirst
    simp only [FileAction.andThen, heq]
    exact hfirst
  · rw [heq] at hfirst
    simp only [FileAction.andThen, heq]
    exact h' u hfirst

theorem Ends.imp {good' bad' : σ → Prop} (h : act.Ends before good bad) (hgood : ∀ s, good s → good' s)
    (hbad : ∀ s, bad s → bad' s) : act.Ends before good' bad' := by
  intro s hs
  have hact := h s hs
  rcases heq : act s with ⟨e | _, u⟩
  · rw [heq] at hact
    exact hbad u hact
  · rw [heq] at hact
    exact hgood u hact

theorem ends_error (h : ∀ s, before s → bad s) (e : IoError) : Ends (fun s => (.error e, s)) before good bad := h

/-- The action is refused with an error before it does anything, if there is one. --/
def refusing (refusal : Option IoError) (act : FileAction σ Unit) : FileAction σ Unit := fun s =>
  match refusal with
  | some e => (.error e, s)
  | none => act s

theorem Ends.refusing (h : act.Ends before good bad) (hbad : ∀ s, before s → bad s) (refusal : Option IoError) :
    (refusing refusal act).Ends before good bad := by
  intro s hs
  cases refusal with
  | none => exact h s hs
  | some e => exact hbad s hs

end FileAction

namespace HostTree
open AnsibleStaging.Path HostCalls FileAction

/-- Where a host refuses calls, and how much it has done by then: of the directories that it makes, and of the bytes
    that it stores. --/
structure Refusals where
  makeDirs : Option (Nat × IoError)
  createNew : Option IoError
  append : Option (Nat × IoError)
  flush : Option IoError
  setMode : Option IoError
  rename : Option IoError

/-- The host refuses nothing. --/
def Refusals.nothing : Refusals := ⟨none, none, none, none, none, none⟩

/-- Stores at most `n` of the bytes and fails then. --/
def appendUntil (n : Nat) (e : IoError) (p : Path) (more : ByteArray) : FileAction HostTree Unit :=
  (append p (more.extract 0 n)).andThen fun t => (.error e, t)

/-- A host that refuses calls. It removes whatever it is told to. --/
def callsRefusing (names : Nat → String) (f : Refusals) : HostCalls HostTree :=
  { callsNaming names with
    makeDirs := match f.makeDirs with
      | some (n, e) => makeDirsUntil n e
      | none => makeDirs
    createNew := fun p mode => refusing f.createNew (createNew p mode)
    append := match f.append with
      | some (n, e) => appendUntil n e
      | none => append
    flush := fun p => refusing f.flush (changeFile p .file)
    setMode := fun p mode => refusing f.setMode (setMode p mode)
    rename := fun source p => refusing f.rename (rename source p) }

variable {t u b : HostTree} {p fresh : Path} {place : List String} {name : String} {data : ByteArray} {mode : FileMode}
  {names : Nat → String} {f : Refusals}

/-! ### Trees that differ in a file -/

/-- A tree with a file at a place where another has no directory, and with all else as there. --/
structure Filed (b : HostTree) (place : List String) (data : ByteArray) (mode : FileMode) (u : HostTree) : Prop where
  limits : u.limits = b.limits
  current : u.current = b.current
  noDir : ∀ m, b.get? place ≠ some (.dir m)
  shows : ∀ d, u.get? d = if d = place then some (.file data mode) else b.get? d

namespace Filed

theorem here (h : Filed b place data mode u) : u.get? place = some (.file data mode) := (h.shows place).trans (if_pos rfl)

theorem ne_nil (h : Filed b place data mode u) : place ≠ [] := by
  rintro rfl
  exact h.noDir _ rfl

theorem leads (h : Filed b place data mode u) : Leads b u := by
  refine ⟨h.limits, h.current, fun d m hm => ⟨m, ?_⟩⟩
  rw [h.shows, if_neg, hm]
  rintro rfl
  exact h.noDir m hm

theorem leads_back (h : Filed b place data mode u) : Leads u b := by
  refine ⟨h.limits.symm, h.current.symm, fun d m hm => ⟨m, ?_⟩⟩
  rw [h.shows] at hm
  split at hm
  · cases hm
  · exact hm

/-- Another file is put in the place of the file. --/
theorem put (h : Filed b place data mode u) (data' : ByteArray) (mode' : FileMode) :
    Filed b place data' mode' (u.put place (.file data' mode')) := by
  refine ⟨h.limits, h.current, h.noDir, fun d => ?_⟩
  rw [get?_put h.ne_nil, h.shows]
  split <;> rfl

end Filed

/-- A file that is not there has come in, under the path `fresh`. --/
def Spare (b : HostTree) (fresh : Path) (data : ByteArray) (mode : FileMode) (u : HostTree) : Prop :=
  ∃ place, b.resolve fresh = .ok place ∧ b.get? place = none ∧ Filed b place data mode u

/-- The tree is as it was, or some file has come in under the path `fresh`. --/
def Unfinished (b : HostTree) (fresh : Path) (u : HostTree) : Prop := u = b ∨ ∃ data mode, Spare b fresh data mode u

/-- The file is where the path `p` leads to. --/
def InPlace (b : HostTree) (p : Path) (data : ByteArray) (mode : FileMode) (u : HostTree) : Prop :=
  ∃ parent name, p.fileName = some name ∧ b.resolve p = .ok (parent ++ [name]) ∧ Filed b (parent ++ [name]) data mode u

/-! ### One call -/

theorem ends_update {decide : HostTree → Except IoError HostTree} {before good bad : HostTree → Prop}
    (hgood : ∀ s u, before s → decide s = .ok u → good u) (hbad : ∀ s, before s → bad s) :
    (update decide).Ends before good bad := by
  intro s hs
  unfold update
  cases h : decide s with
  | ok u => exact hgood s u hs h
  | error e => exact hbad s hs

/-- A new file is made, or nothing. --/
theorem ends_createNew (b : HostTree) (fresh : Path) (mode : FileMode) :
    (createNew fresh mode).Ends (· = b) (fun u => ∃ m, Spare b fresh .empty m u) (· = b) := by
  refine ends_update (fun s u hs h => ?_) fun _ => id
  subst hs
  obtain ⟨w, htarget, hdot, h⟩ := ok_of_target? h
  split at h
  · cases h
  · next hnone =>
    split at h
    · cases h
    · next hslashed =>
      cases h
      have hplace := resolve_of_target? htarget hdot fun hs => absurd hs hslashed
      refine ⟨_, _, hplace, hnone, rfl, rfl, fun m hm => ?_, fun d => get?_put (by simp) _ d⟩
      rw [hnone] at hm
      cases hm

/-- The file under the path `fresh` is changed, or nothing. --/
theorem ends_changeFile {change : ByteArray → FileMode → HostNode} {data' : ByteArray} (set : FileMode → FileMode)
    (hchange : ∀ m, change data m = .file data' (set m)) (b : HostTree) (fresh : Path) :
    (changeFile fresh change).Ends (fun u => ∃ m, Spare b fresh data m u) (fun u => ∃ m, Spare b fresh data' (set m) u)
      (Unfinished b fresh) := by
  refine ends_update ?_ fun s ⟨m, hs⟩ => Or.inr ⟨data, m, hs⟩
  rintro s u ⟨m, place, hplace, hnone, hfiled⟩ h
  obtain ⟨place', hplace', h⟩ := eq_ok_of_bind h
  rw [hfiled.leads.resolve hplace] at hplace'
  cases hplace'
  rw [hfiled.here] at h
  cases h
  refine ⟨m, place, hplace, hnone, ?_⟩
  rw [hchange]
  exact hfiled.put data' (set m)

/-- The file under the path `fresh` takes its name, or nothing is changed. --/
theorem ends_rename (b : HostTree) (fresh p : Path) (data : ByteArray) (mode : FileMode) :
    (rename fresh p).Ends (Spare b fresh data mode) (InPlace b p data mode) (Unfinished b fresh) := by
  refine ends_update ?_ fun s hs => Or.inr ⟨data, mode, hs⟩
  rintro s u ⟨place, hplace, hnone, hfiled⟩ h
  obtain ⟨place', hplace', h⟩ := eq_ok_of_bind h
  rw [hfiled.leads.resolve hplace] at hplace'
  cases hplace'
  obtain ⟨w, htarget, hdot, h⟩ := ok_of_target? h
  rw [hfiled.here] at h
  dsimp only at h
  split at h
  · cases h
  · next hslashed =>
    split at h
    · cases h
    · next hopen =>
      cases h
      have hback := hfiled.leads_back.target? htarget
      have hplace := resolve_of_target? hback hdot fun hs => absurd hs hslashed
      refine ⟨w.parent, w.name, fileName_of_target? htarget hdot, hplace, hfiled.limits, hfiled.current, fun m hm => ?_,
        fun d => ?_⟩
      · obtain ⟨m', hm'⟩ := hfiled.leads.dirs _ m hm
        exact hopen m' hm'
      · -- The file is gone from where it was, and nothing was there before.
        rw [get?_put (by simp), get?_erase hfiled.ne_nil, hfiled.shows]
        split
        · rfl
        · split
          · next heq => rw [heq, hnone]
          · rfl

/-! ### A row of calls -/

theorem ends_append (b : HostTree) (fresh : Path) (data : ByteArray) :
    ((callsRefusing names f).append fresh data).Ends (fun u => ∃ m, Spare b fresh .empty m u)
      (fun u => ∃ m, Spare b fresh data m u) (Unfinished b fresh) := by
  have happend : ∀ more : ByteArray, (append fresh more).Ends (fun u => ∃ m, Spare b fresh .empty m u)
      (fun u => ∃ m, Spare b fresh more m u) (Unfinished b fresh) := fun more =>
    ends_changeFile id (fun m => by rw [ByteArray.empty_append]; rfl) b fresh
  unfold callsRefusing
  dsimp only
  cases f.append with
  | none => exact happend data
  | some r => exact (happend (data.extract 0 r.1)).andThen (ends_error (fun s ⟨m, hs⟩ => Or.inr ⟨_, m, hs⟩) r.2)

/-- The file gets its name with the contents and the mode, or at most a file under the path `fresh` has come in. --/
theorem ends_fillAndRename (names : Nat → String) (f : Refusals) (b : HostTree) (fresh p : Path) (data : ByteArray)
    (mode : FileMode) :
    ((callsRefusing names f).fillAndRename fresh p data mode).Ends (· = b) (InPlace b p data ⟨mode.bits &&& 0o7777⟩)
      (Unfinished b fresh) := by
  have hspare : ∀ s, (∃ m, Spare b fresh data m s) → Unfinished b fresh s := fun s ⟨m, hs⟩ => Or.inr ⟨data, m, hs⟩
  have hcreate : ((callsRefusing names f).createNew fresh mode).Ends (· = b) (fun u => ∃ m, Spare b fresh .empty m u)
      (Unfinished b fresh) :=
    ((ends_createNew b fresh mode).refusing (fun _ => id) f.createNew).imp (fun _ => id) fun _ => Or.inl
  have hflush : ((callsRefusing names f).flush fresh).Ends (fun u => ∃ m, Spare b fresh data m u)
      (fun u => ∃ m, Spare b fresh data m u) (Unfinished b fresh) :=
    (ends_changeFile id (fun _ => rfl) b fresh).refusing hspare f.flush
  have hset : ((callsRefusing names f).setMode fresh mode).Ends (fun u => ∃ m, Spare b fresh data m u)
      (Spare b fresh data ⟨mode.bits &&& 0o7777⟩) (Unfinished b fresh) :=
    ((ends_changeFile (fun _ => ⟨mode.bits &&& 0o7777⟩) (fun _ => rfl) b fresh).imp (fun _ ⟨_, hs⟩ => hs)
      fun _ => id).refusing hspare f.setMode
  have hrename : ((callsRefusing names f).rename fresh p).Ends (Spare b fresh data ⟨mode.bits &&& 0o7777⟩)
      (InPlace b p data ⟨mode.bits &&& 0o7777⟩) (Unfinished b fresh) :=
    (ends_rename b fresh p data _).refusing (fun s hs => Or.inr ⟨data, _, hs⟩) f.rename
  exact hcreate.andThen ((ends_append b fresh data).andThen (hflush.andThen (hset.andThen hrename)))

/-! ### What is left -/

/-- A tree with the same entries. --/
structure Alike (b u : HostTree) : Prop where
  limits : u.limits = b.limits
  current : u.current = b.current
  shows : ∀ d, u.get? d = b.get? d

theorem Alike.wider {way : List Path} (h : Alike b u) : Wider way b u :=
  ⟨h.limits, h.current, fun d => Or.inl (h.shows d)⟩

/-- The file that has come in is removed, and no other. --/
theorem alike_remove (hfree : ∀ place, b.resolve fresh = .ok place → ∀ d m, b.get? place ≠ some (.file d m))
    (h : Unfinished b fresh u) : Alike b (remove fresh u) := by
  rcases h with rfl | ⟨data, mode, place, hplace, hnone, hfiled⟩
  · -- No file has come in, and what the path leads to is none.
    have hsame : remove fresh u = u := by
      unfold remove
      split
      · next place hplace =>
        split
        · next hfile => exact absurd hfile (hfree place hplace _ _)
        · rfl
      · rfl
    rw [hsame]
    exact ⟨rfl, rfl, fun _ => rfl⟩
  · have hremoved : remove fresh u = u.erase place := by
      rw [remove, hfiled.leads.resolve hplace]
      dsimp only
      rw [hfiled.here]
    rw [hremoved]
    refine ⟨hfiled.limits, hfiled.current, fun d => ?_⟩
    rw [get?_erase hfiled.ne_nil, hfiled.shows]
    split
    · next heq => rw [heq, hnone]
    · rfl

theorem parent_of_fileName (h : p.fileName = some name) : ∃ q, p.parent = some q := by
  refine Option.ne_none_iff_exists'.mp fun hnone => ?_
  have hchars : parentChars p.text.toList = none := by simpa [parent] using hnone
  rw [fileName, components_eq_spelled] at h
  rcases spelled_of_parentChars_eq_none hchars with hs | hs <;> simp [hs] at h

/-- The hidden file has the name that is made up. --/
theorem resolve_beside {token : String} (h : p.fileName = some name) (htoken : '/' ∉ token.toList)
    (hplace : t.resolve (beside p name token) = .ok place) : ∃ dir, place = dir ++ [temporaryName name token] := by
  obtain ⟨q, hq⟩ := parent_of_fileName h
  rw [beside, withFileName, h, hq] at hplace
  exact resolve_join (isName_temporaryName (isName_of_fileName h) htoken) hplace

theorem grown_makeParents (names : Nat → String) (f : Refusals) (p : Path) (t : HostTree) :
    Grown (wayTo p) t ((callsRefusing names f).makeParents p t).2 := by
  unfold makeParents wayTo
  cases p.parent with
  | none => exact Grown.refl _ t
  | some q =>
    dsimp only
    split
    · exact Grown.refl _ t
    · unfold callsRefusing
      dsimp only
      cases f.makeDirs with
      | none => exact grown_makeDirs q _ t
      | some r => exact grown_makeDirsUntil r.1 r.2 q _ t

/-! ### The whole write -/

/-- No name that is made up when `p` is written stands in the tree already. --/
def FreshNear (names : Nat → String) (p : Path) (t : HostTree) : Prop :=
  ∀ name ∈ p.fileName, ∀ dir, t.get? (dir ++ [temporaryName name (names t.named)]) = none

/-- No file has the name that is made up, since all that has come in are directories. --/
theorem Wider.get?_temporary {way : List Path} (h : Wider way t u) (hfresh : FreshNear names p t)
    (hname : p.fileName = some name) (dir : List String) (d : ByteArray) (m : FileMode) :
    u.get? (dir ++ [temporaryName name (names t.named)]) ≠ some (.file d m) := by
  intro hfile
  rcases h.kept (dir ++ [temporaryName name (names t.named)]) with hkept | ⟨-, ⟨m', hdir⟩, -⟩
  · rw [hfile, hfresh name hname dir] at hkept
    cases hkept
  · rw [hfile] at hdir
    cases hdir

theorem ends_write (hslash : '/' ∉ (names t.named).toList) (hfresh : FreshNear names p t) (f : Refusals)
    (data : ByteArray) (mode : FileMode) :
    ((callsRefusing names f).fileSystem.write p data mode).Ends (· = t)
      (fun u => ∃ b, Wider (wayTo p) t b ∧ InPlace b p data ⟨mode.bits &&& 0o7777⟩ u) (Wider (wayTo p) t) := by
  have hparents : ((callsRefusing names f).makeParents p).Ends (· = t) (Grown (wayTo p) t) (Wider (wayTo p) t) := by
    rintro s rfl
    have hgrown := grown_makeParents names f p s
    rcases heq : (callsRefusing names f).makeParents p s with ⟨e | _, u⟩
    · rw [heq] at hgrown
      exact hgrown.toWider
    · rw [heq] at hgrown
      exact hgrown
  refine hparents.andThen fun s hs => ?_
  dsimp only
  cases hname : p.fileName with
  | none => exact hs.toWider
  | some name =>
    -- The tree once the name is made up.
    let b : HostTree := { s with named := s.named + 1 }
    have hb : Wider (wayTo p) t b := hs.toWider.trans (Alike.wider ⟨rfl, rfl, fun _ => rfl⟩)
    have hfree : ∀ place, b.resolve (beside p name (names s.named)) = .ok place →
        ∀ d m, b.get? place ≠ some (.file d m) := by
      rw [hs.named]
      intro place hplace
      obtain ⟨dir, rfl⟩ := resolve_beside hname hslash hplace
      exact hb.get?_temporary hfresh hname dir
    have hfill := ends_fillAndRename names f b (beside p name (names s.named)) p data mode b rfl
    have hmade : (callsRefusing names f).freshName s = (names s.named, b) := rfl
    rcases heq : (callsRefusing names f).fillAndRename (beside p name (names s.named)) p data mode b with ⟨e | _, u⟩
    · rw [heq] at hfill
      simp only [hmade, heq]
      exact hb.trans (alike_remove hfree hfill).wider
    · rw [heq] at hfill
      simp only [hmade, heq]
      exact ⟨b, hb, hfill⟩

/-- What a write that fails leaves: everything, and besides that directories on the way. A path without steps upwards
    does not lead to one of these. --/
structure LeftAlone (p : Path) (t u : HostTree) : Prop where
  kept : ∀ place, KeptAt (wayTo p) t u place
  found : ∀ place, t.resolve p = .ok place → u.resolve p = .ok place
  target : Component.parent ∉ p.components → ∀ place, u.resolve p = .ok place → u.get? place = t.get? place

/-- What a write that ends well leaves: the file, and all else but for directories on the way. --/
def Replaced (p : Path) (data : ByteArray) (mode : FileMode) (t u : HostTree) : Prop :=
  ∃ place, u.resolve p = .ok place ∧ u.get? place = some (.file data mode) ∧ ∀ d, d ≠ place → KeptAt (wayTo p) t u d

theorem Wider.leftAlone (h : Wider (wayTo p) t u) : LeftAlone p t u where
  kept := h.kept
  found _ := h.leads.resolve
  target hdots place hplace := by
    rcases h.kept place with hkept | ⟨-, -, a, ha, hway⟩
    · exact hkept
    · exact absurd hway (ne_of_mem_wayTo hdots ha hplace)

theorem InPlace.replaced (hb : Wider (wayTo p) t b) (h : InPlace b p data mode u) : Replaced p data mode t u := by
  obtain ⟨parent, name, -, hplace, hfiled⟩ := h
  refine ⟨parent ++ [name], hfiled.leads.resolve hplace, hfiled.here, fun d hd => ?_⟩
  exact (hb.kept d).trans (Or.inl ((hfiled.shows d).trans (if_neg hd))) hfiled.leads

theorem InPlace.get?_temporary (hb : Wider (wayTo p) t b) (hfresh : FreshNear names p t) (h : InPlace b p data mode u)
    (hname : p.fileName = some name) (dir : List String) (d : ByteArray) (m : FileMode) :
    u.get? (dir ++ [temporaryName name (names t.named)]) ≠ some (.file d m) := by
  obtain ⟨parent, name', hname', -, hfiled⟩ := h
  rw [hname] at hname'
  cases hname'
  rw [hfiled.shows, if_neg]
  · exact hb.get?_temporary hfresh hname dir d m
  · exact fun heq => temporaryName_ne name _ (List.cons.inj (List.append_inj' heq rfl).2).1.symm

/-- Whatever calls the host refuses, and however far it gets with them, a file is replaced as a whole or is left alone:
    the file under the path has the contents and the mode, or what was there is there still. In both cases no hidden
    file is left, and the rest is as it was but for directories on the way to the parent. --/
theorem write_all_or_nothing (names : Nat → String) (f : Refusals) (t : HostTree) (p : Path) (data : ByteArray)
    (mode : FileMode) (hslash : '/' ∉ (names t.named).toList) (hfresh : FreshNear names p t) :
    let after := (callsRefusing names f).fileSystem.write p data mode t
    (∀ e, after.1 = .error e → LeftAlone p t after.2) ∧
      (after.1 = .ok () → Replaced p data ⟨mode.bits &&& 0o7777⟩ t after.2) ∧
      ∀ name ∈ p.fileName, ∀ dir d m, after.2.get? (dir ++ [temporaryName name (names t.named)]) ≠ some (.file d m) := by
  intro after
  have hends := ends_write hslash hfresh f data mode t rfl
  rcases hafter : after with ⟨e | ⟨⟩, u⟩
  · have hwider : Wider (wayTo p) t u := by
      rw [show (callsRefusing names f).fileSystem.write p data mode t = (.error e, u) from hafter] at hends
      exact hends
    exact ⟨fun _ _ => hwider.leftAlone, nofun, fun name hname => hwider.get?_temporary hfresh hname⟩
  · have hwritten : ∃ b, Wider (wayTo p) t b ∧ InPlace b p data ⟨mode.bits &&& 0o7777⟩ u := by
      rw [show (callsRefusing names f).fileSystem.write p data mode t = (.ok (), u) from hafter] at hends
      exact hends
    obtain ⟨b, hb, hnamed⟩ := hwritten
    exact ⟨nofun, fun _ => hnamed.replaced hb, fun name hname => hnamed.get?_temporary hb hfresh hname⟩

/-- The disk is full after two bytes, and the old file is there still. With room enough it is replaced. --/
theorem disk_full_keeps_file :
    let t : HostTree := { HostTree.empty with entries := [(["f"], .file ⟨#[1, 2, 3]⟩ ⟨0o640⟩)] }
    let full : IoError := .reported .storageFull "no space left on device"
    let f : Refusals := { Refusals.nothing with append := some (2, full) }
    let broken := (callsRefusing counted f).fileSystem.write ⟨"/f"⟩ ⟨#[7, 8, 9, 10]⟩ .privateFile t
    let whole := (callsRefusing counted .nothing).fileSystem.write ⟨"/f"⟩ ⟨#[7, 8, 9, 10]⟩ .privateFile t
    '/' ∉ (counted t.named).toList ∧ FreshNear counted ⟨"/f"⟩ t ∧
      broken.1 = .error full ∧ LeftAlone ⟨"/f"⟩ t broken.2 ∧ broken.2.get? ["f"] = some (.file ⟨#[1, 2, 3]⟩ ⟨0o640⟩) ∧
      whole.1 = .ok () ∧ Replaced ⟨"/f"⟩ ⟨#[7, 8, 9, 10]⟩ .privateFile t whole.2 := by
  intro t full f broken whole
  have hslash : '/' ∉ (counted t.named).toList := (isToken_counted _).notMem
  have hfresh : FreshNear counted ⟨"/f"⟩ t := by
    rintro name hname dir
    obtain rfl : "f" = name := by
      have hf : Path.fileName ⟨"/f"⟩ = some "f" := by decide +kernel
      simpa [hf] using hname
    have hne : ["f"] ≠ dir ++ [temporaryName "f" (counted t.named)] := fun heq =>
      temporaryName_ne "f" (counted t.named) (by simpa using congrArg List.getLast? heq)
    simp [get?, t, hne]
  have hbroken : broken.1 = .error full := by decide +kernel
  have hwhole : whole.1 = .ok () := by decide +kernel
  have hleft := (write_all_or_nothing counted f t ⟨"/f"⟩ ⟨#[7, 8, 9, 10]⟩ .privateFile hslash hfresh).1 full hbroken
  have hplace : t.resolve ⟨"/f"⟩ = .ok ["f"] := by decide +kernel
  refine ⟨hslash, hfresh, hbroken, hleft, hleft.target (by decide +kernel) ["f"] (hleft.found _ hplace), hwhole, ?_⟩
  exact (write_all_or_nothing counted .nothing t ⟨"/f"⟩ ⟨#[7, 8, 9, 10]⟩ .privateFile hslash hfresh).2.1 hwhole

/-- A path with a step upwards can lead to a directory that is made on the way to it, and of the mode only the bits that
    a file has are kept. --/
theorem write_through_own_place :
    let onHost := (callsRefusing counted .nothing).fileSystem
    let upward := onHost.write ⟨"/a/../a"⟩ ⟨#[7]⟩ .privateFile .empty
    let wide := onHost.write ⟨"/f"⟩ ⟨#[7]⟩ ⟨0o100600⟩ .empty
    FreshNear counted ⟨"/a/../a"⟩ .empty ∧ upward.1 = .error (.host .isDirectory) ∧
      upward.2.resolve ⟨"/a/../a"⟩ = .ok ["a"] ∧ HostTree.empty.get? ["a"] = none ∧
      upward.2.get? ["a"] = some (.dir .privateDirectory) ∧
      FreshNear counted ⟨"/f"⟩ .empty ∧ wide.1 = .ok () ∧ wide.2.resolve ⟨"/f"⟩ = .ok ["f"] ∧
      wide.2.get? ["f"] = some (.file ⟨#[7]⟩ ⟨0o600⟩) := by
  have hfresh : ∀ p, FreshNear counted p .empty := fun p name _ dir => by simp [get?, HostTree.empty]
  exact ⟨hfresh _, by decide +kernel, by decide +kernel, rfl, by decide +kernel, hfresh _, by decide +kernel,
    by decide +kernel, by decide +kernel⟩

end HostTree
end AnsibleStaging
