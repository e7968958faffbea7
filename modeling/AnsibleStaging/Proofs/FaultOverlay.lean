import AnsibleStaging.Proofs.Outlines
import AnsibleStaging.Proofs.Places

/-! What calls that are made to fail leave of a file system. A failure is registered for a place and takes every call
    there, whatever its spelling and whoever registered the place before; all other calls go through. So behind the
    faults stands what a plain file system has after the calls that were spared, also where they pass through a place
    that is registered itself. -/

namespace AnsibleStaging
open MemTree (FileCall)

def MemTree.FileCall.path : FileCall → Path
  | makeDirs p _ => p
  | write p _ _ => p
  | read p => p

namespace FileSystem
variable {σ : Type}

/-- Answers a call, with bytes only where a file was read. --/
def respond (fs : FileSystem σ) : FileCall → FileAction σ (Option ByteArray)
  | .makeDirs p mode, s => ((fs.makeDirs p mode s).1.map fun _ => none, (fs.makeDirs p mode s).2)
  | .write p data mode, s => ((fs.write p data mode s).1.map fun _ => none, (fs.write p data mode s).2)
  | .read p, s => ((fs.read p s).1.map some, (fs.read p s).2)

/-- The state that some calls leave, in the order in which they are made. --/
def leaves (fs : FileSystem σ) : List FileCall → σ → σ
  | [], s => s
  | call :: rest, s => fs.leaves rest (fs.respond call s).2

/-- The same file system, which also keeps a list of the calls that reach it. --/
def logged (fs : FileSystem σ) : FileSystem (List FileCall × σ) where
  makeDirs p mode s := ((fs.makeDirs p mode s.2).1, s.1 ++ [.makeDirs p mode], (fs.makeDirs p mode s.2).2)
  write p data mode s := ((fs.write p data mode s.2).1, s.1 ++ [.write p data mode], (fs.write p data mode s.2).2)
  read p s := ((fs.read p s.2).1, s.1 ++ [.read p], (fs.read p s.2).2)

theorem respond_logged (fs : FileSystem σ) (call : FileCall) (log : List FileCall) (s : σ) :
    fs.logged.respond call (log, s) = ((fs.respond call s).1, log ++ [call], (fs.respond call s).2) := by
  cases call <;> rfl

theorem leaves_logged (fs : FileSystem σ) (calls log : List FileCall) (s : σ) :
    fs.logged.leaves calls (log, s) = (log ++ calls, fs.leaves calls s) := by
  induction calls generalizing log s with
  | nil =>
    rw [List.append_nil]
    rfl
  | cons call rest ih =>
    rw [leaves, respond_logged, ih, List.append_assoc]
    rfl

end FileSystem

namespace Faults
variable {σ : Type} {registrations : List Fault} {p : Path}

/-! ### Registered places -/

/-- The last registration for the place of a path. --/
def LastFor (registrations : List Fault) (p : Path) (r : Fault) : Prop :=
  ∃ earlier later, registrations = earlier ++ r :: later ∧ r.path.Same p ∧ ∀ x ∈ later, ¬x.path.Same p

/-- No registration is for the place of the call. --/
def Spared (registrations : List Fault) (call : FileCall) : Prop := ∀ r ∈ registrations, ¬r.path.Same call.path

instance (registrations : List Fault) : DecidablePred (Spared registrations) := fun _ =>
  inferInstanceAs (Decidable (∀ _ ∈ _, _))

/-- Read backwards, the last registration for a place is the first one found. --/
theorem lastFor_iff {r : Fault} : LastFor registrations p r ↔
    registrations.reverse.find? (fun x => decide (x.path.Same p)) = some r := by
  simp only [LastFor, List.find?_eq_some_iff_append, decide_eq_true_eq, Bool.not_eq_true', decide_eq_false_iff_not]
  constructor
  · rintro ⟨earlier, later, rfl, hs, hlater⟩
    exact ⟨hs, later.reverse, earlier.reverse, by simp, fun x hx => hlater x (List.mem_reverse.mp hx)⟩
  · rintro ⟨hs, later, earlier, heq, hlater⟩
    exact ⟨earlier.reverse, later.reverse, by simpa using congrArg List.reverse heq, hs,
      fun x hx => hlater x (List.mem_reverse.mp hx)⟩

theorem exists_lastFor (h : ∃ r ∈ registrations, r.path.Same p) : ∃ r, LastFor registrations p r := by
  obtain ⟨r, hr, hs⟩ := h
  have found : (registrations.reverse.find? fun x => decide (x.path.Same p)).isSome :=
    List.find?_isSome.mpr ⟨r, List.mem_reverse.mpr hr, by simpa using hs⟩
  obtain ⟨last, hlast⟩ := Option.isSome_iff_exists.mp found
  exact ⟨last, lastFor_iff.mpr hlast⟩

/-- The faults that are registered one after another. --/
def ofList (registrations : List Fault) : Faults := registrations.foldl register none

theorem registered_foldl (f : Faults) (registrations : List Fault) :
    (registrations.foldl register f).registered = registrations.reverse ++ f.registered := by
  induction registrations generalizing f with
  | nil => rfl
  | cons r rest ih =>
    rw [List.foldl_cons, ih, List.reverse_cons, List.append_assoc]
    rfl

theorem registered_ofList (registrations : List Fault) : (ofList registrations).registered = registrations.reverse := by
  rw [ofList, registered_foldl]
  exact List.append_nil _

theorem find?_of_lastFor {r : Fault} (h : LastFor registrations p r) :
    (ofList registrations).find? p = some (.reported r.kind r.message) := by
  rw [find?, registered_ofList, lastFor_iff.mp h]
  rfl

theorem find?_of_spared {call : FileCall} (h : Spared registrations call) :
    (ofList registrations).find? call.path = Option.none := by
  rw [find?, registered_ofList, Option.map_eq_none_iff, List.find?_eq_none]
  exact fun x hx => by simpa using h x (List.mem_reverse.mp hx)

/-! ### Calls behind the faults -/

/-- All three calls are guarded in one way. --/
theorem respond_overlay (f : Faults) (inner : FileSystem σ) (call : FileCall) :
    (f.overlay inner).respond call = f.guard call.path (inner.respond call) := by
  funext s
  cases call <;> simp only [FileSystem.respond, overlay, guard, FileCall.path] <;> split <;> rfl

theorem respond_of_lastFor (inner : FileSystem σ) {call : FileCall} {r : Fault}
    (h : LastFor registrations call.path r) (s : σ) :
    ((ofList registrations).overlay inner).respond call s = (.error (.reported r.kind r.message), s) := by
  rw [respond_overlay, guard, find?_of_lastFor h]

theorem respond_of_spared (inner : FileSystem σ) {call : FileCall} (h : Spared registrations call) (s : σ) :
    ((ofList registrations).overlay inner).respond call s = inner.respond call s := by
  rw [respond_overlay, guard, find?_of_spared h]

/-- The calls that are not spared leave nothing. --/
theorem leaves_overlay (inner : FileSystem σ) (registrations : List Fault) (calls : List FileCall) (s : σ) :
    ((ofList registrations).overlay inner).leaves calls s = inner.leaves (calls.filter (Spared registrations)) s := by
  induction calls generalizing s with
  | nil => rfl
  | cons call rest ih =>
    rw [FileSystem.leaves, ih]
    by_cases hc : Spared registrations call
    · rw [respond_of_spared inner hc, List.filter_cons_of_pos (by simpa using hc), FileSystem.leaves]
    · obtain ⟨r, hr⟩ : ∃ r, LastFor registrations call.path r := exists_lastFor (by simpa [Spared] using hc)
      rw [respond_of_lastFor inner hr, List.filter_cons_of_neg (by simpa using hc)]

/-- Behind registered faults a file system is what it is without them, but for the calls at registered places. They come
    back with the kind and the message that were registered last and do not reach it; after any calls it stands as after
    those that were spared, and answers the next one that is spared as it would then. --/
theorem overlay_spares (inner : FileSystem σ) (registrations : List Fault) (calls : List FileCall) (s : σ) :
    let faulty := (ofList registrations).overlay inner
    let spared := calls.filter (Spared registrations)
    let now := inner.leaves spared s
    faulty.leaves calls s = now ∧
    ((ofList registrations).overlay inner.logged).leaves calls ([], s) = (spared, now) ∧
    ∀ call : FileCall,
      ((∃ r ∈ registrations, r.path.Same call.path) →
        ∃ r, LastFor registrations call.path r ∧ faulty.respond call now = (.error (.reported r.kind r.message), now)) ∧
      ((∀ r ∈ registrations, ¬r.path.Same call.path) → faulty.respond call now = inner.respond call now) := by
  intro faulty spared now
  refine ⟨leaves_overlay inner registrations calls s, ?_, fun call => ⟨fun h => ?_, fun h => respond_of_spared inner h _⟩⟩
  · rw [leaves_overlay, FileSystem.leaves_logged]
    rfl
  · obtain ⟨r, hr⟩ := exists_lastFor h
    exact ⟨r, hr, respond_of_lastFor inner hr _⟩

/-- A file is written below a directory that is registered, and the directory is made for it. At a place that is
    registered twice the later registration counts, in whatever spelling. --/
theorem overlay_spares_below :
    let registrations : List Fault := [⟨⟨"/base/uid"⟩, .permissionDenied, "locked"⟩,
      ⟨⟨"/base/uid/creds"⟩, .notFound, "gone"⟩, ⟨⟨"/base//uid/./creds"⟩, .timedOut, "slow"⟩]
    let other : FileCall := .write ⟨"/base/uid/other"⟩ .empty .privateFile
    let calls := [.makeDirs ⟨"/base/uid/."⟩ .privateDirectory, other, .write ⟨"/base/uid/creds/"⟩ .empty .privateFile]
    let faulty := (ofList registrations).overlay MemTree.fileSystem
    let t := faulty.leaves calls .empty
    t = MemTree.fileSystem.leaves [other] .empty ∧ t.isDir ⟨"/base/uid"⟩ = true ∧
      (faulty.respond (.read ⟨"/base/uid//creds"⟩) t).1 = .error (.reported .timedOut "slow") ∧
      faulty.respond (.read ⟨"/base/uid/other"⟩) t = (.ok (some .empty), t) := by
  intro registrations other calls faulty t
  have hspared : calls.filter (Spared registrations) = [other] := by
    rw [List.filter_cons_of_neg (by decide +kernel), List.filter_cons_of_pos (by decide +kernel),
      List.filter_cons_of_neg (by decide +kernel)]
    rfl
  obtain ⟨left, -, next⟩ := overlay_spares MemTree.fileSystem registrations calls .empty
  rw [hspared] at left next
  obtain ⟨r, hlast, slow⟩ := (next (.read ⟨"/base/uid//creds"⟩)).1 (by decide +kernel)
  have later : registrations.reverse.find? (fun x => decide (x.path.Same ⟨"/base/uid//creds"⟩)) =
      some ⟨⟨"/base//uid/./creds"⟩, .timedOut, "slow"⟩ := by decide +kernel
  obtain rfl := Option.some.inj ((lastFor_iff.mp hlast).symm.trans later)
  have read := (next (.read ⟨"/base/uid/other"⟩)).2 (by decide +kernel)
  have ht : t = MemTree.fileSystem.leaves [other] .empty := left
  rw [ht]
  exact ⟨rfl, by decide +kernel, congrArg Prod.fst slow, read.trans (by decide +kernel)⟩

end Faults
end AnsibleStaging
