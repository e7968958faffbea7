import AnsibleStaging.Proofs.Secrecy
import AnsibleStaging.Proofs.TreeShape

/-! The entries of credentials, one after the other. Each makes the one lookup that its source names and then, if bytes are
    found and its name is one, the one write of these bytes. The first entry that is not written ends the work, and the
    tree is then as the entries before it leave it. -/

namespace AnsibleStaging
open Script Planning

/-! ### Lookups -/

/-- The selector of a source, without the others. --/
def Selectors.only (s : Selectors) : CredentialsSource → Selectors
  | .none => { Selectors.empty with data := s.data }
  | .inline => { Selectors.empty with data := s.data }
  | .environment => { Selectors.empty with environment := s.environment }
  | .filesystem => { Selectors.empty with path := s.path }
  | .secret => { Selectors.empty with secret := s.secret }

/-- The entry with the selector of its source alone. --/
def CredentialEntry.ofSource (e : CredentialEntry) : CredentialEntry := { e with selectors := e.selectors.only e.source }

/-- The call in which a source looks for bytes, if it makes one. --/
def lookupCall? (source : CredentialsSource) (selectors : Selectors) : Option Call :=
  match source with
  | .filesystem => (nonEmpty? selectors.path).map fun path => .read ⟨path⟩
  | .secret => selectors.secret.map .secret
  | _ => none

theorem extractCredentials_only (env : Environment) (source : CredentialsSource) (selectors : Selectors) :
    extractCredentials env source (selectors.only source) = extractCredentials env source selectors := by
  cases source <;> rfl

theorem writeEntry_ofSource (env : Environment) (dir : Path) (e : CredentialEntry) :
    writeEntry env dir e.ofSource = writeEntry env dir e := by
  unfold writeEntry CredentialEntry.ofSource
  rw [extractCredentials_only]
  rfl

theorem writeEntries_ofSource (env : Environment) (dir : Path) (latest : Option ByteArray) (es : List CredentialEntry) :
    writeEntries env dir latest (es.map CredentialEntry.ofSource) = writeEntries env dir latest es := by
  induction es generalizing latest with
  | nil => rfl
  | cons e rest ih =>
    rw [List.map_cons, writeEntries, writeEntries, writeEntry_ofSource]
    simp only [ih]

/-! ### Runs -/

/-- A script of one call ends with what is read from the answer. --/
theorem run_answer {σ ε α : Type} (h : Handler calls σ) (c : Call) (read : calls.Reply c → Except ε α) (s : σ) :
    (.ask c fun r => .ofExcept (read r) : Task ε α).run h s = ((h c s).1.map read, (h c s).2) ∧
      asked ((.ask c fun r => .ofExcept (read r) : Task ε α).exchanges h s) = [c] := by
  cases hr : (h c s).1 with
  | none =>
    rw [run_ask_none hr, exchanges_ask_none hr]
    exact ⟨rfl, rfl⟩
  | some r =>
    rw [run_ask hr, exchanges_ask hr, run_ofExcept]
    refine ⟨rfl, ?_⟩
    cases read r <;> rfl

/-! ### Writing behind faults -/

namespace Faults
variable {t : MemTree} {p : Path} {data : ByteArray} {mode : FileMode}

theorem reached_write (f : Faults) (p : Path) (data : ByteArray) (mode : FileMode) (ht : t.Reached) :
    (f.files.write p data mode t).2.Reached := by
  simp only [files, overlay, guard]
  split
  · exact ht
  · exact .write p data mode ht

theorem write_error (f : Faults) (ht : t.Reached) {e : IoError} (h : (f.files.write p data mode t).1 = .error e) :
    (f.files.write p data mode t).2 = t := by
  simp only [files, overlay, guard] at h ⊢
  split at h
  · rfl
  · exact ht.closed.write_error h

end Faults

/-! ### Depots -/

/-- Where entries find their bytes and leave them: a tree behind faults, an environment, and secrets. These are looked up
    beside the tree, where each lookup may answer otherwise than the one before, or not at all. --/
structure Depot (σ : Type) where
  handler : Handler calls σ
  tree : σ → MemTree
  faults : Faults
  environment : Environment
  reads (p : Path) (s : σ) : (handler (.read p) s).1 = some (faults.files.read p (tree s)).1 ∧
    tree (handler (.read p) s).2 = tree s
  writes (p : Path) (data : ByteArray) (mode : FileMode) (s : σ) :
    (handler (.write p data mode) s).1 = some (faults.files.write p data mode (tree s)).1 ∧
      tree (handler (.write p data mode) s).2 = (faults.files.write p data mode (tree s)).2
  beside (key : SecretKey) (s : σ) : tree (handler (.secret key) s).2 = tree s

/-- A site with its vault. --/
def Site.depot (a : Site) (v : Vault) : Depot MemTree where
  handler := a.handler v
  tree := id
  faults := a.faults
  environment := v.environment
  reads p t := ⟨rfl, a.faults.read_snd p t⟩
  writes _ _ _ _ := ⟨rfl, rfl⟩
  beside _ _ := rfl

namespace Depot
variable {σ : Type} {d : Depot σ} {dir : Path} {e : CredentialEntry} {s u v : σ}

def result (d : Depot σ) (dir : Path) (es : List CredentialEntry) (s : σ) : Option (Except ConnectError (Option ByteArray)) :=
  ((writeCredentials d.environment dir es).run d.handler s).1

/-- Where writing the entries leads. --/
def after (d : Depot σ) (dir : Path) (es : List CredentialEntry) (s : σ) : σ :=
  ((writeCredentials d.environment dir es).run d.handler s).2

/-- The calls that writing the entries makes, with their answers. --/
def record (d : Depot σ) (dir : Path) (es : List CredentialEntry) (s : σ) : Record :=
  (writeCredentials d.environment dir es).exchanges d.handler s

/-- The bytes that a source finds, or why it finds none; nothing if its lookup is not answered. --/
def find (d : Depot σ) (source : CredentialsSource) (selectors : Selectors) (s : σ) :
    Option (Except ExtractionError ByteArray) :=
  match source with
  | .none => some (.ok (selectors.data.elim .empty String.toUTF8))
  | .inline => some (selectors.data.elim (.error .noData) fun data => .ok data.toUTF8)
  | .environment =>
    some ((nonEmpty? selectors.environment).elim (.error .noVariable) fun name =>
      (d.environment name).elim (.error (.variableUnset name)) .ok)
  | .filesystem =>
    some ((nonEmpty? selectors.path).elim (.error .noPath) fun path =>
      (d.faults.files.read ⟨path⟩ (d.tree s)).1.mapError (.read path))
  | .secret =>
    selectors.secret.elim (some (.error .noSecretKey)) fun key =>
      (d.handler (.secret key) s).1.map (Except.mapError .secret)

theorem run_read (d : Depot σ) (p : Path) (s : σ) :
    ((Task.read p).run d.handler s).1 = some (d.faults.files.read p (d.tree s)).1 ∧
      d.tree ((Task.read p).run d.handler s).2 = d.tree s ∧ asked ((Task.read p).exchanges d.handler s) = [.read p] := by
  obtain ⟨hr, htree⟩ := d.reads p s
  obtain ⟨hrun, hasked⟩ := run_answer d.handler (.read p) id s
  refine ⟨(congrArg Prod.fst hrun).trans ?_, (congrArg (d.tree ·.2) hrun).trans htree, hasked⟩
  rw [hr]
  rfl

theorem run_secret (d : Depot σ) (key : SecretKey) (s : σ) :
    ((Task.secret key).run d.handler s).1 = (d.handler (.secret key) s).1 ∧
      d.tree ((Task.secret key).run d.handler s).2 = d.tree s ∧
      asked ((Task.secret key).exchanges d.handler s) = [.secret key] := by
  obtain ⟨hrun, hasked⟩ := run_answer d.handler (.secret key) id s
  exact ⟨(congrArg Prod.fst hrun).trans Option.map_id', (congrArg (d.tree ·.2) hrun).trans (d.beside key s), hasked⟩

/-- A source makes its lookup, answers what is found and leaves the tree as it is. --/
theorem run_extractCredentials (d : Depot σ) (source : CredentialsSource) (selectors : Selectors) (s : σ) :
    ((extractCredentials d.environment source selectors).run d.handler s).1 = d.find source selectors s ∧
      d.tree ((extractCredentials d.environment source selectors).run d.handler s).2 = d.tree s ∧
      asked ((extractCredentials d.environment source selectors).exchanges d.handler s) =
        (lookupCall? source selectors).toList := by
  unfold extractCredentials find lookupCall?
  cases source with
  | none => exact ⟨rfl, rfl, rfl⟩
  | inline => cases selectors.data <;> exact ⟨rfl, rfl, rfl⟩
  | environment =>
    cases nonEmpty? selectors.environment with
    | none => exact ⟨rfl, rfl, rfl⟩
    | some name =>
      dsimp only [Option.elim_some]
      cases d.environment name <;> exact ⟨rfl, rfl, rfl⟩
  | filesystem =>
    cases nonEmpty? selectors.path with
    | none => exact ⟨rfl, rfl, rfl⟩
    | some path =>
      obtain ⟨hr, htree, hasked⟩ := d.run_read ⟨path⟩ s
      obtain ⟨hrun, hcalls⟩ := run_mapError d.handler (Task.read ⟨path⟩) (ExtractionError.read path) s
      dsimp only
      rw [hrun, hcalls, hr]
      exact ⟨rfl, htree, hasked⟩
  | secret =>
    cases selectors.secret with
    | none => exact ⟨rfl, rfl, rfl⟩
    | some key =>
      obtain ⟨hr, htree, hasked⟩ := d.run_secret key s
      obtain ⟨hrun, hcalls⟩ := run_mapError d.handler (Task.secret key) ExtractionError.secret s
      dsimp only
      rw [hrun, hcalls, hr]
      exact ⟨rfl, htree, hasked⟩

theorem run_write (d : Depot σ) (p : Path) (data : ByteArray) (s : σ) :
    ((Staging.write p data).run d.handler s).1 = some (d.faults.files.write p data .privateFile (d.tree s)).1 ∧
      d.tree ((Staging.write p data).run d.handler s).2 = (d.faults.files.write p data .privateFile (d.tree s)).2 ∧
      asked ((Staging.write p data).exchanges d.handler s) = [.write p data .privateFile] := by
  obtain ⟨hr, htree⟩ := d.writes p data .privateFile s
  obtain ⟨hrun, hasked⟩ := run_answer d.handler (.write p data .privateFile) id s
  refine ⟨(congrArg Prod.fst hrun).trans ?_, (congrArg (d.tree ·.2) hrun).trans htree, hasked⟩
  rw [hr]
  rfl

/-! ### One entry -/

/-- An entry is written: its bytes are found, it has a name, and writing leads from one tree to the other. --/
structure Writes (d : Depot σ) (dir : Path) (x : CredentialEntry × ByteArray) (s u : σ) : Prop where
  found : d.find x.1.source x.1.selectors s = some (.ok x.2)
  named : Staging.safeFileName x.1.filename = some (entryFile x.1)
  written : d.faults.files.write (dir.join (entryFile x.1)) x.2 .privateFile (d.tree s) = (.ok (), d.tree u)

/-- How an entry is not written, with the failure and the calls that it makes. Its bytes come before its name, and its name
    before its file. A failure is missing where the lookup is not answered. --/
inductive Fails (d : Depot σ) (dir : Path) (e : CredentialEntry) (s : σ) : Option ConnectError → List Call → Prop
  | unanswered (found : d.find e.source e.selectors s = none) :
    Fails d dir e s none (lookupCall? e.source e.selectors).toList
  | lookup {err : ExtractionError} (found : d.find e.source e.selectors s = some (.error err)) :
    Fails d dir e s (some (.extract err)) (lookupCall? e.source e.selectors).toList
  | name {data : ByteArray} (found : d.find e.source e.selectors s = some (.ok data))
    (named : Staging.safeFileName e.filename = none) :
    Fails d dir e s
      (some (.writeCredentials e.filename (.reported .invalidInput "credential filename has no final component")))
      (lookupCall? e.source e.selectors).toList
  | write {data : ByteArray} {err : IoError} (found : d.find e.source e.selectors s = some (.ok data))
    (named : Staging.safeFileName e.filename = some (entryFile e))
    (written : (d.faults.files.write (dir.join (entryFile e)) data .privateFile (d.tree s)).1 = .error err) :
    Fails d dir e s (some (.writeCredentials e.filename err))
      ((lookupCall? e.source e.selectors).toList ++ [.write (dir.join (entryFile e)) data .privateFile])

/-- A run in which an entry is written. --/
structure Enters (d : Depot σ) (dir : Path) (x : CredentialEntry × ByteArray) (s u : σ) : Prop
    extends d.Writes dir x s u where
  run : (writeEntry d.environment dir x.1).run d.handler s = (some (.ok (entryFile x.1, x.2)), u)

/-- A run in which an entry is not written. --/
structure Stops (d : Depot σ) (dir : Path) (e : CredentialEntry) (s : σ) (err : Option ConnectError) (made : List Call) :
    Prop where
  fails : d.Fails dir e s err made
  result : ((writeEntry d.environment dir e).run d.handler s).1 = err.map .error
  tree : d.tree ((writeEntry d.environment dir e).run d.handler s).2 = d.tree s
  calls : asked ((writeEntry d.environment dir e).exchanges d.handler s) = made

/-- What is done with the bytes that are found for an entry. --/
def keepFound (dir : Path) (e : CredentialEntry) (data : ByteArray) : Task ConnectError (String × ByteArray) := do
  let name ← .ofExcept (entryName e)
  (Staging.write (dir.join name) data).mapError (.writeCredentials e.filename)
  return (name, data)

theorem writeEntry_eq (env : Environment) (dir : Path) (e : CredentialEntry) :
    writeEntry env dir e = (extractCredentials env e.source e.selectors).mapError .extract >>= keepFound dir e := rfl

/-- What is done for an entry once its lookup is answered. --/
def answered (dir : Path) (e : CredentialEntry) : Except ExtractionError ByteArray → Task ConnectError (String × ByteArray)
  | .ok data => keepFound dir e data
  | .error err => .fail (.extract err)

theorem keepFound_unnamed {data : ByteArray} (h : Staging.safeFileName e.filename = none) : keepFound dir e data =
    .fail (.writeCredentials e.filename (.reported .invalidInput "credential filename has no final component")) := by
  unfold keepFound entryName
  rw [h]
  rfl

theorem keepFound_named {data : ByteArray} {name : String} (h : Staging.safeFileName e.filename = some name) :
    keepFound dir e data =
      (Staging.write (dir.join name) data).mapError (.writeCredentials e.filename) >>= fun _ => .done (name, data) := by
  unfold keepFound entryName
  rw [h]
  rfl

theorem run_keepFound (d : Depot σ) {name : String} {data : ByteArray} (h : Staging.safeFileName e.filename = some name)
    (s : σ) :
    ((keepFound dir e data).run d.handler s).1 =
      some ((d.faults.files.write (dir.join name) data .privateFile (d.tree s)).1.mapError (.writeCredentials e.filename)
        |>.map fun _ => (name, data)) ∧
    d.tree ((keepFound dir e data).run d.handler s).2 =
      (d.faults.files.write (dir.join name) data .privateFile (d.tree s)).2 ∧
    asked ((keepFound dir e data).exchanges d.handler s) = [.write (dir.join name) data .privateFile] := by
  obtain ⟨hr, htree, hasked⟩ := d.run_write (dir.join name) data s
  obtain ⟨hmap, hmapped⟩ := run_mapError d.handler (Staging.write (dir.join name) data)
    (ConnectError.writeCredentials e.filename) s
  rw [hr] at hmap
  obtain ⟨hrun, hcalls⟩ := run_bind hmap fun _ => (.done (name, data) : Task ConnectError (String × ByteArray))
  rw [keepFound_named h, hrun, hcalls, hmapped]
  cases (d.faults.files.write (dir.join name) data .privateFile (d.tree s)).1 with
  | ok _ => exact ⟨rfl, htree, by rw [← hasked]; exact congrArg asked (List.append_nil _)⟩
  | error _ => exact ⟨rfl, htree, by rw [← hasked]; exact congrArg asked (List.append_nil _)⟩

/-- The lookup of an entry comes first. Where it is not answered, it is all that is done. --/
theorem run_lookUp (d : Depot σ) (dir : Path) (e : CredentialEntry) (s : σ) :
    ∃ u, d.tree u = d.tree s ∧
      ((d.find e.source e.selectors s = none ∧ (writeEntry d.environment dir e).run d.handler s = (none, u) ∧
          asked ((writeEntry d.environment dir e).exchanges d.handler s) = (lookupCall? e.source e.selectors).toList) ∨
        ∃ r, d.find e.source e.selectors s = some r ∧
          (writeEntry d.environment dir e).run d.handler s = (answered dir e r).run d.handler u ∧
          asked ((writeEntry d.environment dir e).exchanges d.handler s) =
            (lookupCall? e.source e.selectors).toList ++ asked ((answered dir e r).exchanges d.handler u)) := by
  obtain ⟨hr, htree, hasked⟩ := d.run_extractCredentials e.source e.selectors s
  obtain ⟨hmap, hmapped⟩ := run_mapError d.handler (extractCredentials d.environment e.source e.selectors)
    ConnectError.extract s
  refine ⟨_, htree, ?_⟩
  rw [hr] at hmap
  rw [writeEntry_eq, ← hasked, ← hmapped]
  cases hfind : d.find e.source e.selectors s with
  | none =>
    rw [hfind] at hmap
    obtain ⟨hrun, hcalls⟩ := run_bind_none hmap (keepFound dir e)
    exact Or.inl ⟨rfl, hrun, congrArg asked hcalls⟩
  | some r =>
    rw [hfind] at hmap
    obtain ⟨hrun, hcalls⟩ := run_bind hmap (keepFound dir e)
    have goesOn : ((.ofExcept (r.mapError .extract) : Task ConnectError ByteArray) >>= keepFound dir e) =
        answered dir e r := by
      cases r <;> rfl
    rw [goesOn] at hrun hcalls
    exact Or.inr ⟨r, rfl, hrun, (congrArg asked hcalls).trans List.map_append⟩

/-- An entry whose bytes are found is written, or its name or its file fails. --/
theorem enters_or_stops_of_found {data : ByteArray} (hfind : d.find e.source e.selectors s = some (.ok data))
    (htree : d.tree u = d.tree s) (hrun : (writeEntry d.environment dir e).run d.handler s =
      (keepFound dir e data).run d.handler u)
    (hasked : asked ((writeEntry d.environment dir e).exchanges d.handler s) =
      (lookupCall? e.source e.selectors).toList ++ asked ((keepFound dir e data).exchanges d.handler u))
    (hs : (d.tree s).Reached) : (∃ w, d.Enters dir (e, data) s w) ∨ ∃ err made, d.Stops dir e s err made := by
  cases hnamed : Staging.safeFileName e.filename with
  | none =>
    rw [keepFound_unnamed hnamed] at hrun hasked
    exact Or.inr ⟨_, _, .name hfind hnamed, congrArg Prod.fst hrun, (congrArg (d.tree ·.2) hrun).trans htree,
      hasked.trans (List.append_nil _)⟩
  | some name =>
    obtain rfl : name = entryFile e := by rw [entryFile, hnamed, Option.getD_some]
    obtain ⟨hresult, hleft, hwrite⟩ := d.run_keepFound hnamed u
    rw [htree] at hresult hleft
    rw [hwrite] at hasked
    cases hwritten : (d.faults.files.write (dir.join (entryFile e)) data .privateFile (d.tree s)).1 with
    | ok _ =>
      rw [hwritten] at hresult
      exact Or.inl ⟨_, ⟨hfind, hnamed, Prod.ext hwritten hleft.symm⟩, hrun.trans (Prod.ext hresult rfl)⟩
    | error err =>
      -- A write that fails has made no directory either, for the tree was built by calls.
      rw [hwritten] at hresult
      rw [d.faults.write_error hs hwritten] at hleft
      exact Or.inr ⟨_, _, .write hfind hnamed hwritten, (congrArg Prod.fst hrun).trans hresult,
        (congrArg (d.tree ·.2) hrun).trans hleft, hasked⟩

theorem enters_or_stops (d : Depot σ) (dir : Path) (e : CredentialEntry) (hs : (d.tree s).Reached) :
    (∃ data u, d.Enters dir (e, data) s u) ∨ ∃ err made, d.Stops dir e s err made := by
  obtain ⟨u, htree, ⟨hfind, hrun, hasked⟩ | ⟨r, hfind, hrun, hasked⟩⟩ := d.run_lookUp dir e s
  · exact Or.inr ⟨none, _, .unanswered hfind, congrArg Prod.fst hrun, (congrArg (d.tree ·.2) hrun).trans htree, hasked⟩
  · cases r with
    | error err =>
      exact Or.inr ⟨some (.extract err), _, .lookup hfind, congrArg Prod.fst hrun,
        (congrArg (d.tree ·.2) hrun).trans htree, hasked.trans (List.append_nil _)⟩
    | ok data => exact (enters_or_stops_of_found hfind htree hrun hasked hs).imp_left fun ⟨w, hw⟩ => ⟨data, w, hw⟩

theorem Enters.exchanges {x : CredentialEntry × ByteArray} (h : d.Enters dir x s u) :
    (writeEntry d.environment dir x.1).exchanges d.handler s = entryRecord dir x := by
  have hf := follows_exchanges d.handler (writeEntry d.environment dir x.1) s
  rw [h.run] at hf
  rcases (keeps_writeEntry d.environment dir x.1).runs hf with ⟨_, _, ⟨-, hrecord, -⟩, hl, ho⟩ | ⟨_, _, err, -, -, ho⟩
  · cases ho
    exact hl.trans hrecord
  · cases err <;> cases ho

theorem Writes.reached {x : CredentialEntry × ByteArray} (h : d.Writes dir x s u) (hs : (d.tree s).Reached) :
    (d.tree u).Reached := by
  have hu := d.faults.reached_write (dir.join (entryFile x.1)) x.2 .privateFile hs
  rwa [h.written] at hu

/-! ### Many entries -/

/-- Entries are written, each from where the one before it has led. --/
inductive EntersAll (d : Depot σ) (dir : Path) : List (CredentialEntry × ByteArray) → σ → σ → Prop
  | nil (s : σ) : EntersAll d dir [] s s
  | cons {x : CredentialEntry × ByteArray} {done : List (CredentialEntry × ByteArray)} {s u v : σ}
    (first : d.Enters dir x s u) (rest : EntersAll d dir done u v) : EntersAll d dir (x :: done) s v

namespace EntersAll
variable {done before after : List (CredentialEntry × ByteArray)} {x : CredentialEntry × ByteArray}

theorem snoc (h : d.EntersAll dir done s u) (hx : d.Enters dir x u v) : d.EntersAll dir (done ++ [x]) s v := by
  induction h with
  | nil => exact .cons hx (.nil _)
  | cons first _ ih => exact .cons first (ih hx)

theorem at_entry (h : d.EntersAll dir (before ++ x :: after) s v) :
    ∃ u w, d.EntersAll dir before s u ∧ d.Enters dir x u w := by
  induction before generalizing s with
  | nil =>
    cases h with
    | cons first _ => exact ⟨s, _, .nil s, first⟩
  | cons y before ih =>
    cases h with
    | cons first rest =>
      obtain ⟨u, w, hbefore, hx⟩ := ih rest
      exact ⟨u, w, .cons first hbefore, hx⟩

/-- After some entries are written, a run goes on with the others. --/
theorem run_append (h : d.EntersAll dir done s u) (latest : Option ByteArray) (rest : List CredentialEntry) :
    (writeEntries d.environment dir latest (done.map Prod.fst ++ rest)).run d.handler s =
      (writeEntries d.environment dir (latestGit latest done) rest).run d.handler u ∧
    (writeEntries d.environment dir latest (done.map Prod.fst ++ rest)).exchanges d.handler s =
      done.flatMap (entryRecord dir) ++
        (writeEntries d.environment dir (latestGit latest done) rest).exchanges d.handler u := by
  induction h generalizing latest with
  | nil => exact ⟨rfl, rfl⟩
  | @cons x done s u v first _ ih =>
    rw [List.map_cons, List.cons_append, writeEntries]
    obtain ⟨hrun, hcalls⟩ := run_bind first.run fun r =>
      writeEntries d.environment dir (if r.1 = gitCredentialsName then some r.2 else latest) (done.map Prod.fst ++ rest)
    obtain ⟨ihrun, ihcalls⟩ := ih (if entryFile x.1 = gitCredentialsName then some x.2 else latest)
    refine ⟨hrun.trans ihrun, hcalls.trans ?_⟩
    rw [first.exchanges, List.flatMap_cons, List.append_assoc]
    exact congrArg (entryRecord dir x ++ ·) ihcalls

/-- A run of the entries alone leads where they have led. --/
theorem run_alone (h : d.EntersAll dir done s u) :
    (writeCredentials d.environment dir (done.map Prod.fst)).run d.handler s = (some (.ok (latestGit none done)), u) := by
  have hrun := (h.run_append none []).1
  rwa [List.append_nil] at hrun

end EntersAll

/-- Of entries there is a first one that stops, or all are written. --/
theorem exists_entersAll (d : Depot σ) (dir : Path) (es : List CredentialEntry) (hs : (d.tree s).Reached) :
    ∃ done rest u, es = done.map Prod.fst ++ rest ∧ d.EntersAll dir done s u ∧
      (rest = [] ∨ ∃ e later err made, rest = e :: later ∧ d.Stops dir e u err made) := by
  induction es generalizing s with
  | nil => exact ⟨[], [], s, rfl, .nil s, Or.inl rfl⟩
  | cons e es ih =>
    rcases d.enters_or_stops dir e hs with ⟨data, u, hx⟩ | ⟨err, made, hx⟩
    · obtain ⟨done, rest, v, rfl, hdone, hrest⟩ := ih (hx.reached hs)
      exact ⟨(e, data) :: done, rest, v, rfl, .cons hx hdone, hrest⟩
    · exact ⟨[], e :: es, s, rfl, .nil s, Or.inr ⟨e, es, err, made, rfl, hx⟩⟩

/-- Where an entry stops, those after it do not matter. --/
theorem Stops.run {err : Option ConnectError} {made : List Call} (h : d.Stops dir e s err made) (latest : Option ByteArray)
    (later : List CredentialEntry) :
    ((writeEntries d.environment dir latest (e :: later)).run d.handler s).1 = err.map .error ∧
    d.tree ((writeEntries d.environment dir latest (e :: later)).run d.handler s).2 = d.tree s ∧
    asked ((writeEntries d.environment dir latest (e :: later)).exchanges d.handler s) = made := by
  rw [writeEntries]
  have hentry : (writeEntry d.environment dir e).run d.handler s =
      (err.map .error, ((writeEntry d.environment dir e).run d.handler s).2) := Prod.ext h.result rfl
  cases err with
  | none =>
    obtain ⟨hrun, hcalls⟩ := run_bind_none hentry fun r =>
      writeEntries d.environment dir (if r.1 = gitCredentialsName then some r.2 else latest) later
    exact ⟨congrArg Prod.fst hrun, (congrArg (d.tree ·.2) hrun).trans h.tree, (congrArg asked hcalls).trans h.calls⟩
  | some err =>
    obtain ⟨hrun, hcalls⟩ := run_bind hentry fun r =>
      writeEntries d.environment dir (if r.1 = gitCredentialsName then some r.2 else latest) later
    refine ⟨congrArg Prod.fst hrun, (congrArg (d.tree ·.2) hrun).trans h.tree, ?_⟩
    rw [← h.calls]
    exact congrArg asked (hcalls.trans (List.append_nil _))

/-- How a list of entries goes: the entries in `done` are written, and the first of the others is not. Each entry is looked
    up and written where the entries before it alone have led. --/
structure Course (d : Depot σ) (dir : Path) (es : List CredentialEntry) (s : σ) (done : List (CredentialEntry × ByteArray))
    (rest : List CredentialEntry) : Prop where
  entries : es = done.map Prod.fst ++ rest
  writes : ∀ before x after, done = before ++ x :: after →
    d.Writes dir x (d.after dir (before.map Prod.fst) s) (d.after dir ((before ++ [x]).map Prod.fst) s)
  tree : d.tree (d.after dir es s) = d.tree (d.after dir (done.map Prod.fst) s)
  ends : (rest = [] ∧ d.result dir es s = some (.ok (latestGit none done)) ∧
      d.record dir es s = done.flatMap (entryRecord dir)) ∨
    ∃ e later err made l, rest = e :: later ∧ d.Fails dir e (d.after dir (done.map Prod.fst) s) err made ∧
      d.result dir es s = err.map .error ∧ d.record dir es s = done.flatMap (entryRecord dir) ++ l ∧ asked l = made

theorem exists_course (d : Depot σ) (dir : Path) (es : List CredentialEntry) (hs : (d.tree s).Reached) :
    ∃ done rest, d.Course dir es s done rest := by
  obtain ⟨done, rest, u, rfl, hdone, hrest⟩ := d.exists_entersAll dir es hs
  obtain ⟨hrun, hcalls⟩ := hdone.run_append none rest
  -- The run of all entries passes through the states in which the first ones alone would end.
  have halone : d.after dir (done.map Prod.fst) s = u := congrArg Prod.snd hdone.run_alone
  have hwrites : ∀ before x after, done = before ++ x :: after →
      d.Writes dir x (d.after dir (before.map Prod.fst) s) (d.after dir ((before ++ [x]).map Prod.fst) s) := by
    rintro before x after rfl
    obtain ⟨v, w, hbefore, hx⟩ := hdone.at_entry
    have hv : d.after dir (before.map Prod.fst) s = v := congrArg Prod.snd hbefore.run_alone
    have hw : d.after dir ((before ++ [x]).map Prod.fst) s = w := congrArg Prod.snd (hbefore.snoc hx).run_alone
    rw [hv, hw]
    exact hx.toWrites
  rcases hrest with rfl | ⟨e, later, err, made, rfl, hstop⟩
  · refine ⟨done, [], rfl, hwrites, ?_, Or.inl ⟨rfl, congrArg Prod.fst hrun, hcalls.trans (List.append_nil _)⟩⟩
    rw [List.append_nil]
  · obtain ⟨hresult, htree, hasked⟩ := hstop.run (latestGit none done) later
    refine ⟨done, e :: later, rfl, hwrites, ?_, Or.inr ⟨e, later, err, made, _, rfl, halone.symm ▸ hstop.fails,
      (congrArg Prod.fst hrun).trans hresult, hcalls, hasked⟩⟩
    rw [halone]
    exact (congrArg (d.tree ·.2) hrun).trans htree

end Depot

/-- Entries are looked up and written one after the other until one fails, and of the selectors of an entry only that of its
    source matters. --/
theorem entries_in_turn {σ : Type} (d : Depot σ) (dir : Path) (es : List CredentialEntry) (s : σ)
    (hs : (d.tree s).Reached) :
    (∃ done rest, d.Course dir es s done rest) ∧
      writeCredentials d.environment dir (es.map CredentialEntry.ofSource) = writeCredentials d.environment dir es :=
  ⟨d.exists_course dir es hs, writeEntries_ofSource d.environment dir none es⟩

/-- One entry is a copy of the one before it, and the next has neither bytes nor a name. --/
theorem entries_in_turn_copy :
    let key : CredentialEntry := ⟨"key", .inline, { Selectors.empty with data := some "hush" }⟩
    let copy : CredentialEntry := ⟨"old/key.bak", .filesystem, { Selectors.empty with path := some "/work/u/key" }⟩
    let nameless : CredentialEntry := ⟨"/", .environment, { Selectors.empty with environment := some "TOKEN" }⟩
    let a : Site := ⟨⟨⟨"/work"⟩⟩, ⟨⟨"/git"⟩⟩, .granting .empty .empty, .none, .default⟩
    let d := a.depot ⟨fun _ => .ok .empty, fun _ => none⟩
    (d.tree .empty).Reached ∧
      d.result ⟨"/work/u"⟩ [key, copy, nameless, key] .empty = some (.error (.extract (.variableUnset "TOKEN"))) ∧
      (d.after ⟨"/work/u"⟩ [key, copy, nameless, key] .empty).contents ⟨"/work/u/key.bak"⟩ = some "hush".toUTF8 ∧
      (∃ done rest, d.Course ⟨"/work/u"⟩ [key, copy, nameless, key] .empty done rest) ∧
      writeCredentials d.environment ⟨"/work/u"⟩ ([key, copy, nameless, key].map CredentialEntry.ofSource) =
        writeCredentials d.environment ⟨"/work/u"⟩ [key, copy, nameless, key] := by
  intro key copy nameless a d
  have hs : (d.tree .empty).Reached := .empty
  exact ⟨hs, by decide +kernel, by decide +kernel, entries_in_turn d _ _ .empty hs⟩

end AnsibleStaging
