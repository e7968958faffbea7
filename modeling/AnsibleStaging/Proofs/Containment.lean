import AnsibleStaging.Proofs.ConnectCalls
import AnsibleStaging.Proofs.TreeShape

/-! What a connect changes in the tree. Directories are only added, on the way to the directory of the run under a root,
    and files are only put into these directories: a uid that is path safe is one component, and so is the name of each
    file, whatever an entry calls it. Everything else stays as it was, however the connect ends. -/

namespace AnsibleStaging
open Script

namespace MemTree
variable {t t' u : MemTree} {p q : Path} {way file way' file' : Path → Prop} {data : ByteArray} {ds : List Path}

/-! ### Changes -/

/-- What may become of one place: it is as it was, a private directory was made there where nothing stood, or a private
    file was put there where no directory stood. --/
inductive Change (way file : Path → Prop) (t t' : MemTree) (q : Path) : Prop
  | kept (h : t'.get? q = t.get? q)
  | made (hq : way q) (free : t.get? q = none) (h : t'.get? q = some (.dir .privateDirectory))
  | put (hq : file q) (free : t.kind q ≠ some true) (data : ByteArray) (h : t'.get? q = some (.file data .privateFile))

/-- Only places on the way become directories and only places in `file` get new files. Every path that was stored still
    is, as it was spelled. --/
structure Contained (way file : Path → Prop) (t t' : MemTree) : Prop where
  places : ∀ q, Change way file t t' q
  spellings : t.spellings.Sublist t'.spellings

theorem Change.kind (h : Change way file t t' q) {b : Bool} (hb : t.kind q = some b) : t'.kind q = some b := by
  cases h with
  | kept h => rwa [MemTree.kind, h]
  | made _ free _ =>
    rw [MemTree.kind, free] at hb
    cases hb
  | put _ noDir data h =>
    cases b with
    | true => exact absurd hb noDir
    | false => exact kind_eq_false.mpr ⟨_, _, h⟩

theorem Change.trans (h : Change way file t u q) (h' : Change way file u t' q) : Change way file t t' q := by
  cases h' with
  | kept h' =>
    cases h with
    | kept h => exact .kept (h'.trans h)
    | made hq free h => exact .made hq free (h'.trans h)
    | put hq noDir data h => exact .put hq noDir data (h'.trans h)
  | made hq free h' =>
    cases h with
    | kept h => exact .made hq (h.symm.trans free) h'
    | made _ _ h => cases h.symm.trans free
    | put _ _ _ h => cases h.symm.trans free
  | put hq noDir data h' => exact .put hq (fun hd => noDir (h.kind hd)) data h'

theorem Change.mono (h : Change way file t t' q) (hw : way q → way' q) (hf : file q → file' q) :
    Change way' file' t t' q := by
  cases h with
  | kept h => exact .kept h
  | made hq free h => exact .made (hw hq) free h
  | put hq noDir data h => exact .put (hf hq) noDir data h

theorem Contained.refl (t : MemTree) : Contained way file t t := ⟨fun _ => .kept rfl, .refl _⟩

theorem Contained.trans (h : Contained way file t u) (h' : Contained way file u t') : Contained way file t t' :=
  ⟨fun q => (h.places q).trans (h'.places q), h.spellings.trans h'.spellings⟩

theorem Contained.mono (h : Contained way file t t') (hw : ∀ q, way q → way' q) (hf : ∀ q, file q → file' q) :
    Contained way' file' t t' := ⟨fun q => (h.places q).mono (hw q) (hf q), h.spellings⟩

/-! ### What a call changes -/

theorem sublist_spellings_put (p : Path) (n : Node) (l : List (Path × Node)) :
    (l.map (·.1)).Sublist ((put p n l).map (·.1)) := by
  induction l with
  | nil => exact List.nil_sublist _
  | cons e rest ih =>
    unfold put
    split
    · exact .refl _
    · split
      · exact List.sublist_cons_self _ _
      · exact ih.cons_cons _

theorem contained_insert {n : Node} (h : ∀ q, p.Same q → Change way file t (t.insert p n) q) :
    Contained way file t (t.insert p n) where
  places q := by
    by_cases hs : p.Same q
    · exact h q hs
    · exact .kept (get?_insert_of_not_same hs)
  spellings := sublist_spellings_put p n t.entries

theorem contained_makeMissing (hds : ∀ q, (∃ d ∈ ds, d.Same q) → way q) :
    Contained way file t (makeMissing .privateDirectory ds t).2 := by
  induction ds generalizing t with
  | nil => exact .refl t
  | cons d rest ih =>
    have hrest : ∀ q, (∃ x ∈ rest, x.Same q) → way q := fun q ⟨x, hx, hs⟩ => hds q ⟨x, List.mem_cons_of_mem _ hx, hs⟩
    unfold makeMissing
    split
    · exact ih hrest
    · exact .refl t
    · next hd =>
      have made : Contained way file t (t.insert d (.dir .privateDirectory)) := contained_insert fun q hs =>
        .made (hds q ⟨d, List.mem_cons_self, hs⟩) (get?_congr hs ▸ hd) (get?_insert_same hs)
      exact made.trans (ih hrest)

theorem contained_write (hd : ∀ q, (∃ d ∈ p.parentDirs, d.Same q) → way q) (hp : ∀ q, p.Same q → file q) :
    Contained way file t (write p data .privateFile t).2 := by
  have parents : Contained way file t (createParents p t).2 := by
    rw [createParents_eq]
    exact contained_makeMissing hd
  rcases write_cases p data .privateFile t with ⟨e, -, hw | hw⟩ | ⟨hdir, hmade, hw⟩
  · rw [hw]
    exact .refl t
  · rw [hw]
    exact parents
  · rw [hw]
    -- None of the directories that were made stands where the file is put.
    have free : (createParents p t).2.kind p ≠ some true := by
      rw [createParents_eq] at hmade ⊢
      rw [kind_makeMissing hmade, if_neg fun ⟨d, hd, hs⟩ => Path.not_same_of_mem_parentDirs hd hs]
      exact fun hk => (kind_eq_true.mp hk).elim hdir
    exact parents.trans (contained_insert fun q hs =>
      .put (hp q hs) (kind_congr hs ▸ free) data (get?_insert_same hs))

end MemTree

/-- What the call puts into the tree belongs to the owner alone. --/
def Call.Private : Call → Prop
  | makeDirs _ m => m = .privateDirectory
  | write _ _ m => m = .privateFile
  | _ => True

theorem Stored.contained {x : Exchange calls} {t t' : MemTree} (h : Stored x t t') (hx : x.call.Private) :
    MemTree.Contained (fun q => ∃ d ∈ x.call.dirs, d.Same q) x.call.Writes t t' := by
  rcases h.cases with rfl | ⟨p, m, hc, rfl⟩ | ⟨p, data, m, hc, rfl⟩
  · exact .refl _
  · rw [hc] at hx ⊢
    obtain rfl : m = .privateDirectory := hx
    exact MemTree.contained_makeMissing fun _ => id
  · rw [hc] at hx ⊢
    obtain rfl : m = .privateFile := hx
    exact MemTree.contained_write (fun _ => id) fun _ => id

/-! ### Where a connect changes the tree -/

/-- The directory that belongs to `uid`: one component more than the base. --/
def Staging.home (s : Staging) (uid : Uid) : List Component := s.base.components ++ [.normal uid.text]

namespace Connector
variable {c : Connector} {run : AnsibleRun} {given : ProviderConfig → Prop} {call : Call} {config : ProviderConfig}
  {p q : Path}

/-- A directory of the run or one on the way to it. --/
def OnWay (c : Connector) (run : AnsibleRun) (q : Path) : Prop :=
  q.components ≠ [] ∧ (q.components <+: c.staging.home run.uid ∨
    run.source = .remote ∧ q.components <+: c.gitStaging.home run.uid)

/-- A file of the run: one directly in its directory, or the one from which git's credential store reads. --/
def OwnFile (c : Connector) (run : AnsibleRun) (q : Path) : Prop :=
  (∃ name, q.components = c.staging.home run.uid ++ [.normal name]) ∨
    run.source = .remote ∧ q.components = c.gitStaging.home run.uid ++ [.normal gitCredentialsName]

theorem components_runDir (safe : run.uid.isPathSafe = true) : (c.runDir run).components = c.staging.home run.uid :=
  Path.components_join c.staging.base (Path.isName_uid safe)

theorem components_gitDir (safe : run.uid.isPathSafe = true) : (c.gitDir run).components = c.gitStaging.home run.uid :=
  Path.components_join c.gitStaging.base (Path.isName_uid safe)

theorem components_of_mem_stagedFiles (safe : run.uid.isPathSafe = true) (h : p ∈ c.stagedFiles run config) :
    (∃ name, p.components = c.staging.home run.uid ++ [.normal name]) ∨
      run.source = .remote ∧ p.components = c.gitStaging.home run.uid ++ [.normal gitCredentialsName] := by
  rcases List.mem_append.mp h with h | h
  · obtain ⟨name, hname, rfl⟩ := List.mem_map.mp h
    left
    exact ⟨name, by rw [Path.components_join _ (isName_of_mem_fileNames hname), components_runDir safe]⟩
  · split at h
    · next hs =>
      obtain rfl := List.mem_singleton.mp h
      right
      have hname : Path.IsName gitCredentialsName := by constructor <;> decide
      exact ⟨hs, by rw [Path.components_join _ hname, components_gitDir safe]⟩
    · cases h

theorem MayAsk.private (h : c.MayAsk run given call) : call.Private := by
  cases call with
  | makeDirs p m => exact h.2.2
  | write p data m => exact h.2.1
  | _ => trivial

theorem MayAsk.ownFile (h : c.MayAsk run given call) (hq : call.Writes q) : c.OwnFile run q := by
  cases call with
  | write p data m =>
    obtain ⟨safe, -, config, -, hp⟩ := h
    have hs : p.components = q.components := hq
    rw [OwnFile, ← hs]
    exact components_of_mem_stagedFiles safe hp
  | _ => exact hq.elim

/-- What comes before the last component of a file of the run leads to a directory of the run. --/
theorem OwnFile.onWay (h : c.OwnFile run p) (hq : q.Above p) : c.OnWay run q := by
  have begins : ∀ {l : List Component} {name : String}, p.components = l ++ [.normal name] → q.components <+: l := by
    intro l name hp
    have hpre := hq.begins
    rw [hp] at hpre
    exact (List.prefix_concat_iff.mp hpre).resolve_left fun heq => hq.not_same (heq.trans hp.symm)
  rcases h with ⟨name, hp⟩ | ⟨hs, hp⟩
  · exact ⟨hq.ne_nil, Or.inl (begins hp)⟩
  · exact ⟨hq.ne_nil, Or.inr ⟨hs, begins hp⟩⟩

theorem MayAsk.onWay (h : c.MayAsk run given call) (hq : ∃ d ∈ call.dirs, d.Same q) : c.OnWay run q := by
  cases call with
  | makeDirs p m =>
    obtain ⟨safe, rfl, -⟩ := h
    obtain ⟨hne, hpre⟩ := Path.exists_mem_dirs_iff.mp hq
    exact ⟨hne, Or.inl (components_runDir safe ▸ hpre)⟩
  | write p data m =>
    have own : c.OwnFile run p := (show c.MayAsk run given (.write p data m) from h).ownFile (Path.Same.refl p)
    exact own.onWay (Path.exists_mem_parentDirs_iff.mp hq)
  | _ =>
    obtain ⟨d, hd, -⟩ := hq
    cases hd

theorem MayAsk.contained {r : Option (calls.Reply call)} {t t' : MemTree} (h : c.MayAsk run given call)
    (hs : Stored ⟨call, r⟩ t t') : MemTree.Contained (c.OnWay run) (c.OwnFile run) t t' :=
  (hs.contained h.private).mono (fun _ => h.onWay) fun _ => h.ownFile

theorem MayAsk.eq_of_not_safe {r : Option (calls.Reply call)} {t t' : MemTree} (h : c.MayAsk run given call)
    (hs : Stored ⟨call, r⟩ t t') (notSafe : run.uid.isPathSafe = false) : t' = t := by
  rcases hs.cases with rfl | ⟨p, m, hc, -⟩ | ⟨p, data, m, hc, -⟩
  · rfl
  · obtain rfl : call = .makeDirs p m := hc
    exact absurd h.1 (by simp [notSafe])
  · obtain rfl : call = .write p data m := hc
    exact absurd h.1 (by simp [notSafe])

end Connector

theorem mayAsk_of_mem_exchanges {σ : Type} {c : Connector} {run : AnsibleRun} {h : Handler calls σ} {s : σ}
    {x : Exchange calls} (hx : x ∈ (c.stage run).exchanges h s) : c.MayAsk run (fun _ => True) x.call :=
  (within_stage c run fun _ => True).calls (follows_exchanges h _ s) (fun _ _ _ _ => trivial) x hx

/-- Whatever a connect is given and however it ends, it adds only private directories on the way to those of its run and
    puts only private files directly into them. For a uid that is not path safe, and for a resource that is no run, the
    tree stays as it was. --/
theorem connect_contained {σ : Type} {h : Handler calls σ} {tree : σ → MemTree} (hmem : InMemory h tree) (c : Connector)
    (s : σ) : (∀ run, MemTree.Contained (c.OnWay run) (c.OwnFile run) (tree s) (tree ((c.connect (.run run)).run h s).2)) ∧
      (∀ run, run.uid.isPathSafe = false → tree ((c.connect (.run run)).run h s).2 = tree s) ∧
      ∀ o, tree ((c.connect (.other o)).run h s).2 = tree s := by
  have occurs := fun run => hmem.occurs (occurs_exchanges h (c.stage run) s)
  refine ⟨fun run => ?_, fun run notSafe => ?_, fun o => rfl⟩
  · refine (occurs run).keeps (p := MemTree.Contained (c.OnWay run) (c.OwnFile run) (tree s)) ?_ (.refl _)
    exact fun x hx u u' hs hu => hu.trans ((mayAsk_of_mem_exchanges hx).contained hs)
  · refine (occurs run).keeps (p := fun u => u = tree s) ?_ rfl
    exact fun x hx u u' hs hu => ((mayAsk_of_mem_exchanges hx).eq_of_not_safe hs notSafe).trans hu

/-- An entry whose name leads to a file elsewhere is written beside the playbook, and that file stays. --/
theorem connect_contained_passwd :
    let config : ProviderConfig := ⟨.empty, { ProviderSettings.empty with
      credentials := [⟨"../../etc/passwd", .inline, { Selectors.empty with data := some "secret" }⟩] }⟩
    let c : Connector := ⟨⟨⟨"/work/"⟩⟩, ⟨⟨"/git"⟩⟩, fun _ => none⟩
    let run : AnsibleRun := ⟨{ Metadata.empty with uid := ⟨"u"⟩ }, none, .empty⟩
    let w := World.granting config .empty
    let t := (MemTree.write ⟨"/etc/passwd"⟩ "root".toUTF8 ⟨0o644⟩ .empty).2
    let t' := ((c.connect (.run run)).run w.handler t).2
    InMemory w.handler id ∧ MemTree.Contained (c.OnWay run) (c.OwnFile run) t t' ∧
      t'.spellings = [⟨"/"⟩, ⟨"/etc"⟩, ⟨"/etc/passwd"⟩, ⟨"/work"⟩, ⟨"/work/u"⟩, ⟨"/work/u/passwd"⟩,
        ⟨"/work/u/playbook.yml"⟩] ∧
      t'.get? ⟨"/etc/passwd"⟩ = some (.file "root".toUTF8 ⟨0o644⟩) ∧
      t'.get? ⟨"/work/u/passwd"⟩ = some (.file "secret".toUTF8 .privateFile) := by
  intro config c run w t t'
  exact ⟨w.inMemory, (connect_contained w.inMemory c t).1 run, by decide +kernel, by decide +kernel, by decide +kernel⟩

end AnsibleStaging
