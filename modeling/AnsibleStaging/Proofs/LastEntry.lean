import AnsibleStaging.Proofs.StagedFiles

/-! What entries leave behind. They are written one after another into the directory of the run, each under the last
    component of its name, and nobody looks whether the name is taken: of several entries with one name the last one
    stays, and the playbook and the requirements come after all entries. So after a connect the file of an entry holds
    the bytes of the last one who wrote there, and an entry keeps its own unless it has such a namesake. -/

namespace AnsibleStaging
open Script Planning

/-! ### The last entry under a name -/

/-- The bytes of the last entry that is written under `name`. --/
def lastEntry (name : String) : List (CredentialEntry × ByteArray) → Option ByteArray
  | [] => none
  | x :: rest => (lastEntry name rest).or (if entryFile x.1 = name then some x.2 else none)

theorem lastEntry_of_ne {name : String} {es : List (CredentialEntry × ByteArray)} (h : ∀ y ∈ es, entryFile y.1 ≠ name) :
    lastEntry name es = none := by
  induction es with
  | nil => rfl
  | cons x es ih =>
    obtain ⟨hx, hes⟩ := List.forall_mem_cons.mp h
    rw [lastEntry, ih hes, if_neg hx]
    rfl

theorem lastEntry_of_last {name : String} {before after : List (CredentialEntry × ByteArray)}
    {x : CredentialEntry × ByteArray} (hx : entryFile x.1 = name) (hafter : ∀ y ∈ after, entryFile y.1 ≠ name) :
    lastEntry name (before ++ x :: after) = some x.2 := by
  induction before with
  | nil =>
    rw [List.nil_append, lastEntry, lastEntry_of_ne hafter, if_pos hx]
    rfl
  | cons z before ih =>
    rw [List.cons_append, lastEntry, ih]
    rfl

/-- Under the name of an entry there is a last one. --/
theorem exists_last {name : String} {es : List (CredentialEntry × ByteArray)} (h : ∃ y ∈ es, entryFile y.1 = name) :
    ∃ before x after, es = before ++ x :: after ∧ entryFile x.1 = name ∧ ∀ y ∈ after, entryFile y.1 ≠ name := by
  induction es with
  | nil => simp at h
  | cons z es ih =>
    by_cases hes : ∃ y ∈ es, entryFile y.1 = name
    · obtain ⟨before, x, after, rfl, hx, hafter⟩ := ih hes
      exact ⟨z :: before, x, after, rfl, hx, hafter⟩
    · obtain ⟨y, hy, hname⟩ := h
      rcases List.mem_cons.mp hy with rfl | hy
      · exact ⟨[], y, es, rfl, hname, fun w hw hwn => hes ⟨w, hw, hwn⟩⟩
      · exact absurd ⟨y, hy, hname⟩ hes

/-! ### Who writes last -/

/-- The bytes that are written last under `name` in the directory of the run: the requirements come after the playbook,
    and the playbook after all entries. --/
def Supply.lastUnder (v : Supply) (run : AnsibleRun) (name : String) : Option ByteArray :=
  match v.config.settings.requirements with
  | some text => if name = requirementsName then some text.toUTF8 else rest
  | none => rest
where
  rest : Option ByteArray :=
    if name = playbookName then some (playbookBytes run v.fetched) else lastEntry name v.resolved

/-- Nobody writes under the name of the entry after it. --/
structure Supply.Unshadowed (v : Supply) (x : CredentialEntry × ByteArray) : Prop where
  last : ∃ before after, v.resolved = before ++ x :: after ∧ ∀ y ∈ after, entryFile y.1 ≠ entryFile x.1
  playbook : entryFile x.1 ≠ playbookName
  requirements : v.config.settings.requirements.isSome → entryFile x.1 ≠ requirementsName

theorem Supply.lastUnder_eq_rest {v : Supply} {run : AnsibleRun} {name : String}
    (h : v.config.settings.requirements.isSome → name ≠ requirementsName) :
    v.lastUnder run name = lastUnder.rest v run name := by
  unfold lastUnder
  split
  · next text htext => rw [if_neg (h (by simp [htext]))]
  · rfl

theorem Supply.Unshadowed.lastUnder_eq {v : Supply} {x : CredentialEntry × ByteArray} (h : v.Unshadowed x)
    (run : AnsibleRun) : v.lastUnder run (entryFile x.1) = some x.2 := by
  obtain ⟨before, after, hres, hafter⟩ := h.last
  rw [lastUnder_eq_rest h.requirements, lastUnder.rest, if_neg h.playbook, hres]
  exact lastEntry_of_last rfl hafter

section
variable {c : Connector} {run : AnsibleRun} {v : Supply} {t : MemTree}

/-- Under the name of an entry stands what was written there last. --/
theorem Staged.lastUnder (h : Staged c run v t) {x : CredentialEntry × ByteArray} (hx : x ∈ v.resolved) :
    ∃ data, v.lastUnder run (entryFile x.1) = some data ∧ t.Holds ((c.runDir run).join (entryFile x.1)) data := by
  by_cases hr : v.config.settings.requirements.isSome ∧ entryFile x.1 = requirementsName
  · obtain ⟨hr, hname⟩ := hr
    obtain ⟨text, htext⟩ := Option.isSome_iff_exists.mp hr
    refine ⟨text.toUTF8, ?_, hname ▸ h.requirements text htext⟩
    simp [Supply.lastUnder, htext, hname]
  · have hr : v.config.settings.requirements.isSome → entryFile x.1 ≠ requirementsName := fun hs hn => hr ⟨hs, hn⟩
    rw [Supply.lastUnder_eq_rest hr, Supply.lastUnder.rest]
    by_cases hp : entryFile x.1 = playbookName
    · rw [if_pos hp, hp]
      exact ⟨_, rfl, h.playbook⟩
    · rw [if_neg hp]
      obtain ⟨before, y, after, hres, hy, hafter⟩ := exists_last ⟨x, hx, rfl⟩
      refine ⟨y.2, hres ▸ lastEntry_of_last hy hafter, ?_⟩
      rw [← hy] at hp hr hafter ⊢
      exact h.entry before y after hres hafter hp hr

theorem Staged.unshadowed (h : Staged c run v t) {x : CredentialEntry × ByteArray} (hx : v.Unshadowed x) :
    t.Holds ((c.runDir run).join (entryFile x.1)) x.2 := by
  obtain ⟨before, after, hres, -⟩ := hx.last
  obtain ⟨data, hlast, hdata⟩ := h.lastUnder (x := x) (by simp [hres])
  rw [hx.lastUnder_eq] at hlast
  exact Option.some.inj hlast ▸ hdata

end

/-! ### After a connect -/

/-- A connect that ends well has staged all files. --/
theorem stagedBy_of_connects {σ : Type} {h : Handler calls σ} {tree : σ → MemTree} (hmem : InMemory h tree)
    {c : Connector} {run : AnsibleRun} {s : σ} {conn : Connection}
    (hok : ((c.connect (.run run)).run h s).1 = some (.ok conn)) :
    StagedBy c run ((c.connect (.run run)).exchanges h s) (tree ((c.connect (.run run)).run h s).2) := by
  have hgives := occurs_exchanges h (c.stage run) s
  rcases stage_split (follows_exchanges h (c.stage run) s) with ⟨v, l, fits, found, hlog, hl⟩ | ⟨-, hno⟩
  · change StagedBy c run ((c.stage run).exchanges h s) (tree ((c.stage run).run h s).2)
    rw [hlog] at hgives ⊢
    exact stagedBy_of_occurs fits found (hmem.occurs hgives) hl
  · exact absurd hok (hno conn)

theorem Connector.fetched_mem_filesPlan (c : Connector) (run : AnsibleRun) (v : Supply) :
    (⟨.providerConfig (run.providerConfig.getD ""), some (.ok v.config)⟩ : Exchange calls) ∈ (c.filesPlan run v).log := by
  simp [filesPlan, Plan.log]

/-- The file of each entry holds the bytes of that entry. --/
def EveryEntryKept (c : Connector) (run : AnsibleRun) (l : Record) (t : MemTree) : Prop :=
  ∃ v : Supply, v.Fits ∧ v.Found c run ∧ (c.filesPlan run v).log <+: l ∧
    ∀ x ∈ v.resolved, t.Holds ((c.runDir run).join (entryFile x.1)) x.2

/-- The playbook takes the place of an entry with its name, though the connect ends well. --/
theorem entry_lost_to_playbook :
    let entry : CredentialEntry := ⟨"playbook.yml", .inline, { Selectors.empty with data := some "secret" }⟩
    let config : ProviderConfig := ⟨.empty, { ProviderSettings.empty with credentials := [entry] }⟩
    let c : Connector := ⟨⟨⟨"/work"⟩⟩, ⟨⟨"/git"⟩⟩, fun _ => none⟩
    let run : AnsibleRun := ⟨{ Metadata.empty with uid := ⟨"u"⟩ }, none, { RunParameters.empty with playbook := "[]" }⟩
    let h := (World.granting config .empty).handler
    InMemory h id ∧ ((c.connect (.run run)).run h .empty).1 = some (.ok ⟨⟨"/work/u"⟩, .plain ⟨"u"⟩ ⟨"/work/u"⟩ "" ""⟩) ∧
      ¬ EveryEntryKept c run ((c.connect (.run run)).exchanges h .empty) ((c.connect (.run run)).run h .empty).2 := by
  intro entry config c run h
  refine ⟨World.inMemory _, eq_ok_of_toOption (by decide +kernel), ?_⟩
  rintro ⟨v, fits, found, hlog, hall⟩
  -- The configuration that was supplied is the one of the world.
  obtain ⟨_, _, hgives⟩ := (occurs_exchanges h (c.connect (.run run)) .empty).exists_of_mem
    (hlog.subset (c.fetched_mem_filesPlan run v))
  have hconfig : v.config = config := (Except.ok.inj (Option.some.inj (congrArg Prod.fst hgives))).symm
  obtain ⟨x, hx, hentry⟩ : ∃ x ∈ v.resolved, x.1 = entry :=
    List.mem_map.mp (by rw [fits, hconfig]; exact List.mem_singleton_self entry)
  obtain ⟨-, hdata⟩ := follows_done (hentry ▸ (found.entries x hx).found)
  have hfile := congrArg (Option.bind · Node.data?) (hall x hx)
  rw [hentry] at hfile
  have hplaybook : (((c.connect (.run run)).run h .empty).2.get? ((c.runDir run).join (entryFile entry))).bind Node.data? =
      some "[]".toUTF8 := by decide +kernel
  have : "[]".toUTF8 = "secret".toUTF8 :=
    Option.some.inj ((hplaybook.symm.trans hfile).trans (congrArg some (Except.ok.inj (Option.some.inj hdata))))
  exact absurd this (by decide)

/-- The file of each entry holds the bytes of the last one who wrote there, and those of the entry if nobody did after
    it. --/
def LastWriterKept (c : Connector) (run : AnsibleRun) (l : Record) (t : MemTree) : Prop :=
  ∃ v : Supply, v.Fits ∧ v.Found c run ∧ (c.filesPlan run v).log <+: l ∧
    ∀ x ∈ v.resolved,
      (∃ data, v.lastUnder run (entryFile x.1) = some data ∧ t.Holds ((c.runDir run).join (entryFile x.1)) data) ∧
      (v.Unshadowed x → t.Holds ((c.runDir run).join (entryFile x.1)) x.2)

/-- After a connect the last one who wrote under the name of an entry is found there. --/
theorem last_writer_kept {σ : Type} {h : Handler calls σ} {tree : σ → MemTree} (hmem : InMemory h tree) (c : Connector)
    (run : AnsibleRun) (s : σ) (conn : Connection) (hok : ((c.connect (.run run)).run h s).1 = some (.ok conn)) :
    LastWriterKept c run ((c.connect (.run run)).exchanges h s) (tree ((c.connect (.run run)).run h s).2) := by
  obtain ⟨v, fits, found, hlog, hstaged⟩ := stagedBy_of_connects hmem hok
  exact ⟨v, fits, found, hlog, fun x hx => ⟨hstaged.lastUnder hx, hstaged.unshadowed⟩⟩

namespace Namesakes

/-- Entries that share a name with each other, with the playbook and with the requirements. --/
def config : ProviderConfig := ⟨.empty, { ProviderSettings.empty with
  credentials := [⟨"key", .inline, { Selectors.empty with data := some "first" }⟩,
    ⟨"a/key", .inline, { Selectors.empty with data := some "second" }⟩,
    ⟨"playbook.yml", .inline, { Selectors.empty with data := some "secret" }⟩,
    ⟨"/requirements.yml", .none, { Selectors.empty with data := some "secret" }⟩],
  requirements := some "roles: []" }⟩

def connector : Connector := ⟨⟨⟨"/work"⟩⟩, ⟨⟨"/git"⟩⟩, fun _ => none⟩

def run : AnsibleRun := ⟨{ Metadata.empty with uid := ⟨"u"⟩ }, none, .empty⟩

def handler : Handler calls MemTree := (World.granting config .empty).handler

theorem connects : ((connector.connect (.run run)).run handler .empty).1 =
    some (.ok ⟨⟨"/work/u"⟩, .plain ⟨"u"⟩ ⟨"/work/u"⟩ "" ""⟩) := eq_ok_of_toOption (by decide +kernel)

end Namesakes

/-- With namesakes among the entries a connect ends well. --/
theorem last_writer_kept_namesakes :
    InMemory Namesakes.handler id ∧
    ((Namesakes.connector.connect (.run Namesakes.run)).run Namesakes.handler .empty).1 =
      some (.ok ⟨⟨"/work/u"⟩, .plain ⟨"u"⟩ ⟨"/work/u"⟩ "" ""⟩) ∧
    LastWriterKept Namesakes.connector Namesakes.run
      ((Namesakes.connector.connect (.run Namesakes.run)).exchanges Namesakes.handler .empty)
      ((Namesakes.connector.connect (.run Namesakes.run)).run Namesakes.handler .empty).2 :=
  have hmem : InMemory Namesakes.handler id := World.inMemory _
  ⟨hmem, Namesakes.connects, last_writer_kept hmem _ _ _ _ Namesakes.connects⟩

end AnsibleStaging
