import AnsibleStaging.Proofs.ConfigOutline

/-! What a configuration document means. It is accepted if no section is there twice and every known child has a text that
    fits it; then each field is what overrides it, what the last child for it says, or its default. Nodes and
    children that are not known, properties and later arguments never count, and the order of the sections only when
    something is wrong. -/

namespace AnsibleStaging
namespace ControllerConfig

/-! ### What is said of a field -/

/-- The text of a field in a document: that of the first argument of the last child for it. --/
def given? (doc : Kdl.Document) (f : Field) : Option String :=
  (((doc.filter (·.name = f.sectionName)).flatMap Kdl.Node.children).filter (·.name = f.childName)).getLast?.bind givenText

theorem filter_settings (node : String) (f : Field) (children : List Kdl.Node) :
    (children.filterMap (Setting.of? node)).filter (·.field = f) =
      if node = f.sectionName then (children.filter (·.name = f.childName)).map fun n => ⟨f, givenText n⟩ else [] := by
  induction children with
  | nil => simp
  | cons n rest ih =>
    cases hg : Field.of? node n.name with
    | none =>
      have unknown := Field.of?_eq_none_iff.mp hg
      rw [List.filterMap_cons_none (Setting.of?_eq_none fun f hs hn => unknown f ⟨hs, hn⟩), ih]
      split
      · next hnode =>
        have other : ¬n.name = f.childName := fun hn => unknown f ⟨hnode.symm, hn.symm⟩
        rw [List.filter_cons_of_neg (by simpa using other)]
      · rfl
    | some g =>
      obtain ⟨hnode, hname⟩ := Field.of?_eq_some_iff.mp hg
      rw [List.filterMap_cons_some (Setting.of?_eq_some hnode hname)]
      by_cases hf : g = f
      · subst hf
        rw [if_pos hnode.symm] at ih ⊢
        rw [List.filter_cons_of_pos (by simp), List.filter_cons_of_pos (by simp [hname]), List.map_cons, ih]
      · rw [List.filter_cons_of_neg (by simpa using hf), ih]
        split
        · next hs =>
          have other : ¬n.name = f.childName := fun hn =>
            hf (Option.some.inj (hg.symm.trans (Field.of?_eq_some_iff.mpr ⟨hs.symm, hn.symm⟩)))
          rw [List.filter_cons_of_neg (by simpa using other)]
        · rfl

theorem Field.sectionName_cases (f : Field) : f.sectionName = "controller" ∨ f.sectionName = "runner" := by
  cases f <;> simp [Field.sectionName]

theorem filter_outline (doc : Kdl.Document) (f : Field) :
    ((outline doc).flatMap Section.settings).filter (·.field = f) =
      (((doc.filter (·.name = f.sectionName)).flatMap Kdl.Node.children).filter (·.name = f.childName)).map
        fun n => ⟨f, givenText n⟩ := by
  induction doc with
  | nil => rfl
  | cons n rest ih =>
    unfold outline at ih ⊢
    cases hs : Section.of? n with
    | none =>
      have other : ¬n.name = f.sectionName := fun hn => Section.of?_eq_none_iff.mp hs (hn ▸ f.sectionName_cases)
      rw [List.filterMap_cons_none hs, List.filter_cons_of_neg (by simpa using other), ih]
    | some s =>
      obtain ⟨-, rfl⟩ := Section.of?_eq_some_iff.mp hs
      rw [List.filterMap_cons_some hs, List.flatMap_cons, List.filter_append, ih, filter_settings]
      split
      · next hn =>
        rw [List.filter_cons_of_pos (by simpa using hn), List.flatMap_cons, List.filter_append, List.map_append]
      · next hn => rw [List.filter_cons_of_neg (by simpa using hn), List.nil_append]

theorem read_meaning (doc : Kdl.Document) (lookup : String → Option String) (f : Field) :
    f.read (meaning doc lookup) = (f.variableName?.bind lookup).or ((given? doc f).or (f.read .default)) := by
  rw [meaning, read_overriding, putAll, read_foldl_put, filter_outline, given?, List.getLast?_map]
  cases List.getLast? _ <;> rfl

/-! ### Documents that are accepted -/

/-- What a document has to be: no section is there twice, and every child that is known has a text that fits it. --/
structure WellFormed (doc : Kdl.Document) : Prop where
  controller : (doc.filter (·.name = "controller")).length ≤ 1
  runner : (doc.filter (·.name = "runner")).length ≤ 1
  child : ∀ n ∈ doc, ∀ child ∈ n.children, ∀ f : Field, f.sectionName = n.name → f.childName = child.name →
    ∃ s, child.firstArgument? = some (.str s) ∧ s ≠ "" ∧ (f.isDirectory = true → (Path.mk s).isAbsolute = true)

theorem flawsAfter_eq_nil_iff {met : List String} {sections : List Section} :
    flawsAfter met sections = [] ↔ (∀ s ∈ sections, s.name ∉ met) ∧ (sections.map Section.name).Nodup ∧
      ∀ s ∈ sections, ∀ x ∈ s.settings, x.flaws = [] := by
  induction sections generalizing met with
  | nil => simp [flawsAfter]
  | cons s rest ih =>
    rw [flawsAfter, List.append_eq_nil_iff, ih]
    by_cases hmet : s.name ∈ met
    · simp [hmet]
    · rw [if_neg hmet, List.flatMap_eq_nil_iff, List.forall_mem_cons, List.forall_mem_cons, List.map_cons,
        List.nodup_cons]
      simp only [List.mem_cons, not_or, List.mem_map, not_exists, not_and]
      constructor
      · rintro ⟨hs, hnames, hnodup, hrest⟩
        exact ⟨⟨hmet, fun t ht => (hnames t ht).2⟩, ⟨fun t ht => (hnames t ht).1, hnodup⟩, hs, hrest⟩
      · rintro ⟨⟨-, hnames⟩, ⟨hnew, hnodup⟩, hs, hrest⟩
        exact ⟨hs, fun t ht => ⟨hnew t ht, hnames t ht⟩, hnodup, hrest⟩

theorem count_outline (doc : Kdl.Document) (name : String) : ((outline doc).map Section.name).count name =
    if name = "controller" ∨ name = "runner" then (doc.filter (·.name = name)).length else 0 := by
  induction doc with
  | nil => simp [outline]
  | cons n rest ih =>
    unfold outline at ih ⊢
    cases hs : Section.of? n with
    | none =>
      rw [List.filterMap_cons_none hs, ih]
      split
      · next hname =>
        have other : ¬n.name = name := fun hn => Section.of?_eq_none_iff.mp hs (hn ▸ hname)
        rw [List.filter_cons_of_neg (by simpa using other)]
      · rfl
    | some s =>
      obtain ⟨hname, rfl⟩ := Section.of?_eq_some_iff.mp hs
      rw [List.filterMap_cons_some hs, List.map_cons, List.count_cons, ih]
      by_cases hn : n.name = name
      · subst hn
        rw [if_pos hname, if_pos hname, List.filter_cons_of_pos (by simp), if_pos (beq_self_eq_true _), List.length_cons]
      · have other : ¬(n.name == name) = true := by simpa using hn
        rw [List.filter_cons_of_neg (by simpa using hn)]
        dsimp only
        rw [if_neg other, Nat.add_zero]

theorem givenText_eq_some_iff {n : Kdl.Node} {s : String} : givenText n = some s ↔ n.firstArgument? = some (.str s) := by
  unfold givenText
  constructor
  · intro h
    obtain ⟨v, hv, hs⟩ := Option.bind_eq_some_iff.mp h
    cases v with
    | str t =>
      cases hs
      exact hv
    | num l => cases hs
    | bool b => cases hs
    | null => cases hs
  · intro h
    rw [h]
    rfl

theorem wellFormed_iff (doc : Kdl.Document) : flawsAfter [] (outline doc) = [] ↔ WellFormed doc := by
  rw [flawsAfter_eq_nil_iff, List.nodup_iff_count]
  constructor
  · rintro ⟨-, names, fits⟩
    refine ⟨?_, ?_, fun n hn child hchild f hsection hname => ?_⟩
    · have := names "controller"
      rwa [count_outline, if_pos (Or.inl rfl)] at this
    · have := names "runner"
      rwa [count_outline, if_pos (Or.inr rfl)] at this
    · have hs : Section.of? n = some ⟨n.name, n.children.filterMap (Setting.of? n.name)⟩ :=
        Section.of?_eq_some_iff.mpr ⟨hsection ▸ f.sectionName_cases, rfl⟩
      have := fits _ (List.mem_filterMap.mpr ⟨n, hn, hs⟩) _
        (List.mem_filterMap.mpr ⟨child, hchild, Setting.of?_eq_some hsection hname⟩)
      obtain ⟨s, htext, hrest⟩ := Field.flaws_eq_nil_iff.mp this
      exact ⟨s, givenText_eq_some_iff.mp htext, hrest⟩
  · intro h
    refine ⟨fun _ _ => List.not_mem_nil, fun name => ?_, fun s hs x hx => ?_⟩
    · rw [count_outline]
      split
      · next hname =>
        rcases hname with rfl | rfl
        · exact h.controller
        · exact h.runner
      · exact Nat.zero_le 1
    · obtain ⟨n, hn, hs⟩ := List.mem_filterMap.mp hs
      obtain ⟨-, rfl⟩ := Section.of?_eq_some_iff.mp hs
      obtain ⟨child, hchild, hx⟩ := List.mem_filterMap.mp hx
      obtain ⟨f, hf, rfl⟩ := Option.map_eq_some_iff.mp hx
      obtain ⟨hsection, hname⟩ := Field.of?_eq_some_iff.mp hf
      obtain ⟨s, htext, hrest⟩ := h.child n hn child hchild f hsection hname
      exact Field.flaws_eq_nil_iff.mpr ⟨s, givenText_eq_some_iff.mpr htext, hrest⟩

/-! ### The order of the sections -/

theorem eq_of_perm_of_length_le {α : Type} {l l' : List α} (h : l.Perm l') (hl : l.length ≤ 1) : l = l' := by
  match l, hl with
  | [], _ => exact h.nil_eq
  | [a], _ => exact (List.perm_singleton.mp h.symm).symm

/-- Of sections with different names only one can set a field. --/
theorem filter_of_perm {sections sections' : List Section} (h : sections.Perm sections')
    (names : (sections.map Section.name).Nodup) (fields : ∀ s ∈ sections, ∀ x ∈ s.settings, x.field.sectionName = s.name)
    (f : Field) : (sections.flatMap Section.settings).filter (·.field = f) =
      (sections'.flatMap Section.settings).filter (·.field = f) := by
  have own : ∀ l : List Section, (∀ s ∈ l, ∀ x ∈ s.settings, x.field.sectionName = s.name) →
      (l.flatMap Section.settings).filter (·.field = f) =
        ((l.filter (·.name = f.sectionName)).flatMap Section.settings).filter (·.field = f) := by
    intro l hl
    induction l with
    | nil => rfl
    | cons s rest ih =>
      obtain ⟨hs, hrest⟩ := List.forall_mem_cons.mp hl
      rw [List.flatMap_cons, List.filter_append, ih hrest]
      by_cases hname : s.name = f.sectionName
      · rw [List.filter_cons_of_pos (by simpa using hname), List.flatMap_cons, List.filter_append]
      · have none : s.settings.filter (·.field = f) = [] := by
          refine List.filter_eq_nil_iff.mpr fun x hx hf => hname ?_
          rw [← hs x hx, decide_eq_true_eq.mp hf]
        rw [List.filter_cons_of_neg (by simpa using hname), none, List.nil_append]
  have single : (sections.filter (·.name = f.sectionName)).length ≤ 1 := by
    have := List.nodup_iff_count.mp names f.sectionName
    rwa [List.count, List.countP_map, List.countP_eq_length_filter] at this
  rw [own _ fields, own sections' fun s hs => fields s (h.mem_iff.mpr hs),
    eq_of_perm_of_length_le (h.filter _) single]

theorem ext_read {c c' : ControllerConfig} (h : ∀ f : Field, f.read c = f.read c') : c = c' := by
  obtain ⟨⟨working⟩, ⟨git⟩, program, galaxy, collections⟩ := c
  obtain ⟨⟨working'⟩, ⟨git'⟩, program', galaxy', collections'⟩ := c'
  obtain rfl : working = working' := Option.some.inj (h .workingDir)
  obtain rfl : git = git' := Option.some.inj (h .gitCredentialsRoot)
  obtain rfl : program = program' := Option.some.inj (h .program)
  obtain rfl : galaxy = galaxy' := Option.some.inj (h .galaxyProgram)
  obtain rfl : collections = collections' :=
    Option.map_injective (fun ⟨_⟩ ⟨_⟩ hp => congrArg Path.mk hp) (h .collectionsPath)
  rfl

theorem meaning_of_perm {doc doc' : Kdl.Document} (h : (outline doc').Perm (outline doc))
    (hdoc : flawsAfter [] (outline doc') = []) (lookup : String → Option String) :
    meaning doc' lookup = meaning doc lookup := by
  obtain ⟨-, names, -⟩ := flawsAfter_eq_nil_iff.mp hdoc
  have fields : ∀ s ∈ outline doc', ∀ x ∈ s.settings, x.field.sectionName = s.name := by
    intro s hs x hx
    obtain ⟨n, -, hn⟩ := List.mem_filterMap.mp hs
    exact Section.sectionName_of_mem hn hx
  refine ext_read fun f => ?_
  rw [meaning, meaning, read_overriding, read_overriding, putAll, putAll, read_foldl_put, read_foldl_put,
    filter_of_perm h names fields]

theorem flawsAfter_of_perm {sections sections' : List Section} (h : sections.Perm sections') :
    flawsAfter [] sections = [] ↔ flawsAfter [] sections' = [] := by
  rw [flawsAfter_eq_nil_iff, flawsAfter_eq_nil_iff, (h.map _).nodup_iff]
  simp only [h.mem_iff]

/-! ### What is passed over -/

/-- A child with nothing but its first argument. --/
def bare (child : Kdl.Node) : Kdl.Node := .mk child.name (child.firstArgument?.toList.map .argument) []

/-- The document without what is passed over: nodes and children that are not known, what a section holds besides its
    children, and what a child holds besides its first argument. --/
def stripped (doc : Kdl.Document) : Kdl.Document :=
  (doc.filter fun n => n.name = "controller" ∨ n.name = "runner").map fun n =>
    .mk n.name [] ((n.children.filter fun child => (Field.of? n.name child.name).isSome).map bare)

theorem givenText_bare (child : Kdl.Node) : givenText (bare child) = givenText child := by
  have same : (bare child).firstArgument? = child.firstArgument? := by
    unfold bare
    cases child.firstArgument? <;> rfl
  rw [givenText, same, givenText]

theorem settings_stripped (node : String) (children : List Kdl.Node) :
    ((children.filter fun child => (Field.of? node child.name).isSome).map bare).filterMap (Setting.of? node) =
      children.filterMap (Setting.of? node) := by
  induction children with
  | nil => rfl
  | cons child rest ih =>
    cases hf : Field.of? node child.name with
    | none =>
      have unknown := Field.of?_eq_none_iff.mp hf
      rw [List.filter_cons_of_neg (by simp [hf]),
        List.filterMap_cons_none (Setting.of?_eq_none fun f hs hn => unknown f ⟨hs, hn⟩), ih]
    | some f =>
      obtain ⟨hnode, hname⟩ := Field.of?_eq_some_iff.mp hf
      have hbare : Setting.of? node (bare child) = some ⟨f, givenText (bare child)⟩ := Setting.of?_eq_some hnode hname
      rw [List.filter_cons_of_pos (by simp [hf]), List.map_cons, List.filterMap_cons_some hbare, givenText_bare,
        List.filterMap_cons_some (Setting.of?_eq_some hnode hname), ih]

theorem outline_stripped (doc : Kdl.Document) : outline (stripped doc) = outline doc := by
  induction doc with
  | nil => rfl
  | cons n rest ih =>
    unfold outline stripped at ih ⊢
    cases hs : Section.of? n with
    | none =>
      have unknown := Section.of?_eq_none_iff.mp hs
      rw [List.filter_cons_of_neg (by simpa using unknown), List.filterMap_cons_none hs, ih]
    | some s =>
      obtain ⟨known, rfl⟩ := Section.of?_eq_some_iff.mp hs
      have hbare : Section.of? (.mk n.name [] ((n.children.filter fun child =>
          (Field.of? n.name child.name).isSome).map bare)) =
          some ⟨n.name, n.children.filterMap (Setting.of? n.name)⟩ :=
        Section.of?_eq_some_iff.mpr ⟨known, by rw [← settings_stripped]; rfl⟩
      rw [List.filter_cons_of_pos (by simpa using known), List.map_cons, List.filterMap_cons_some hbare,
        List.filterMap_cons_some hs, ih]

/-! ### The whole -/

theorem overridesFlaws_eq_nil_iff {lookup : String → Option String} : overridesFlaws lookup = [] ↔
    ∀ (f : Field) name value, f.variableName? = some name → lookup name = some value → (Path.mk value).isAbsolute = true := by
  rw [overridesFlaws, List.append_eq_nil_iff, overrideFlaws_eq_nil_iff,
    overrideFlaws_eq_nil_iff]
  constructor
  · rintro ⟨working, git⟩ f name value hname
    cases f
    · cases hname
      exact working value
    · cases hname
      exact git value
    · cases hname
    · cases hname
    · cases hname
  · exact fun all => ⟨fun value => all .workingDir _ value rfl, fun value => all .gitCredentialsRoot _ value rfl⟩

/-- What a document and overrides give. They are accepted if and only if the document is well-formed and each override is
    absolute. Each field is then what overrides it, or what the last child for it says, or its default. Otherwise the
    first flaw is the error. What is passed over does not count at all, and the order of the sections only in which
    error it is. --/
theorem configuration_of_document {text : String} {doc : Kdl.Document} (h : Kdl.parse? text = some doc)
    (lookup : String → Option String) :
    let result := parse text >>= fun c => c.withOverrides lookup
    ((∃ c, result = .ok c) ↔ WellFormed doc ∧ ∀ (f : Field) name value, f.variableName? = some name →
      lookup name = some value → (Path.mk value).isAbsolute = true) ∧
    (∀ c, result = .ok c → ∀ f : Field,
      f.read c = (f.variableName?.bind lookup).or ((given? doc f).or (f.read .default))) ∧
    (∀ e, result = .error e ↔ (flawsOf doc lookup).head? = some e) ∧
    ∀ text' doc', Kdl.parse? text' = some doc' →
      let result' := parse text' >>= fun c => c.withOverrides lookup
      (stripped doc' = stripped doc → result' = result) ∧
      ((stripped doc').Perm (stripped doc) → result'.toOption = result.toOption) := by
  intro result
  have hresult : result = checked (flawsOf doc lookup) (meaning doc lookup) := parse_withOverrides h lookup
  refine ⟨?_, fun c hc f => ?_, fun e => ?_, fun text' doc' h' => ⟨fun same => ?_, fun perm => ?_⟩⟩
  · have accepted : (∃ c, result = .ok c) ↔ flawsOf doc lookup = [] := by
      simp only [hresult, checked_eq_ok_iff, exists_and_left, exists_eq', and_true]
    rw [accepted, flawsOf, List.append_eq_nil_iff, wellFormed_iff, overridesFlaws_eq_nil_iff]
  · obtain ⟨-, rfl⟩ := checked_eq_ok_iff.mp (hresult ▸ hc)
    exact read_meaning doc lookup f
  · rw [hresult, checked_eq_error_iff]
  · have sections : outline doc' = outline doc := by rw [← outline_stripped, same, outline_stripped]
    rw [hresult, parse_withOverrides h' lookup, flawsOf, flawsOf, meaning, meaning, sections]
  · have perm : (outline doc').Perm (outline doc) := by
      rw [← outline_stripped doc', ← outline_stripped doc]
      exact perm.filterMap _
    rw [hresult, parse_withOverrides h' lookup]
    by_cases hflaws : flawsOf doc' lookup = []
    · obtain ⟨hdoc, hlookup⟩ := List.append_eq_nil_iff.mp hflaws
      have hflaws' : flawsOf doc lookup = [] :=
        List.append_eq_nil_iff.mpr ⟨(flawsAfter_of_perm perm).mp hdoc, hlookup⟩
      rw [hflaws, hflaws', meaning_of_perm perm hdoc]
    · have hflaws' : flawsOf doc lookup ≠ [] := fun hnil => by
        obtain ⟨hdoc, hlookup⟩ := List.append_eq_nil_iff.mp hnil
        exact hflaws (List.append_eq_nil_iff.mpr ⟨(flawsAfter_of_perm perm).mpr hdoc, hlookup⟩)
      rw [toOption_checked_of_ne_nil hflaws, toOption_checked_of_ne_nil hflaws']

/-- The runner first, a child twice, arguments and properties in excess, and an override. --/
theorem configuration_of_document_repeated :
    let text := "runner \x7b\n  binary \"/opt/runner\" \"--debug\"\n\x7d\nlog 3\ncontroller \x7b\n  working-dir \"/a\"\n" ++
      "  working-dir mode=7 \"/b\"\n  colour \"red\"\n\x7d\n"
    let lookup := fun name => if name = gitCredentialsRootVariable then some "/git" else none
    let c : ControllerConfig := ⟨⟨"/b"⟩, ⟨"/git"⟩, ⟨"/opt/runner", "ansible-galaxy", none⟩⟩
    ∃ doc, Kdl.parse? text = some doc ∧ WellFormed doc ∧ (parse text >>= fun c => c.withOverrides lookup) = .ok c ∧
      (∀ f : Field, f.read c = (f.variableName?.bind lookup).or ((given? doc f).or (f.read .default))) ∧
      flawsOf doc lookup = [] := by
  intro text lookup c
  obtain ⟨doc, hdoc⟩ := Option.isSome_iff_exists.mp (show (Kdl.parse? text).isSome = true by decide +kernel)
  have hc : (parse text >>= fun c => c.withOverrides lookup) = .ok c :=
    Option.some.inj (eq_ok_of_toOption (by decide +kernel))
  obtain ⟨accepted, fields, errors, -⟩ := configuration_of_document hdoc lookup
  refine ⟨doc, hdoc, (accepted.mp ⟨c, hc⟩).1, hc, fields c hc, ?_⟩
  cases hflaws : flawsOf doc lookup with
  | nil => rfl
  | cons e more =>
    have := (errors e).mpr (by rw [hflaws]; rfl)
    rw [hc] at this
    cases this

end ControllerConfig
end AnsibleStaging
