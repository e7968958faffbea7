import AnsibleStaging.Config
import AnsibleStaging.Proofs.Widening
import AnsibleStaging.Resource.AnsibleRun
import AnsibleStaging.Resource.ProviderConfig

/-! Reading undoes writing, for the resources and the configuration. Each record is taken apart by the names of its
    members, and its members are read by the readers for which the same is known. Selectors stand among the members of
    the record that has them, so their names are names of that record. -/

namespace AnsibleStaging
open Fields

theorem object_ne_null (fields : Fields) : Encode.object fields ≠ .null := nofun

/-! ### Runs -/

namespace Metadata

def layout : Layout := .record [("name", .plain), ("namespace", .plain), ("uid", .plain)]

theorem undoes : Undoes layout decode encode := by
  intro m w h
  obtain ⟨o, rfl, shown⟩ := h.object
  have uid : Undoes .plain Uid.decode Uid.encode := undoes_plain fun _ => rfl
  have hname : Decode.field o "name" Decode.text "" = .ok m.name := shown.field undoes_text "name" rfl (by simp)
  have hspace : Decode.field o "namespace" (Decode.nullable Decode.text) none = .ok m.space :=
    shown.optional undoes_text nofun "namespace" rfl (by simp)
  have huid : Decode.field o "uid" Uid.decode ⟨""⟩ = .ok m.uid := shown.field uid "uid" rfl (by simp)
  simp only [decode, Decode.record, hname, hspace, huid]
  rfl

end Metadata

namespace Json

theorem insertNew_of_lt {k : String} {v : Json} {o : Fields} (h : ∀ f ∈ o, k < f.1) : insertNew k v o = (k, v) :: o := by
  cases o with
  | nil => rfl
  | cons f rest => rw [insertNew, if_pos (h f List.mem_cons_self)]

mutual

/-- What is in order already stays as it is. --/
theorem sorted_of_canonical : ∀ {v : Json}, v.Canonical → v.sorted = v
  | .null, _ => rfl
  | .bool _, _ => rfl
  | .num _, _ => rfl
  | .str _, _ => rfl
  | .arr items, h => by rw [sorted, sortedItems_of_canonical h]
  | .obj fields, h => by rw [sorted, sortedFields_of_canonical h.1 h.2]

theorem sortedItems_of_canonical : ∀ {l : List Json}, CanonicalItems l → sortedItems l = l
  | [], _ => rfl
  | v :: rest, h => by rw [sortedItems, sorted_of_canonical h.1, sortedItems_of_canonical h.2]

theorem sortedFields_of_canonical : ∀ {l : List (String × Json)}, Fields.Increasing l → CanonicalFields l → sortedFields l = l
  | [], _, _ => rfl
  | (k, v) :: rest, hi, hc => by
    obtain ⟨hfirst, hrest⟩ := List.pairwise_cons.mp hi
    rw [sortedFields, sorted_of_canonical hc.1, sortedFields_of_canonical hrest hc.2, insertNew_of_lt hfirst]

end

end Json

theorem Vars.ofFields_fields (v : Vars) : Vars.ofFields v.fields = v := by
  obtain ⟨fields, increasing, canonical⟩ := v
  simp only [ofFields, Json.sortedFields_of_canonical increasing canonical]

theorem undoes_vars : Undoes .plain Decode.vars Vars.toJson :=
  undoes_plain fun v => congrArg Except.ok (Vars.ofFields_fields v)

theorem Vars.eq_empty {v : Vars} (h : v.isEmpty = true) : v = empty := by
  obtain ⟨fields, increasing, canonical⟩ := v
  obtain rfl : fields = [] := List.isEmpty_iff.mp h
  rfl

theorem undoes_playbookSource : Undoes .plain PlaybookSource.decode PlaybookSource.encode :=
  undoes_plain fun s => by cases s <;> rfl

namespace RunParameters

def layout : Layout := .record [("source", .plain), ("module", .plain), ("vars", .plain), ("checkMode", .plain)]

theorem undoes : Undoes layout decode encode := by
  intro p w h
  obtain ⟨o, rfl, shown⟩ := h.object
  have hcheck : Decode.field o "checkMode" Decode.flag false = .ok p.checkMode :=
    shown.field undoes_flag "checkMode" rfl (by simp)
  have hplaybook : Decode.field o "module" Decode.text "" = .ok p.playbook :=
    shown.field undoes_text "module" rfl (by simp)
  have hsource : Decode.field o "source" PlaybookSource.decode .inline = .ok p.source :=
    shown.field undoes_playbookSource "source" rfl (by simp)
  have hvars : Decode.field o "vars" Decode.vars .empty = .ok p.vars :=
    shown.omitted undoes_vars "vars" rfl Vars.eq_empty (by simp)
  simp only [decode, Decode.record, hcheck, hplaybook, hsource, hvars]
  rfl

end RunParameters

theorem undoes_reference : Undoes (.record [("name", .plain)]) decodeReference encodeReference := by
  intro name w h
  obtain ⟨o, rfl, shown⟩ := h.object
  exact shown.field undoes_text "name" rfl (by simp)

namespace AnsibleRun

def specLayout : Layout :=
  .record [("forProvider", RunParameters.layout), ("providerConfigRef", .record [("name", .plain)])]

def layout : Layout := .record [("metadata", Metadata.layout), ("spec", specLayout)]

def encodeSpec (s : Option String × RunParameters) : Json :=
  Encode.object (("forProvider", s.2.encode) :: Encode.optional "providerConfigRef" encodeReference s.1)

theorem undoes_spec : Undoes specLayout decodeSpec encodeSpec := by
  intro s w h
  obtain ⟨o, rfl, shown⟩ := h.object
  have hparameters : Decode.field o "forProvider" RunParameters.decode .empty = .ok s.2 :=
    shown.field RunParameters.undoes "forProvider" rfl (by simp)
  have hreference : Decode.field o "providerConfigRef" (Decode.nullable decodeReference) none = .ok s.1 :=
    shown.optional undoes_reference (fun _ => object_ne_null _) "providerConfigRef" rfl (by simp)
  simp only [decodeSpec, Decode.record, hparameters, hreference]
  rfl

theorem undoes : Undoes layout decode encode := by
  intro r w h
  obtain ⟨o, rfl, shown⟩ := h.object
  have hmetadata : Decode.field o "metadata" Metadata.decode .empty = .ok r.metadata :=
    shown.field Metadata.undoes "metadata" rfl (by simp)
  have hspec : Decode.field o "spec" decodeSpec (none, .empty) = .ok (r.providerConfig, r.parameters) :=
    shown.field undoes_spec "spec" rfl (by simp [encodeSpec])
  simp only [decode, Decode.record, hmetadata, hspec]
  rfl

end AnsibleRun

/-! ### Credentials -/

theorem undoes_credentialsSource : Undoes .plain CredentialsSource.decode CredentialsSource.encode :=
  undoes_plain fun s => by cases s <;> rfl

namespace SecretKey

def layout : Layout := .record [("name", .plain), ("namespace", .plain), ("key", .plain)]

theorem undoes (surplus : Decode.Surplus) : Undoes layout (decodeIn surplus) encode := by
  intro s w h
  obtain ⟨o, rfl, shown⟩ := h.object
  have hkey : Decode.field? o "key" Decode.text = .ok (some s.key) := shown.required undoes_text "key" rfl (by simp)
  have hname : Decode.field? o "name" Decode.text = .ok (some s.name) := shown.required undoes_text "name" rfl (by simp)
  have hspace : Decode.field o "namespace" Decode.text "" = .ok s.space :=
    shown.field undoes_text "namespace" rfl (by simp)
  simp only [decodeIn, Decode.record, hkey, hname, hspace]
  rfl

end SecretKey

theorem undoes_single (recordName fieldName : String) (surplus : Decode.Surplus) :
    Undoes (.record [(fieldName, .plain)]) (decodeSingle recordName fieldName surplus)
      fun s => Encode.object [(fieldName, .str s)] := by
  intro s w h
  obtain ⟨o, rfl, shown⟩ := h.object
  exact shown.field undoes_text fieldName (by simp) (by simp)

namespace Selectors

def members : List (String × Layout) :=
  [("secretRef", SecretKey.layout), ("env", .record [("name", .plain)]), ("fs", .record [("path", .plain)]),
    ("data", .plain)]

def layout : Layout := .record members

/-- Selectors are found among the members of a record, if no other members have their names. --/
theorem ofFields_eq {ms : List (String × Layout)} {fields o : Fields} (shown : Shows ms (gathered fields) o) {s : Selectors}
    (hl : ∀ m ∈ members, ms.lookup m.1 = some m.2) (hv : ∀ m ∈ members, fields.value m.1 = s.toFields.value m.1)
    (surplus : Decode.Surplus) : ofFields surplus o = .ok s := by
  simp only [members, List.forall_mem_cons, List.not_mem_nil, false_implies, implies_true, and_true] at hl hv
  obtain ⟨hsecret, henv, hfs, hdata⟩ := hl
  obtain ⟨vsecret, venv, vfs, vdata⟩ := hv
  have data : Decode.field o "data" (Decode.nullable Decode.text) none = .ok s.data :=
    shown.optional undoes_text nofun "data" hdata (by simp [vdata, toFields])
  have environment : Decode.field o "env" (Decode.nullable (decodeSingle "EnvSelector" "name" surplus)) none =
      .ok s.environment :=
    shown.optional (undoes_single _ _ _) (fun _ => object_ne_null _) "env" henv (by simp [venv, toFields])
  have path : Decode.field o "fs" (Decode.nullable (decodeSingle "FsSelector" "path" surplus)) none = .ok s.path :=
    shown.optional (undoes_single _ _ _) (fun _ => object_ne_null _) "fs" hfs (by simp [vfs, toFields])
  have secret : Decode.field o "secretRef" (Decode.nullable (SecretKey.decodeIn surplus)) none = .ok s.secret :=
    shown.optional (SecretKey.undoes surplus) (fun _ => object_ne_null _) "secretRef" hsecret (by simp [vsecret, toFields])
  simp only [ofFields, data, environment, path, secret]
  rfl

theorem undoes : Undoes layout decode encode := by
  intro s w h
  obtain ⟨o, rfl, shown⟩ := h.object
  exact ofFields_eq shown (by simp [members, List.lookup_cons]) (fun _ _ => rfl) .apart

end Selectors

namespace CredentialEntry

def layout : Layout := .record ([("filename", .plain), ("source", .plain)] ++ Selectors.members)

theorem undoes : Undoes layout decode encode := by
  intro e w h
  obtain ⟨o, rfl, shown⟩ := h.object
  have hfilename : Decode.field o "filename" Decode.text "" = .ok e.filename :=
    shown.field undoes_text "filename" rfl (by simp [Selectors.toFields])
  have hsource : Decode.field o "source" CredentialsSource.decode .none = .ok e.source :=
    shown.field undoes_credentialsSource "source" rfl (by simp [Selectors.toFields])
  have hselectors : Selectors.ofFields .within o = .ok e.selectors :=
    Selectors.ofFields_eq shown (by simp [Selectors.members, List.lookup_cons]) (by simp [Selectors.members]) .within
  simp only [decode, Decode.openRecord, hfilename, hsource, hselectors]
  rfl

end CredentialEntry

namespace GitConnection

def layout : Layout := .record ([("url", .plain), ("username", .plain), ("tokenSource", .plain)] ++ Selectors.members)

theorem undoes : Undoes layout decode encode := by
  intro g w h
  obtain ⟨o, rfl, shown⟩ := h.object
  have htokenSource : Decode.field o "tokenSource" CredentialsSource.decode .none = .ok g.tokenSource :=
    shown.field undoes_credentialsSource "tokenSource" rfl (by simp [Selectors.toFields])
  have hurl : Decode.field? o "url" Decode.text = .ok (some g.url) :=
    shown.required undoes_text "url" rfl (by simp [Selectors.toFields])
  have husername : Decode.field o "username" (Decode.nullable Decode.text) none = .ok g.username :=
    shown.optional undoes_text nofun "username" rfl (by simp [Selectors.toFields])
  have htoken : Selectors.ofFields .within o = .ok g.token :=
    Selectors.ofFields_eq shown (by simp [Selectors.members, List.lookup_cons]) (by simp [Selectors.members]) .within
  simp only [decode, Decode.openRecord, htokenSource, hurl, husername, htoken]
  rfl

end GitConnection

/-! ### Configurations of runs -/

namespace ProviderSettings

def layout : Layout :=
  .record [("credentials", .list CredentialEntry.layout), ("git", GitConnection.layout), ("requirements", .plain)]

theorem undoes : Undoes layout decode encode := by
  intro s w h
  obtain ⟨o, rfl, shown⟩ := h.object
  have hcredentials : Decode.field o "credentials" (Decode.list CredentialEntry.decode) [] = .ok s.credentials :=
    shown.omitted (undoes_list CredentialEntry.undoes) "credentials" rfl List.isEmpty_iff.mp (by simp)
  have hgit : Decode.field o "git" (Decode.nullable GitConnection.decode) none = .ok s.git :=
    shown.optional GitConnection.undoes (fun _ => object_ne_null _) "git" rfl (by simp)
  have hrequirements : Decode.field o "requirements" (Decode.nullable Decode.text) none = .ok s.requirements :=
    shown.optional undoes_text nofun "requirements" rfl (by simp)
  simp only [decode, Decode.record, hcredentials, hgit, hrequirements]
  rfl

end ProviderSettings

namespace ProviderConfig

def layout : Layout := .record [("metadata", Metadata.layout), ("spec", ProviderSettings.layout)]

theorem undoes : Undoes layout decode encode := by
  intro c w h
  obtain ⟨o, rfl, shown⟩ := h.object
  have hmetadata : Decode.field o "metadata" Metadata.decode .empty = .ok c.metadata :=
    shown.field Metadata.undoes "metadata" rfl (by simp)
  have hsettings : Decode.field o "spec" ProviderSettings.decode .empty = .ok c.settings :=
    shown.field ProviderSettings.undoes "spec" rfl (by simp)
  simp only [decode, Decode.record, hmetadata, hsettings]
  rfl

end ProviderConfig

/-! ### The configuration of the controller -/

namespace RunnerConfig

def layout : Layout := .record [("binary", .plain), ("galaxy_binary", .plain), ("collections_path", .plain)]

theorem undoes : Undoes layout decode encode := by
  intro r w h
  obtain ⟨o, rfl, shown⟩ := h.object
  have hprogram : Decode.field? o "binary" Decode.text = .ok (some r.program) :=
    shown.required undoes_text "binary" rfl (by simp)
  have hcollections : Decode.field o "collections_path" (Decode.nullable Decode.pathText) none =
      .ok (r.collectionsPath.map Path.text) :=
    shown.field (undoes_nullable undoes_pathText nofun) "collections_path" rfl (by cases r.collectionsPath <;> simp)
  have hgalaxy : Decode.field? o "galaxy_binary" Decode.text = .ok (some r.galaxyProgram) :=
    shown.required undoes_text "galaxy_binary" rfl (by simp)
  simp only [decode, Decode.record, hprogram, hcollections, hgalaxy]
  obtain ⟨program, galaxyProgram, collectionsPath⟩ := r
  cases collectionsPath <;> rfl

end RunnerConfig

namespace ControllerConfig

def layout : Layout :=
  .record [("working_dir", .plain), ("git_credentials_root", .plain), ("runner", RunnerConfig.layout)]

theorem undoes : Undoes layout decode encode := by
  intro c w h
  obtain ⟨o, rfl, shown⟩ := h.object
  have hgit : Decode.field? o "git_credentials_root" Decode.pathText = .ok (some c.gitCredentialsRoot.text) :=
    shown.required undoes_pathText "git_credentials_root" rfl (by simp)
  have hrunner : Decode.field? o "runner" RunnerConfig.decode = .ok (some c.runner) :=
    shown.required RunnerConfig.undoes "runner" rfl (by simp)
  have hworking : Decode.field? o "working_dir" Decode.pathText = .ok (some c.workingDir.text) :=
    shown.required undoes_pathText "working_dir" rfl (by simp)
  simp only [decode, Decode.record, hgit, hrunner, hworking]
  rfl

end ControllerConfig

/-! ### All of them -/

/-- What was written is read, whatever members of other names stand beside it; and what was read of any value at all is
    read again after it was written. --/
structure RoundTrips {α : Type} (l : Layout) (read : Decoder α) (write : α → Json) : Prop where
  widened : ∀ a v, Widens l (write a) v → read v = .ok a
  again : ∀ v a, read v = .ok a → read (write a) = .ok a

theorem Undoes.roundTrips {α : Type} {l : Layout} {read : Decoder α} {write : α → Json} (h : Undoes l read write) :
    RoundTrips l read write where
  widened := h
  again _ a _ := h a (write a) (.same l (write a))

/-- Resources, their parts and the configuration all come back from being written, with room for unknown members. --/
theorem records_round_trip :
    RoundTrips AnsibleRun.layout AnsibleRun.decode AnsibleRun.encode ∧
      RoundTrips ProviderConfig.layout ProviderConfig.decode ProviderConfig.encode ∧
      RoundTrips CredentialEntry.layout CredentialEntry.decode CredentialEntry.encode ∧
      RoundTrips Selectors.layout Selectors.decode Selectors.encode ∧
      RoundTrips GitConnection.layout GitConnection.decode GitConnection.encode ∧
      RoundTrips SecretKey.layout SecretKey.decode SecretKey.encode ∧
      RoundTrips Metadata.layout Metadata.decode Metadata.encode ∧
      RoundTrips ControllerConfig.layout ControllerConfig.decode ControllerConfig.encode :=
  ⟨AnsibleRun.undoes.roundTrips, ProviderConfig.undoes.roundTrips, CredentialEntry.undoes.roundTrips,
    Selectors.undoes.roundTrips, GitConnection.undoes.roundTrips, (SecretKey.undoes .apart).roundTrips,
    Metadata.undoes.roundTrips, ControllerConfig.undoes.roundTrips⟩

/-- Selectors with a member that no selectors have, and one in the selector of a variable. --/
theorem records_round_trip_selectors :
    let s : Selectors := { Selectors.empty with environment := some "HOME" }
    let v : Json := .obj [("env", .obj [("kind", .bool true), ("name", .str "HOME")]), ("note", .null)]
    Widens Selectors.layout s.encode v ∧ Selectors.decode v = .ok s := by
  intro s v
  have hencode : s.encode = .obj [("env", .obj [("name", .str "HOME")])] := rfl
  have hselector : Widens (.record [("name", .plain)]) (.obj [("name", .str "HOME")])
      (.obj [("kind", .bool true), ("name", .str "HOME")]) :=
    .record (.add _ rfl (.keep rfl (.same _ _) (.nil _)))
  have hwidens : Widens Selectors.layout s.encode v := by
    rw [hencode]
    exact .record (.keep rfl hselector (.add _ rfl (.nil _)))
  obtain ⟨-, -, -, selectors, -⟩ := records_round_trip
  exact ⟨hwidens, selectors.widened s v hwidens⟩

end AnsibleStaging
