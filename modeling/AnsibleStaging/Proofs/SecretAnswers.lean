import AnsibleStaging.ApiServer.ControlPlane
import AnsibleStaging.Proofs.Base64Groups
import AnsibleStaging.Proofs.JsonText
import AnsibleStaging.Rehearsal.Setting

/-! What the API server answers to the one who looks up a secret: the secret with its values in base64, or a status that
    says that there is none. Both are records, and a record is read back from its text. So the values of a secret are
    found under their keys, byte by byte, and the status is taken for what it says. -/

namespace AnsibleStaging

theorem Utf8.decode?_toUTF8 (text : String) : decode? text.toUTF8 = some text := by
  unfold decode? String.fromUTF8?
  rw [String.toUTF8_eq_toByteArray, dif_pos text.isValidUTF8]
  rfl

/-! ### Records -/

theorem Fields.mem_of_gathered {f : String × Json} {fields : Fields} (h : f ∈ gathered fields) : f ∈ fields := by
  induction fields with
  | nil => cases h
  | cons g rest ih =>
    rcases mem_insertNew h with rfl | h
    · exact List.mem_cons_self
    · exact List.mem_cons_of_mem _ (ih h)

namespace Json

/-- A value without doubles, with its objects in order and at most `depth` levels of brackets. --/
structure Readable (depth : Nat) (v : Json) : Prop where
  nests : nesting v ≤ depth
  canonical : v.Canonical
  whole : v.AllDoubles fun _ => False

theorem readable_text (depth : Nat) (s : String) : Readable depth (.str s) := ⟨Nat.zero_le _, trivial, trivial⟩

theorem readable_object {depth : Nat} {fields : Fields} (h : ∀ f ∈ fields, Readable depth f.2) :
    Readable (depth + 1) (Encode.object fields) := by
  have hall : ∀ o : Fields, (∀ f ∈ o, Readable depth f.2) →
      nestingFields o ≤ depth ∧ CanonicalFields o ∧ AllDoublesFields (fun _ => False) o := by
    intro o ho
    induction o with
    | nil => exact ⟨Nat.zero_le _, trivial, trivial⟩
    | cons f rest ih =>
      obtain ⟨hf, hrest⟩ := List.forall_mem_cons.mp ho
      obtain ⟨hnests, hcanonical, hwhole⟩ := ih hrest
      exact ⟨Nat.max_le.mpr ⟨hf.nests, hnests⟩, ⟨hf.canonical, hcanonical⟩, hf.whole, hwhole⟩
  obtain ⟨hnests, hcanonical, hwhole⟩ := hall (Fields.gathered fields) fun f hf => h f (Fields.mem_of_gathered hf)
  exact ⟨Nat.succ_le_succ hnests, ⟨Fields.increasing_gathered fields, hcanonical⟩, hwhole⟩

theorem parse?_render {v : Json} (h : Readable greatestDepth v) : parse? v.render = some v :=
  parseWithin?_render_whole h.nests h.canonical h.whole

end Json

namespace ApiServer
open Json Fields

/-! ### Responses -/

theorem received_answer {status : Nat} (h : isFailure status = false) (v : Json) :
    received (.ok (answer status v)) = .ok v.render := by
  rw [received, Response.text, answer, Utf8.decode?_toUTF8]
  simp [h]

/-- A failure is taken for what its status says. --/
theorem received_failure {status : Nat} {v : Json} {s : Status} (h : isFailure status = true)
    (hread : Readable greatestDepth v) (hv : Status.ofJson? v = some s) :
    received (.ok (answer status v)) = .error s.toServiceError := by
  rw [received, Response.text, answer, Utf8.decode?_toUTF8]
  simp [h, parse?_render hread, hv]

/-! ### No secret -/

theorem readable_notFoundStatus (message : String) : Readable greatestDepth (notFoundStatus message) := by
  have hempty : Readable 126 (Encode.object []) := readable_object (List.forall_mem_nil _)
  have hcode : Readable 126 (.num (.int 404 notFound_inRange)) := ⟨Nat.zero_le _, trivial, trivial⟩
  refine readable_object ?_
  simp only [List.forall_mem_cons]
  exact ⟨readable_text _ _, readable_text _ _, hempty, readable_text _ _, readable_text _ _, readable_text _ _, hcode,
    List.forall_mem_nil _⟩

theorem ofJson?_notFoundStatus (message : String) :
    Status.ofJson? (notFoundStatus message) = some ⟨"Failure", message, "NotFound", 404⟩ := by
  change Status.ofParts? (value _ "status") (value _ "message") (value _ "reason") (value _ "code") = _
  simp only [value_cons, value_nil, String.reduceEq, if_true, if_false, Option.none_or, Option.some_or]
  rfl

/-- A status that says that there is no such object makes the request fail so. --/
theorem received_notFound (message : String) :
    received (.ok (answer 404 (notFoundStatus message))) = .error (.notFound message) :=
  received_failure rfl (readable_notFoundStatus message) (ofJson?_notFoundStatus message)

/-! ### A secret -/

/-- A name of a namespace or of a secret. --/
structure IsObjectName (name : String) : Prop where
  ne_empty : name ≠ ""
  plain : ∀ c ∈ name.toList, c.isLower = true ∨ c.isDigit = true ∨ c = '-' ∨ c = '.'

/-- The characters of a name are looked through. --/
theorem isObjectName_of_all {name : String} (hne : name ≠ "")
    (hall : (name.toList.all fun c => c.isLower || c.isDigit || c == '-' || c == '.') = true) : IsObjectName name := by
  refine ⟨hne, fun c hc => ?_⟩
  simpa [or_assoc] using List.all_eq_true.mp hall c hc

/-- A secret has a value under each of its keys. --/
structure Secret where
  space : String
  name : String
  data : List (String × ByteArray)
  space_named : IsObjectName space
  named : IsObjectName name
  keys_nodup : (data.map Prod.fst).Nodup

/-- The values of a secret, in base64. --/
def secretFields (data : List (String × ByteArray)) : Fields := data.map fun f => (f.1, .str (Base64.encode f.2))

namespace Secret

def metadata (s : Secret) : Json := Encode.object [("name", .str s.name), ("namespace", .str s.space)]

def members (s : Secret) : Fields :=
  [("apiVersion", .str "v1"), ("kind", .str "Secret"), ("metadata", s.metadata),
    ("data", Encode.object (secretFields s.data)), ("type", .str "Opaque")]

def json (s : Secret) : Json := Encode.object s.members

theorem readable_json (s : Secret) : Readable greatestDepth s.json := by
  have hmetadata : Readable 126 s.metadata := by
    refine @readable_object 125 _ ?_
    simp only [List.forall_mem_cons]
    exact ⟨readable_text _ _, readable_text _ _, List.forall_mem_nil _⟩
  have hdata : Readable 126 (Encode.object (secretFields s.data)) := by
    refine @readable_object 125 _ fun f hf => ?_
    obtain ⟨g, -, rfl⟩ := List.mem_map.mp hf
    exact readable_text _ _
  refine readable_object ?_
  simp only [members, List.forall_mem_cons]
  exact ⟨readable_text _ _, readable_text _ _, hmetadata, hdata, readable_text _ _, List.forall_mem_nil _⟩

end Secret

theorem record_object {parts : List (String × Check)} {fields : Fields}
    (h : ∀ f ∈ fields, (parts.lookup f.1).all (· f.2) = true) : Check.record parts (Encode.object fields) = true := by
  refine List.all_eq_true.mpr fun f hf => ?_
  have hpart := h f (mem_of_gathered hf)
  dsimp only
  split
  · rfl
  · exact hpart

theorem isSecret_json (s : Secret) : isSecret s.json = true := by
  have hmetadata : Check.isObjectMeta s.metadata = true := by
    refine record_object ?_
    simp only [List.forall_mem_cons]
    exact ⟨rfl, rfl, List.forall_mem_nil _⟩
  refine record_object ?_
  simp only [Secret.members, List.forall_mem_cons]
  exact ⟨rfl, rfl, hmetadata, rfl, rfl, List.forall_mem_nil _⟩

theorem isNamed_gathered {fields : Fields} {part text : String} (h : value fields part = some (.str text)) :
    isNamed (gathered fields) part text = true := by
  have hget : Fields.get? (gathered fields) part = some (.str text) := h
  simp [isNamed, hget]

/-! ### The values -/

theorem value_secretFields {data : List (String × ByteArray)} (h : (data.map Prod.fst).Nodup) (key : String) :
    value (secretFields data) key = (data.lookup key).map fun b => .str (Base64.encode b) := by
  induction data with
  | nil => rfl
  | cons f rest ih =>
    obtain ⟨k, b⟩ := f
    obtain ⟨hk, hrest⟩ := List.nodup_cons.mp h
    change value ((k, .str (Base64.encode b)) :: secretFields rest) key = _
    rw [value_cons, ih hrest, List.lookup_cons]
    by_cases heq : k = key
    · subst heq
      have hnone : rest.lookup k = none := by
        refine List.lookup_eq_none_iff.mpr fun g hg => ?_
        simpa using fun heq : k = g.1 => hk (List.mem_map.mpr ⟨g, hg, heq.symm⟩)
      simp [hnone]
    · have hne : (key == k) = false := by simpa using fun h => heq h.symm
      simp [heq, hne]

/-- Where each member is a value in base64, all of them are found. --/
theorem secretData?_obj {o : Fields} (h : ∀ f ∈ o, ∃ b, secretValue? f.2 = some b) :
    ∃ values, secretData? (.obj o) = some values ∧ ∀ key, values.lookup key = (o.get? key).bind secretValue? := by
  induction o with
  | nil => exact ⟨[], rfl, fun _ => rfl⟩
  | cons f rest ih =>
    obtain ⟨⟨b, hb⟩, hrest⟩ := List.forall_mem_cons.mp h
    obtain ⟨values, hvalues, hlookup⟩ := ih hrest
    have hmap : rest.mapM (fun f => (secretValue? f.2).map fun b => (f.1, b)) = some values := hvalues
    refine ⟨(f.1, b) :: values, ?_, fun key => ?_⟩
    · change List.mapM _ (f :: rest) = _
      rw [List.mapM_cons, hb, hmap]
      rfl
    · rw [List.lookup_cons, get?_cons, hlookup]
      by_cases heq : f.1 = key
      · subst heq
        simp [hb]
      · have hne : (key == f.1) = false := by simpa using fun h => heq h.symm
        simp [heq, hne]

/-- What is read of a secret has the value of the secret under each key. --/
theorem readSecret?_json (s : Secret) :
    ∃ values, readSecret? s.json = some values ∧ ∀ key, values.lookup key = s.data.lookup key := by
  have hmember : ∀ f ∈ gathered (secretFields s.data), ∃ b, secretValue? f.2 = some b := by
    intro f hf
    obtain ⟨g, -, rfl⟩ := List.mem_map.mp (mem_of_gathered hf)
    exact ⟨g.2, Base64.decode?_encode g.2⟩
  obtain ⟨values, hvalues, hlookup⟩ := secretData?_obj hmember
  refine ⟨values, ?_, fun key => ?_⟩
  · have hversion : isNamed (gathered s.members) "apiVersion" "v1" = true := isNamed_gathered (by simp [Secret.members])
    have hkind : isNamed (gathered s.members) "kind" "Secret" = true := isNamed_gathered (by simp [Secret.members])
    have hdata : Fields.get? (gathered s.members) "data" = some (Encode.object (secretFields s.data)) := by
      change value s.members "data" = _
      simp [Secret.members]
    have hsecret : isSecret (.obj (gathered s.members)) = true := isSecret_json s
    change readSecret? (.obj (gathered s.members)) = _
    rw [readSecret?, hversion, hkind, hsecret, hdata]
    exact hvalues
  · rw [hlookup, show Fields.get? (gathered (secretFields s.data)) key = value (secretFields s.data) key from rfl,
      value_secretFields s.keys_nodup]
    cases s.data.lookup key with
    | none => rfl
    | some b => exact Base64.decode?_encode b

end ApiServer
end AnsibleStaging
