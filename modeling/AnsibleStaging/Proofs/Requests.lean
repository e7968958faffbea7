import AnsibleStaging.ApiServer.ControlPlane
import AnsibleStaging.Proofs.Exchanges
import AnsibleStaging.Proofs.Widening
import Mathlib.Data.List.TakeWhile

/-! What the services ask of the API server. Each makes at most one request, and it makes none where the request cannot
    be built or where there is nothing to ask for. A configuration is read by a GET in the collection of configurations,
    a usage is recorded by a PATCH, and a secret is looked up in another collection. A name is put behind its collection
    as it is, so the path ends where a query or a fragment begins in the name. -/

namespace AnsibleStaging
namespace ApiServer
open Script

/-- Requests with their answers, in order. --/
abbrev Requests := List (AnsibleStaging.Exchange api)

/-- The server has taken the request: it answered, and not with a failure. --/
def Accepted (x : AnsibleStaging.Exchange api) : Prop :=
  ∃ answer : Response, x.reply = some (.ok answer) ∧ isFailure answer.status = false

variable {l : Requests}

/-! ### One request -/

theorem accepted_of_received {request : Request} {answer : Except String Response} {text : String}
    (h : received answer = .ok text) : Accepted ⟨request, some answer⟩ := by
  cases answer with
  | error why => cases h
  | ok answer =>
    refine ⟨answer, rfl, ?_⟩
    rw [received, Response.text] at h
    split at h
    · cases h
    · split at h
      · cases h
      · next hf => simpa using hf

/-- The script asks for nothing. --/
def Silent {ε α : Type} (t : Exchange ε α) : Prop := ∀ l o, t.Follows l o → l = [] ∧ o ≠ none

theorem silent_done {ε α : Type} (a : α) : Silent (.done a : Exchange ε α) := by
  intro l o h
  obtain ⟨rfl, rfl⟩ := follows_done h
  exact ⟨rfl, nofun⟩

theorem silent_fail {ε α : Type} (e : ε) : Silent (.fail e : Exchange ε α) := by
  intro l o h
  obtain ⟨rfl, rfl⟩ := follows_fail h
  exact ⟨rfl, nofun⟩

theorem silent_ofExcept {ε α : Type} (x : Except ε α) : Silent (.ofExcept x : Exchange ε α) := by
  cases x with
  | ok a => exact silent_done a
  | error e => exact silent_fail e

/-- A script that makes one request, or none because it could not be built. It gives a value only if the server has taken
    the request. --/
def Requesting {α : Type} (r : Except RequestError Request) (t : Exchange ServiceError α) : Prop :=
  ∀ l o, t.Follows l o → (∃ e, l = [] ∧ o = some (.error e)) ∨
    ∃ request reply, r = .ok request ∧ l = [⟨request, reply⟩] ∧ ∀ a, o = some (.ok a) → Accepted ⟨request, reply⟩

theorem requesting_send (r : Except RequestError Request) : Requesting r (send r) := by
  intro l o h
  cases r with
  | error e =>
    obtain ⟨rfl, rfl⟩ := follows_fail h
    exact Or.inl ⟨_, rfl, rfl⟩
  | ok request =>
    right
    rcases follows_ask h with ⟨rfl, rfl⟩ | ⟨answer, l', rfl, hrest⟩
    · exact ⟨request, none, rfl, rfl, nofun⟩
    · change Except String Response at answer
      change Follows ((Script.ofExcept (received answer)).bind _) l' o at hrest
      cases hanswer : received answer with
      | error e =>
        rw [hanswer] at hrest
        obtain ⟨rfl, rfl⟩ := follows_fail hrest
        exact ⟨request, _, rfl, rfl, nofun⟩
      | ok text =>
        rw [hanswer] at hrest
        dsimp only [Script.ofExcept, Script.bind] at hrest
        have hsilent : l' = [] := by
          split at hrest
          · exact (follows_done hrest).1
          · exact (follows_fail hrest).1
        exact ⟨request, _, rfl, by rw [hsilent], fun _ _ => accepted_of_received hanswer⟩

/-- What is made of the answer changes nothing. --/
theorem Requesting.bind {α β : Type} {r : Except RequestError Request} {t : Exchange ServiceError α}
    {f : α → Exchange ServiceError β} (ht : Requesting r t) (hf : ∀ a, Silent (f a)) : Requesting r (t >>= f) := by
  intro l o h
  rcases follows_bind h with ⟨a, l₁, l₂, h₁, h₂, rfl⟩ | ⟨e, h₁, rfl⟩ | ⟨h₁, rfl⟩
  · obtain ⟨rfl, -⟩ := hf a _ _ h₂
    rw [List.append_nil]
    rcases ht _ _ h₁ with ⟨e, -, ho⟩ | ⟨request, reply, hr, rfl, hok⟩
    · cases ho
    · exact Or.inr ⟨request, reply, hr, rfl, fun _ _ => hok a rfl⟩
  · rcases ht _ _ h₁ with ⟨_, hl, -⟩ | ⟨request, reply, hr, hl, -⟩
    · exact Or.inl ⟨e, hl, rfl⟩
    · exact Or.inr ⟨request, reply, hr, hl, nofun⟩
  · rcases ht _ _ h₁ with ⟨e, -, ho⟩ | ⟨request, reply, hr, hl, -⟩
    · cases ho
    · exact Or.inr ⟨request, reply, hr, hl, nofun⟩

/-! ### The services -/

theorem requesting_getProviderConfig (name : String) :
    Requesting (getRequest (collection "providerconfigs") name) (getProviderConfig name) := by
  refine (requesting_send _).bind fun v => ?_
  cases readObject? v with
  | none => exact silent_fail _
  | some v => exact silent_ofExcept _

theorem requesting_getKey (key : SecretKey) : Requesting (getRequest (secrets key.space) key.name) (getKey key) := by
  refine (requesting_send _).bind fun v => ?_
  cases readSecret? v with
  | none => exact silent_fail _
  | some values =>
    dsimp only
    cases values.lookup key.key with
    | none => exact silent_fail _
    | some value => exact silent_done _

theorem track_of_error {r : ManagedResource} {e : ServiceError} (h : namedConfig r = .error e) : track r = .fail e := by
  unfold track
  rw [h]
  rfl

/-- A usage is recorded under the uid of the resource. --/
theorem requesting_track {r : ManagedResource} {config : String} (h : namedConfig r = .ok config) :
    Requesting (applyRequest (collection "providerconfigusages") r.uid.text (usage r config)) (track r) := by
  unfold track
  rw [h]
  refine (requesting_send _).bind fun v => ?_
  cases readObject? v with
  | none => exact silent_fail _
  | some v => exact silent_done _

theorem namedConfig_ok {r : ManagedResource} {config : String} (h : namedConfig r = .ok config) :
    r.providerConfig = some config ∧ config ≠ "" := by
  unfold namedConfig at h
  split at h
  · cases h
  · next name hname =>
    split at h
    · cases h
    · next hempty =>
      cases h
      exact ⟨hname, by simpa using hempty⟩

/-- Without a name there is nothing to record. --/
theorem namedConfig_of_unnamed {r : ManagedResource} (h : r.providerConfig.getD "" = "") :
    namedConfig r = .error (.invalidInput (r.kind ++ " " ++ r.name ++ " has no providerConfigRef")) := by
  unfold namedConfig
  cases hname : r.providerConfig with
  | none => rfl
  | some name =>
    rw [hname] at h
    exact if_pos (by simpa using h)

/-! ### Where the requests go -/

/-- The request asks for a configuration, or for anything else under the collection of configurations. --/
def Request.ReadsConfig (r : Request) : Prop :=
  r.method = .get ∧ (collection "providerconfigs").toList <+: r.uri.toList

theorem prefix_append (a b : String) : a.toList <+: (a ++ b).toList := by
  rw [String.toList_append]
  exact List.prefix_append _ _

/-- What of a name stands in the path of a request. The rest is taken for a query, or it is not sent. --/
def pathName (name : String) : String := String.ofList (name.toList.takeWhile inPath)

theorem pathName_eq_self_iff {name : String} : pathName name = name ↔ ∀ c ∈ name.toList, c ≠ '?' ∧ c ≠ '#' := by
  have hlist : pathName name = name ↔ name.toList.takeWhile inPath = name.toList := by
    rw [← String.toList_inj, pathName, String.toList_ofList]
  rw [hlist, List.takeWhile_eq_self_iff]
  simp [inPath]

theorem pathName_append {root : String} (plain : ∀ c ∈ root.toList, inPath c = true) (name : String) :
    pathName (root ++ name) = root ++ pathName name := by
  rw [pathName, pathName, String.toList_append, List.takeWhile_append_of_pos plain, String.ofList_append,
    String.ofList_toList]

/-- A path ends where a query begins. --/
theorem pathName_append_mark (name : String) {rest : String} (hrest : rest.toList.takeWhile inPath = []) :
    pathName (name ++ rest) = pathName name := by
  rw [pathName, pathName, String.toList_append]
  by_cases hname : ∀ c ∈ name.toList, inPath c = true
  · rw [List.takeWhile_append_of_pos hname, hrest, List.append_nil, List.takeWhile_eq_self_iff.mpr hname]
  · rw [List.takeWhile_append, if_neg fun hlen => hname (List.takeWhile_eq_self_iff.mp
      ((List.takeWhile_prefix _).eq_of_length hlen))]

/-- What a request asks for begins with the path. --/
theorem eq_of_target {text uri : String} (h : target text = .ok uri) : ∃ query : List Char,
    uri.toList = text.toList.takeWhile inPath ++ query ∧ query.takeWhile (· != '?') = [] := by
  unfold target at h
  simp only at h
  split at h
  · cases h
  · split at h
    · cases h
      refine ⟨_, String.toList_ofList, ?_⟩
      cases hd : text.toList.dropWhile inPath with
      | nil => rfl
      | cons c rest =>
        have hc : inPath c = false := by
          have := List.head?_dropWhile_not inPath text.toList
          rw [hd] at this
          simpa using this
        by_cases hquery : c = '?'
        · rw [hquery]
          rfl
        · have hfragment : c = '#' := by simpa [inPath, hquery] using hc
          rw [hfragment]
          rfl
    · cases h

theorem path_of_target {text : String} {r : Request} (h : target text = .ok r.uri) : r.path = pathName text := by
  obtain ⟨query, huri, hquery⟩ := eq_of_target h
  have hpath : ∀ c ∈ text.toList.takeWhile inPath, (c != '?') = true := fun c hc => by
    have := List.mem_takeWhile_imp hc
    simp only [inPath, Bool.and_eq_true] at this
    exact this.1
  rw [Request.path, huri, List.takeWhile_append_of_pos hpath, hquery, List.append_nil, pathName]

/-- What stands in front of the first mark of a query is kept. --/
theorem prefix_of_target {text uri : String} {root : List Char} (h : target text = .ok uri) (hroot : root <+: text.toList)
    (plain : ∀ c ∈ root, inPath c = true) : root <+: uri.toList := by
  obtain ⟨query, huri, -⟩ := eq_of_target h
  obtain ⟨rest, htext⟩ := hroot
  rw [huri, ← htext, List.takeWhile_append_of_pos plain, List.append_assoc]
  exact List.prefix_append _ _

theorem getRequest_ok {plural name : String} {r : Request} (h : getRequest plural name = .ok r) :
    name ≠ "" ∧ r.method = .get ∧ target (plural ++ "/" ++ name) = .ok r.uri := by
  unfold getRequest objectPath at h
  split at h
  · cases h
  · next hname =>
    refine ⟨by simpa using hname, ?_⟩
    change (target (plural ++ "/" ++ name)).bind _ = _ at h
    cases huri : target (plural ++ "/" ++ name) with
    | error e =>
      rw [huri] at h
      cases h
    | ok uri =>
      rw [huri] at h
      cases h
      exact ⟨rfl, rfl⟩

theorem applyRequest_ok {plural name : String} {body : Json} {r : Request} (h : applyRequest plural name body = .ok r) :
    r.method = .patch ∧ r.contentType = some "application/apply-patch+yaml" ∧ r.body = some body ∧
      target (plural ++ "/" ++ name ++ "?&force=true&fieldManager=" ++ fieldManager) = .ok r.uri := by
  unfold applyRequest objectPath at h
  split at h
  · cases h
  · change (target (plural ++ "/" ++ name ++ "?&force=true&fieldManager=" ++ fieldManager)).bind _ = _ at h
    cases huri : target (plural ++ "/" ++ name ++ "?&force=true&fieldManager=" ++ fieldManager) with
    | error e =>
      rw [huri] at h
      cases h
    | ok uri =>
      rw [huri] at h
      cases h
      exact ⟨rfl, rfl, rfl, rfl⟩

/-- The path of the request is that of the object with this name in a collection. --/
def Request.Names (r : Request) (plural name : String) : Prop := r.path = collection plural ++ "/" ++ name

theorem Request.Names.unique {r : Request} {plural name name' : String} (h : r.Names plural name)
    (h' : r.Names plural name') : name = name' := (String.append_right_inj _).mp (h.symm.trans h')

section
variable {plural name : String} {r : Request} (plain : ((collection plural ++ "/").toList.all inPath) = true)
include plain

/-- An object is read under what of its name stands in the path. --/
theorem names_getRequest (h : getRequest (collection plural) name = .ok r) : r.Names plural (pathName name) := by
  obtain ⟨-, -, huri⟩ := getRequest_ok h
  exact (path_of_target huri).trans (pathName_append (List.all_eq_true.mp plain) name)

/-- An object is applied under the same path, behind which the query of the request begins. --/
theorem names_applyRequest {body : Json} (h : applyRequest (collection plural) name body = .ok r) :
    r.Names plural (pathName name) := by
  obtain ⟨-, -, -, huri⟩ := applyRequest_ok h
  have hquery : ("?&force=true&fieldManager=" ++ fieldManager).toList.takeWhile inPath = [] := by decide +kernel
  refine (path_of_target huri).trans ?_
  rw [String.append_assoc, pathName_append_mark _ hquery]
  exact pathName_append (List.all_eq_true.mp plain) name

end

/-- No secret is kept among the configurations. --/
theorem not_readsConfig_secret {space name : String} {r : Request} (h : getRequest (secrets space) name = .ok r) :
    ¬ r.ReadsConfig := by
  rintro ⟨-, hconfig⟩
  obtain ⟨-, -, huri⟩ := getRequest_ok h
  have hsecret : "/api/v1/namespaces/".toList <+: r.uri.toList := prefix_of_target huri
    ((((prefix_append _ space).trans (prefix_append _ _)).trans (prefix_append _ _)).trans (prefix_append _ _))
    (List.all_eq_true.mp (by decide))
  rcases List.prefix_or_prefix_of_prefix hconfig hsecret with hp | hp
  · exact absurd hp (by decide +kernel)
  · exact absurd hp (by decide +kernel)

theorem not_readsConfig_apply {plural name : String} {body : Json} {r : Request}
    (h : applyRequest plural name body = .ok r) : ¬ r.ReadsConfig := by
  rintro ⟨hget, -⟩
  rw [(applyRequest_ok h).1] at hget
  cases hget

end ApiServer

/-! ### The record of a usage -/

namespace Json

/-- What an object has under a name. --/
def member? (name : String) : Json → Option Json
  | .obj o => Fields.get? o name
  | _ => none

/-- The items of a list. --/
def items? : Json → Option (List Json)
  | .arr vs => some vs
  | _ => none

end Json

namespace ApiServer

/-- The value says that what has the uid uses a configuration. --/
structure Records (uid config : String) (v : Json) : Prop where
  kind : v.member? "kind" = some (.str "ProviderConfigUsage")
  name : (v.member? "metadata").bind (Json.member? "name") = some (.str uid)
  label : ((v.member? "metadata").bind (Json.member? "labels")).bind (Json.member? configLabel) = some (.str config)
  owner : ∃ owner, ((v.member? "metadata").bind (Json.member? "ownerReferences")).bind Json.items? = some [owner] ∧
    owner.member? "uid" = some (.str uid)
  reference : (v.member? "providerConfigRef").bind (Json.member? "name") = some (.str config)

theorem member?_object (fields : Fields) (name : String) : (Encode.object fields).member? name = fields.value name := rfl

theorem records_usage (r : ManagedResource) (config : String) : Records r.uid.text config (usage r config) := by
  constructor <;> simp [usage, member?_object, configLabel, Json.items?]

end ApiServer
end AnsibleStaging
