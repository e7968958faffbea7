import AnsibleStaging.Credentials.SecretMap
import AnsibleStaging.Proofs.Requests
import AnsibleStaging.Proofs.SecretAnswers
import Mathlib.Data.List.Induction
import Mathlib.Data.List.Nodup
import Mathlib.Data.List.Pairwise

/-! Two stores of secrets answer alike. One asks the API server: a path tells which secret is meant, the answer is text
    with values in base64, and what is not there is said by a status. The other looks a triple up in a list. If the server
    serves a set of secrets and the list holds the triples of the set, both find the value that the set has, and both fail
    with a missing object where it has none, be it that there is no such secret or no such key in it. -/

namespace AnsibleStaging

/-- Where no key stands twice, the value under a key is the one that stands with it. --/
theorem lookup_eq_some_iff_mem {α β : Type} [BEq α] [LawfulBEq α] {l : List (α × β)} (hkeys : (l.map Prod.fst).Nodup)
    {k : α} {v : β} : l.lookup k = some v ↔ (k, v) ∈ l := by
  rw [List.lookup_eq_some_iff]
  constructor
  · rintro ⟨before, after, rfl, -⟩
    simp
  · intro h
    obtain ⟨before, after, rfl⟩ := List.append_of_mem h
    refine ⟨before, after, rfl, fun f hf => ?_⟩
    rw [List.map_append, List.map_cons, List.nodup_append] at hkeys
    simpa using fun heq => hkeys.2.2 f.1 (List.mem_map_of_mem hf) k List.mem_cons_self heq.symm

/-! ### Secrets in a list -/

namespace SecretMap

/-- The entries are stored one after the other. --/
def ofEntries (l : List (SecretKey × ByteArray)) : SecretMap := l.foldl (fun m e => m.insert e.1 e.2) empty

theorem find?_eq_lookup (m : SecretMap) (key : SecretKey) : m.find? key = m.entries.lookup key := by
  obtain ⟨l⟩ := m
  unfold find?
  induction l with
  | nil => rfl
  | cons e rest ih =>
    rw [List.find?_cons, List.lookup_cons, BEq.comm]
    cases key == e.1
    · exact ih
    · rfl

theorem entries_ofEntries (l : List (SecretKey × ByteArray)) : (ofEntries l).entries = l.reverse := by
  induction l using List.reverseRecOn with
  | nil => rfl
  | append_singleton before e ih =>
    rw [ofEntries, List.foldl_append, List.reverse_append, ← ih]
    rfl

theorem find?_ofEntries {l : List (SecretKey × ByteArray)} (hkeys : (l.map Prod.fst).Nodup) {key : SecretKey}
    {value : ByteArray} : (ofEntries l).find? key = some value ↔ (key, value) ∈ l := by
  have hback : (l.reverse.map Prod.fst).Nodup := by rwa [List.map_reverse, List.nodup_reverse]
  rw [find?_eq_lookup, entries_ofEntries, lookup_eq_some_iff_mem hback, List.mem_reverse]

end SecretMap

namespace ApiServer
open Script Rehearsal

/-! ### Sets of secrets -/

/-- Secrets of which no two have one namespace and one name. --/
structure SecretSet where
  secrets : List Secret
  apart : (secrets.map fun x => (x.space, x.name)).Nodup

/-- The values of a secret, each with all that leads to it. --/
def Secret.entries (s : Secret) : List (SecretKey × ByteArray) := s.data.map fun f => (⟨s.name, s.space, f.1⟩, f.2)

theorem Secret.mem_entries {x : Secret} {key : SecretKey} {value : ByteArray} :
    (key, value) ∈ x.entries ↔ (x.space = key.space ∧ x.name = key.name) ∧ (key.key, value) ∈ x.data := by
  constructor
  · intro h
    obtain ⟨f, hf, heq⟩ := List.mem_map.mp h
    cases heq
    exact ⟨⟨rfl, rfl⟩, hf⟩
  · rintro ⟨⟨hspace, hname⟩, hmem⟩
    refine List.mem_map.mpr ⟨_, hmem, ?_⟩
    rw [hspace, hname]

namespace SecretSet
variable {c : SecretSet} {key : SecretKey} {value : ByteArray}

def entries (c : SecretSet) : List (SecretKey × ByteArray) := c.secrets.flatMap Secret.entries

theorem keys_nodup (c : SecretSet) : (c.entries.map Prod.fst).Nodup := by
  rw [entries, List.map_flatMap]
  refine List.pairwise_flatMap.mpr ⟨fun x _ => ?_, (List.pairwise_map.mp c.apart).imp fun {x y} hne => ?_⟩
  · have hkeys : x.entries.map Prod.fst = (x.data.map Prod.fst).map fun k => ⟨x.name, x.space, k⟩ := by
      simp [Secret.entries]
    rw [hkeys]
    exact List.Nodup.map (fun _ _ heq => (SecretKey.mk.inj heq).2.2) x.keys_nodup
  · intro k hk k' hk' heq
    obtain ⟨⟨_, v⟩, he, rfl⟩ := List.mem_map.mp hk
    obtain ⟨⟨_, v'⟩, he', rfl⟩ := List.mem_map.mp hk'
    obtain ⟨⟨hspace, hname⟩, -⟩ := Secret.mem_entries.mp he
    obtain ⟨⟨hspace', hname'⟩, -⟩ := Secret.mem_entries.mp he'
    dsimp only at heq
    exact hne (by rw [hspace, hspace', hname, hname', heq])

/-- The secret that a key means is there, or there is none. --/
theorem find_secret (c : SecretSet) (key : SecretKey) :
    (∃ x ∈ c.secrets, (x.space = key.space ∧ x.name = key.name) ∧
      ∀ value, (key, value) ∈ c.entries ↔ x.data.lookup key.key = some value) ∨
    ((∀ x ∈ c.secrets, ¬(x.space = key.space ∧ x.name = key.name)) ∧ ∀ value, (key, value) ∉ c.entries) := by
  by_cases h : ∃ x ∈ c.secrets, x.space = key.space ∧ x.name = key.name
  · obtain ⟨x, hx, hkey⟩ := h
    refine Or.inl ⟨x, hx, hkey, fun value => ?_⟩
    have hhere : x.data.lookup key.key = some value ↔ (key, value) ∈ x.entries := by
      rw [lookup_eq_some_iff_mem x.keys_nodup, Secret.mem_entries]
      simp [hkey]
    rw [hhere]
    refine ⟨fun hmem => ?_, fun hmem => List.mem_flatMap.mpr ⟨x, hx, hmem⟩⟩
    obtain ⟨y, hy, hmem⟩ := List.mem_flatMap.mp hmem
    have hkey' := (Secret.mem_entries.mp hmem).1
    -- No other secret has the namespace and the name.
    have hsame : x = y := List.inj_on_of_nodup_map c.apart hx hy (by rw [hkey.1, hkey.2, hkey'.1, hkey'.2])
    rwa [hsame]
  · have hnone : ∀ x ∈ c.secrets, ¬(x.space = key.space ∧ x.name = key.name) := fun x hx hkey => h ⟨x, hx, hkey⟩
    refine Or.inr ⟨hnone, fun value hmem => ?_⟩
    obtain ⟨x, hx, hmem⟩ := List.mem_flatMap.mp hmem
    exact hnone x hx (Secret.mem_entries.mp hmem).1

end SecretSet

/-! ### Paths -/

/-- The path under which the server keeps a secret. --/
def secretPath (space name : String) : String := "/api/v1/namespaces/" ++ space ++ "/secrets" ++ "/" ++ name

def secretRequest (space name : String) : Request := ⟨.get, secretPath space name, none, none⟩

theorem plain_char {c : Char} (h : c.isLower = true ∨ c.isDigit = true ∨ c = '-' ∨ c = '.') :
    isPathChar c = true ∧ inPath c = true ∧ c ≠ '/' := by
  have hne : ∀ d : Char, d.isLower = false → d.isDigit = false → d ≠ '-' → d ≠ '.' → c ≠ d := by
    rintro d hlower hdigit hdash hdot rfl
    simp [hlower, hdigit, hdash, hdot] at h
  have hlow : 0x21 ≤ c.toNat := by
    rcases h with h | h | rfl | rfl
    · have hfirst : 'a'.val ≤ c.val := of_decide_eq_true (Bool.and_eq_true_iff.mp h).1
      exact Nat.le_trans (by decide) (UInt32.le_iff_toNat_le.mp hfirst)
    · have hfirst : '0'.val ≤ c.val := of_decide_eq_true (Bool.and_eq_true_iff.mp h).1
      exact Nat.le_trans (by decide) (UInt32.le_iff_toNat_le.mp hfirst)
    · decide
    · decide
  have hquestion := hne '?' (by decide) (by decide) (by decide) (by decide)
  have hmark := hne '#' (by decide) (by decide) (by decide) (by decide)
  have hlt := hne '<' (by decide) (by decide) (by decide) (by decide)
  have hgt := hne '>' (by decide) (by decide) (by decide) (by decide)
  have htick := hne '`' (by decide) (by decide) (by decide) (by decide)
  refine ⟨?_, by simp [inPath, hquestion, hmark], hne '/' (by decide) (by decide) (by decide) (by decide)⟩
  simp [isPathChar, hlow, hquestion, hmark, hlt, hgt, htick]

/-- A character of a path that has no query. --/
def isPlain (c : Char) : Bool := isPathChar c && inPath c

theorem IsObjectName.all_plain {name : String} (h : IsObjectName name) : name.toList.all isPlain = true :=
  List.all_eq_true.mpr fun c hc => by
    obtain ⟨hpath, hend, -⟩ := plain_char (h.plain c hc)
    exact Bool.and_eq_true_iff.mpr ⟨hpath, hend⟩

theorem all_plain_append {s t : String} (hs : s.toList.all isPlain = true) (ht : t.toList.all isPlain = true) :
    (s ++ t).toList.all isPlain = true := by
  rw [String.toList_append, List.all_append, hs, ht]
  rfl

theorem all_plain_secretPath {space name : String} (hspace : IsObjectName space) (hname : IsObjectName name) :
    (secretPath space name).toList.all isPlain = true := by
  have hspaces : "/api/v1/namespaces/".toList.all isPlain = true := by decide +kernel
  have hsecrets : "/secrets".toList.all isPlain = true := by decide +kernel
  have hslash : "/".toList.all isPlain = true := by decide +kernel
  exact all_plain_append (all_plain_append (all_plain_append (all_plain_append hspaces hspace.all_plain) hsecrets) hslash)
    hname.all_plain

theorem target_of_plain {path : String} (h : path.toList.all isPlain = true) :
    target path = if maxUri < path.utf8ByteSize then .error .uriLength else .ok path := by
  have hplain : ∀ c ∈ path.toList, isPathChar c = true ∧ inPath c = true := fun c hc =>
    Bool.and_eq_true_iff.mp (List.all_eq_true.mp h c hc)
  have hpath : path.toList.all isPathChar = true := List.all_eq_true.mpr fun c hc => (hplain c hc).1
  have htake := List.takeWhile_eq_self_iff.mpr fun c hc => (hplain c hc).2
  have hdrop := List.dropWhile_eq_nil_iff.mpr fun c hc => (hplain c hc).2
  simp [target, htake, hdrop, hpath]

theorem IsObjectName.slash_notMem {name : String} (h : IsObjectName name) : '/' ∉ name.toList := fun hslash =>
  (plain_char (h.plain '/' hslash)).2.2 rfl

/-- A part without slashes can be told from what follows it. --/
theorem append_slash_inj {before between space space' name name' : String} {rest : List Char}
    (hbetween : between.toList = '/' :: rest) (hspace : '/' ∉ space.toList) (hspace' : '/' ∉ space'.toList)
    (h : before ++ space ++ between ++ "/" ++ name = before ++ space' ++ between ++ "/" ++ name') :
    space = space' ∧ name = name' := by
  generalize "/" = slash at h
  have hbefore : ∀ {t : String} (rest : List Char), '/' ∉ t.toList →
      (t.toList ++ '/' :: rest).takeWhile (· != '/') = t.toList := fun {t} rest ht => by
    rw [List.takeWhile_append_of_pos fun c hc => by simpa using fun heq : c = '/' => ht (heq ▸ hc)]
    simp
  have hlist := congrArg String.toList h
  simp only [String.toList_append, hbetween, List.append_assoc, List.append_cancel_left_eq, List.cons_append] at hlist
  have hsame : space.toList = space'.toList := by
    have htake := congrArg (List.takeWhile (· != '/')) hlist
    rwa [hbefore _ hspace, hbefore _ hspace'] at htake
  rw [hsame] at hlist
  have hrest := (List.cons.inj (List.append_cancel_left hlist)).2
  exact ⟨String.toList_inj.mp hsame, String.toList_inj.mp (List.append_cancel_left (List.append_cancel_left hrest))⟩

theorem secretPath_inj {space name space' name' : String} (hspace : IsObjectName space) (hspace' : IsObjectName space')
    (h : secretPath space name = secretPath space' name') : space = space' ∧ name = name' :=
  append_slash_inj rfl hspace.slash_notMem hspace'.slash_notMem h

/-- A secret is asked for under its path unless that is too long. --/
theorem getRequest_secret {space name : String} (hspace : IsObjectName space) (hname : IsObjectName name)
    (hlength : (secretPath space name).utf8ByteSize ≤ maxUri) :
    getRequest (secrets space) name = .ok (secretRequest space name) := by
  have hempty : name.isEmpty = false := Bool.eq_false_iff.mpr fun h => hname.ne_empty (String.isEmpty_iff.mp h)
  have htarget : target (secretPath space name) = .ok (secretPath space name) := by
    rw [target_of_plain (all_plain_secretPath hspace hname), if_neg (Nat.not_lt.mpr hlength)]
  have hobject : objectPath (secrets space) name = .ok (secretPath space name) := by
    rw [objectPath, hempty]
    rfl
  rw [getRequest, hobject]
  change (target (secretPath space name)).bind _ = _
  rw [htarget]
  rfl

/-! ### Servers -/

/-- In whatever state, the server answers the request for each secret of the set with that secret, and the request for
    any other with a status. --/
structure Serves {σ : Type} (server : Handler api σ) (c : SecretSet) : Prop where
  there : ∀ x ∈ c.secrets, ∀ s, (server (secretRequest x.space x.name) s).1 = some (.ok (answer 200 x.json))
  missing : ∀ space name, IsObjectName space → IsObjectName name → (∀ x ∈ c.secrets, ¬(x.space = space ∧ x.name = name)) →
    ∀ s, ∃ message, (server (secretRequest space name) s).1 = some (.ok (answer 404 (notFoundStatus message)))

def SecretSet.listing (c : SecretSet) : List (String × Response) :=
  c.secrets.map fun x => (Method.get.text ++ " " ++ secretPath x.space x.name, answer 200 x.json)

/-- A server that answers what is listed for the secrets of a set. --/
def serving {σ : Type} (c : SecretSet) : Handler api σ := fun request s =>
  (some ((PlannedServer.answering c.listing).answer request), s)

theorem SecretSet.listing_keys_nodup (c : SecretSet) : (c.listing.map Prod.fst).Nodup := by
  rw [listing, List.map_map]
  refine (List.Nodup.of_map _ c.apart).map_on fun x hx y hy heq => ?_
  have hpath := secretPath_inj x.space_named y.space_named ((String.append_right_inj _).mp heq)
  exact List.inj_on_of_nodup_map c.apart hx hy (Prod.ext hpath.1 hpath.2)

theorem path_secretRequest {space name : String} (hspace : IsObjectName space) (hname : IsObjectName name) :
    (secretRequest space name).path = secretPath space name := by
  have hplain : ∀ c ∈ (secretPath space name).toList, (c != '?') = true := fun c hc => by
    have hc := List.all_eq_true.mp (all_plain_secretPath hspace hname) c hc
    simp only [isPlain, inPath, Bool.and_eq_true] at hc
    exact hc.2.1
  change String.ofList ((secretPath space name).toList.takeWhile (· != '?')) = _
  rw [List.takeWhile_eq_self_iff.mpr hplain, String.ofList_toList]

/-- The answer to a request for a secret is listed, or there is none. --/
theorem listed_secretRequest (answers : List (String × Response)) {space name : String} (hspace : IsObjectName space)
    (hname : IsObjectName name) :
    PlannedServer.listed answers (secretRequest space name) =
      (answers.lookup (Method.get.text ++ " " ++ secretPath space name)).getD
        (answer 404 (notFoundStatus (secretPath space name ++ " not found"))) := by
  have hmethod : (secretRequest space name).method = .get := rfl
  have huri : (secretRequest space name).uri = secretPath space name := rfl
  rw [PlannedServer.listed, hmethod, huri, path_secretRequest hspace hname]
  cases answers.lookup (Method.get.text ++ " " ++ secretPath space name) <;> rfl

theorem serves_serving {σ : Type} (c : SecretSet) : Serves (serving (σ := σ) c) c := by
  refine ⟨fun x hx s => ?_, fun space name hspace hname hnone s => ⟨secretPath space name ++ " not found", ?_⟩⟩
  · have hlisted : c.listing.lookup (Method.get.text ++ " " ++ secretPath x.space x.name) = some (answer 200 x.json) :=
      (lookup_eq_some_iff_mem c.listing_keys_nodup).mpr (List.mem_map_of_mem hx)
    change some (Except.ok (PlannedServer.listed c.listing (secretRequest x.space x.name))) = _
    rw [listed_secretRequest _ x.space_named x.named, hlisted]
    rfl
  · have hlisted : c.listing.lookup (Method.get.text ++ " " ++ secretPath space name) = none := by
      refine List.lookup_eq_none_iff.mpr fun f hf => ?_
      obtain ⟨x, hx, rfl⟩ := List.mem_map.mp hf
      refine bne_iff_ne.mpr fun heq => ?_
      obtain ⟨hs, hn⟩ := secretPath_inj hspace x.space_named ((String.append_right_inj _).mp heq)
      exact hnone x hx ⟨hs.symm, hn.symm⟩
    change some (Except.ok (PlannedServer.listed c.listing (secretRequest space name))) = _
    rw [listed_secretRequest _ hspace hname, hlisted]
    rfl

/-! ### One request -/

section
variable {σ α : Type} {server : Handler api σ} {request : Request} {s : σ} {a : Except String Response}
  {f : Json → Exchange ServiceError α}

theorem run_send_error {e : ServiceError} (hserver : (server request s).1 = some a) (hreceived : received a = .error e) :
    ((send (.ok request) >>= f).run server s).1 = some (.error e) := by
  refine (congrArg Prod.fst (run_ask hserver)).trans ?_
  change (Script.run server ((Script.bind (.ofExcept (received a)) _).bind f) _).1 = _
  rw [hreceived]
  rfl

theorem run_send {text : String} {v : Json} (hserver : (server request s).1 = some a) (hreceived : received a = .ok text)
    (hv : Json.parse? text = some v) :
    ((send (.ok request) >>= f).run server s).1 = ((f v).run server (server request s).2).1 := by
  refine (congrArg Prod.fst (run_ask hserver)).trans ?_
  change (Script.run server ((Script.bind (.ofExcept (received a)) _).bind f) _).1 = _
  rw [hreceived]
  dsimp only [Script.ofExcept, Script.bind]
  rw [hv]
  rfl

end

/-! ### One look-up -/

section
variable {σ : Type} {server : Handler api σ} {c : SecretSet} {key : SecretKey} (hserves : Serves server c)
  (hrequest : getRequest (secrets key.space) key.name = .ok (secretRequest key.space key.name)) (s : σ)
include hserves hrequest

/-- The value that the secret has under the key is answered, or that it has none. --/
theorem run_getKey_there {x : Secret} (hx : x ∈ c.secrets) (hkey : x.space = key.space ∧ x.name = key.name) :
    ((getKey key).run server s).1 = match x.data.lookup key.key with
      | some value => some (.ok value)
      | none => some (.error (.notFound ("key " ++ key.key ++ " in secret " ++ key.text))) := by
  have hserver := hserves.there x hx s
  rw [hkey.1, hkey.2] at hserver
  obtain ⟨values, hvalues, hlookup⟩ := readSecret?_json x
  rw [getKey, hrequest, run_send hserver (received_answer rfl x.json) (Json.parse?_render x.readable_json), hvalues]
  dsimp only
  rw [hlookup]
  cases x.data.lookup key.key <;> rfl

/-- The server says that there is no such secret. --/
theorem run_getKey_missing (hspace : IsObjectName key.space) (hname : IsObjectName key.name)
    (hnone : ∀ x ∈ c.secrets, ¬(x.space = key.space ∧ x.name = key.name)) :
    ∃ why, ((getKey key).run server s).1 = some (.error (.notFound why)) := by
  obtain ⟨message, hserver⟩ := hserves.missing key.space key.name hspace hname hnone s
  refine ⟨message, ?_⟩
  rw [getKey, hrequest]
  exact run_send_error hserver (received_notFound message)

end

theorem get_ofEntries {c : SecretSet} {order : List (SecretKey × ByteArray)} (horder : order.Perm c.entries)
    (key : SecretKey) : (∀ value, (key, value) ∈ c.entries → (SecretMap.ofEntries order).get key = .ok value) ∧
      ((∀ value, (key, value) ∉ c.entries) →
        (SecretMap.ofEntries order).get key = .error (.notFound ("secret " ++ key.text))) := by
  have hkeys : (order.map Prod.fst).Nodup := (horder.map Prod.fst).nodup_iff.mpr c.keys_nodup
  have hfind : ∀ value, (SecretMap.ofEntries order).find? key = some value ↔ (key, value) ∈ c.entries := fun value =>
    (SecretMap.find?_ofEntries hkeys).trans horder.mem_iff
  refine ⟨fun value hvalue => ?_, fun hnone => ?_⟩
  · rw [SecretMap.get, (hfind value).mpr hvalue]
  · have hmissing : (SecretMap.ofEntries order).find? key = none :=
      Option.eq_none_iff_forall_ne_some.mpr fun value hvalue => hnone value ((hfind value).mp hvalue)
    rw [SecretMap.get, hmissing]

/-- The server serves a set of secrets, the list holds its triples in some order, and the secret that is looked up is
    asked for under its path, as it is unless the path is too long. Then both stores find the value that the set has under
    the key, and where it has none both fail with what is not found. --/
theorem secret_stores_agree {σ : Type} {server : Handler api σ} {c : SecretSet} {key : SecretKey}
    {order : List (SecretKey × ByteArray)} (hserves : Serves server c) (horder : order.Perm c.entries)
    (hspace : IsObjectName key.space) (hname : IsObjectName key.name)
    (hrequest : getRequest (secrets key.space) key.name = .ok (secretRequest key.space key.name)) (s : σ) :
    (∃ value, (key, value) ∈ c.entries ∧ ((getKey key).run server s).1 = some (.ok value) ∧
      (SecretMap.ofEntries order).get key = .ok value) ∨
    ((∀ value, (key, value) ∉ c.entries) ∧ ∃ why why', ((getKey key).run server s).1 = some (.error (.notFound why)) ∧
      (SecretMap.ofEntries order).get key = .error (.notFound why')) := by
  obtain ⟨hheld, hmissing⟩ := get_ofEntries horder key
  rcases c.find_secret key with ⟨x, hx, hkey, hentries⟩ | ⟨hnone, hentries⟩
  · have hrun := run_getKey_there hserves hrequest s hx hkey
    cases hlookup : x.data.lookup key.key with
    | some value =>
      rw [hlookup] at hrun
      have hvalue : (key, value) ∈ c.entries := (hentries value).mpr hlookup
      exact Or.inl ⟨value, hvalue, hrun, hheld value hvalue⟩
    | none =>
      -- The secret is there, but not the key.
      rw [hlookup] at hrun
      have hnone : ∀ value, (key, value) ∉ c.entries := fun value hvalue => by
        rw [hentries, hlookup] at hvalue
        cases hvalue
      exact Or.inr ⟨hnone, _, _, hrun, hmissing hnone⟩
  · obtain ⟨why, hrun⟩ := run_getKey_missing hserves hrequest s hspace hname hnone
    exact Or.inr ⟨hentries, why, _, hrun, hmissing hentries⟩

theorem named_apps : IsObjectName "apps" := isObjectName_of_all (by decide) (by decide +kernel)

theorem named_gitLogin : IsObjectName "git.login-1" := isObjectName_of_all (by decide) (by decide +kernel)

/-- One secret with two keys, one of them without bytes. --/
def gitLogins : SecretSet where
  secrets := [⟨"apps", "git.login-1", [("token", ⟨#[0, 255, 10]⟩), ("", .empty)], named_apps, named_gitLogin, by decide⟩]
  apart := by decide

theorem gitLogin_agreed :
    ((getKey ⟨"git.login-1", "apps", "token"⟩).run (serving gitLogins) ()).1 = some (.ok ⟨#[0, 255, 10]⟩) ∧
      (SecretMap.ofEntries gitLogins.entries).get ⟨"git.login-1", "apps", "token"⟩ = .ok ⟨#[0, 255, 10]⟩ ∧
      ∃ why why',
        ((getKey ⟨"git.login-1", "apps", "user"⟩).run (serving gitLogins) ()).1 = some (.error (.notFound why)) ∧
        (SecretMap.ofEntries gitLogins.entries).get ⟨"git.login-1", "apps", "user"⟩ = .error (.notFound why') := by
  have hrequest : getRequest (secrets "apps") "git.login-1" = .ok (secretRequest "apps" "git.login-1") :=
    getRequest_secret named_apps named_gitLogin (by decide +kernel)
  have hentries : gitLogins.entries =
      [(⟨"git.login-1", "apps", "token"⟩, ⟨#[0, 255, 10]⟩), (⟨"git.login-1", "apps", ""⟩, .empty)] := rfl
  have hfound := @secret_stores_agree Unit _ gitLogins ⟨"git.login-1", "apps", "token"⟩ gitLogins.entries
    (serves_serving gitLogins) (List.Perm.refl _) named_apps named_gitLogin hrequest ()
  have habsent := @secret_stores_agree Unit _ gitLogins ⟨"git.login-1", "apps", "user"⟩ gitLogins.entries
    (serves_serving gitLogins) (List.Perm.refl _) named_apps named_gitLogin hrequest ()
  rcases hfound with ⟨value, hvalue, hrun, hget⟩ | ⟨hnone, -⟩
  · obtain rfl : value = ⟨#[0, 255, 10]⟩ := by simpa [hentries] using hvalue
    rcases habsent with ⟨value, hvalue, -⟩ | ⟨-, why, why', hrun', hget'⟩
    · simp [hentries] at hvalue
    · exact ⟨hrun, hget, why, why', hrun', hget'⟩
  · exact absurd List.mem_cons_self (hnone ⟨#[0, 255, 10]⟩)

end ApiServer
end AnsibleStaging
