import AnsibleStaging.FileSystem.Basic
import AnsibleStaging.Proofs.Escapes
import AnsibleStaging.Proofs.HostNames

/-! What git's credential store reads. A line is one login: a scheme, a user and a password in which escapes stand for
    characters, and a host. A line that is made of a scheme, of user and password as a URL writes them and of a
    host is read as these parts and as nothing else, since none of their characters divides it. -/

namespace AnsibleStaging

/-! ### Logins -/

/-- A login of a credential store. A part that is not written is missing. --/
structure StoredLogin where
  protocol : String
  user : Option ByteArray
  password : Option ByteArray
  host : ByteArray
deriving DecidableEq

namespace StoredLogin

/-- The characters before the first `://` and those after it. --/
def atScheme? : List Char → Option (List Char × List Char)
  | ':' :: '/' :: '/' :: rest => some ([], rest)
  | c :: rest => (atScheme? rest).map fun r => (c :: r.1, r.2)
  | [] => none

/-- The characters before the first `mark` and those after it. --/
def cut? (mark : Char) : List Char → Option (List Char × List Char)
  | [] => none
  | c :: rest => if c = mark then some ([], rest) else (cut? mark rest).map fun r => (c :: r.1, r.2)

def decoded (cs : List Char) : ByteArray := Percent.decode (String.ofList cs)

/-- The login before a path, a query or a fragment. The first `@` ends the user and the password, and the first colon
    divides them. --/
def ofSite (protocol site : List Char) : StoredLogin :=
  match cut? '@' site with
  | none => ⟨String.ofList protocol, none, none, decoded site⟩
  | some (login, host) =>
    match cut? ':' login with
    | none => ⟨String.ofList protocol, some (decoded login), none, decoded host⟩
    | some (user, password) => ⟨String.ofList protocol, some (decoded user), some (decoded password), decoded host⟩

def endsSite (c : Char) : Bool := ['/', '?', '#'].contains c

/-- The login of one line. --/
def readLine? (line : List Char) : Option StoredLogin :=
  match atScheme? line with
  | none => none
  | some ([], _) => none
  | some (protocol, rest) => some (ofSite protocol (rest.takeWhile fun c => !endsSite c))

/-- The logins of a store, line by line. --/
def read (content : String) : List StoredLogin := (content.toList.splitOn '\n').filterMap readLine?

end StoredLogin

/-! ### Characters of users and passwords -/

/-- The characters that a user and a password can be written with: they are visible, and none of them divides a line. --/
def IsLoginChar (c : Char) : Prop := 0x20 < c.toNat ∧ c.toNat < 0x7F ∧ c ∉ ['/', ':', '@', '?', '#']

theorem IsLoginChar.ne {c : Char} (h : IsLoginChar c) : c ≠ '@' ∧ c ≠ ':' := by
  constructor <;> (rintro rfl; exact h.2.2 (by decide))

namespace Percent

theorem isLoginChar_capital {n : Nat} (h : n < 16) : IsLoginChar (Hex.capital n) := by
  have all : ∀ m < 16, IsLoginChar (Hex.capital m) := by
    unfold IsLoginChar
    decide
  exact all n h

theorem isLoginChar_of_mem_encodeByte {b : UInt8} {c : Char} (h : c ∈ encodeByte b) : IsLoginChar c := by
  have hb := b.toNat_lt
  simp only [encodeByte, List.mem_cons, List.not_mem_nil, or_false] at h
  rcases h with rfl | rfl | rfl
  · exact ⟨by decide, by decide, by decide⟩
  · exact isLoginChar_capital (by omega)
  · exact isLoginChar_capital (Nat.mod_lt _ (by decide))

/-- What is written for a user or a password is written in login characters. --/
theorem isLoginChar_of_mem_encode {text : String} {c : Char} (h : c ∈ (encode userinfoSet text).toList) :
    IsLoginChar c := by
  rw [encode, String.toList_ofList] at h
  obtain ⟨d, -, hc⟩ := List.mem_flatMap.mp h
  cases hd : encodes userinfoSet d with
  | true =>
    rw [encodeChar_of_encodes hd] at hc
    obtain ⟨b, -, hc⟩ := List.mem_flatMap.mp hc
    exact isLoginChar_of_mem_encodeByte hc
  | false =>
    rw [encodeChar_of_not_encodes hd, List.mem_singleton] at hc
    subst hc
    have kept : ∀ m ∈ userinfoSet, c ≠ m := by
      rintro m hm rfl
      rw [encodes, List.contains_iff_mem.mpr hm, Bool.or_true] at hd
      cases hd
    simp only [encodes, isControl, Bool.or_eq_false_iff, decide_eq_false_iff_not] at hd
    have blank : c.toNat ≠ 0x20 := fun h => kept ' ' (by decide) (Char.toNat_inj.mp h)
    refine ⟨by omega, by omega, fun hc => ?_⟩
    have listed : ['/', ':', '@', '?', '#'] ⊆ userinfoSet := by decide
    exact kept c (listed hc) rfl

end Percent

namespace StoredLogin

/-! ### Sites -/

theorem atScheme?_append {protocol : List Char} (h : ∀ c ∈ protocol, c ≠ ':') (rest : List Char) :
    atScheme? (protocol ++ ':' :: '/' :: '/' :: rest) = some (protocol, rest) := by
  induction protocol with
  | nil => rfl
  | cons c protocol ih =>
    obtain ⟨hc, hrest⟩ := List.forall_mem_cons.mp h
    rw [List.cons_append, atScheme?, ih hrest]
    · rfl
    · exact fun _ heq => absurd heq hc

theorem cut?_append {mark : Char} {before : List Char} (h : ∀ c ∈ before, c ≠ mark) (after : List Char) :
    cut? mark (before ++ mark :: after) = some (before, after) := by
  induction before with
  | nil => rw [List.nil_append, cut?, if_pos rfl]
  | cons c before ih =>
    obtain ⟨hc, hrest⟩ := List.forall_mem_cons.mp h
    rw [List.cons_append, cut?, if_neg hc, ih hrest]
    rfl

theorem cut?_eq_none {mark : Char} {cs : List Char} (h : ∀ c ∈ cs, c ≠ mark) : cut? mark cs = none := by
  induction cs with
  | nil => rfl
  | cons c rest ih =>
    obtain ⟨hc, hrest⟩ := List.forall_mem_cons.mp h
    rw [cut?, if_neg hc, ih hrest]
    rfl

theorem ofSite_host {host : List Char} (protocol : List Char) (h : ∀ c ∈ host, c ≠ '@') :
    ofSite protocol host = ⟨String.ofList protocol, none, none, decoded host⟩ := by
  rw [ofSite, cut?_eq_none h]

theorem ofSite_user {user : List Char} (protocol host : List Char) (hu : ∀ c ∈ user, IsLoginChar c) :
    ofSite protocol (user ++ '@' :: host) = ⟨String.ofList protocol, some (decoded user), none, decoded host⟩ := by
  have plain : ∀ c ∈ user, c ≠ '@' ∧ c ≠ ':' := fun c hc => (hu c hc).ne
  rw [ofSite, cut?_append fun c hc => (plain c hc).1]
  dsimp only
  rw [cut?_eq_none fun c hc => (plain c hc).2]

theorem ofSite_login {user password : List Char} (protocol host : List Char) (hu : ∀ c ∈ user, IsLoginChar c)
    (hp : ∀ c ∈ password, IsLoginChar c) : ofSite protocol (user ++ ':' :: (password ++ '@' :: host)) =
      ⟨String.ofList protocol, some (decoded user), some (decoded password), decoded host⟩ := by
  have login : ∀ c ∈ user ++ ':' :: password, c ≠ '@' := by
    intro c hc
    rcases List.mem_append.mp hc with hc | hc
    · exact (hu c hc).ne.1
    · rcases List.mem_cons.mp hc with rfl | hc
      · decide
      · exact (hp c hc).ne.1
  rw [show user ++ ':' :: (password ++ '@' :: host) = (user ++ ':' :: password) ++ '@' :: host by simp, ofSite,
    cut?_append login]
  dsimp only
  rw [cut?_append fun c hc => (hu c hc).ne.2]

/-! ### Lines -/

/-- The characters that stay in a line and do not end a site. --/
def IsSiteChar (c : Char) : Prop := c ∉ ['/', '?', '#', '\n']

theorem isSiteChar_of_visible {c : Char} {marks : List Char} (hv : 0x20 < c.toNat) (hc : c ∉ marks)
    (hmarks : ['/', '?', '#'] ⊆ marks) : IsSiteChar c := by
  intro h
  rcases List.mem_append.mp (show c ∈ ['/', '?', '#'] ++ ['\n'] from h) with h | h
  · exact hc (hmarks h)
  · rw [List.mem_singleton.mp h] at hv
    exact absurd hv (by decide)

theorem isSiteChar_of_isLoginChar {c : Char} (h : IsLoginChar c) : IsSiteChar c :=
  isSiteChar_of_visible h.1 h.2.2 (by decide)

theorem isSiteChar_of_isHostChar {c : Char} (h : Url.IsHostChar c) : IsSiteChar c :=
  isSiteChar_of_visible h.1 h.2.2 (by decide)

theorem IsSiteChar.endsSite {c : Char} (h : IsSiteChar c) : endsSite c = false := by
  rw [StoredLogin.endsSite, ← Bool.not_eq_true, List.contains_iff_mem]
  exact fun hc => h (List.mem_append_left ['\n'] hc)

theorem IsSiteChar.ne {c : Char} (h : IsSiteChar c) : c ≠ '\n' := by
  rintro rfl
  exact h (by decide)

/-- A site in one line is read as a whole. --/
theorem read_line {protocol site : String} (hp : protocol = "http" ∨ protocol = "https")
    (hsite : ∀ c ∈ site.toList, IsSiteChar c) :
    read (protocol ++ "://" ++ site ++ "\n") = [ofSite protocol.toList site.toList] := by
  have chars : (protocol ++ "://" ++ site ++ "\n").toList =
      (protocol.toList ++ ':' :: '/' :: '/' :: site.toList) ++ '\n' :: [] := by simp
  have name : protocol.toList ≠ [] ∧ ':' ∉ protocol.toList ∧ '\n' ∉ protocol.toList := by
    rcases hp with rfl | rfl <;> decide
  have oneLine : '\n' ∉ protocol.toList ++ ':' :: '/' :: '/' :: site.toList := by
    intro hmem
    simp only [List.mem_append, List.mem_cons, Char.reduceEq, false_or] at hmem
    exact hmem.elim name.2.2 fun h => (hsite _ h).ne rfl
  have whole : site.toList.takeWhile (fun c => !endsSite c) = site.toList := by
    have kept : (site.toList ++ []).takeWhile (fun c => !endsSite c) = site.toList ++ [].takeWhile _ :=
      List.takeWhile_append_of_pos fun c hc => congrArg not (hsite c hc).endsSite
    simpa using kept
  have line : readLine? (protocol.toList ++ ':' :: '/' :: '/' :: site.toList) =
      some (ofSite protocol.toList site.toList) := by
    rw [readLine?, atScheme?_append fun c hc hcolon => name.2.1 (hcolon ▸ hc)]
    split
    · next heq => cases heq
    · next heq => exact absurd (Prod.mk.inj (Option.some.inj heq)).1 name.1
    · next heq =>
      obtain ⟨rfl, rfl⟩ := Prod.mk.inj (Option.some.inj heq)
      rw [whole]
  rw [read, chars, List.splitOn_append_cons_self_of_not_mem oneLine, List.filterMap_cons_some line]
  rfl

theorem decoded_toList (text : String) : decoded text.toList = Percent.decode text := by
  rw [decoded, String.ofList_toList]

theorem decoded_encode (text : String) :
    decoded (Percent.encode Percent.userinfoSet text).toList = Percent.decode text := by
  rw [decoded_toList, Percent.decode_encode Percent.keepsEscapes_userinfoSet]

theorem decoded_site {site : String} (h : ∀ c ∈ site.toList, Url.IsHostChar c) : decoded site.toList = site.toUTF8 := by
  rw [decoded_toList, Percent.decode_eq_toUTF8_iff]
  refine Percent.hasEscape_eq_false fun c hc hsign => (h c hc).2.2 ?_
  rw [hsign]
  decide

end StoredLogin

end AnsibleStaging
