import AnsibleStaging.Credentials.Git
import AnsibleStaging.Proofs.Exchanges
import AnsibleStaging.Proofs.Results
import AnsibleStaging.Proofs.StoredLogins

/-! The line that a git connection gives. It is made of the scheme, the host and the port of the URL and of the user and
    the token, both written so that nothing in them divides the line or ends it. So the credential store finds one
    login in it, for the host of the URL. What it takes for the user and the token is what is read when their
    escapes are undone, those that stood in them before included. -/

namespace AnsibleStaging
open Script

/-! ### The line of a connection -/

theorem trimEndChars_append {p : Char → Bool} {front tail : List Char} (hne : front ≠ [])
    (hfront : ∀ c ∈ front, p c = false) (htail : ∀ c ∈ tail, p c = true) (before : List Char) :
    trimEndChars p (before ++ front ++ tail) = before ++ front := by
  obtain ⟨last, rest, hlast⟩ := List.exists_cons_of_ne_nil (List.reverse_ne_nil_iff.mpr hne)
  have stops : ¬p last = true := by
    rw [hfront last (List.mem_reverse.mp (hlast ▸ List.mem_cons_self))]
    exact Bool.false_ne_true
  have back : (before ++ front ++ tail).reverse = tail.reverse ++ last :: (rest ++ before.reverse) := by
    rw [List.reverse_append, List.reverse_append, hlast, List.cons_append]
  rw [trimEndChars, back, List.dropWhile_append_of_pos fun c hc => htail c (List.mem_reverse.mp hc),
    List.dropWhile_cons_of_neg stops, ← List.cons_append, ← hlast, List.reverse_append, List.reverse_reverse,
    List.reverse_reverse]

namespace Url

/-- What is written of a URL for the credential store: its site with a login, given in plain text. --/
def loggedIn (u : Url) (username token : String) : Url :=
  { u.site with
    username := Percent.encode Percent.userinfoSet username
    password := if token.isEmpty then none else some (Percent.encode Percent.userinfoSet token) }

theorem eq_of_setPassword? {u named login : Url} {username token : String} (hnamed : u.site.setUsername? username = some named)
    (hlogin : named.setPassword? token = some login) : login = u.loggedIn username token := by
  unfold setUsername? at hnamed
  unfold setPassword? at hlogin
  split at hnamed
  · cases hnamed
    split at hlogin
    · cases hlogin
      rfl
    · cases hlogin
  · cases hnamed

theorem isHostChar_of_mem_portText {u : Url} {c : Char} (h : c ∈ u.portText.toList) : IsHostChar c := by
  unfold portText at h
  cases hport : u.port with
  | none =>
    rw [hport] at h
    cases h
  | some n =>
    rw [hport, Option.elim_some, String.toList_append] at h
    rcases List.mem_append.mp h with h | h
    · rw [List.mem_singleton.mp h]
      exact isHostChar_colon
    · exact isHostChar_of_mem_toString h

theorem mem_text_cleared {p : UrlPath} {scheme : String} {c : Char} (h : c ∈ (p.cleared scheme).text.toList) : c = '/' := by
  unfold UrlPath.cleared at h
  split at h
  · split at h
    · simpa [UrlPath.text] using h
    · simp [UrlPath.text] at h
  · simp [UrlPath.text] at h

/-- Without its slash at the end a site with a login is written so. --/
theorem trimmed_text_loggedIn {u : Url} {host : Host} (hhost : u.host = some host) (hne : host.text ≠ "")
    (hchars : ∀ c ∈ host.text.toList, IsHostChar c) (username token : String) :
    String.ofList (trimEndChars (· == '/') (u.loggedIn username token).text.toList) =
      u.scheme ++ "://" ++ (u.loggedIn username token).userinfoText ++ (host.text ++ u.portText) := by
  have htext : (u.loggedIn username token).text.toList =
      (u.scheme ++ "://" ++ (u.loggedIn username token).userinfoText).toList ++ (host.text ++ u.portText).toList ++
        (u.path.cleared u.scheme).text.toList := by
    have beside : (u.loggedIn username token).authorityText =
        "//" ++ (u.loggedIn username token).userinfoText ++ host.text ++ u.portText := by
      have hhost' : (u.loggedIn username token).host = some host := hhost
      rw [authorityText, hostText, hhost']
      rfl
    rw [text, beside]
    simp [loggedIn, site]
  have site : (host.text ++ u.portText).toList ≠ [] := by
    rw [String.toList_append]
    exact List.append_ne_nil_of_left_ne_nil (fun h => hne (String.toList_inj.mp h)) _
  have noSlash : ∀ c ∈ (host.text ++ u.portText).toList, (c == '/') = false := by
    intro c hc
    rw [String.toList_append] at hc
    have written := (List.mem_append.mp hc).elim (hchars c) isHostChar_of_mem_portText
    exact beq_eq_false_iff_ne.mpr fun h => written.2.2 (by simp [h])
  rw [htext, trimEndChars_append site noSlash fun c hc => beq_iff_eq.mpr (mem_text_cleared hc), ← String.toList_append,
    String.ofList_toList]

end Url

theorem exists_of_credentialLine {url username token line : String} (h : credentialLine url username token = .ok line) :
    ∃ u host, Url.read url = .ok u ∧ (u.scheme = "http" ∨ u.scheme = "https") ∧ u.host = some host ∧
      (∀ c ∈ (host.text ++ u.portText).toList, Url.IsHostChar c) ∧
      line = u.scheme ++ "://" ++ (u.loggedIn username token).userinfoText ++ (host.text ++ u.portText) ++ "\n" := by
  unfold credentialLine at h
  split at h
  · cases h
  · next u hu =>
    split at h
    · cases h
    · next hscheme =>
      split at h
      · cases h
      · split at h
        · cases h
        · next named hnamed =>
          split at h
          · cases h
          · next login hlogin =>
            obtain rfl := Url.eq_of_setPassword? hnamed hlogin
            have web : u.scheme = "http" ∨ u.scheme = "https" := by
              by_cases hs : u.scheme = "http"
              · exact Or.inl hs
              · exact Or.inr (Decidable.not_not.mp fun hs' => hscheme ⟨hs, hs'⟩)
            have network : Url.Kind.ofScheme u.scheme = .network := by
              rcases web with hs | hs <;> (rw [hs]; rfl)
            obtain ⟨host, hhost, hne, hchars⟩ := Url.host_of_read hu network
            refine ⟨u, host, hu, web, hhost, fun c hc => ?_, ?_⟩
            · rw [String.toList_append] at hc
              exact (List.mem_append.mp hc).elim (hchars c) Url.isHostChar_of_mem_portText
            · rw [← Url.trimmed_text_loggedIn hhost hne hchars]
              exact (Except.ok.inj h).symm

/-! ### The login that is read -/

namespace Url

/-- Without a token there is no password, and without either no login is written. --/
theorem userinfoText_cases (u : Url) (username token : String) :
    (username = "" ∧ token = "" ∧ (u.loggedIn username token).userinfoText = "") ∨
      (username ≠ "" ∧ token = "" ∧
        (u.loggedIn username token).userinfoText = Percent.encode Percent.userinfoSet username ++ "@") ∨
      (token ≠ "" ∧ (u.loggedIn username token).userinfoText = Percent.encode Percent.userinfoSet username ++ ":" ++
        Percent.encode Percent.userinfoSet token ++ "@") := by
  by_cases ht : token = ""
  · subst ht
    by_cases hu : username = ""
    · subst hu
      exact Or.inl ⟨rfl, rfl, rfl⟩
    · refine Or.inr (Or.inl ⟨hu, rfl, ?_⟩)
      have written : (Percent.encode Percent.userinfoSet username).isEmpty = false :=
        Bool.eq_false_iff.mpr fun h => Percent.encode_ne_empty hu (String.isEmpty_iff.mp h)
      simp [userinfoText, loggedIn, written]
  · have given : token.isEmpty = false := Bool.eq_false_iff.mpr fun h => ht (String.isEmpty_iff.mp h)
    refine Or.inr (Or.inr ⟨ht, ?_⟩)
    simp [userinfoText, loggedIn, given, String.append_assoc]

theorem userinfoText_loggedIn (u : Url) (username : String) {token : String} (h : token ≠ "") :
    (u.loggedIn username token).userinfoText =
      Percent.encode Percent.userinfoSet username ++ ":" ++ Percent.encode Percent.userinfoSet token ++ "@" := by
  rcases u.userinfoText_cases username token with ⟨-, rfl, -⟩ | ⟨-, rfl, -⟩ | ⟨-, hinfo⟩
  · exact absurd rfl h
  · exact absurd rfl h
  · exact hinfo

end Url

open StoredLogin in
theorem isSiteChar_of_mem_userinfoText {u : Url} {username token : String} {c : Char}
    (h : c ∈ (u.loggedIn username token).userinfoText.toList) : IsSiteChar c := by
  have login : ∀ {text : String}, c ∈ (Percent.encode Percent.userinfoSet text).toList → IsSiteChar c :=
    fun hc => isSiteChar_of_isLoginChar (Percent.isLoginChar_of_mem_encode hc)
  have marks : c = ':' ∨ c = '@' → IsSiteChar c := by
    rintro (rfl | rfl) <;> (unfold IsSiteChar; decide)
  rcases u.userinfoText_cases username token with ⟨-, -, hinfo⟩ | ⟨-, -, hinfo⟩ | ⟨-, hinfo⟩
  · rw [hinfo] at h
    cases h
  · rw [hinfo, String.toList_append, List.mem_append] at h
    exact h.elim login fun h => marks (Or.inr (List.mem_singleton.mp h))
  · simp only [hinfo, String.toList_append, List.mem_append] at h
    rcases h with ((h | h) | h) | h
    · exact login h
    · exact marks (Or.inl (List.mem_singleton.mp h))
    · exact login h
    · exact marks (Or.inr (List.mem_singleton.mp h))

open StoredLogin in
theorem newline_not_mem_line {u : Url} {host : Url.Host} (web : u.scheme = "http" ∨ u.scheme = "https")
    (hsite : ∀ c ∈ (host.text ++ u.portText).toList, Url.IsHostChar c) (username token : String) :
    '\n' ∉ (u.scheme ++ "://" ++ (u.loggedIn username token).userinfoText ++ (host.text ++ u.portText)).toList := by
  rw [String.toList_append, String.toList_append, List.mem_append, List.mem_append]
  rintro ((hmem | hmem) | hmem)
  · rcases web with hs | hs <;> (rw [hs] at hmem; revert hmem; decide)
  · exact (isSiteChar_of_mem_userinfoText hmem).ne rfl
  · exact (isSiteChar_of_isHostChar (hsite _ hmem)).ne rfl

open StoredLogin in
/-- In the line of a login one login is found. Its host is that of the URL, and its user and its password are what is
    read in those that were given. --/
theorem read_loggedIn {u : Url} {host : Url.Host} (web : u.scheme = "http" ∨ u.scheme = "https")
    (hsite : ∀ c ∈ (host.text ++ u.portText).toList, Url.IsHostChar c) (username token : String) :
    read (u.scheme ++ "://" ++ (u.loggedIn username token).userinfoText ++ (host.text ++ u.portText) ++ "\n") =
      [⟨u.scheme, if username = "" ∧ token = "" then none else some (Percent.decode username),
        if token = "" then none else some (Percent.decode token), (host.text ++ u.portText).toUTF8⟩] := by
  have site : ∀ c ∈ ((u.loggedIn username token).userinfoText ++ (host.text ++ u.portText)).toList, IsSiteChar c := by
    intro c hc
    rw [String.toList_append, List.mem_append] at hc
    exact hc.elim isSiteChar_of_mem_userinfoText fun h => isSiteChar_of_isHostChar (hsite c h)
  have written : ∀ {text : String}, ∀ c ∈ (Percent.encode Percent.userinfoSet text).toList, IsLoginChar c :=
    fun _ hc => Percent.isLoginChar_of_mem_encode hc
  have line : u.scheme ++ "://" ++ (u.loggedIn username token).userinfoText ++ (host.text ++ u.portText) =
      u.scheme ++ "://" ++ ((u.loggedIn username token).userinfoText ++ (host.text ++ u.portText)) := String.append_assoc
  rw [line, read_line web site]
  rcases u.userinfoText_cases username token with ⟨rfl, rfl, hinfo⟩ | ⟨hne, rfl, hinfo⟩ | ⟨hne, hinfo⟩
  · have noMark : ∀ c ∈ (host.text ++ u.portText).toList, c ≠ '@' := by
      rintro c hc rfl
      exact (hsite _ hc).2.2 (by decide)
    rw [hinfo, String.empty_append, ofSite_host _ noMark, String.ofList_toList, decoded_site hsite]
    rfl
  · have chars : (Percent.encode Percent.userinfoSet username ++ "@" ++ (host.text ++ u.portText)).toList =
        (Percent.encode Percent.userinfoSet username).toList ++ '@' :: (host.text ++ u.portText).toList := by simp
    rw [hinfo, chars, ofSite_user _ _ written, String.ofList_toList, decoded_encode, decoded_site hsite,
      if_neg fun h => hne h.1, if_pos rfl]
  · have chars : (Percent.encode Percent.userinfoSet username ++ ":" ++ Percent.encode Percent.userinfoSet token ++ "@" ++
        (host.text ++ u.portText)).toList = (Percent.encode Percent.userinfoSet username).toList ++
          ':' :: ((Percent.encode Percent.userinfoSet token).toList ++ '@' :: (host.text ++ u.portText).toList) := by simp
    rw [hinfo, chars, ofSite_login _ _ written written, String.ofList_toList, decoded_encode, decoded_encode,
      decoded_site hsite, if_neg fun h => hne h.2, if_neg hne]

/-! ### The content that a connection gives -/

theorem getD_nonEmpty?_ne {s : Option String} {default : String} (h : default ≠ "") :
    (nonEmpty? s).getD default ≠ "" := by
  cases s with
  | none => exact h
  | some t =>
    unfold nonEmpty?
    rw [Option.filter_some]
    split
    · next ht =>
      rintro rfl
      cases ht
    · exact h

/-- What is derived from a git connection after the lookups `l`: nothing where there is no connection or its token is blank,
    and otherwise the line for the token without the blanks around it. --/
inductive Derived (env : Environment) (git : Option GitConnection) (l : List (Exchange calls)) : ByteArray → Prop
  | unconnected (hgit : git = none) (hl : l = []) : Derived env git l .empty
  | blank {g : GitConnection} {data : ByteArray} {token : String} (hgit : git = some g)
      (found : (extractCredentials env g.tokenSource g.token).Follows l (some (.ok data)))
      (decoded : Utf8.decode? data = some token) (blank : trimBlank token = "") : Derived env git l .empty
  | line {g : GitConnection} {data : ByteArray} {token line : String} (hgit : git = some g)
      (found : (extractCredentials env g.tokenSource g.token).Follows l (some (.ok data)))
      (decoded : Utf8.decode? data = some token) (visible : trimBlank token ≠ "")
      (made : credentialLine g.url ((nonEmpty? g.username).getD defaultGitUsername) (trimBlank token) = .ok line) :
      Derived env git l line.toUTF8

theorem derived_of_gitCredentials {env : Environment} {git : Option GitConnection} {l : List (Exchange calls)}
    {content : ByteArray} (h : (gitCredentials env none git).Follows l (some (.ok content))) : Derived env git l content := by
  cases git with
  | none =>
    obtain ⟨rfl, ho⟩ := follows_done h
    cases ho
    exact .unconnected rfl rfl
  | some g =>
    rcases follows_bind h with ⟨data, l₁, l₂, hdata, hrest, rfl⟩ | ⟨e, -, he⟩ | ⟨-, hn⟩
    · have hextract := follows_of_mapError_ok hdata
      split at hrest
      · cases (follows_fail hrest).2
      · next token htoken =>
        unfold connectionLine at hrest
        split at hrest
        · next hblank =>
          obtain ⟨rfl, ho⟩ := follows_done hrest
          cases ho
          rw [List.append_nil]
          exact .blank rfl hextract htoken (String.isEmpty_iff.mp hblank)
        · next hblank =>
          cases hline : credentialLine g.url ((nonEmpty? g.username).getD defaultGitUsername) (trimBlank token) with
          | error e =>
            rw [hline] at hrest
            cases (follows_fail hrest).2
          | ok line =>
            rw [hline] at hrest
            obtain ⟨rfl, ho⟩ := follows_done hrest
            cases ho
            rw [List.append_nil]
            exact .line rfl hextract htoken (fun hempty => hblank (String.isEmpty_iff.mpr hempty)) hline
    · cases he
    · cases hn

/-- Content that is derived comes from a token that is found and is not blank. --/
theorem exists_of_gitCredentials {env : Environment} {g : GitConnection} {l : List (Exchange calls)} {content : ByteArray}
    (h : (gitCredentials env none (some g)).Follows l (some (.ok content))) (hne : content ≠ .empty) :
    ∃ data token line, (extractCredentials env g.tokenSource g.token).Follows l (some (.ok data)) ∧
      Utf8.decode? data = some token ∧ trimBlank token ≠ "" ∧ content = line.toUTF8 ∧
      credentialLine g.url ((nonEmpty? g.username).getD defaultGitUsername) (trimBlank token) = .ok line := by
  cases derived_of_gitCredentials h with
  | unconnected _ _ => exact absurd rfl hne
  | blank _ _ _ _ => exact absurd rfl hne
  | line hgit found decoded visible made =>
    cases hgit
    exact ⟨_, _, _, found, decoded, visible, rfl, made⟩

/-- What is derived for the credential store is one line: the scheme of the URL, the user and the token as they are
    written, the host and the port. Nothing in the user or the token divides it otherwise, so the store finds one
    login in it, and for no other host. --/
theorem login_of_gitCredentials {env : Environment} {g : GitConnection} {l : List (Exchange calls)} {content : ByteArray}
    (h : (gitCredentials env none (some g)).Follows l (some (.ok content))) (hne : content ≠ .empty) :
    ∃ u host data token user password line,
      Url.read g.url = .ok u ∧ (u.scheme = "http" ∨ u.scheme = "https") ∧ u.host = some host ∧
      (extractCredentials env g.tokenSource g.token).Follows l (some (.ok data)) ∧ Utf8.decode? data = some token ∧
      user = Percent.encode Percent.userinfoSet ((nonEmpty? g.username).getD defaultGitUsername) ∧
      password = Percent.encode Percent.userinfoSet (trimBlank token) ∧
      line = u.scheme ++ "://" ++ user ++ ":" ++ password ++ "@" ++ host.text ++ u.portText ∧
      content = (line ++ "\n").toUTF8 ∧ '\n' ∉ line.toList ∧
      (user ≠ "" ∧ ∀ c ∈ user.toList, IsLoginChar c) ∧ (password ≠ "" ∧ ∀ c ∈ password.toList, IsLoginChar c) ∧
      StoredLogin.read (line ++ "\n") =
        [⟨u.scheme, some (Percent.decode user), some (Percent.decode password), (host.text ++ u.portText).toUTF8⟩] := by
  obtain ⟨data, token, line, hdata, htoken, hblank, rfl, hline⟩ := exists_of_gitCredentials h hne
  have named : (nonEmpty? g.username).getD defaultGitUsername ≠ "" := getD_nonEmpty?_ne (by decide)
  obtain ⟨u, host, hu, web, hhost, hsite, rfl⟩ := exists_of_credentialLine hline
  have written : u.scheme ++ "://" ++
      (u.loggedIn ((nonEmpty? g.username).getD defaultGitUsername) (trimBlank token)).userinfoText ++
        (host.text ++ u.portText) =
      u.scheme ++ "://" ++ Percent.encode Percent.userinfoSet ((nonEmpty? g.username).getD defaultGitUsername) ++ ":" ++
        Percent.encode Percent.userinfoSet (trimBlank token) ++ "@" ++ host.text ++ u.portText := by
    rw [Url.userinfoText_loggedIn u _ hblank]
    simp only [String.append_assoc]
  have oneLine := newline_not_mem_line web hsite ((nonEmpty? g.username).getD defaultGitUsername) (trimBlank token)
  have read := read_loggedIn web hsite ((nonEmpty? g.username).getD defaultGitUsername) (trimBlank token)
  rw [if_neg fun h => hblank h.2, if_neg hblank] at read
  rw [written] at oneLine read ⊢
  refine ⟨u, host, data, token, _, _, _, hu, web, hhost, hdata, htoken, rfl, rfl, rfl, rfl, oneLine,
    ⟨Percent.encode_ne_empty named, fun c => Percent.isLoginChar_of_mem_encode⟩,
    ⟨Percent.encode_ne_empty hblank, fun c => Percent.isLoginChar_of_mem_encode⟩, ?_⟩
  rw [Percent.decode_encode Percent.keepsEscapes_userinfoSet, Percent.decode_encode Percent.keepsEscapes_userinfoSet]
  exact read

/-- Blanks around a token are not written, and a line end within it is. --/
theorem login_of_gitCredentials_address :
    let g : GitConnection := ⟨"https://old:login@[::1]:8443/group?all#top", none, .inline,
      { Selectors.empty with data := some " a/b\nc@d " }⟩
    let content := "https://x-access-token:a%2Fb%0Ac%40d@[::1]:8443\n"
    (gitCredentials (fun _ => none) none (some g)).Follows [] (some (.ok content.toUTF8)) ∧ content.toUTF8 ≠ .empty ∧
      ∃ u host line, Url.read g.url = .ok u ∧ u.host = some host ∧ content.toUTF8 = (line ++ "\n").toUTF8 ∧
        '\n' ∉ line.toList ∧ ∃ user password, StoredLogin.read (line ++ "\n") =
          [⟨u.scheme, some user, some password, (host.text ++ u.portText).toUTF8⟩] := by
  intro g content
  have follows : (gitCredentials (fun _ => none) none (some g)).Follows [] (some (.ok content.toUTF8)) := by
    have text : Utf8.decode? " a/b\nc@d ".toUTF8 = some " a/b\nc@d " := by decide +kernel
    have line : connectionLine g " a/b\nc@d " = .ok content.toUTF8 :=
      Option.some.inj (eq_ok_of_toOption (by decide +kernel))
    have found : (extractCredentials (fun _ => none) g.tokenSource g.token).mapError GitCredentialsError.token =
        .done " a/b\nc@d ".toUTF8 := rfl
    rw [gitCredentials, found]
    change (Script.bind (.done _) _).Follows _ _
    rw [Script.bind, text]
    dsimp only
    rw [line]
    exact .done _
  have given : content.toUTF8 ≠ .empty := by decide +kernel
  obtain ⟨u, host, -, -, _, _, line, hu, -, hhost, -, -, -, -, -, hcontent, hline, -, -, hread⟩ :=
    login_of_gitCredentials follows given
  exact ⟨follows, given, u, host, line, hu, hhost, hcontent, hline, _, _, hread⟩

/-! ### What stands in for the user and the token -/

/-- What the store takes for the user and the password of a line is what is read in the two that were given, each with
    its escapes undone. So it takes both as they were given if and only if no escape stands in either. --/
theorem read_credentialLine {url username token line : String} (h : credentialLine url username token = .ok line) :
    ∃ login, StoredLogin.read line = [login] ∧
      login.user.getD .empty = Percent.decode username ∧ login.password.getD .empty = Percent.decode token ∧
      ((login.user.getD .empty = username.toUTF8 ∧ login.password.getD .empty = token.toUTF8) ↔
        Percent.hasEscape username.toList = false ∧ Percent.hasEscape token.toList = false) := by
  obtain ⟨u, host, -, web, -, hsite, rfl⟩ := exists_of_credentialLine h
  have user : (if username = "" ∧ token = "" then none else some (Percent.decode username)).getD .empty =
      Percent.decode username := by
    split
    · next hempty =>
      rw [hempty.1]
      rfl
    · rfl
  have password : (if token = "" then none else some (Percent.decode token)).getD .empty = Percent.decode token := by
    split
    · next hempty =>
      rw [hempty]
      rfl
    · rfl
  refine ⟨_, read_loggedIn web hsite username token, user, password, ?_⟩
  rw [user, password, Percent.decode_eq_toUTF8_iff, Percent.decode_eq_toUTF8_iff]

/-- A token that stands for itself is taken as it was given, and one with an escape is not. --/
theorem read_credentialLine_escape :
    (∃ line login, credentialLine "https://[::1]" "bot" "p@ss" = .ok line ∧ StoredLogin.read line = [login] ∧
      login.password.getD .empty = "p@ss".toUTF8) ∧
    ∃ line login, credentialLine "https://[::1]" "bot" "p%40ss" = .ok line ∧ StoredLogin.read line = [login] ∧
      login.password.getD .empty = Percent.decode "p%40ss" ∧
      ¬(login.user.getD .empty = "bot".toUTF8 ∧ login.password.getD .empty = "p%40ss".toUTF8) := by
  have plain : credentialLine "https://[::1]" "bot" "p@ss" = .ok "https://bot:p%40ss@[::1]\n" :=
    Option.some.inj (eq_ok_of_toOption (by decide +kernel))
  have escaped : credentialLine "https://[::1]" "bot" "p%40ss" = .ok "https://bot:p%40ss@[::1]\n" :=
    Option.some.inj (eq_ok_of_toOption (by decide +kernel))
  obtain ⟨login, hread, -, -, hiff⟩ := read_credentialLine plain
  obtain ⟨login', hread', -, hpassword', hiff'⟩ := read_credentialLine escaped
  refine ⟨⟨_, login, plain, hread, (hiff.mpr (by decide)).2⟩, _, login', escaped, hread', hpassword', fun h => ?_⟩
  exact absurd (hiff'.mp h).2 (by decide)

/-- Not every token is what the store reads in its line. --/
theorem token_read_otherwise : ¬∀ url username token line, credentialLine url username token = .ok line →
    ∃ login, StoredLogin.read line = [login] ∧ login.user.getD .empty = username.toUTF8 ∧
      login.password.getD .empty = token.toUTF8 := by
  intro all
  obtain ⟨login, hread, -, hpassword⟩ := all "https://[::1]" "bot" "p%40ss" "https://bot:p%40ss@[::1]\n"
    (Option.some.inj (eq_ok_of_toOption (by decide +kernel)))
  have found : StoredLogin.read "https://bot:p%40ss@[::1]\n" =
      [⟨"https", some "bot".toUTF8, some "p@ss".toUTF8, "[::1]".toUTF8⟩] := by decide +kernel
  obtain rfl := (List.cons.inj (hread.symm.trans found)).1
  exact absurd hpassword (by decide +kernel)

end AnsibleStaging
