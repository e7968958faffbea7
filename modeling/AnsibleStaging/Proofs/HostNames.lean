import AnsibleStaging.Proofs.Results
import AnsibleStaging.Url.Reader

/-! The characters of a host. A domain in ASCII is made of the characters of its labels as they read and of the letters,
    digits and hyphens that spell the others; an address is made of digits, points and colons. So nothing that stands
    in a host ends it, whatever was written in the URL, and no host of a network scheme is empty. -/

namespace AnsibleStaging

namespace Domain

/-! ### Spellings -/

namespace Punycode

theorem threshold_le (bias k : Nat) : threshold bias k ≤ 26 := by
  unfold threshold
  split
  · omega
  · split <;> omega

theorem isAlphanum_digit {n : Nat} (h : n < 36) : (digit n).isAlphanum = true := by
  have all : ∀ m ∈ List.range 36, (digit m).isAlphanum = true := by decide
  exact all n (List.mem_range.mpr h)

theorem isAlphanum_of_mem_digits {bias k q : Nat} {c : Char} (h : c ∈ digits bias k q) : c.isAlphanum = true := by
  have le := threshold_le
  fun_induction digits bias k q with
  | case1 k q t hq =>
    rw [List.mem_singleton.mp h]
    exact isAlphanum_digit (by have := le bias k; omega)
  | case2 k q t hq ih =>
    rcases List.mem_cons.mp h with rfl | h
    · refine isAlphanum_digit ?_
      have := Nat.mod_lt (q - t) (show 0 < 36 - t by have := le bias k; omega)
      omega
    · exact ih h

/-- All that is written so far are digits of the spelling. --/
def Writing.IsPlain (w : Writing) : Prop := ∀ c ∈ w.back, c.isAlphanum = true

theorem Writing.IsPlain.pass {w : Writing} (hw : w.IsPlain) (basics m : Nat) (c : Char) : (w.pass basics m c).IsPlain := by
  unfold Writing.pass
  split
  · exact hw
  · split
    · intro d hd
      rcases List.mem_append.mp hd with hd | hd
      · exact isAlphanum_of_mem_digits (List.mem_reverse.mp hd)
      · exact hw d hd
    · exact hw

theorem Writing.IsPlain.codes {w : Writing} (hw : w.IsPlain) (label : List Char) (basics : Nat) (codes : List Nat)
    (next : Nat) : (writeCodes label basics codes next w).IsPlain := by
  induction codes generalizing next w with
  | nil => exact hw
  | cons m rest ih =>
    have passed : (label.foldl (Writing.pass basics m) { w with delta := w.delta + (m - next) * (w.known + 1) }).IsPlain :=
      List.foldlRecOn label _ hw fun _ hb c _ => hb.pass basics m c
    rw [writeCodes]
    refine ih ?_ (m + 1)
    exact passed

/-- A spelling holds the ASCII characters of its label, hyphens and digits. --/
theorem cases_of_mem_encode {label : List Char} {c : Char} (h : c ∈ encode label) :
    (c ∈ label ∧ isAscii c = true) ∨ c = '-' ∨ c.isAlphanum = true := by
  unfold encode at h
  rcases List.mem_append.mp h with h | h
  · rcases List.mem_append.mp h with h | h
    · obtain ⟨hmem, hascii⟩ := List.mem_filter.mp h
      exact Or.inl ⟨hmem, hascii⟩
    · split at h
      · cases h
      · exact Or.inr (Or.inl (List.mem_singleton.mp h))
  · have plain : Writing.IsPlain ⟨[], 0, 72, (label.filter fun c => c.toNat < 128).length⟩ := nofun
    exact Or.inr (Or.inr (plain.codes label _ _ 128 c (List.mem_reverse.mp h)))

theorem isAlphanum_of_value? {c : Char} (h : (value? c).isSome) : c.isAlphanum = true := by
  unfold value? at h
  unfold Char.isAlphanum Char.isAlpha Char.isUpper Char.isLower Char.isDigit
  simp only [Bool.or_eq_true, Bool.and_eq_true, decide_eq_true_eq]
  split at h
  · next hc => exact Or.inl (Or.inr hc)
  · split at h
    · next hc => exact Or.inl (Or.inl hc)
    · split at h
      · next hc => exact Or.inr hc
      · cases h

theorem exists_of_readDistance {bias k weight i : Nat} {cs : List Char} {r : Nat × List Char}
    (h : readDistance bias cs k weight i = some r) : ∃ front, cs = front ++ r.2 ∧ ∀ c ∈ front, (value? c).isSome := by
  induction cs generalizing k weight i with
  | nil => cases h
  | cons c rest ih =>
    rw [readDistance] at h
    obtain ⟨d, hd, h⟩ := Option.bind_eq_some_iff.mp h
    dsimp only at h
    split at h
    · cases h
      exact ⟨[c], rfl, by simp [hd]⟩
    · obtain ⟨front, rfl, hfront⟩ := ih h
      exact ⟨c :: front, rfl, List.forall_mem_cons.mpr ⟨by simp [hd], hfront⟩⟩

/-- Reading keeps the characters that are known, and reads only digits. --/
theorem keeps_of_readCodes {cs known out : List Char} {n i bias : Nat} (h : readCodes cs known n i bias = some out) :
    (∀ c ∈ known, c ∈ out) ∧ ∀ c ∈ cs, (value? c).isSome := by
  fun_induction readCodes cs known n i bias with
  | case1 known n i bias =>
    cases h
    exact ⟨fun _ hc => hc, nofun⟩
  | case2 => cases h
  | case3 => cases h
  | case4 cs known n i bias _ j rest hread points n' _ place ih =>
    obtain ⟨kept, digits⟩ := ih h
    obtain ⟨front, rfl, hfront⟩ := exists_of_readDistance hread
    refine ⟨fun c hc => kept c ?_, fun c hc => (List.mem_append.mp hc).elim (hfront c) (digits c)⟩
    rw [← List.take_append_drop place known] at hc
    rcases List.mem_append.mp hc with hc | hc
    · exact List.mem_append_left _ hc
    · exact List.mem_append_right _ (List.mem_cons_of_mem _ hc)

/-- What a spelling holds stands in its label, or it is a hyphen or a digit. --/
theorem cases_of_decode? {cs out : List Char} {c : Char} (h : decode? cs = some out) (hc : c ∈ cs) :
    c ∈ out ∨ c = '-' ∨ c.isAlphanum = true := by
  unfold decode? at h
  dsimp only at h
  split at h
  · exact Or.inr (Or.inr (isAlphanum_of_value? ((keeps_of_readCodes h).2 c hc)))
  · obtain ⟨kept, digits⟩ := keeps_of_readCodes h
    have hback : c ∈ cs.reverse.takeWhile (· != '-') ++ cs.reverse.dropWhile (· != '-') := by
      rw [List.takeWhile_append_dropWhile]
      exact List.mem_reverse.mpr hc
    rcases List.mem_append.mp hback with hafter | hbefore
    · exact Or.inr (Or.inr (isAlphanum_of_value? (digits c (List.mem_reverse.mpr hafter))))
    · cases hd : cs.reverse.dropWhile (· != '-') with
      | nil =>
        rw [hd] at hbefore
        cases hbefore
      | cons mark front =>
        have hmark := List.head?_dropWhile_not (· != '-') cs.reverse
        rw [hd] at hbefore hmark
        rcases List.mem_cons.mp hbefore with rfl | hbefore
        · exact Or.inr (Or.inl (by simpa using hmark))
        · refine Or.inl (kept c ?_)
          rw [hd]
          exact List.mem_reverse.mpr hbefore

end Punycode

/-! ### Domains -/

/-- The characters of a domain in ASCII. --/
def IsNameChar (c : Char) : Prop := isAscii c = true ∧ isForbidden c = false

theorem isNameChar_of_isAlphanum {c : Char} (h : c.isAlphanum = true) : IsNameChar c := by
  have range : (48 ≤ c.toNat ∧ c.toNat ≤ 57) ∨ (65 ≤ c.toNat ∧ c.toNat ≤ 90) ∨ (97 ≤ c.toNat ∧ c.toNat ≤ 122) := by
    unfold Char.isAlphanum Char.isAlpha Char.isUpper Char.isLower Char.isDigit at h
    simp only [Bool.or_eq_true, Bool.and_eq_true, decide_eq_true_eq, ge_iff_le, UInt32.le_iff_toNat_le] at h
    change (((65 ≤ c.toNat ∧ c.toNat ≤ 90) ∨ (97 ≤ c.toNat ∧ c.toNat ≤ 122)) ∨ (48 ≤ c.toNat ∧ c.toNat ≤ 57)) at h
    omega
  refine ⟨by simp only [isAscii, decide_eq_true_eq]; omega, ?_⟩
  have notListed : ['%', '#', '/', ':', '<', '>', '?', '@', '[', '\\', ']', '^', '|'].contains c = false := by
    rw [← Bool.not_eq_true, List.contains_iff_mem]
    intro hmem
    simp only [List.mem_cons, List.not_mem_nil, or_false] at hmem
    rcases hmem with rfl | rfl | rfl | rfl | rfl | rfl | rfl | rfl | rfl | rfl | rfl | rfl | rfl <;> cases h
  have visible : ¬c.toNat ≤ 0x20 := by omega
  have kept : c.toNat ≠ 0x7F := by omega
  rw [isForbidden, notListed, decide_eq_false visible, beq_eq_false_iff_ne.mpr kept]
  rfl

theorem isNameChar_hyphen : IsNameChar '-' := ⟨by decide, by decide⟩

/-- The ASCII form of a label has no characters of its own but letters, digits and hyphens. --/
theorem isNameChar_of_mem_label {cs : List Char} {l : Label} (h : label? cs = some l)
    (shown : ∀ c ∈ l.shown, isForbidden c = false) {c : Char} (hc : c ∈ l.ascii) : IsNameChar c := by
  have spelled : c = '-' ∨ c.isAlphanum = true → IsNameChar c := by
    rintro (rfl | hc)
    · exact isNameChar_hyphen
    · exact isNameChar_of_isAlphanum hc
  have mark : ∀ d ∈ spelledMark, IsNameChar d := by
    simp only [spelledMark, List.forall_mem_cons]
    exact ⟨⟨by decide, by decide⟩, ⟨by decide, by decide⟩, isNameChar_hyphen, isNameChar_hyphen, nofun⟩
  unfold label? at h
  by_cases hmark : spelledMark.isPrefixOf cs = true
  · rw [if_pos hmark] at h
    obtain ⟨_, hascii, h⟩ := Option.bind_eq_some_iff.mp h
    obtain ⟨out, hout, h⟩ := Option.bind_eq_some_iff.mp h
    obtain ⟨_, -, h⟩ := Option.bind_eq_some_iff.mp h
    cases h
    obtain ⟨rest, rfl⟩ := List.isPrefixOf_iff_prefix.mp hmark
    rw [List.drop_left] at hout
    rcases List.mem_append.mp hc with hc | hrest
    · exact mark c hc
    · rcases Punycode.cases_of_decode? hout hrest with hmem | hspelled
      · exact ⟨List.all_eq_true.mp (of_guard hascii) c hc, shown c hmem⟩
      · exact spelled hspelled
  · rw [if_neg hmark] at h
    split at h
    · next hall =>
      cases h
      exact ⟨List.all_eq_true.mp hall c hc, shown c hc⟩
    · split at h
      · cases h
        rcases List.mem_append.mp hc with hc | hc
        · exact mark c hc
        · rcases Punycode.cases_of_mem_encode hc with ⟨hmem, hascii⟩ | hspelled
          · exact ⟨hascii, shown c hmem⟩
          · exact spelled hspelled
      · cases h

/-- What stands in a row of texts with another text between them. --/
theorem mem_intercalate {sep : String} {texts : List String} {c : Char} (h : c ∈ (String.intercalate sep texts).toList) :
    c ∈ sep.toList ∨ ∃ t ∈ texts, c ∈ t.toList := by
  rw [String.toList_intercalate] at h
  induction texts with
  | nil => simp [List.intercalate] at h
  | cons t rest ih =>
    cases rest with
    | nil => exact Or.inr ⟨t, List.mem_singleton_self t, by simpa [List.intercalate] using h⟩
    | cons u rest =>
      rw [List.map_cons, List.map_cons, List.intercalate_cons_cons] at h
      rcases List.mem_append.mp h with h | h
      · rcases List.mem_append.mp h with h | h
        · exact Or.inr ⟨t, List.mem_cons_self, h⟩
        · exact Or.inl h
      · rcases ih h with h | ⟨v, hv, hc⟩
        · exact Or.inl h
        · exact Or.inr ⟨v, List.mem_cons_of_mem _ hv, hc⟩

/-- Whatever a name holds, its ASCII form holds nothing that is forbidden in a domain. --/
theorem isNameChar_of_ascii? {name ascii : String} (h : ascii? name = some ascii) {c : Char} (hc : c ∈ ascii.toList) :
    IsNameChar c := by
  obtain ⟨cs, -, h⟩ := Option.bind_eq_some_iff.mp h
  obtain ⟨found, hfound, h⟩ := Option.bind_eq_some_iff.mp h
  obtain ⟨_, hallowed, h⟩ := Option.bind_eq_some_iff.mp h
  obtain ⟨_, -, h⟩ := Option.bind_eq_some_iff.mp h
  cases h
  have allowed : ∀ l ∈ found, ∀ d ∈ l.shown, isForbidden d = false := by
    simpa using of_guard hallowed
  rcases mem_intercalate hc with hc | ⟨t, ht, hc⟩
  · rw [List.mem_singleton.mp hc]
    exact ⟨by decide, by decide⟩
  · obtain ⟨l, hl, rfl⟩ := List.mem_map.mp ht
    obtain ⟨_, -, hlabel⟩ := exists_of_mem_mapM hfound hl
    rw [String.toList_ofList] at hc
    exact isNameChar_of_mem_label hlabel (allowed l hl) hc

end Domain

namespace Url

/-! ### Hosts -/

/-- The characters that a host can be written with: they are visible, none of them ends a host or divides what stands
    beside it, and none starts an escape. --/
def IsHostChar (c : Char) : Prop := 0x20 < c.toNat ∧ c.toNat < 0x7F ∧ c ∉ ['/', '?', '#', '@', '%']

theorem isHostChar_of_isNameChar {c : Char} (h : Domain.IsNameChar c) : IsHostChar c := by
  obtain ⟨hascii, hforbidden⟩ := h
  simp only [Domain.isAscii, decide_eq_true_eq] at hascii
  simp only [Domain.isForbidden, Bool.or_eq_false_iff, decide_eq_false_iff_not, beq_eq_false_iff_ne] at hforbidden
  obtain ⟨⟨hvisible, hdelete⟩, hlisted⟩ := hforbidden
  refine ⟨by omega, by omega, fun hc => ?_⟩
  simp only [List.mem_cons, List.not_mem_nil, or_false] at hc
  rcases hc with rfl | rfl | rfl | rfl | rfl <;> cases hlisted

theorem isHostChar_of_isDigit {c : Char} (h : c.isDigit = true) : IsHostChar c :=
  isHostChar_of_isNameChar (Domain.isNameChar_of_isAlphanum (by simp [Char.isAlphanum, h]))

theorem isHostChar_of_mem_toString {n : Nat} {c : Char} (h : c ∈ (toString n).toList) : IsHostChar c := by
  rw [Nat.toString_eq_repr, Nat.repr_eq_ofList_toDigits, String.toList_ofList] at h
  exact isHostChar_of_isDigit (Nat.isDigit_of_mem_toDigits (by decide) (by decide) h)

theorem isHostChar_of_mem_hex {n : Nat} {c : Char} (h : c ∈ Nat.toDigits 16 n) : IsHostChar c := by
  have digit : ∀ m < 16, IsHostChar m.digitChar := by
    intro m hm
    have all : ∀ m ∈ List.range 16, m.digitChar.isAlphanum = true := by decide
    exact isHostChar_of_isNameChar (Domain.isNameChar_of_isAlphanum (all m (List.mem_range.mpr hm)))
  induction n using Nat.strongRecOn with
  | ind n ih =>
    rw [Nat.toDigits_eq_if (by decide)] at h
    split at h
    · next hn =>
      rw [List.mem_singleton.mp h]
      exact digit n hn
    · rcases List.mem_append.mp h with h | h
      · exact ih (n / 16) (by omega) h
      · rw [List.mem_singleton.mp h]
        exact digit (n % 16) (Nat.mod_lt n (by decide))

theorem Ipv4.isHostChar {a : Ipv4} {c : Char} (h : c ∈ a.text.toList) : IsHostChar c := by
  rcases Domain.mem_intercalate h with h | ⟨t, ht, h⟩
  · rw [List.mem_singleton.mp h]
    exact isHostChar_of_isNameChar ⟨by decide, by decide⟩
  · obtain ⟨shift, -, rfl⟩ := List.mem_map.mp ht
    exact isHostChar_of_mem_toString h

theorem isHostChar_colon : IsHostChar ':' := ⟨by decide, by decide, by decide⟩

theorem Ipv6.isHostChar {a : Ipv6} {c : Char} (h : c ∈ a.text.toList) : IsHostChar c := by
  have row : ∀ {pieces : List Nat}, c ∈ (joined pieces).toList → IsHostChar c := by
    intro pieces h
    rcases Domain.mem_intercalate h with h | ⟨t, ht, h⟩
    · rw [List.mem_singleton.mp h]
      exact isHostChar_colon
    · obtain ⟨n, -, rfl⟩ := List.mem_map.mp ht
      rw [String.toList_ofList] at h
      exact isHostChar_of_mem_hex h
  unfold text at h
  dsimp only at h
  split at h
  · exact row h
  · rw [String.toList_append, String.toList_append] at h
    rcases List.mem_append.mp h with h | h
    · rcases List.mem_append.mp h with h | h
      · exact row h
      · rw [show c = ':' by simpa using h]
        exact isHostChar_colon
    · exact row h

/-- A host that has been read is written in host characters, and in at least one. --/
theorem Host.written_of_read {cs : List Char} {host : Host} (h : Host.read cs = .ok host) :
    host.text ≠ "" ∧ ∀ c ∈ host.text.toList, IsHostChar c := by
  unfold Host.read at h
  split at h
  · next r hr =>
    -- Between brackets only an address of eight pieces is read.
    unfold bracketed? at hr
    split at hr
    · cases hr
      split at h
      · cases h
        refine ⟨by simp [text], fun c hc => ?_⟩
        simp only [text, String.toList_append, List.mem_append] at hc
        rcases hc with (hc | hc) | hc
        · rw [show c = '[' by simpa using hc]
          exact ⟨by decide, by decide, by decide⟩
        · exact Ipv6.isHostChar hc
        · rw [show c = ']' by simpa using hc]
          exact ⟨by decide, by decide, by decide⟩
      · cases h
    · cases hr
  · split at h
    · cases h
    · next name hname =>
      split at h
      · cases h
      · next hne =>
        split at h
        · split at h
          · cases h
            exact ⟨by simp [text, Ipv4.text, ← String.toList_inj], fun c hc => Ipv4.isHostChar hc⟩
          · cases h
        · cases h
          exact ⟨fun hempty => hne (String.isEmpty_iff.mpr hempty),
            fun c hc => isHostChar_of_isNameChar (Domain.isNameChar_of_ascii? hname hc)⟩

/-! ### URLs of the network -/

theorem host_of_authority {scheme : String} {cs : List Char} {a : Authority} (hk : Kind.ofScheme scheme = .network)
    (h : authority scheme cs = .ok a) : ∃ name host, Host.read name = .ok host ∧ a.host = some host := by
  unfold authority at h
  dsimp only at h
  rw [hk] at h
  split at h
  · cases h
  obtain ⟨found, hfound, h⟩ := eq_ok_of_bind h
  obtain ⟨_, -, h⟩ := eq_ok_of_bind h
  split at h <;> cases h
  unfold hostOf at hfound
  split at hfound
  · cases hfound
  · rw [if_pos (by decide)] at hfound
    obtain ⟨host, hhost, rfl⟩ := eq_ok_of_map hfound
    exact ⟨_, host, hhost, rfl⟩

theorem scheme_of_readLocal {cs : List Char} {u : Url} (h : readLocal cs = .ok u) : u.scheme = "file" := by
  unfold readLocal at h
  dsimp only at h
  split at h
  · split at h
    · obtain ⟨_, -, h⟩ := eq_ok_of_bind h
      cases h
      rfl
    · cases h
      rfl
  · cases h
    rfl

/-- A URL of a network scheme has been read behind its two slashes. --/
theorem exists_readNetwork {text : String} {u : Url} (h : read text = .ok u) (hk : Kind.ofScheme u.scheme = .network) :
    ∃ cs, readNetwork u.scheme cs = .ok u := by
  have scheme_of_network : ∀ {scheme cs}, readNetwork scheme cs = .ok u → u.scheme = scheme := by
    intro scheme cs h
    obtain ⟨_, -, h⟩ := eq_ok_of_bind h
    cases h
    rfl
  unfold read at h
  split at h
  · cases h
  · next scheme rest _ =>
    split at h
    · obtain rfl := scheme_of_network h
      exact ⟨_, h⟩
    · rw [scheme_of_readLocal h] at hk
      cases hk
    · next hother =>
      unfold readOther at h
      split at h
      · obtain rfl := scheme_of_network h
        rw [hother] at hk
        cases hk
      · cases h
        rw [hother] at hk
        cases hk
      · cases h
        rw [hother] at hk
        cases hk

/-- The host of a URL of the network is there, and nothing that is written in it ends it. --/
theorem host_of_read {text : String} {u : Url} (h : read text = .ok u) (hk : Kind.ofScheme u.scheme = .network) :
    ∃ host, u.host = some host ∧ host.text ≠ "" ∧ ∀ c ∈ host.text.toList, IsHostChar c := by
  obtain ⟨cs, hcs⟩ := exists_readNetwork h hk
  obtain ⟨a, ha, hu⟩ := eq_ok_of_bind hcs
  obtain ⟨name, host, hread, hhost⟩ := host_of_authority hk ha
  have written := Host.written_of_read hread
  exact ⟨host, (congrArg Url.host (Except.ok.inj hu).symm).trans hhost, written⟩

end Url
end AnsibleStaging
