import AnsibleStaging.Proofs.Exchanges

/-! Keeping to a plan. A plan is a row of parts with their calls, and a run keeps to it if its calls are those of the
    whole plan, or if it ends inside the plan without a call beyond the point where it ends. Plans of scripts in a
    row are put in a row: so a long script is planned by planning its pieces. -/

namespace AnsibleStaging
namespace Script

/-- The calls alone. --/
def asked {I : Interface} (l : List (Exchange I)) : List I.Call := l.map Exchange.call

/-- What it is to keep to a plan with parts in `π`: the calls of a run through the whole plan, and the calls and the
    failure of a run that ends before its end. A failure is missing where a call does not complete. --/
structure Planning (I : Interface) (ε π : Type) where
  whole : List π → List (Exchange I)
  Breaks : List π → List (Exchange I) → Option ε → Prop
  whole_nil : whole [] = []
  whole_append (p q : List π) : whole (p ++ q) = whole p ++ whole q
  breaks_append {p : List π} (q : List π) {l : List (Exchange I)} {e : Option ε} (h : Breaks p l e) : Breaks (p ++ q) l e
  breaks_after (p : List π) {q : List π} {l : List (Exchange I)} {e : Option ε} (h : Breaks q l e) :
    Breaks (p ++ q) (whole p ++ l) e

namespace Planning
variable {I : Interface} {ε ε' α β π : Type}

/-- Every run of the script keeps to a plan. `P` says which plan goes with which value. Its flag is set where the run
    goes through the whole plan and ends with the value, and then `P` may say more. --/
structure Keeps (D : Planning I ε π) (t : Script I ε α) (P : Bool → α → List π → Prop) : Prop where
  runs {l : List (Exchange I)} {o : Option (Except ε α)} (h : t.Follows l o) :
    (∃ a p, P true a p ∧ l = D.whole p ∧ o = some (.ok a)) ∨ ∃ a p e, P false a p ∧ D.Breaks p l e ∧ o = e.map .error
  says_more (a : α) (p : List π) (h : P true a p) : P false a p

namespace Keeps
variable {D : Planning I ε π} {t : Script I ε α} {f : α → Script I ε β} {P P' : Bool → α → List π → Prop}
  {Q : α → Bool → β → List π → Prop}

theorem weaken (h : D.Keeps t P) (hP : ∀ full a p, P full a p → P' full a p)
    (more : ∀ a p, P' true a p → P' false a p) : D.Keeps t P' where
  says_more := more
  runs hf := by
    rcases h.runs hf with ⟨a, p, hp, hl, ho⟩ | ⟨a, p, e, hp, hl, ho⟩
    · exact Or.inl ⟨a, p, hP _ _ _ hp, hl, ho⟩
    · exact Or.inr ⟨a, p, e, hP _ _ _ hp, hl, ho⟩

/-- The plan of a run that ends with a value holds the answers that lead the script to the value. --/
theorem follows (h : D.Keeps t P) :
    D.Keeps t fun full a p => P full a p ∧ (full = true → t.Follows (D.whole p) (some (.ok a))) where
  says_more a p hp := ⟨h.says_more a p hp.1, nofun⟩
  runs hf := by
    rcases h.runs hf with ⟨a, p, hp, rfl, rfl⟩ | ⟨a, p, e, hp, hl, ho⟩
    · exact Or.inl ⟨a, p, ⟨hp, fun _ => hf⟩, rfl, rfl⟩
    · exact Or.inr ⟨a, p, e, ⟨hp, nofun⟩, hl, ho⟩

theorem done (a : α) : D.Keeps (.done a) fun _ b p => b = a ∧ p = [] where
  says_more _ _ hp := hp
  runs hf := by
    obtain ⟨rfl, rfl⟩ := follows_done hf
    exact Or.inl ⟨a, [], ⟨rfl, rfl⟩, D.whole_nil.symm, rfl⟩

/-- Every script has a plan, since it has a run. --/
theorem exists_plan (h : D.Keeps t P) : ∃ a p, P false a p := by
  obtain ⟨l, o, hf⟩ := exists_follows t
  rcases h.runs hf with ⟨a, p, hp, -, -⟩ | ⟨a, p, e, hp, -, -⟩
  · exact ⟨a, p, h.says_more a p hp⟩
  · exact ⟨a, p, hp⟩

/-- Two scripts in a row: where the first ends before its end, any plan of the second makes up the rest. --/
theorem bind (ht : D.Keeps t P) (hf : ∀ a, D.Keeps (f a) (Q a)) :
    D.Keeps (t >>= f) fun full b r => ∃ a p q, P full a p ∧ Q a full b q ∧ r = p ++ q where
  says_more := by
    rintro b r ⟨a, p, q, hp, hq, rfl⟩
    exact ⟨a, p, q, ht.says_more a p hp, (hf a).says_more b q hq, rfl⟩
  runs := by
    intro l o hl
    -- The first script does not end with a value.
    have inFirst : ∀ e : Option ε, t.Follows l (e.map .error) → ∃ b r, (∃ a p q, P false a p ∧ Q a false b q ∧
        r = p ++ q) ∧ D.Breaks r l e := by
      intro e h₁
      rcases ht.runs h₁ with ⟨a, p, -, -, he⟩ | ⟨a, p, e', hp, hb, he⟩
      · cases e <;> cases he
      · obtain rfl : e = e' := Option.map_injective (fun _ _ => Except.error.inj) he
        obtain ⟨b, q, hq⟩ := (hf a).exists_plan
        exact ⟨b, p ++ q, ⟨a, p, q, hp, hq, rfl⟩, D.breaks_append q hb⟩
    rcases follows_bind hl with ⟨a, l₁, l₂, h₁, h₂, rfl⟩ | ⟨e, h₁, rfl⟩ | ⟨h₁, rfl⟩
    · rcases ht.runs h₁ with ⟨a', p, hp, rfl, ha⟩ | ⟨a', p, e, -, -, ho⟩
      · obtain rfl : a = a' := by simpa using ha
        rcases (hf a).runs h₂ with ⟨b, q, hq, rfl, rfl⟩ | ⟨b, q, e, hq, hb, rfl⟩
        · exact Or.inl ⟨b, p ++ q, ⟨a, p, q, hp, hq, rfl⟩, (D.whole_append p q).symm, rfl⟩
        · exact Or.inr ⟨b, p ++ q, e, ⟨a, p, q, ht.says_more a p hp, hq, rfl⟩, D.breaks_after p hb, rfl⟩
      · cases e <;> cases ho
    · obtain ⟨b, r, hr, hb⟩ := inFirst (some e) h₁
      exact Or.inr ⟨b, r, some e, hr, hb, rfl⟩
    · obtain ⟨b, r, hr, hb⟩ := inFirst none h₁
      exact Or.inr ⟨b, r, none, hr, hb, rfl⟩

end Keeps

/-! ### Plans of single calls -/

/-- A plan that is made of calls. A run that ends before the end has made its calls in order, and fails as `E` says. --/
def eachCall (E : ε → Prop) : Planning I ε (Exchange I) where
  whole := id
  Breaks xs l e := asked l <+: asked xs ∧ ∀ e' ∈ e, E e'
  whole_nil := rfl
  whole_append _ _ := rfl
  breaks_append := by
    rintro p q l e ⟨hl, he⟩
    refine ⟨hl.trans ?_, he⟩
    rw [asked, asked, List.map_append]
    exact List.prefix_append _ _
  breaks_after := by
    rintro p q l e ⟨hl, he⟩
    refine ⟨?_, he⟩
    rw [asked, asked, List.map_append, List.map_append]
    exact (List.prefix_append_right_inj _).mpr hl

variable {E : ε → Prop} {E' : ε' → Prop}

/-- A script of one call, where each answer is a value or a failure. Where it fails, `a₀` stands for the value. --/
theorem keeps_ask {c : I.Call} {next : I.Reply c → Script I ε α} (good : α → I.Reply c) (a₀ : α)
    (h : ∀ r, (∃ a, r = good a ∧ next r = .done a) ∨ ∃ e, E e ∧ next r = .fail e) :
    (eachCall E).Keeps (.ask c next) fun _ a xs => xs = [⟨c, some (good a)⟩] where
  says_more _ _ hp := hp
  runs hf := by
    rcases follows_ask hf with ⟨rfl, rfl⟩ | ⟨r, l', rfl, hrest⟩
    · exact Or.inr ⟨a₀, _, none, rfl, ⟨List.prefix_rfl, by simp⟩, rfl⟩
    · rcases h r with ⟨a, rfl, hnext⟩ | ⟨e, he, hnext⟩
      · rw [hnext] at hrest
        obtain ⟨rfl, rfl⟩ := follows_done hrest
        exact Or.inl ⟨a, _, rfl, rfl, rfl⟩
      · rw [hnext] at hrest
        obtain ⟨rfl, rfl⟩ := follows_fail hrest
        exact Or.inr ⟨a₀, _, some e, rfl, ⟨List.prefix_rfl, by simpa using he⟩, rfl⟩

/-- A script that fails at once keeps to every plan. --/
theorem keeps_fail {P : Bool → α → List (Exchange I) → Prop} {e : ε} (he : E e) {a : α} {xs : List (Exchange I)}
    (h : P false a xs) (more : ∀ a p, P true a p → P false a p) : (eachCall E).Keeps (.fail e) P where
  says_more := more
  runs hf := by
    obtain ⟨rfl, rfl⟩ := follows_fail hf
    exact Or.inr ⟨a, xs, some e, h, ⟨List.nil_prefix, by simpa using he⟩, rfl⟩

/-- A computation makes no call. Where it fails, `a` stands for its value. --/
theorem keeps_ofExcept {x : Except ε α} (a : α) (h : ∀ e, x = .error e → E e) :
    (eachCall (I := I) E).Keeps (.ofExcept x) fun full b xs => xs = [] ∧ b = x.toOption.getD a ∧
      (full = true → x = .ok b) := by
  cases x with
  | error e => exact keeps_fail (a := a) (h e rfl) ⟨rfl, rfl, nofun⟩ fun _ _ hp => ⟨hp.1, hp.2.1, nofun⟩
  | ok b =>
    refine (Keeps.done b).weaken ?_ fun _ _ hp => ⟨hp.1, hp.2.1, nofun⟩
    rintro full _ _ ⟨rfl, rfl⟩
    exact ⟨rfl, rfl, fun _ => rfl⟩

theorem ofExcept_mapError (x : Except ε α) (f : ε → ε') :
    (ofExcept (x.mapError f) : Script I ε' α) = (ofExcept x).mapError f := by
  cases x <;> rfl

/-- The failure in other words changes no plan. --/
theorem Keeps.mapError {t : Script I ε α} {P : Bool → α → List (Exchange I) → Prop} (h : (eachCall E).Keeps t P)
    (f : ε → ε') (hE : ∀ e, E e → E' (f e)) : (eachCall E').Keeps (t.mapError f) P where
  says_more := h.says_more
  runs hf := by
    obtain ⟨o', hf', rfl⟩ := follows_mapError hf
    rcases h.runs hf' with ⟨a, xs, hp, hl, rfl⟩ | ⟨a, xs, e, hp, ⟨hl, he⟩, rfl⟩
    · exact Or.inl ⟨a, xs, hp, hl, rfl⟩
    · refine Or.inr ⟨a, xs, e.map f, hp, ⟨hl, ?_⟩, ?_⟩
      · intro e' he'
        obtain ⟨e₀, h₀, rfl⟩ := Option.map_eq_some_iff.mp he'
        exact hE e₀ (he e₀ h₀)
      · cases e <;> rfl

end Planning
end Script
end AnsibleStaging
