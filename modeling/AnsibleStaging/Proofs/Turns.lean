import AnsibleStaging.Proofs.Exchanges

/-! Two runs that share a state and take turns. Their calls are made one at a time, in any order that keeps the order of
    each run. If each run is answered alike in the shared state and in the state that it would have alone, and no call
    of the other changes this, then each makes the calls that it makes alone. Of the other run only those calls have to
    be looked at that it makes when it is alone. -/

namespace AnsibleStaging
namespace Script

variable {I : Interface} {ε ε' α β σ τ κ : Type}

/-! ### Parts of a run -/

section
variable {h : Handler I σ} {t : Script I ε α} {l m : List (Exchange I)} {o : Option (Except ε α)} {s s' : σ}

theorem exchanges_of_follows (hf : t.Follows l o) (hl : Occurs h.Gives l s s') : t.exchanges h s = l := by
  induction hf generalizing s with
  | done a => rfl
  | fail e => rfl
  | stopped c next =>
    cases hl with
    | cons first _ => exact exchanges_ask_none (congrArg Prod.fst first)
  | @answered c next r l o _ ih =>
    cases hl with
    | @cons _ _ _ u _ first rest =>
      have hg : h c s = (some r, u) := first
      rw [exchanges_ask (congrArg Prod.fst hg), hg, ih rest]

/-- Answers that a handler gives lead a script along its run with this handler. --/
theorem prefix_exchanges (hf : t.Follows (l ++ m) o) (hl : Occurs h.Gives l s s') : l <+: t.exchanges h s := by
  induction l generalizing t s with
  | nil => exact List.nil_prefix
  | cons x l ih =>
    cases hl with
    | @cons _ _ _ u _ first rest =>
      rw [List.cons_append] at hf
      generalize hr : l ++ m = r at hf
      cases hf with
      | stopped c next =>
        obtain rfl : l = [] := (List.append_eq_nil_iff.mp hr).1
        have alone : (Script.ask c next).exchanges h s = [⟨c, none⟩] := exchanges_ask_none (congrArg Prod.fst first)
        exact alone ▸ List.prefix_refl _
      | @answered c next r _ _ hrest =>
        have hg : h c s = (some r, u) := first
        rw [exchanges_ask (congrArg Prod.fst hg), hg]
        exact (List.prefix_cons_inj _).mpr (ih (hr ▸ hrest) rest)

end

/-! ### Turns -/

/-- Two handlers answer on a common state `κ`, each beside a state of its own. The calls of two runs are made on it in
    turns. --/
inductive TakeTurns (h₁ : Handler I (σ × κ)) (h₂ : Handler I (τ × κ)) :
    List (Exchange I) → List (Exchange I) → σ × τ × κ → σ × τ × κ → Prop
  | nil (s : σ × τ × κ) : TakeTurns h₁ h₂ [] [] s s
  | left {x : Exchange I} {l m : List (Exchange I)} {a a' : σ} {b : τ} {k k' : κ} {s : σ × τ × κ}
      (first : h₁.Gives x (a, k) (a', k')) (rest : TakeTurns h₁ h₂ l m (a', b, k') s) :
      TakeTurns h₁ h₂ (x :: l) m (a, b, k) s
  | right {y : Exchange I} {l m : List (Exchange I)} {a : σ} {b b' : τ} {k k' : κ} {s : σ × τ × κ}
      (first : h₂.Gives y (b, k) (b', k')) (rest : TakeTurns h₁ h₂ l m (a, b', k') s) :
      TakeTurns h₁ h₂ l (y :: m) (a, b, k) s

/-- A run with `h₁` does not notice the other one: where the state that it has alone and the common state agree as `R`
    says, its own calls get the same answers in both, and a call of the other keeps them in agreement. --/
structure Insulated (h₁ : Handler I (σ × κ)) (h₂ : Handler I (τ × κ)) (R : κ → κ → Prop) (own other : Exchange I → Prop) :
    Prop where
  same : ∀ {x a a' u k k'}, own x → h₁.Gives x (a, k) (a', k') → R u k → ∃ u', h₁.Gives x (a, u) (a', u') ∧ R u' k'
  steady : ∀ {y b b' u k k'}, other y → h₂.Gives y (b, k) (b', k') → R u k → R u k'

namespace TakeTurns
variable {h₁ : Handler I (σ × κ)} {h₂ : Handler I (τ × κ)} {l m l' m' : List (Exchange I)} {a a' : σ} {b b' : τ}
  {k k' : κ} {s s' : σ × τ × κ}

theorem gives_left (h : TakeTurns h₁ h₂ l m s s') : ∀ x ∈ l, ∃ u u', h₁.Gives x u u' := by
  induction h with
  | nil => simp
  | left first _ ih => exact List.forall_mem_cons.mpr ⟨⟨_, _, first⟩, ih⟩
  | right _ _ ih => exact ih

theorem symm (h : TakeTurns h₁ h₂ l m s s') : TakeTurns h₂ h₁ m l (s.2.1, s.1, s.2.2) (s'.2.1, s'.1, s'.2.2) := by
  induction h with
  | nil s => exact .nil _
  | left first _ ih => exact .right first ih
  | right first _ ih => exact .left first ih

theorem gives_right (h : TakeTurns h₁ h₂ l m s s') : ∀ y ∈ m, ∃ u u', h₂.Gives y u u' := h.symm.gives_left

/-- The first run makes some calls while the other one waits. --/
theorem left_append (hl : Occurs h₁.Gives l (a, k) (a', k')) (rest : TakeTurns h₁ h₂ l' m' (a', b, k') s) :
    TakeTurns h₁ h₂ (l ++ l') m' (a, b, k) s := by
  generalize hs : (a, k) = p at hl
  generalize hs' : (a', k') = p' at hl
  induction hl generalizing a k with
  | nil =>
    cases hs.trans hs'.symm
    exact rest
  | @cons x l t u v first _ ih =>
    subst hs
    exact .left first (ih rfl hs')

theorem right_append (hm : Occurs h₂.Gives m (b, k) (b', k')) (rest : TakeTurns h₁ h₂ l' m' (a, b', k') s) :
    TakeTurns h₁ h₂ l' (m ++ m') (a, b, k) s := (left_append hm rest.symm).symm

/-- The second run is made as a whole after `n` calls of the first. --/
theorem between {n : Nat} {a₁ : σ} {k₁ k₂ : κ} (before : Occurs h₁.Gives (l.take n) (a, k) (a₁, k₁))
    (middle : Occurs h₂.Gives m (b, k₁) (b', k₂)) (after : Occurs h₁.Gives (l.drop n) (a₁, k₂) (a', k')) :
    TakeTurns h₁ h₂ l m (a, b, k) (a', b', k') := by
  have turns := left_append before (right_append middle (left_append after (.nil (a', b', k'))))
  rwa [List.append_nil, List.append_nil, List.take_append_drop] at turns

/-- The second run can be made as a whole after any number of calls of the first. --/
theorem exists_between (h₁ : Handler I (σ × κ)) (h₂ : Handler I (τ × κ)) (t₁ : Script I ε α) (t₂ : Script I ε' β) (n : Nat)
    (a : σ) (b : τ) (k : κ) : ∃ l m o₁ o₂ a₁ a₂ b' k₁ k₂ k', t₁.Follows l o₁ ∧ t₂.Follows m o₂ ∧
      Occurs h₁.Gives (l.take n) (a, k) (a₁, k₁) ∧ Occurs h₂.Gives m (b, k₁) (b', k₂) ∧
      Occurs h₁.Gives (l.drop n) (a₁, k₂) (a₂, k') := by
  induction n generalizing t₁ a k with
  | zero =>
    exact ⟨_, _, _, _, _, _, _, _, _, _, follows_exchanges h₁ t₁ _, follows_exchanges h₂ t₂ (b, k), .nil _,
      occurs_exchanges h₂ t₂ (b, k), occurs_exchanges h₁ t₁ (a, _)⟩
  | succ n ih =>
    cases t₁ with
    | done r =>
      exact ⟨_, _, _, _, _, _, _, _, _, _, .done r, follows_exchanges h₂ t₂ (b, k), .nil _, occurs_exchanges h₂ t₂ (b, k),
        .nil _⟩
    | fail e =>
      exact ⟨_, _, _, _, _, _, _, _, _, _, .fail e, follows_exchanges h₂ t₂ (b, k), .nil _, occurs_exchanges h₂ t₂ (b, k),
        .nil _⟩
    | ask c next =>
      obtain ⟨r, a', k', hr⟩ : ∃ r a' k', h₁ c (a, k) = (r, a', k') := ⟨_, _, _, rfl⟩
      cases r with
      | none =>
        have gives : h₁.Gives ⟨c, none⟩ (a, k) (a', k') := hr
        refine ⟨_, _, _, _, a', a', _, k', _, (t₂.run h₂ (b, k')).2.2, .stopped c next, follows_exchanges h₂ t₂ (b, k'), ?_,
          occurs_exchanges h₂ t₂ (b, k'), ?_⟩
        · rw [List.take_succ_cons, List.take_nil]
          exact .cons gives (.nil _)
        · rw [List.drop_succ_cons, List.drop_nil]
          exact .nil _
      | some r =>
        have gives : h₁.Gives ⟨c, some r⟩ (a, k) (a', k') := hr
        obtain ⟨l, m, o₁, o₂, a₁, a₂, b', k₁, k₂, k'', hl, hm, before, between, after⟩ := ih (next r) a' k'
        exact ⟨⟨c, some r⟩ :: l, m, o₁, o₂, a₁, a₂, b', k₁, k₂, k'', .answered hl, hm, .cons gives before, between, after⟩

/-- Neither of two runs notices the other: each goes on alone as it goes on in turns with the other. --/
theorem goes_on_alone {t₁ : Script I ε α} {t₂ : Script I ε' β} {o₁ : Option (Except ε α)} {o₂ : Option (Except ε' β)} {a₀ : σ}
    {b₀ : τ} {k₀ : κ} {l₀ m₀ : List (Exchange I)} {R₁ R₂ : κ → κ → Prop} {own₁ own₂ : Exchange I → Prop}
    (first : Insulated h₁ h₂ R₁ own₁ (· ∈ t₂.exchanges h₂ (b₀, k₀)))
    (second : Insulated h₂ h₁ R₂ own₂ (· ∈ t₁.exchanges h₁ (a₀, k₀)))
    (h : TakeTurns h₁ h₂ l m (a, b, k) (a', b', k')) (hl : ∀ x ∈ l, own₁ x) (hm : ∀ y ∈ m, own₂ y)
    (f₁ : t₁.Follows (l₀ ++ l) o₁) (f₂ : t₂.Follows (m₀ ++ m) o₂) {u v : κ}
    (past₁ : Occurs h₁.Gives l₀ (a₀, k₀) (a, u)) (past₂ : Occurs h₂.Gives m₀ (b₀, k₀) (b, v)) (hu : R₁ u k) (hv : R₂ v k) :
    (∃ u', Occurs h₁.Gives (l₀ ++ l) (a₀, k₀) (a', u') ∧ R₁ u' k') ∧
      ∃ v', Occurs h₂.Gives (m₀ ++ m) (b₀, k₀) (b', v') ∧ R₂ v' k' := by
  generalize hs : (a, b, k) = s at h
  generalize hs' : (a', b', k') = s' at h
  induction h generalizing a b k u v l₀ m₀ with
  | nil =>
    cases hs.trans hs'.symm
    simp only [List.append_nil]
    exact ⟨⟨u, past₁, hu⟩, v, past₂, hv⟩
  | @left x l m a₁ a₂ b₁ k₁ k₂ s gives rest ih =>
    cases hs
    obtain ⟨hx, hl⟩ := List.forall_mem_cons.mp hl
    obtain ⟨u', alike, hu'⟩ := first.same hx gives hu
    have past₁' := past₁.append (.cons alike (.nil _))
    rw [List.append_cons] at f₁ ⊢
    -- The call is one that the first run makes alone.
    have made := (prefix_exchanges f₁ past₁').subset (List.mem_append_right _ (List.mem_singleton_self x))
    exact ih hl hm f₁ f₂ past₁' past₂ hu' (second.steady made gives hv) rfl hs'
  | @right y l m a₁ b₁ b₂ k₁ k₂ s gives rest ih =>
    cases hs
    obtain ⟨hy, hm⟩ := List.forall_mem_cons.mp hm
    obtain ⟨v', alike, hv'⟩ := second.same hy gives hv
    have past₂' := past₂.append (.cons alike (.nil _))
    rw [List.append_cons] at f₂ ⊢
    have made := (prefix_exchanges f₂ past₂').subset (List.mem_append_right _ (List.mem_singleton_self y))
    exact ih hl hm f₁ f₂ past₁ past₂' (first.steady made gives hu) hv' rfl hs'

theorem alone {t₁ : Script I ε α} {t₂ : Script I ε' β} {o₁ : Option (Except ε α)} {o₂ : Option (Except ε' β)}
    {R₁ R₂ : κ → κ → Prop} {own₁ own₂ : Exchange I → Prop}
    (first : Insulated h₁ h₂ R₁ own₁ (· ∈ t₂.exchanges h₂ (b, k))) (hk : R₁ k k)
    (second : Insulated h₂ h₁ R₂ own₂ (· ∈ t₁.exchanges h₁ (a, k))) (hk' : R₂ k k)
    (h : TakeTurns h₁ h₂ l m (a, b, k) (a', b', k')) (hl : ∀ x ∈ l, own₁ x) (hm : ∀ y ∈ m, own₂ y)
    (f₁ : t₁.Follows l o₁) (f₂ : t₂.Follows m o₂) :
    (∃ u, Occurs h₁.Gives l (a, k) (a', u) ∧ R₁ u k') ∧ ∃ v, Occurs h₂.Gives m (b, k) (b', v) ∧ R₂ v k' :=
  goes_on_alone first second h hl hm (show t₁.Follows ([] ++ l) o₁ from f₁) (show t₂.Follows ([] ++ m) o₂ from f₂) (.nil _)
    (.nil _) hk hk'

end TakeTurns
end Script
end AnsibleStaging
