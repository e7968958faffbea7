import AnsibleStaging.Script

/-! What a run of a script looks like from outside: the calls that it makes, one after the other, each with its answer.
    The script and the answers settle the next call and the end, whoever gives the answers. So what holds of every
    `Follows` of a script holds of every run of it, and what holds of each single call of a handler holds along the
    whole run. -/

namespace AnsibleStaging

/-- A call and the answer to it; a call without an answer did not complete. --/
structure Exchange (I : Interface) where
  call : I.Call
  reply : Option (I.Reply call)

namespace Script
variable {I : Interface} {ε ε' α β σ τ : Type}

/-- The script makes these calls, gets these answers and ends so. Without a result, it stopped in its last call. --/
inductive Follows : Script I ε α → List (Exchange I) → Option (Except ε α) → Prop
  | done (a : α) : Follows (.done a) [] (some (.ok a))
  | fail (e : ε) : Follows (.fail e) [] (some (.error e))
  | stopped (c : I.Call) (next : I.Reply c → Script I ε α) : Follows (.ask c next) [⟨c, none⟩] none
  | answered {c : I.Call} {next : I.Reply c → Script I ε α} {r : I.Reply c} {l : List (Exchange I)}
      {o : Option (Except ε α)} (rest : Follows (next r) l o) : Follows (.ask c next) (⟨c, some r⟩ :: l) o

/-- The calls that a run makes, with their answers. --/
def exchanges (h : Handler I σ) : Script I ε α → σ → List (Exchange I)
  | .done _, _ => []
  | .fail _, _ => []
  | .ask c next, s =>
    match h c s with
    | (some r, s) => ⟨c, some r⟩ :: (next r).exchanges h s
    | (none, _) => [⟨c, none⟩]

/-! ### Runs -/

section
variable {h : Handler I σ} {c : I.Call} {next : I.Reply c → Script I ε α} {s : σ}

theorem run_ask {r : I.Reply c} (hr : (h c s).1 = some r) :
    (Script.ask c next).run h s = (next r).run h (h c s).2 := by
  rw [run]
  split
  · next heq =>
    rw [heq] at hr
    cases hr
    rw [heq]
  · next heq =>
    rw [heq] at hr
    cases hr

theorem run_ask_none (hr : (h c s).1 = none) : (Script.ask c next).run h s = (none, (h c s).2) := by
  rw [run]
  split
  · next heq =>
    rw [heq] at hr
    cases hr
  · next heq => rw [heq]

theorem exchanges_ask {r : I.Reply c} (hr : (h c s).1 = some r) :
    (Script.ask c next).exchanges h s = ⟨c, some r⟩ :: (next r).exchanges h (h c s).2 := by
  rw [exchanges]
  split
  · next heq =>
    rw [heq] at hr
    cases hr
    rw [heq]
  · next heq =>
    rw [heq] at hr
    cases hr

theorem exchanges_ask_none (hr : (h c s).1 = none) : (Script.ask c next).exchanges h s = [⟨c, none⟩] := by
  rw [exchanges]
  split
  · next heq =>
    rw [heq] at hr
    cases hr
  · rfl

end

theorem follows_exchanges (h : Handler I σ) (t : Script I ε α) (s : σ) : t.Follows (t.exchanges h s) (t.run h s).1 := by
  induction t generalizing s with
  | done a => exact .done a
  | fail e => exact .fail e
  | ask c next ih =>
    cases hr : (h c s).1 with
    | none =>
      rw [exchanges_ask_none hr, run_ask_none hr]
      exact .stopped c next
    | some r =>
      rw [exchanges_ask hr, run_ask hr]
      exact .answered (ih r _)

/-! ### Scripts in a row -/

theorem follows_ask {c : I.Call} {next : I.Reply c → Script I ε α} {l : List (Exchange I)} {o : Option (Except ε α)}
    (hf : (Script.ask c next).Follows l o) :
    (l = [⟨c, none⟩] ∧ o = none) ∨ ∃ r l', l = ⟨c, some r⟩ :: l' ∧ (next r).Follows l' o := by
  cases hf with
  | stopped => exact Or.inl ⟨rfl, rfl⟩
  | answered rest => exact Or.inr ⟨_, _, rfl, rest⟩

theorem follows_done {a : α} {l : List (Exchange I)} {o : Option (Except ε α)}
    (hf : (Script.done a : Script I ε α).Follows l o) : l = [] ∧ o = some (.ok a) := by
  cases hf
  exact ⟨rfl, rfl⟩

theorem follows_fail {e : ε} {l : List (Exchange I)} {o : Option (Except ε α)}
    (hf : (Script.fail e : Script I ε α).Follows l o) : l = [] ∧ o = some (.error e) := by
  cases hf
  exact ⟨rfl, rfl⟩

theorem exists_follows (t : Script I ε α) : ∃ l o, t.Follows l o := by
  cases t with
  | done a => exact ⟨_, _, .done a⟩
  | fail e => exact ⟨_, _, .fail e⟩
  | ask c next => exact ⟨_, _, .stopped c next⟩

/-- Two scripts in a row: either the first ends well and the second follows, or the end of the first is the end. --/
theorem follows_bind {t : Script I ε α} {f : α → Script I ε β} {l : List (Exchange I)} {o : Option (Except ε β)}
    (hf : (t.bind f).Follows l o) :
    (∃ a l₁ l₂, t.Follows l₁ (some (.ok a)) ∧ (f a).Follows l₂ o ∧ l = l₁ ++ l₂) ∨
      (∃ e, t.Follows l (some (.error e)) ∧ o = some (.error e)) ∨ (t.Follows l none ∧ o = none) := by
  induction t generalizing l with
  | done a => exact Or.inl ⟨a, [], l, .done a, hf, rfl⟩
  | fail e =>
    obtain ⟨rfl, rfl⟩ := follows_fail hf
    exact Or.inr (Or.inl ⟨e, .fail e, rfl⟩)
  | ask c next ih =>
    rcases follows_ask hf with ⟨rfl, rfl⟩ | ⟨r, l', rfl, hrest⟩
    · exact Or.inr (Or.inr ⟨.stopped c next, rfl⟩)
    · rcases ih r hrest with ⟨a, l₁, l₂, h₁, h₂, rfl⟩ | ⟨e, h₁, rfl⟩ | ⟨h₁, rfl⟩
      · exact Or.inl ⟨a, ⟨c, some r⟩ :: l₁, l₂, .answered h₁, h₂, rfl⟩
      · exact Or.inr (Or.inl ⟨e, .answered h₁, rfl⟩)
      · exact Or.inr (Or.inr ⟨.answered h₁, rfl⟩)

theorem follows_mapError {t : Script I ε α} {f : ε → ε'} {l : List (Exchange I)} {o : Option (Except ε' α)}
    (hf : (t.mapError f).Follows l o) : ∃ o', t.Follows l o' ∧ o = o'.map (Except.mapError f) := by
  induction t generalizing l with
  | done a =>
    obtain ⟨rfl, rfl⟩ := follows_done hf
    exact ⟨_, .done a, rfl⟩
  | fail e =>
    obtain ⟨rfl, rfl⟩ := follows_fail hf
    exact ⟨_, .fail e, rfl⟩
  | ask c next ih =>
    rcases follows_ask hf with ⟨rfl, rfl⟩ | ⟨r, l', rfl, hrest⟩
    · exact ⟨none, .stopped c next, rfl⟩
    · obtain ⟨o', h', rfl⟩ := ih r hrest
      exact ⟨o', .answered h', rfl⟩

theorem follows_of_mapError_ok {t : Script I ε α} {f : ε → ε'} {l : List (Exchange I)} {a : α}
    (hf : (t.mapError f).Follows l (some (.ok a))) : t.Follows l (some (.ok a)) := by
  obtain ⟨o, h, ho⟩ := follows_mapError hf
  rcases o with _ | _ | b
  · cases ho
  · cases ho
  · cases ho
    exact h

/-! ### What the calls of a run do -/

/-- The calls lead from one state to another, where `R` says what each exchange does. --/
inductive Occurs (R : Exchange I → τ → τ → Prop) : List (Exchange I) → τ → τ → Prop
  | nil (t : τ) : Occurs R [] t t
  | cons {x : Exchange I} {l : List (Exchange I)} {t u v : τ} (first : R x t u) (rest : Occurs R l u v) :
      Occurs R (x :: l) t v

/-- An exchange with a handler in one state, and the state after it. --/
def Handler.Gives (h : Handler I σ) (x : Exchange I) (s s' : σ) : Prop := h x.call s = (x.reply, s')

/-- The state that some calls lead to. A run passes through the states of its calls. --/
def replay (h : Handler I σ) (s : σ) (l : List (Exchange I)) : σ := l.foldl (fun s x => (h x.call s).2) s

namespace Occurs
variable {R : Exchange I → τ → τ → Prop} {l m : List (Exchange I)} {t u v : τ}

theorem append (h₁ : Occurs R l t u) (h₂ : Occurs R m u v) : Occurs R (l ++ m) t v := by
  induction h₁ with
  | nil => exact h₂
  | cons first _ ih => exact .cons first (ih h₂)

theorem of_append (h : Occurs R (l ++ m) t v) : ∃ u, Occurs R l t u ∧ Occurs R m u v := by
  induction l generalizing t with
  | nil => exact ⟨t, .nil t, h⟩
  | cons x l ih =>
    cases h with
    | cons first rest =>
      obtain ⟨u, hl, hm⟩ := ih rest
      exact ⟨u, .cons first hl, hm⟩

/-- What each exchange does to a state, as seen through a view of it. --/
theorem view {view : σ → τ} {G : Exchange I → σ → σ → Prop} {s s' : σ} (hl : Occurs G l s s')
    (hR : ∀ x s s', G x s s' → R x (view s) (view s')) : Occurs R l (view s) (view s') := by
  induction hl with
  | nil => exact .nil _
  | cons first _ ih => exact .cons (hR _ _ _ first) ih

theorem keeps {p : τ → Prop} (hl : Occurs R l t u) (hp : ∀ x ∈ l, ∀ s s', R x s s' → p s → p s') (ht : p t) : p u := by
  induction hl with
  | nil => exact ht
  | cons first _ ih =>
    exact ih (fun x hx => hp x (List.mem_cons_of_mem _ hx)) (hp _ List.mem_cons_self _ _ first ht)

theorem exists_of_mem {x : Exchange I} (hl : Occurs R l t u) (hx : x ∈ l) : ∃ s s', R x s s' := by
  induction hl with
  | nil => cases hx
  | cons first _ ih =>
    rcases List.mem_cons.mp hx with rfl | hx
    · exact ⟨_, _, first⟩
    · exact ih hx

/-- Exchanges that do nothing can be left out. --/
theorem filter {p : Exchange I → Bool} (hl : Occurs R l t u) (hp : ∀ x t t', p x = false → R x t t' → t' = t) :
    Occurs R (l.filter p) t u := by
  induction hl with
  | nil => exact .nil _
  | @cons x l t u v first _ ih =>
    cases hx : p x with
    | true =>
      rw [List.filter_cons_of_pos hx]
      exact .cons first ih
    | false =>
      rw [List.filter_cons_of_neg (by simp [hx])]
      obtain rfl := hp x _ _ hx first
      exact ih

theorem replay_eq {h : Handler I σ} {s s' : σ} (hl : Occurs h.Gives l s s') : replay h s l = s' := by
  induction hl with
  | nil => rfl
  | cons first _ ih =>
    rw [replay, List.foldl_cons, first]
    exact ih

end Occurs

/-- After some calls only the state that they have led to matters. --/
theorem occurs_append_iff {h : Handler I σ} {l m : List (Exchange I)} {s u v : σ} (hl : Occurs h.Gives l s u) :
    Occurs h.Gives (l ++ m) s v ↔ Occurs h.Gives m u v := by
  refine ⟨fun hlm => ?_, hl.append⟩
  obtain ⟨u', hl', hm⟩ := hlm.of_append
  obtain rfl : u = u' := hl.replay_eq.symm.trans hl'.replay_eq
  exact hm

theorem occurs_exchanges (h : Handler I σ) (t : Script I ε α) (s : σ) :
    Occurs h.Gives (t.exchanges h s) s (t.run h s).2 := by
  induction t generalizing s with
  | done a => exact .nil s
  | fail e => exact .nil s
  | ask c next ih =>
    cases hr : (h c s).1 with
    | none =>
      rw [exchanges_ask_none hr, run_ask_none hr]
      exact .cons (Prod.ext hr rfl) (.nil _)
    | some r =>
      rw [exchanges_ask hr, run_ask hr]
      exact .cons (Prod.ext hr rfl) (ih r _)

theorem run_of_follows {h : Handler I σ} {t : Script I ε α} {l : List (Exchange I)} {o : Option (Except ε α)} {s s' : σ}
    (hf : t.Follows l o) (hl : Occurs h.Gives l s s') : t.run h s = (o, s') := by
  induction hf generalizing s with
  | done a =>
    cases hl
    rfl
  | fail e =>
    cases hl
    rfl
  | stopped c next =>
    cases hl with
    | cons first rest =>
      cases rest
      have hg : h c s = (none, s') := first
      rw [run_ask_none (congrArg Prod.fst hg), hg]
  | @answered c next r l o _ ih =>
    cases hl with
    | @cons _ _ _ u _ first rest =>
      have hg : h c s = (some r, u) := first
      rw [run_ask (congrArg Prod.fst hg), hg]
      exact ih rest

end Script
end AnsibleStaging
