/-! What a result says about the computations that it was made from. -/

namespace AnsibleStaging

variable {ε ε' α β : Type}

/-! ### Results with errors -/

theorem eq_ok_of_bind {x : Except ε α} {f : α → Except ε β} {b : β} (h : x >>= f = .ok b) :
    ∃ a, x = .ok a ∧ f a = .ok b := by
  cases x with
  | error e => cases h
  | ok a => exact ⟨a, rfl, h⟩

theorem eq_ok_of_map {x : Except ε α} {f : α → β} {b : β} (h : x.map f = .ok b) : ∃ a, x = .ok a ∧ f a = b := by
  cases x with
  | error e => cases h
  | ok a =>
    cases h
    exact ⟨a, rfl, rfl⟩

theorem eq_ok_of_mapError {x : Except ε α} {f : ε → ε'} {a : α} (h : x.mapError f = .ok a) : x = .ok a := by
  cases x with
  | error e => cases h
  | ok b =>
    cases h
    rfl

theorem eq_ok_of_toOption {r : Option (Except ε α)} {a : α} (h : r.bind Except.toOption = some a) :
    r = some (.ok a) := by
  rcases r with _ | _ | b
  · cases h
  · cases h
  · cases h
    rfl

/-- What each step keeps is kept along a list. --/
theorem keeps_foldlM {P : β → Prop} {f : β → α → Except ε β} (step : ∀ b a b', P b → f b a = .ok b' → P b') {l : List α}
    {b b' : β} (hb : P b) (h : l.foldlM f b = .ok b') : P b' := by
  induction l generalizing b with
  | nil =>
    cases h
    exact hb
  | cons a rest ih =>
    rw [List.foldlM_cons] at h
    obtain ⟨b₁, h₁, hrest⟩ := eq_ok_of_bind h
    exact ih (step b a b₁ hb h₁) hrest

/-! ### Results that may be missing -/

theorem of_guard {p : Prop} [Decidable p] {u : Unit} (h : (guard p : Option Unit) = some u) : p := by
  unfold guard at h
  split at h
  · assumption
  · cases h

theorem exists_of_mem_mapM {f : α → Option β} {l : List α} {m : List β} (h : l.mapM f = some m) {b : β} (hb : b ∈ m) :
    ∃ a ∈ l, f a = some b := by
  induction l generalizing m with
  | nil =>
    cases h
    cases hb
  | cons a rest ih =>
    rw [List.mapM_cons] at h
    obtain ⟨b', hb', h⟩ := Option.bind_eq_some_iff.mp h
    obtain ⟨m', hm', h⟩ := Option.bind_eq_some_iff.mp h
    cases h
    rcases List.mem_cons.mp hb with rfl | hb
    · exact ⟨a, List.mem_cons_self, hb'⟩
    · obtain ⟨a', ha', hfa'⟩ := ih hm' hb
      exact ⟨a', List.mem_cons_of_mem _ ha', hfa'⟩

end AnsibleStaging
