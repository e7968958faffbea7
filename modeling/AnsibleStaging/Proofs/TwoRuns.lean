import AnsibleStaging.Proofs.ConnectCourse
import AnsibleStaging.Proofs.Outlines

/-! Two runs side by side. They are alike if they make the same calls but for the bytes that they write, leave trees with
    one outline and end alike: both with one failure, or both well. Scripts in a row run alike if each does, where the
    later ones may use what is known of the values of the earlier ones. -/

namespace AnsibleStaging
open Script

variable {ε ε' α β : Type}

/-- Two ends: both well, with values as `Q` says, or both with one failure. --/
inductive EndsAlike (Q : α → α → Prop) : Except ε α → Except ε α → Prop
  | ok {a a' : α} (h : Q a a') : EndsAlike Q (.ok a) (.ok a')
  | error (e : ε) : EndsAlike Q (.error e) (.error e)

/-- Both scripts run to an end, and they run alike. --/
structure RunAlike (h h' : Handler calls MemTree) (Q : α → α → Prop) (s s' : Task ε α) (t t' : MemTree) : Prop where
  ends : ∃ x x', (s.run h t).1 = some x ∧ (s'.run h' t').1 = some x' ∧ EndsAlike Q x x'
  asks : (s.exchanges h t).map (·.call.outline) = (s'.exchanges h' t').map (·.call.outline)
  tree : (s.run h t).2.outline = (s'.run h' t').2.outline

/-- Two scripts run alike from all trees with one outline. --/
def AlwaysAlike (h h' : Handler calls MemTree) (Q : α → α → Prop) (s s' : Task ε α) : Prop :=
  ∀ t t', t.outline = t'.outline → RunAlike h h' Q s s' t t'

namespace Script
variable {I : Interface} {σ : Type} {h : Handler I σ} {s : Script I ε α} {t u : σ}

/-! ### Runs of scripts in a row -/

/-- After a script that ended with `x`, a run goes on from `x`. --/
theorem run_bind {x : Except ε α} (hs : s.run h t = (some x, u)) (f : α → Script I ε β) :
    (s >>= f).run h t = (ofExcept x >>= f).run h u ∧
      (s >>= f).exchanges h t = s.exchanges h t ++ (ofExcept x >>= f).exchanges h u := by
  change (s.bind f).run h t = _ ∧ (s.bind f).exchanges h t = _
  induction s generalizing t with
  | done a =>
    cases hs
    exact ⟨rfl, rfl⟩
  | fail e =>
    cases hs
    exact ⟨rfl, rfl⟩
  | ask c next ih =>
    cases hr : (h c t).1 with
    | none =>
      rw [run_ask_none hr] at hs
      cases hs
    | some r =>
      rw [run_ask hr] at hs
      obtain ⟨hrun, hcalls⟩ := ih r hs
      rw [Script.bind, run_ask hr, exchanges_ask hr, exchanges_ask hr, hcalls]
      exact ⟨hrun, rfl⟩

/-- After a script that did not end, nothing follows. --/
theorem run_bind_none (hs : s.run h t = (none, u)) (f : α → Script I ε β) :
    (s >>= f).run h t = (none, u) ∧ (s >>= f).exchanges h t = s.exchanges h t := by
  change (s.bind f).run h t = _ ∧ (s.bind f).exchanges h t = _
  induction s generalizing t with
  | done a => cases hs
  | fail e => cases hs
  | ask c next ih =>
    cases hr : (h c t).1 with
    | none =>
      rw [run_ask_none hr] at hs
      rw [Script.bind, run_ask_none hr, exchanges_ask_none hr, exchanges_ask_none hr]
      cases hs
      exact ⟨rfl, rfl⟩
    | some r =>
      rw [run_ask hr] at hs
      obtain ⟨hrun, hcalls⟩ := ih r hs
      rw [Script.bind, run_ask hr, exchanges_ask hr, exchanges_ask hr, hcalls]
      exact ⟨hrun, rfl⟩

theorem run_mapError (h : Handler I σ) (s : Script I ε α) (f : ε → ε') (t : σ) :
    (s.mapError f).run h t = ((s.run h t).1.map (Except.mapError f), (s.run h t).2) ∧
      (s.mapError f).exchanges h t = s.exchanges h t := by
  induction s generalizing t with
  | done a => exact ⟨rfl, rfl⟩
  | fail e => exact ⟨rfl, rfl⟩
  | ask c next ih =>
    cases hr : (h c t).1 with
    | none =>
      rw [Script.mapError, run_ask_none hr, run_ask_none hr, exchanges_ask_none hr, exchanges_ask_none hr]
      exact ⟨rfl, rfl⟩
    | some r =>
      rw [Script.mapError, run_ask hr, run_ask hr, exchanges_ask hr, exchanges_ask hr, (ih r _).2]
      exact ⟨(ih r _).1, rfl⟩

theorem run_of_mapError_ok {f : ε → ε'} {a : α} (hs : (s.mapError f).run h t = (some (.ok a), u)) :
    s.run h t = (some (.ok a), u) := by
  rw [(run_mapError h s f t).1] at hs
  obtain ⟨ho, hu⟩ := Prod.mk.inj hs
  obtain ⟨x, hx, hmap⟩ := Option.map_eq_some_iff.mp ho
  cases x with
  | ok b =>
    cases hmap
    exact Prod.ext hx hu
  | error e => cases hmap

theorem run_ofExcept (h : Handler I σ) (x : Except ε α) (t : σ) : (ofExcept x : Script I ε α).run h t = (some x, t) := by
  cases x <;> rfl

end Script

/-! ### Two runs -/

section
variable {Q : α → α → Prop} {Q' : β → β → Prop} {h h' : Handler calls MemTree} {s s' : Task ε α} {t t' : MemTree}
  {f f' : α → Task ε β}

theorem EndsAlike.mapError {x x' : Except ε α} (hx : EndsAlike Q x x') (f : ε → ε') :
    EndsAlike Q (x.mapError f) (x'.mapError f) := by
  cases hx with
  | ok ha => exact .ok ha
  | error e => exact .error (f e)

theorem EndsAlike.map {x x' : Except ε α} (hx : EndsAlike Q x x') {f : α → β} (hf : ∀ a a', Q a a' → Q' (f a) (f a')) :
    EndsAlike Q' (x.map f) (x'.map f) := by
  cases hx with
  | ok ha => exact .ok (hf _ _ ha)
  | error e => exact .error e

theorem endsAlike_rfl (x : Except ε α) : EndsAlike (· = ·) x x := by
  cases x with
  | ok a => exact .ok rfl
  | error e => exact .error e

theorem endsAlike_of_map {x x' : Except ε α} (hx : x.map (fun _ => ()) = x'.map fun _ => ()) :
    EndsAlike (fun _ _ => True) x x' := by
  cases x <;> cases x' <;> cases hx
  · exact .error _
  · exact .ok trivial

theorem alwaysAlike_done {a a' : α} (ha : Q a a') : AlwaysAlike h h' Q (.done a : Task ε α) (.done a') := fun _ _ ht =>
  ⟨⟨_, _, rfl, rfl, .ok ha⟩, rfl, ht⟩

theorem alwaysAlike_fail (e : ε) : AlwaysAlike h h' Q (.fail e : Task ε α) (.fail e) := fun _ _ ht =>
  ⟨⟨_, _, rfl, rfl, .error e⟩, rfl, ht⟩

theorem RunAlike.bind (hs : RunAlike h h' Q s s' t t')
    (hf : ∀ a a' u u', s.run h t = (some (.ok a), u) → s'.run h' t' = (some (.ok a'), u') → Q a a' →
      u.outline = u'.outline → RunAlike h h' Q' (f a) (f' a') u u') : RunAlike h h' Q' (s >>= f) (s' >>= f') t t' := by
  obtain ⟨⟨x, x', hx, hx', alike⟩, asks, tree⟩ := hs
  have hrun : s.run h t = (some x, (s.run h t).2) := Prod.ext hx rfl
  have hrun' : s'.run h' t' = (some x', (s'.run h' t').2) := Prod.ext hx' rfl
  have rest : RunAlike h h' Q' (ofExcept x >>= f) (ofExcept x' >>= f') (s.run h t).2 (s'.run h' t').2 := by
    cases alike with
    | ok ha => exact hf _ _ _ _ hrun hrun' ha tree
    | error e => exact alwaysAlike_fail e _ _ tree
  obtain ⟨ends, asks', tree'⟩ := rest
  obtain ⟨hr, he⟩ := run_bind hrun f
  obtain ⟨hr', he'⟩ := run_bind hrun' f'
  refine ⟨by rwa [hr, hr'], ?_, by rwa [hr, hr']⟩
  rw [he, he', List.map_append, List.map_append, asks, asks']

theorem RunAlike.mapError (hs : RunAlike h h' Q s s' t t') (f : ε → ε') :
    RunAlike h h' Q (s.mapError f) (s'.mapError f) t t' := by
  obtain ⟨⟨x, x', hx, hx', alike⟩, asks, tree⟩ := hs
  obtain ⟨hr, he⟩ := run_mapError h s f t
  obtain ⟨hr', he'⟩ := run_mapError h' s' f t'
  refine ⟨⟨x.mapError f, x'.mapError f, by rw [hr, hx]; rfl, by rw [hr', hx']; rfl, alike.mapError f⟩, by rwa [he, he'], ?_⟩
  rw [hr, hr']
  exact tree

theorem AlwaysAlike.bind (hs : AlwaysAlike h h' Q s s') (hf : ∀ a a', Q a a' → AlwaysAlike h h' Q' (f a) (f' a')) :
    AlwaysAlike h h' Q' (s >>= f) (s' >>= f') := fun t t' ht =>
  (hs t t' ht).bind fun a a' _ _ _ _ ha hu => hf a a' ha _ _ hu

theorem AlwaysAlike.mapError (hs : AlwaysAlike h h' Q s s') (f : ε → ε') :
    AlwaysAlike h h' Q (s.mapError f) (s'.mapError f) := fun t t' ht => (hs t t' ht).mapError f

theorem alwaysAlike_ofExcept {x x' : Except ε α} (hx : EndsAlike Q x x') :
    AlwaysAlike h h' Q (.ofExcept x : Task ε α) (.ofExcept x') := by
  cases hx with
  | ok ha => exact alwaysAlike_done ha
  | error e => exact alwaysAlike_fail e

theorem runAlike_ask {c c' : Call} {next : calls.Reply c → Task ε α} {next' : calls.Reply c' → Task ε α} {r : calls.Reply c}
    {r' : calls.Reply c'} {u u' : MemTree} (hc : c.outline = c'.outline) (hr : h c t = (some r, u))
    (hr' : h' c' t' = (some r', u')) (hnext : RunAlike h h' Q (next r) (next' r') u u') :
    RunAlike h h' Q (.ask c next) (.ask c' next') t t' := by
  obtain ⟨ends, asks, tree⟩ := hnext
  have hrun : (Script.ask c next).run h t = (next r).run h u := by rw [run_ask (congrArg Prod.fst hr), hr]
  have hrun' : (Script.ask c' next').run h' t' = (next' r').run h' u' := by rw [run_ask (congrArg Prod.fst hr'), hr']
  refine ⟨by rwa [hrun, hrun'], ?_, by rwa [hrun, hrun']⟩
  rw [exchanges_ask (congrArg Prod.fst hr), exchanges_ask (congrArg Prod.fst hr'), hr, hr', List.map_cons, List.map_cons,
    asks, hc]

theorem alwaysAlike_answer (c c' : Call) (read : calls.Reply c → Except ε α) (read' : calls.Reply c' → Except ε α)
    (hc : c.outline = c'.outline) (ha : ∀ t t', t.outline = t'.outline → ∃ r r' u u', h c t = (some r, u) ∧
      h' c' t' = (some r', u') ∧ u.outline = u'.outline ∧ EndsAlike Q (read r) (read' r')) :
    AlwaysAlike h h' Q (.ask c fun r => .ofExcept (read r) : Task ε α) (.ask c' fun r => .ofExcept (read' r)) := by
  intro t t' ht
  obtain ⟨r, r', u, u', hr, hr', hu, alike⟩ := ha t t' ht
  exact runAlike_ask hc hr hr' (alwaysAlike_ofExcept alike u u' hu)

end

end AnsibleStaging
