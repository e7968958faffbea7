/-! Scripts: what is asked of the outside, one call after the other, where each next call may depend on the
    answers so far. A script does nothing by itself. `run` hands its calls to a handler, and two scripts
    differ only in the calls they make and in how they end. -/

namespace AnsibleStaging

/-- What can be asked, and what the answer to each call is. --/
structure Interface where
  Call : Type
  Reply : Call → Type

/-- A script over an interface that ends with a value or a failure. --/
inductive Script (I : Interface) (ε α : Type) where
  | done (a : α)
  | fail (e : ε)
  | ask (c : I.Call) (next : I.Reply c → Script I ε α)

namespace Script
variable {I : Interface} {ε ε' α β γ : Type}

/-- One script and then another that starts from its value. --/
def bind : Script I ε α → (α → Script I ε β) → Script I ε β
  | .done a, f => f a
  | .fail e, _ => .fail e
  | .ask c next, f => .ask c fun r => (next r).bind f

instance : Monad (Script I ε) where
  pure := .done
  bind := .bind

/-- The script with its failure put in other words. --/
def mapError (f : ε → ε') : Script I ε α → Script I ε' α
  | .done a => .done a
  | .fail e => .fail (f e)
  | .ask c next => .ask c fun r => (next r).mapError f

def ofExcept : Except ε α → Script I ε α
  | .ok a => .done a
  | .error e => .fail e

theorem bind_done (s : Script I ε α) : s.bind .done = s := by
  induction s with
  | done a => rfl
  | fail e => rfl
  | ask c next ih => simp only [bind, ih]

theorem bind_assoc (s : Script I ε α) (f : α → Script I ε β) (g : β → Script I ε γ) :
    (s.bind f).bind g = s.bind fun a => (f a).bind g := by
  induction s with
  | done a => rfl
  | fail e => rfl
  | ask c next ih => simp only [bind, ih]

instance : LawfulMonad (Script I ε) := LawfulMonad.mk' _ bind_done (fun _ _ => rfl) bind_assoc

/-- Answers calls on a state. A call without an answer does not complete. --/
def Handler (I : Interface) (σ : Type) : Type := (c : I.Call) → σ → Option (I.Reply c) × σ

/-- Runs a script. Without a result, it stopped in a call that did not complete. --/
def run {σ : Type} (h : Handler I σ) : Script I ε α → σ → Option (Except ε α) × σ
  | .done a, s => (some (.ok a), s)
  | .fail e, s => (some (.error e), s)
  | .ask c next, s =>
    match h c s with
    | (some r, s) => (next r).run h s
    | (none, s) => (none, s)

/-- Runs a script whose calls are all answered in a monad. --/
def perform {m : Type → Type} [Monad m] (answer : (c : I.Call) → m (I.Reply c)) : Script I ε α → m (Except ε α)
  | .done a => pure (.ok a)
  | .fail e => pure (.error e)
  | .ask c next => answer c >>= fun r => (next r).perform answer

end Script
end AnsibleStaging
