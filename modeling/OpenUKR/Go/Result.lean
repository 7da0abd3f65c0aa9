import Mathlib

/-!
# Go `(value, error)` results as `Except`

A Go function returning `(T, error)` is modelled as `Except ε T`, and an `if err != nil
{ return ..., fmt.Errorf("...: %w", err) }` chain as `do` notation with `mapError`. The
inversion lemmas below are stated once, so that no proof about a modelled function unfolds
`bind`. A call that may also panic returns `Except (Fault ε) T`: its callers wrap a returned
error and pass a panic on (`Fault.map`).
-/

namespace OpenUKR

/-- Go's results are compared by value; `Except` gets decidable equality. -/
instance instDecidableEqExcept {ε α : Type} [DecidableEq ε] [DecidableEq α] :
    DecidableEq (Except ε α)
  | .ok a, .ok b => decidable_of_iff (a = b) ⟨fun h => h ▸ rfl, Except.ok.inj⟩
  | .error a, .error b => decidable_of_iff (a = b) ⟨fun h => h ▸ rfl, Except.error.inj⟩
  | .ok _, .error _ => isFalse Except.noConfusion
  | .error _, .ok _ => isFalse Except.noConfusion

namespace Except

variable {ε ε' α β : Type} {x : Except ε α} {f : α → Except ε β} {g : ε → ε'}

@[simp] theorem bind_ok_left (a : α) : (Except.ok a : Except ε α) >>= f = f a := rfl
@[simp] theorem bind_error_left (e : ε) : (Except.error e : Except ε α) >>= f = .error e := rfl
@[simp] theorem pure_eq_ok (a : α) : (pure a : Except ε α) = .ok a := rfl
@[simp] theorem mapError_ok (a : α) : (Except.ok a : Except ε α).mapError g = .ok a := rfl
@[simp] theorem mapError_error (e : ε) : (Except.error e : Except ε α).mapError g = .error (g e) :=
  rfl

theorem bind_eq_ok {b : β} : x >>= f = .ok b ↔ ∃ a, x = .ok a ∧ f a = .ok b := by
  cases x <;> simp

theorem bind_eq_error {e : ε} :
    x >>= f = .error e ↔ x = .error e ∨ ∃ a, x = .ok a ∧ f a = .error e := by
  cases x <;> simp

@[simp] theorem mapError_eq_ok {a : α} : x.mapError g = .ok a ↔ x = .ok a := by
  cases x <;> simp

theorem mapError_eq_error {e : ε'} : x.mapError g = .error e ↔ ∃ e₀, x = .error e₀ ∧ g e₀ = e := by
  cases x <;> simp

end Except

/-- How a Go call ends without a value: it returns the error `e`, or it panics at run time (a
nil pointer dereference, an index out of range, a division by zero). A panic is no value of the
caller's: it unwinds every caller in turn, running their deferred calls. -/
inductive Fault (ε : Type)
  | error (e : ε)
  | panic
  deriving DecidableEq, Repr

/-- The caller's side of a call that may panic: `fmt.Errorf("...: %w", err)` wraps a returned
error, and a panic goes on unwinding. -/
def Fault.map {ε ε' : Type} (f : ε → ε') : Fault ε → Fault ε'
  | .error e => .error (f e)
  | .panic => .panic

@[simp] theorem Fault.map_error {ε ε' : Type} (f : ε → ε') (e : ε) :
    (Fault.error e).map f = .error (f e) := rfl

@[simp] theorem Fault.map_panic {ε ε' : Type} (f : ε → ε') : (Fault.panic : Fault ε).map f = .panic :=
  rfl

end OpenUKR
