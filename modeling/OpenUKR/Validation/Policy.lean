import OpenUKR.Go.Time

/-!
# `pkg/validation` — namespace match and rotation policy

The two admission rules shared by the webhook. `ValidateRotationPolicy` computes the bound
`time.Duration(MinIntervalToGraceRatio) * gracePeriod` in `int64` arithmetic, so the bound it
compares against is the wrapped product: exact while `gracePeriod ≤ ⌊(2^63 - 1) / 3⌋`, and
negative once the product passes `2^63`.
-/

namespace OpenUKR
namespace Validation

/-- The errors of this package, one constructor per `fmt.Errorf` site, carrying the values the
format string prints. -/
inductive ValidationError
  /-- `"serviceAccountRef.namespace %q must match KeyProfile namespace %q"`. -/
  | namespaceMismatch (specNamespace objectNamespace : String)
  /-- `"gracePeriod %s is below minimum %s (NIST SP 800-57)"`. -/
  | gracePeriodBelowMinimum (gracePeriod minGracePeriod : Duration)
  /-- `"interval %s must be at least %d× gracePeriod (%s), minimum: %s"`. -/
  | intervalBelowMinimum (interval : Duration) (ratio : Nat) (gracePeriod minInterval : Duration)
  deriving DecidableEq

/-- `MinGracePeriod = 5 * time.Minute`. -/
def minGracePeriod : Duration := ⟨300000000000, by omega, by omega⟩

/-- `MinIntervalToGraceRatio = 3`. -/
def minIntervalToGraceRatio : Nat := 3

/-- `ValidateNamespaceMatch(objectNamespace, specNamespace)`. -/
def validateNamespaceMatch (objectNamespace specNamespace : String) : Except ValidationError Unit :=
  if objectNamespace ≠ specNamespace then .error (.namespaceMismatch specNamespace objectNamespace)
  else .ok ()

/-- `ValidateRotationPolicy(interval, gracePeriod)`. -/
def validateRotationPolicy (interval gracePeriod : Duration) : Except ValidationError Unit :=
  if gracePeriod < minGracePeriod then
    .error (.gracePeriodBelowMinimum gracePeriod minGracePeriod)
  else
    let minInterval := Duration.wrap minIntervalToGraceRatio * gracePeriod
    if interval < minInterval then
      .error (.intervalBelowMinimum interval minIntervalToGraceRatio gracePeriod minInterval)
    else .ok ()

@[simp] theorem minGracePeriod_ns : minGracePeriod.ns = 300000000000 := rfl

/-- The bound `ValidateRotationPolicy` compares the interval with is `3 · gracePeriod` wrapped
into `int64`. -/
theorem minInterval_ns (g : Duration) :
    (Duration.wrap minIntervalToGraceRatio * g).ns = (Duration.wrap (3 * g.ns)).ns := rfl

/-- What `ValidateRotationPolicy` accepts, over the integers: the grace-period floor, and the
interval at least the wrapped product. -/
theorem validateRotationPolicy_eq_ok_iff (interval g : Duration) :
    validateRotationPolicy interval g = .ok () ↔
      300000000000 ≤ g.ns ∧ (Duration.wrap (3 * g.ns)).ns ≤ interval.ns := by
  unfold validateRotationPolicy
  simp only [Duration.lt_def, minInterval_ns, minGracePeriod_ns]
  split_ifs <;> simp <;> omega

/-- While `3 · gracePeriod` fits in `int64`, the check is the documented rule: grace period at
least five minutes and interval at least three grace periods, hence at least fifteen minutes. -/
theorem validateRotationPolicy_ok_of_no_overflow {interval g : Duration}
    (hfit : 3 * g.ns < 2 ^ 63) (h : validateRotationPolicy interval g = .ok ()) :
    300000000000 ≤ g.ns ∧ 3 * g.ns ≤ interval.ns ∧ 900000000000 ≤ interval.ns := by
  rw [validateRotationPolicy_eq_ok_iff, Duration.wrap_ns_of_mem (by omega) hfit] at h
  omega

/-- Past the overflow point the bound is `3 · gracePeriod - 2^64 < 0`: every interval at
least that negative bound is accepted, negative intervals included. -/
theorem validateRotationPolicy_ok_of_overflow {interval g : Duration}
    (hover : 2 ^ 63 ≤ 3 * g.ns) (hi : 3 * g.ns - 2 ^ 64 ≤ interval.ns) :
    validateRotationPolicy interval g = .ok () := by
  rw [validateRotationPolicy_eq_ok_iff, Duration.wrap_ns_of_ge hover (by have := g.lt_max; omega)]
  omega

end Validation
end OpenUKR
