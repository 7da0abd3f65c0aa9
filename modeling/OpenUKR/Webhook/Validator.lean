import OpenUKR.Validation.Policy
import OpenUKR.Crypto.Generator

/-!
# The `KeyProfile` admission webhook

`validateKeyProfile` runs the three shared rule sets in order (namespace, rotation policy, key
spec) and collects warnings: those of `ValidateKeySpec`, then one per HTTP publish target that
skips TLS verification. `Default` fills the output format.

The rotation-policy step inherits the `int64` product of `ValidateRotationPolicy`: a grace
period of 876000h (100 years of 365 days) wraps `3 · gracePeriod` below zero, and the webhook
then admits a negative interval (`validateKeyProfile_admits_negative_interval`).
-/

namespace OpenUKR
namespace Webhook

open Api Validation Crypto

/-- The errors of `validateKeyProfile`: `"validation failed: %w"` around either rule set. -/
inductive AdmissionError
  | policy (e : ValidationError)
  | keySpec (e : KeySpecError)
  deriving DecidableEq

/-- `KeyProfileCustomDefaulter.Default`, on the fields this model keeps. -/
def default (kp : KeyProfile) : KeyProfile :=
  if kp.spec.output.format = "" then
    { kp with spec.output.format := "split-pem" }
  else kp

/-- The defaulting webhook changes only the spec. -/
theorem default_eq_with_spec (kp : KeyProfile) : ∃ spec, default kp = { kp with spec } := by
  unfold default
  split_ifs
  · exact ⟨_, rfl⟩
  · exact ⟨kp.spec, rfl⟩

/-- The defaulting webhook leaves a profile that names a format as it is. -/
theorem default_of_format_ne_empty {kp : KeyProfile} (h : kp.spec.output.format ≠ "") :
    default kp = kp :=
  if_neg h

/-- The warning for the `i`-th publish target. -/
def insecureTargetWarning (i : Nat) : String :=
  "publish[" ++ toString i ++ "]: insecureSkipVerify=true disables TLS verification — " ++
    "not recommended for production"

/-- The `[SEC:T-2]` loop: one warning per HTTP target with `insecureSkipVerify`, in order. -/
def tlsWarnings (publish : List PublishTarget) : List String :=
  publish.enum.filterMap fun (i, pub) =>
    if pub.type = "http" ∧ (pub.tls.map (·.insecureSkipVerify)).getD false = true then
      some (insecureTargetWarning i)
    else none

/-- `validateKeyProfile(kp)`: the warnings, or the first failing rule. -/
def validateKeyProfile (kp : KeyProfile) : Except AdmissionError (List String) := do
  (validateNamespaceMatch kp.namespace kp.spec.serviceAccountRef.namespace).mapError .policy
  (validateRotationPolicy kp.spec.rotation.interval kp.spec.rotation.gracePeriod).mapError .policy
  let warnings ← (validateKeySpec kp.spec.keySpec.algorithm kp.spec.keySpec.params
    kp.spec.keySpec.allowLegacyKeySize).mapError .keySpec
  pure (warnings ++ tlsWarnings kp.spec.publish)

theorem validateNamespaceMatch_eq_ok_iff (o s : String) :
    validateNamespaceMatch o s = .ok () ↔ o = s := by
  unfold validateNamespaceMatch; split_ifs <;> simp_all

/-- The webhook admits a profile exactly when each rule set does, and returns the key-spec
warnings followed by the TLS warnings. -/
theorem validateKeyProfile_eq_ok_iff (kp : KeyProfile) (ws : List String) :
    validateKeyProfile kp = .ok ws ↔
      kp.namespace = kp.spec.serviceAccountRef.namespace ∧
        validateRotationPolicy kp.spec.rotation.interval kp.spec.rotation.gracePeriod = .ok () ∧
        ∃ w, validateKeySpec kp.spec.keySpec.algorithm kp.spec.keySpec.params
            kp.spec.keySpec.allowLegacyKeySize = .ok w ∧ ws = w ++ tlsWarnings kp.spec.publish := by
  simp only [validateKeyProfile, Except.bind_eq_ok, Except.mapError_eq_ok, Except.pure_eq_ok,
    Except.ok.injEq, ← validateNamespaceMatch_eq_ok_iff]
  constructor
  · rintro ⟨⟨⟩, hn, ⟨⟩, hp, w, hw, rfl⟩
    exact ⟨hn, hp, w, hw, rfl⟩
  · rintro ⟨hn, hp, w, hw, rfl⟩
    exact ⟨(), hn, (), hp, w, hw, rfl⟩

/-- The webhook reads only the namespace and the spec. -/
theorem validateKeyProfile_congr {p q : KeyProfile} (hns : q.namespace = p.namespace)
    (hspec : q.spec = p.spec) : validateKeyProfile q = validateKeyProfile p := by
  simp only [validateKeyProfile, hns, hspec]

/-- Below the overflow point the webhook enforces the documented policy. -/
theorem validateKeyProfile_policy_of_no_overflow {kp : KeyProfile} {ws : List String}
    (hfit : 3 * kp.spec.rotation.gracePeriod.ns < 2 ^ 63) (h : validateKeyProfile kp = .ok ws) :
    300000000000 ≤ kp.spec.rotation.gracePeriod.ns ∧
      3 * kp.spec.rotation.gracePeriod.ns ≤ kp.spec.rotation.interval.ns ∧
      900000000000 ≤ kp.spec.rotation.interval.ns :=
  validateRotationPolicy_ok_of_no_overflow hfit ((validateKeyProfile_eq_ok_iff kp ws).1 h).2.1

/-- Past the overflow point, every interval above `3 · gracePeriod - 2^64` passes the policy
step: whether the profile is admitted depends only on the namespace and the key spec. -/
theorem validateKeyProfile_ok_of_overflow {kp : KeyProfile} {w : List String}
    (hns : kp.namespace = kp.spec.serviceAccountRef.namespace)
    (hover : 2 ^ 63 ≤ 3 * kp.spec.rotation.gracePeriod.ns)
    (hi : 3 * kp.spec.rotation.gracePeriod.ns - 2 ^ 64 ≤ kp.spec.rotation.interval.ns)
    (hk : validateKeySpec kp.spec.keySpec.algorithm kp.spec.keySpec.params
      kp.spec.keySpec.allowLegacyKeySize = .ok w) :
    validateKeyProfile kp = .ok (w ++ tlsWarnings kp.spec.publish) :=
  (validateKeyProfile_eq_ok_iff _ _).2
    ⟨hns, validateRotationPolicy_ok_of_overflow hover hi, w, hk, rfl⟩

/-- A grace period of 876000h (100 years of 365 days). -/
def gracePeriod100y : Duration := ⟨3153600000000000000, by omega, by omega⟩

/-- An interval of minus one hour. -/
def intervalMinusOneHour : Duration := ⟨-3600000000000, by omega, by omega⟩

/-- An EC P-256 profile whose rotation policy is `interval: -1h`, `gracePeriod: 876000h`. -/
def overflowProfile : KeyProfile where
  name := "overflow"
  «namespace» := "default"
  uid := "uid-overflow"
  spec :=
    { serviceAccountRef := ⟨"default"⟩
      keySpec := ⟨"EC", GoMap.ofList [("curve", "P-256")], false⟩
      rotation := ⟨intervalMinusOneHour, gracePeriod100y⟩
      output := ⟨"overflow-key", "split-pem", ∅⟩
      publish := [] }
  status := KeyProfileStatus.empty

/-- The webhook admits `overflowProfile`, whose interval is negative and so below three grace
periods over the integers: `3 · 876000h` wraps to about `-285` years in `int64`. -/
theorem validateKeyProfile_admits_negative_interval :
    validateKeyProfile overflowProfile = .ok [] ∧
      overflowProfile.spec.rotation.interval.ns < 3 * overflowProfile.spec.rotation.gracePeriod.ns ∧
      overflowProfile.spec.rotation.interval.ns < 0 := by
  have hover : 2 ^ 63 ≤ 3 * overflowProfile.spec.rotation.gracePeriod.ns := by decide
  have hk : validateKeySpec "EC" (GoMap.ofList [("curve", "P-256")]) false = .ok [] := by decide
  exact ⟨validateKeyProfile_ok_of_overflow rfl hover (by decide) hk, by decide, by decide⟩

/-! ## Admission guarantees generation -/

/-- Admission and generation agree on one rule set. `ValidateKeySpec` accepts exactly the
admissible specs and warns exactly at legacy RSA-2048; on an admissible spec `Generate` fails
only in the random source and returns the requested algorithm; with a reliable random source it
succeeds exactly on the admissible specs; so every profile the webhook admits is generatable
with the options `EnsureKey` passes. -/
theorem admission_agrees_with_generation :
    (∀ a p l, (∃ w, validateKeySpec a p l = .ok w) ↔ KeySpecAdmissible a p l) ∧
    (∀ a p l, warningsOf (validateKeySpec a p l) ≠ [] ↔ LegacyRSA a p ∧ l = true) ∧
    (∀ (lib : CryptoLib) (E : Entropy) (opts : GenerateOptions),
      KeySpecAdmissible opts.algorithm opts.params opts.allowLegacyKeySize →
        (∀ kp, generate lib E opts = .ok kp → kp.algorithm = opts.algorithm) ∧
        ∀ e, generate lib E opts = .error e → e.IsRandomSourceFailure) ∧
    (∀ (lib : CryptoLib) (E : Entropy) (opts : GenerateOptions), E.Reliable →
      ((∃ kp, generate lib E opts = .ok kp) ↔
        KeySpecAdmissible opts.algorithm opts.params opts.allowLegacyKeySize)) ∧
    (∀ (lib : CryptoLib) (E : Entropy) (profile : KeyProfile) (ws : List String),
      validateKeyProfile profile = .ok ws → E.Reliable →
        ∃ kp, generate lib E (.ofKeySpec profile.spec.keySpec) = .ok kp ∧
          kp.algorithm = profile.spec.keySpec.algorithm) := by
  have accepts : ∀ a p l, (∃ w, validateKeySpec a p l = .ok w) ↔ KeySpecAdmissible a p l :=
    fun a p l => ⟨fun ⟨w, hw⟩ => ((validateKeySpec_eq_ok_iff _ _ _ w).1 hw).1,
      fun hadm => ⟨_, (validateKeySpec_eq_ok_iff _ _ _ _).2 ⟨hadm, rfl⟩⟩⟩
  have generates : ∀ (lib : CryptoLib) (E : Entropy) (opts : GenerateOptions),
      KeySpecAdmissible opts.algorithm opts.params opts.allowLegacyKeySize →
        (∀ kp, generate lib E opts = .ok kp → kp.algorithm = opts.algorithm) ∧
        (∀ e, generate lib E opts = .error e → e.IsRandomSourceFailure) ∧
        (E.Reliable → ∃ kp, generate lib E opts = .ok kp) := fun lib E opts hadm =>
    have ⟨_, hw⟩ := (accepts _ _ _).2 hadm
    generate_ok_of_validate lib E opts hw
  refine ⟨accepts, warningsOf_validateKeySpec_ne_nil_iff,
    fun lib E opts hadm => ⟨(generates lib E opts hadm).1, (generates lib E opts hadm).2.1⟩,
    fun lib E opts hE => ⟨fun ⟨_, hkp⟩ => (accepts _ _ _).1 (validateKeySpec_ok_of_generate lib E opts hkp),
      fun hadm => (generates lib E opts hadm).2.2 hE⟩,
    fun lib E profile ws h hE => ?_⟩
  obtain ⟨-, -, w, hw, -⟩ := (validateKeyProfile_eq_ok_iff profile ws).1 h
  have hadm := (accepts _ _ _).1 ⟨w, hw⟩
  obtain ⟨kp, hkp⟩ := (generates lib E (.ofKeySpec profile.spec.keySpec) hadm).2.2 hE
  exact ⟨kp, hkp, (generates lib E _ hadm).1 kp hkp⟩

end Webhook
end OpenUKR
