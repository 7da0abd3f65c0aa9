import OpenUKR.Rotation.Manager
import OpenUKR.Webhook.Validator

/-!
# `KeyProfileReconciler.Reconcile`

One reconcile reads the profile, asks the rotation manager for the current key, writes the
status back when `needsStatusUpdate` says so, and schedules the next reconcile from
`NextRotation`. The manager and the status client are parameters: `reconcile` takes the
manager's answer and the outcome of `Status().Update`, and returns the result together with the
object it sent to the status subresource, if any.

`ctrl.Result{}` has `RequeueAfter = 0`, which controller-runtime reads as "do not requeue".
-/

namespace OpenUKR
namespace Controller

open Api Rotation

/-- `ctrl.Result`; only `RequeueAfter` is set by this reconciler. -/
structure Result where
  requeueAfter : Duration
  deriving DecidableEq

/-- The empty `ctrl.Result{}`. -/
def Result.done : Result := ⟨Duration.zero⟩

/-- The outcome of `r.Get`: `IgnoreNotFound` turns a missing profile into success. -/
inductive GetError (ε : Type)
  | notFound
  | other (e : ε)

/-- The error `Reconcile` returns, by the step that failed. -/
inductive ReconcileError (ε₀ ε₁ ε₂ : Type)
  /-- `r.Get` failed with anything but NotFound. -/
  | get (e : ε₀)
  /-- `"Failed to ensure key"`. -/
  | ensureKey (e : ε₁)
  /-- `"Failed to update KeyProfile status"`. -/
  | statusUpdate (e : ε₂)
  deriving DecidableEq

/-- `needsStatusUpdate(profile, res)`. -/
def needsStatusUpdate (profile : KeyProfile) (res : RotationResult) : Bool :=
  profile.status.currentKeyID ≠ res.keyID ||
    profile.status.currentKeyFingerprint ≠ res.fingerprint ||
    (match profile.status.lastRotation with
      | none => true
      | some t => !t.equal res.rotationTime) ||
    (match profile.status.nextRotation with
      | none => true
      | some t => !t.equal res.nextRotation) ||
    profile.status.phase = ""

/-- The profile as step 3 of `Reconcile` sets its status before `Status().Update`. -/
def withResult (profile : KeyProfile) (res : RotationResult) : KeyProfile :=
  { profile with status :=
      { phase := "Active", currentKeyID := res.keyID, currentKeyFingerprint := res.fingerprint,
        lastRotation := some res.rotationTime, nextRotation := some res.nextRotation } }

@[simp] theorem withResult_spec (profile : KeyProfile) (res : RotationResult) :
    (withResult profile res).spec = profile.spec := rfl

@[simp] theorem withResult_status (profile : KeyProfile) (res : RotationResult) :
    (withResult profile res).status =
      { phase := "Active", currentKeyID := res.keyID, currentKeyFingerprint := res.fingerprint,
        lastRotation := some res.rotationTime, nextRotation := some res.nextRotation } := rfl

/-- Step 4 of `Reconcile`, with `time.Now()` in `time.Until` read as `now`. -/
def scheduleRequeue (now : Time) (res : RotationResult) : Result :=
  if !res.nextRotation.isZero then
    let requeueAfter := Time.until now res.nextRotation
    if requeueAfter < Duration.zero then ⟨Duration.second⟩ else ⟨requeueAfter⟩
  else Result.done

/-- `Reconcile(ctx, req)`: the result, and the object sent to `Status().Update` if one was. -/
def reconcile {ε₀ ε₁ ε₂ : Type} (get : Except (GetError ε₀) KeyProfile)
    (ensureKey : KeyProfile → Except ε₁ RotationResult)
    (updateStatus : KeyProfile → Except ε₂ Unit) (now : Time) :
    Except (ReconcileError ε₀ ε₁ ε₂) Result × Option KeyProfile :=
  match get with
  | .error .notFound => (.ok Result.done, none)
  | .error (.other e) => (.error (.get e), none)
  | .ok profile =>
    match ensureKey profile with
    | .error e => (.error (.ensureKey e), none)
    | .ok res =>
      if needsStatusUpdate profile res then
        let updated := withResult profile res
        match updateStatus updated with
        | .error e => (.error (.statusUpdate e), some updated)
        | .ok () => (.ok (scheduleRequeue now res), some updated)
      else (.ok (scheduleRequeue now res), none)

/-! ## Scheduling -/

/-- With a non-zero `NextRotation`, the requeue delay is positive before it, one second after
it, and exactly zero at it: `time.Until` is zero there and the clamp only catches `< 0`. -/
theorem scheduleRequeue_requeueAfter (now : Time) (res : RotationResult)
    (hnz : res.nextRotation.ns ≠ 0) :
    ((scheduleRequeue now res).requeueAfter.ns = 0 ↔ now = res.nextRotation) ∧
      (now.ns < res.nextRotation.ns → 0 < (scheduleRequeue now res).requeueAfter.ns) ∧
      (res.nextRotation.ns < now.ns → (scheduleRequeue now res).requeueAfter = Duration.second) := by
  have hz : res.nextRotation.isZero = false := by simpa [Time.isZero] using hnz
  simp only [scheduleRequeue, hz, Bool.not_false, if_true, Duration.lt_def, Duration.zero_ns,
    Time.until, Time.sub, Duration.saturate]
  refine ⟨?_, fun h => ?_, fun h => ?_⟩
  · split_ifs <;> simp only [Duration.second_ns] <;>
      constructor <;> intro h <;> first | omega | (subst h; omega) | exact Time.ext_ns (by omega)
  · split_ifs <;> simp only [Duration.second_ns] <;> omega
  · rw [if_pos (by omega)]

/-- A successful reconcile of a profile it read is the requeue step 4 schedules from the
manager's result, whichever way step 3 went. -/
theorem reconcile_eq_ok {ε₀ ε₁ ε₂ : Type} {profile : KeyProfile}
    {ensureKey : KeyProfile → Except ε₁ RotationResult} {updateStatus : KeyProfile → Except ε₂ Unit}
    {now : Time} {r : Result}
    (h : (reconcile (.ok profile : Except (GetError ε₀) KeyProfile) ensureKey updateStatus now).1 =
      .ok r) :
    ∃ res, ensureKey profile = .ok res ∧ r = scheduleRequeue now res := by
  simp only [reconcile] at h
  rcases hres : ensureKey profile with e | res
  · simp [hres] at h
  · refine ⟨res, rfl, ?_⟩
    simp only [hres] at h
    split_ifs at h
    · split at h <;> simp_all
    · simp_all

/-- Scheduling at the clock reading `NextRotation` itself gives the empty result. -/
theorem scheduleRequeue_at_nextRotation (res : RotationResult) :
    scheduleRequeue res.nextRotation res = Result.done := by
  simp only [scheduleRequeue, Time.until, Time.sub, sub_self, Duration.lt_def, Duration.zero_ns]
  split_ifs with _ h
  · simp [Duration.saturate] at h
  · exact congrArg Result.mk (Duration.ext_ns (by simp [Duration.saturate]))
  · rfl

/-- At `LastRotation + interval` no rotation is due: `After` is strict. -/
theorem checkRotationNeeded_at_due_instant {profile : KeyProfile} {L : Time}
    (hkey : profile.status.currentKeyID ≠ "") (hL : profile.status.lastRotation = some L)
    (hL0 : L.ns ≠ 0) (hint : profile.spec.rotation.interval ≠ Duration.zero) :
    (checkRotationNeeded profile (L.add profile.spec.rotation.interval)).1 = false := by
  simp [checkRotationNeeded, hL, hkey, hL0, hint, Time.isZero, Time.after]

/-- At the instant the rotation of a profile with a current key falls due, read by both clocks,
`EnsureKey` reports the current key with that instant as `NextRotation`, and every successful
`Reconcile` returns `RequeueAfter = 0`, whatever the collaborators and the status client do:
`checkRotationNeeded` uses a strict `After`, and the requeue clamp only catches `< 0`. -/
theorem reconcile_not_requeued_at_due_instant {ε ε₀ ε₂ : Type} (c : Collaborators ε)
    (updateStatus : KeyProfile → Except ε₂ Unit) (profile : KeyProfile) (L : Time)
    (hkey : profile.status.currentKeyID ≠ "") (hL : profile.status.lastRotation = some L)
    (hL0 : L.ns ≠ 0) (hint : profile.spec.rotation.interval ≠ Duration.zero) :
    let t := L.add profile.spec.rotation.interval
    (ensureKey c ⟨t, t⟩ profile).result = .ok (currentResult profile) ∧
      (currentResult profile).nextRotation = t ∧
      ∀ r, (reconcile (.ok profile : Except (GetError ε₀) KeyProfile)
        (fun p => (ensureKey c ⟨t, t⟩ p).result) updateStatus t).1 = .ok r → r = ⟨Duration.zero⟩ := by
  intro t
  have hens : (ensureKey c ⟨t, t⟩ profile).result = .ok (currentResult profile) :=
    congrArg Run.result (@ensureKey_of_not_needed _ c ⟨t, t⟩ profile
      (checkRotationNeeded_at_due_instant hkey hL hL0 hint))
  have hnext : (currentResult profile).nextRotation = t := by
    simp [currentResult, calculateNextRotation, hL, hint, t]
  refine ⟨hens, hnext, fun r hr => ?_⟩
  obtain ⟨res, hres, rfl⟩ := reconcile_eq_ok hr
  cases hens.symm.trans hres
  rw [← hnext, scheduleRequeue_at_nextRotation]
  rfl

/-- A profile the webhook admits, whose key `ec-P-256-20251107-0a1b2c` was last rotated at
2025-11-07T16:00:00Z with a 15 minute interval, and whose status is up to date. -/
def dueProfile : KeyProfile where
  name := "signing"
  «namespace» := "default"
  uid := "uid-signing"
  spec :=
    { serviceAccountRef := ⟨"default"⟩
      keySpec := ⟨"EC", GoMap.ofList [("curve", "P-256")], false⟩
      rotation := ⟨⟨900000000000, by omega, by omega⟩, Validation.minGracePeriod⟩
      output := ⟨"signing-key", "split-pem", ∅⟩
      publish := [] }
  status :=
    { phase := "Active", currentKeyID := "ec-P-256-20251107-0a1b2c",
      currentKeyFingerprint := "SHA256:AAAA",
      lastRotation := some ⟨63898128000000000000⟩,
      nextRotation := some ⟨63898128900000000000⟩ }

/-- At 2025-11-07T16:15:00Z the admitted `dueProfile` is reconciled successfully, and only
with `RequeueAfter = 0`. -/
theorem dueProfile_not_requeued :
    Webhook.validateKeyProfile dueProfile = .ok [] ∧
      ∀ r, (reconcile (.ok dueProfile : Except (GetError Empty) KeyProfile)
          (fun p => (ensureKey Collaborators.unavailable
            ⟨⟨63898128900000000000⟩, ⟨63898128900000000000⟩⟩ p).result)
          (fun _ => (.ok () : Except Unit Unit)) ⟨63898128900000000000⟩).1 = .ok r ↔
        r = ⟨Duration.zero⟩ :=
  ⟨by decide, fun r => ⟨(reconcile_not_requeued_at_due_instant _ _ dueProfile
    ⟨63898128000000000000⟩ (by decide) rfl (by decide) (by decide)).2.2 r, fun h => h ▸ rfl⟩⟩

end Controller
end OpenUKR
