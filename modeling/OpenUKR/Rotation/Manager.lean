import OpenUKR.Crypto.Generator

/-!
# `rotation.manager` — the rotation decision and `EnsureKey`

`EnsureKey` is modelled as a function returning what it did: the collaborator calls in order,
the metric updates, and the result. The collaborators (`KeyGenerator.Generate`,
`crypto.ComputeFingerprint`, `Publisher.PublishAll`, `SecretWriter.Write`) are parameters, so
the statements below hold for every outcome of each call: a value, an error, or a panic.
`defer kp.Wipe()` appends the wipe after every call the body makes once generation has
succeeded, and when `Wipe` panics (a nil `*rsa.PrivateKey`) its panic takes the place of what the
body returned (`deferWipe`). A panic counts no metric and returns nothing: `.panic` stands for
it in the result. The values of the latency histogram are left out (a float of elapsed time);
which observations are made is kept.
-/

namespace OpenUKR
namespace Rotation

open Api Crypto

/-- `RotationResult`. -/
structure RotationResult where
  rotated : Bool
  keyID : String
  rotationTime : Time
  nextRotation : Time
  fingerprint : String
  deriving DecidableEq

/-- The `reason` string of `checkRotationNeeded`, by case. -/
inductive RotationReason
  /-- `"initial key generation"`. -/
  | initial
  /-- `"rotation disabled (interval=0)"`. -/
  | disabled
  /-- `"interval %s expired (due: %s)"`. -/
  | expired (interval : Duration) (due : Time)
  /-- `""`. -/
  | notDue
  deriving DecidableEq

/-- `checkRotationNeeded(profile)`, with `time.Now()` read as `now`. -/
def checkRotationNeeded (profile : KeyProfile) (now : Time) : Bool × RotationReason :=
  match profile.status.lastRotation with
  | none => (true, .initial)
  | some last =>
    if profile.status.currentKeyID = "" ∨ last.isZero then (true, .initial)
    else
      let interval := profile.spec.rotation.interval
      if interval = Duration.zero then (false, .disabled)
      else
        let nextRotation := last.add interval
        if now.after nextRotation then (true, .expired interval nextRotation)
        else (false, .notDue)

/-- `calculateNextRotation(lastRot, interval)`: the zero time means "forever". -/
def calculateNextRotation (lastRot : Time) (interval : Duration) : Time :=
  if interval = Duration.zero then Time.zero else lastRot.add interval

/-- A collaborator call of `EnsureKey`, with its arguments. -/
inductive Call
  | generate (opts : GenerateOptions)
  | publishAll (targets : List PublishTarget) (kp : KeyPair)
  | write (profile : KeyProfile) (kp : KeyPair)
  | wipe (kp : KeyPair)
  deriving DecidableEq

/-- A metric update (`pkg/metrics`). -/
inductive Metric
  /-- `KeyGenerationDuration.WithLabelValues(algorithm).Observe(...)`. -/
  | keyGenerationDuration (algorithm : String)
  /-- `RotationErrorsTotal.WithLabelValues(reason, namespace).Inc()`. -/
  | rotationError (reason «namespace» : String)
  /-- `RotationsTotal.WithLabelValues(algorithm, namespace).Inc()`. -/
  | rotation (algorithm «namespace» : String)
  deriving DecidableEq

/-- The errors of `EnsureKey`, each wrapping a collaborator's error, and the panic that ends it
without a result. -/
inductive RotationError (ε : Type)
  /-- `"key generation failed: %w"`. -/
  | keyGeneration (e : ε)
  /-- `"fingerprint computation failed: %w"`. -/
  | fingerprint (e : ε)
  /-- `"failed to publish public key: %w"`. -/
  | publish (e : ε)
  /-- `"failed to persist key material: %w"`. -/
  | persist (e : ε)
  /-- No result: a collaborator or the deferred `Wipe` panicked, and the panic unwinds into the
  caller. -/
  | panic
  deriving DecidableEq

/-- What `EnsureKey` returns for a call that failed: its error wrapped, or the panic. -/
def RotationError.ofFault {ε : Type} (wrap : ε → RotationError ε) : Fault ε → RotationError ε
  | .error e => wrap e
  | .panic => .panic

/-- `RotationErrorsTotal.WithLabelValues(reason, namespace).Inc()` after a call that failed; a
panic skips it. -/
def errorMetric {ε : Type} (reason «namespace» : String) : Fault ε → List Metric
  | .error _ => [.rotationError reason «namespace»]
  | .panic => []

/-- The collaborators of `manager`, and `crypto.ComputeFingerprint`, as functions of their
arguments; `ε` is the error type they share, and each call may also panic. -/
structure Collaborators (ε : Type) where
  generate : GenerateOptions → Except (Fault ε) KeyPair
  computeFingerprint : Option PublicKey → Except (Fault ε) String
  publishAll : List PublishTarget → KeyPair → Except (Fault ε) Unit
  write : KeyProfile → KeyPair → Except (Fault ε) Unit

/-- Collaborators whose every call fails. -/
def Collaborators.unavailable : Collaborators Unit :=
  ⟨fun _ => .error (.error ()), fun _ => .error (.error ()), fun _ _ => .error (.error ()),
    fun _ _ => .error (.error ())⟩

/-- The two `time.Now()` readings of one `EnsureKey`: in `checkRotationNeeded`, and after the
Secret is written. -/
structure Clock where
  check : Time
  rotated : Time

/-- What one `EnsureKey` did. -/
structure Run (ε : Type) where
  calls : List Call
  metrics : List Metric
  result : Except (RotationError ε) RotationResult

variable {ε : Type}

/-- The body of `EnsureKey` after `defer kp.Wipe()`: fingerprint, publish, persist. -/
def ensureKeyWithKey (c : Collaborators ε) (now : Time) (profile : KeyProfile) (kp : KeyPair) :
    List Call × List Metric × Except (RotationError ε) RotationResult :=
  match c.computeFingerprint kp.publicKey with
  | .error f => ([], [], .error (.ofFault .fingerprint f))
  | .ok fingerprint =>
    match c.publishAll profile.spec.publish kp with
    | .error f =>
      ([.publishAll profile.spec.publish kp], errorMetric "publish" profile.namespace f,
        .error (.ofFault .publish f))
    | .ok () =>
      match c.write profile kp with
      | .error f =>
        ([.publishAll profile.spec.publish kp, .write profile kp],
          errorMetric "persist" profile.namespace f, .error (.ofFault .persist f))
      | .ok () =>
        ([.publishAll profile.spec.publish kp, .write profile kp],
          [.rotation kp.algorithm profile.namespace],
          .ok { rotated := true, keyID := kp.keyID, rotationTime := now,
                nextRotation := calculateNextRotation now profile.spec.rotation.interval,
                fingerprint })

/-- The result `EnsureKey` returns when no rotation is needed: the key the status names, with
the next rotation computed from `LastRotation`. `LastRotation` is non-nil there, since a nil one
makes `checkRotationNeeded` report a rotation. -/
def currentResult (profile : KeyProfile) : RotationResult :=
  let last := profile.status.lastRotation.getD Time.zero
  { rotated := false, keyID := profile.status.currentKeyID, rotationTime := last,
    nextRotation := calculateNextRotation last profile.spec.rotation.interval,
    fingerprint := profile.status.currentKeyFingerprint }

/-- `defer kp.Wipe()`: the deferred call runs once the body has returned or panicked, and a panic
in it takes the place of what the body returned. -/
def deferWipe (kp : KeyPair) (result : Except (RotationError ε) RotationResult) :
    Except (RotationError ε) RotationResult :=
  match wipe (some kp) with
  | .error _ => .error .panic
  | .ok _ => result

/-- `manager.EnsureKey(ctx, profile)`. A panic in `Generate` skips the histogram too. -/
def ensureKey (c : Collaborators ε) (clock : Clock) (profile : KeyProfile) : Run ε :=
  if !(checkRotationNeeded profile clock.check).1 then ⟨[], [], .ok (currentResult profile)⟩
  else
    let opts := GenerateOptions.ofKeySpec profile.spec.keySpec
    match c.generate opts with
    | .error .panic => ⟨[.generate opts], [], .error .panic⟩
    | .error (.error e) =>
      ⟨[.generate opts], [.keyGenerationDuration opts.algorithm,
        .rotationError "keygen" profile.namespace], .error (.keyGeneration e)⟩
    | .ok kp =>
      let (calls, metrics, result) := ensureKeyWithKey c clock.rotated profile kp
      ⟨.generate opts :: calls ++ [.wipe kp], .keyGenerationDuration opts.algorithm :: metrics,
        deferWipe kp result⟩

theorem deferWipe_of_ne_nil_rsa {kp : KeyPair} (h : kp.privateKey ≠ some (.rsa none))
    (result : Except (RotationError ε) RotationResult) : deferWipe kp result = result := by
  obtain ⟨w, hw⟩ := wipe_ok_of_ne_nil_rsa h
  simp only [deferWipe, hw]

theorem deferWipe_error (kp : KeyPair) (e : RotationError ε) :
    ∃ e', deferWipe kp (.error e) = .error e' := by
  unfold deferWipe
  split <;> exact ⟨_, rfl⟩

/-- The deferred `Wipe` panics exactly on a nil `*rsa.PrivateKey`, and then `EnsureKey` panics. -/
theorem deferWipe_of_nil_rsa {kp : KeyPair} (h : kp.privateKey = some (.rsa none))
    (result : Except (RotationError ε) RotationResult) : deferWipe kp result = .error .panic := by
  simp only [deferWipe, wipe_some, h, wipePrivateKey, Except.map]

theorem deferWipe_eq_ok {kp : KeyPair} {result : Except (RotationError ε) RotationResult}
    {r : RotationResult} (h : deferWipe kp result = .ok r) :
    result = .ok r ∧ kp.privateKey ≠ some (.rsa none) := by
  by_cases hnil : kp.privateKey = some (.rsa none)
  · cases (deferWipe_of_nil_rsa hnil result).symm.trans h
  · exact ⟨(deferWipe_of_ne_nil_rsa hnil result).symm.trans h, hnil⟩

/-- `checkRotationNeeded` reads only the key ID, `LastRotation` and the interval. -/
theorem checkRotationNeeded_congr {p q : KeyProfile}
    (hid : q.status.currentKeyID = p.status.currentKeyID)
    (hlast : q.status.lastRotation = p.status.lastRotation)
    (hint : q.spec.rotation.interval = p.spec.rotation.interval) :
    checkRotationNeeded q = checkRotationNeeded p := by
  funext now
  simp only [checkRotationNeeded, hid, hlast, hint]

/-- When no rotation is due, `EnsureKey` returns `currentResult` and touches nothing. -/
theorem ensureKey_of_not_needed {c : Collaborators ε} {clock : Clock} {profile : KeyProfile}
    (h : (checkRotationNeeded profile clock.check).1 = false) :
    ensureKey c clock profile = ⟨[], [], .ok (currentResult profile)⟩ := by
  simp only [ensureKey, h, Bool.not_false, if_true]

/-! ## The publish-then-persist protocol -/

/-- The chain of collaborator calls a rotation makes with the key pair `kp`. -/
def protocolCalls (profile : KeyProfile) (kp : KeyPair) : List Call :=
  [.generate (.ofKeySpec profile.spec.keySpec), .publishAll profile.spec.publish kp,
    .write profile kp]

section Protocol

variable (c : Collaborators ε) (clock : Clock) (profile : KeyProfile)

/-- The body after generation makes the calls of the chain past `Generate` up to and including
the first failing one; a failing fingerprint stops it before `PublishAll`. -/
theorem ensureKeyWithKey_calls (now : Time) (kp : KeyPair) :
    ∃ n, 1 ≤ n ∧ n ≤ 3 ∧
      (ensureKeyWithKey c now profile kp).1 = ((protocolCalls profile kp).take n).tail ∧
      (2 ≤ n ↔ ∃ fp, c.computeFingerprint kp.publicKey = .ok fp) ∧
      (n = 3 ↔ (∃ fp, c.computeFingerprint kp.publicKey = .ok fp) ∧
        c.publishAll profile.spec.publish kp = .ok ()) := by
  rcases hf : c.computeFingerprint kp.publicKey with e | fp
  · exact ⟨1, by simp [ensureKeyWithKey, hf, protocolCalls]⟩
  · rcases hp : c.publishAll profile.spec.publish kp with e | ⟨⟩
    · exact ⟨2, by simp [ensureKeyWithKey, hf, hp, protocolCalls]⟩
    · refine ⟨3, ?_⟩
      rcases hw : c.write profile kp with e | ⟨⟩ <;>
        simp [ensureKeyWithKey, hf, hp, hw, protocolCalls]

/-- The body succeeds exactly when fingerprint, publish and persist all do, and then reports
the new key and its fingerprint. -/
theorem ensureKeyWithKey_result_eq_ok (now : Time) (kp : KeyPair) (r : RotationResult) :
    (ensureKeyWithKey c now profile kp).2.2 = .ok r ↔
      ∃ fp, c.computeFingerprint kp.publicKey = .ok fp ∧
        c.publishAll profile.spec.publish kp = .ok () ∧ c.write profile kp = .ok () ∧
        r = { rotated := true, keyID := kp.keyID, rotationTime := now,
              nextRotation := calculateNextRotation now profile.spec.rotation.interval,
              fingerprint := fp } := by
  rcases hf : c.computeFingerprint kp.publicKey with e | fp
  · simp [ensureKeyWithKey, hf]
  · rcases hp : c.publishAll profile.spec.publish kp with e | ⟨⟩
    · simp [ensureKeyWithKey, hf, hp]
    · rcases hw : c.write profile kp with e | ⟨⟩ <;>
        simp [ensureKeyWithKey, hf, hp, hw, eq_comm]

/-- No rotation due: no calls, no metrics, the current key reported. -/
theorem ensureKey_of_not_due (h : (checkRotationNeeded profile clock.check).1 = false) :
    (ensureKey c clock profile).calls = [] ∧ (ensureKey c clock profile).metrics = [] ∧
      ∃ r, (ensureKey c clock profile).result = .ok r ∧ r.rotated = false := by
  rw [ensureKey_of_not_needed h]
  exact ⟨rfl, rfl, _, rfl, rfl⟩

/-- Failed generation: the one call, no wipe, the error or the panic. -/
theorem ensureKey_of_generate_error (h : (checkRotationNeeded profile clock.check).1 = true)
    {f : Fault ε} (hg : c.generate (.ofKeySpec profile.spec.keySpec) = .error f) :
    (ensureKey c clock profile).calls = [.generate (.ofKeySpec profile.spec.keySpec)] ∧
      (ensureKey c clock profile).result = .error (.ofFault .keyGeneration f) := by
  rcases f with e | _ <;> simp only [ensureKey, h, hg] <;> exact ⟨rfl, rfl⟩

/-- Successful generation: `Generate`, the body's calls, then the deferred wipe. -/
theorem ensureKey_of_generate_ok (h : (checkRotationNeeded profile clock.check).1 = true)
    {kp : KeyPair} (hg : c.generate (.ofKeySpec profile.spec.keySpec) = .ok kp) :
    (ensureKey c clock profile).calls =
        .generate (.ofKeySpec profile.spec.keySpec) ::
          (ensureKeyWithKey c clock.rotated profile kp).1 ++ [.wipe kp] ∧
      (ensureKey c clock profile).result =
        deferWipe kp (ensureKeyWithKey c clock.rotated profile kp).2.2 := by
  simp only [ensureKey, h, hg]
  exact ⟨rfl, rfl⟩

/-- A rotation whose generated pair has a fingerprint calls `PublishAll` with that pair, whatever
`PublishAll` and `Write` answer. -/
theorem publishAll_mem_calls (h : (checkRotationNeeded profile clock.check).1 = true) {kp : KeyPair}
    (hg : c.generate (.ofKeySpec profile.spec.keySpec) = .ok kp) {fp : String}
    (hf : c.computeFingerprint kp.publicKey = .ok fp) :
    .publishAll profile.spec.publish kp ∈ (ensureKey c clock profile).calls := by
  obtain ⟨n, -, h3, hb, h2n, -⟩ := ensureKeyWithKey_calls c profile clock.rotated kp
  rw [(ensureKey_of_generate_ok c clock profile h hg).1, hb]
  obtain rfl | rfl : n = 2 ∨ n = 3 := by have := h2n.2 ⟨fp, hf⟩; omega
  all_goals simp [protocolCalls]

/-- `EnsureKey` follows the rotation protocol, for every profile and every outcome of every
collaborator call, a panic included. When no rotation is due it does nothing and reports the
current key. When one is due, its calls are a prefix of Generate → PublishAll → Write that ends
at the first failing call, followed by exactly one wipe of the generated pair when (and only
when) Generate returned one; so Write runs only after PublishAll returned nil for that pair. It
reports a rotation only when all calls succeeded, with the new key's ID and the fingerprint
computed before the wipe. When all calls succeed it reports the rotation, unless the pair holds a
nil `*rsa.PrivateKey`: then the deferred `Wipe` panics after `Write`, and `EnsureKey` returns
nothing. -/
theorem ensureKey_follows_rotation_protocol (c : Collaborators ε) (clock : Clock)
    (profile : KeyProfile) :
    let run := ensureKey c clock profile
    let opts := GenerateOptions.ofKeySpec profile.spec.keySpec
    let due := (checkRotationNeeded profile clock.check).1
    (due = false → run.calls = [] ∧ run.metrics = [] ∧ ∃ r, run.result = .ok r ∧ r.rotated = false) ∧
    (due = true →
      (∀ e, c.generate opts = .error e → run.calls = [.generate opts]) ∧
      ∀ kp, c.generate opts = .ok kp →
        ∃ n, 1 ≤ n ∧ n ≤ 3 ∧ run.calls = (protocolCalls profile kp).take n ++ [.wipe kp] ∧
          (2 ≤ n ↔ ∃ fp, c.computeFingerprint kp.publicKey = .ok fp) ∧
          (n = 3 ↔ (∃ fp, c.computeFingerprint kp.publicKey = .ok fp) ∧
            c.publishAll profile.spec.publish kp = .ok ())) ∧
    (∀ r, run.result = .ok r → r.rotated = true →
      due = true ∧ ∃ kp fp, c.generate opts = .ok kp ∧ c.computeFingerprint kp.publicKey = .ok fp ∧
        c.publishAll profile.spec.publish kp = .ok () ∧ c.write profile kp = .ok () ∧
        kp.privateKey ≠ some (.rsa none) ∧ r.keyID = kp.keyID ∧ r.fingerprint = fp) ∧
    (∀ kp fp, due = true → c.generate opts = .ok kp → c.computeFingerprint kp.publicKey = .ok fp →
      c.publishAll profile.spec.publish kp = .ok () → c.write profile kp = .ok () →
        (kp.privateKey ≠ some (.rsa none) →
          ∃ r, run.result = .ok r ∧ r.rotated = true ∧ r.keyID = kp.keyID ∧ r.fingerprint = fp) ∧
        (kp.privateKey = some (.rsa none) → run.result = .error .panic)) := by
  intro run opts due
  refine ⟨ensureKey_of_not_due c clock profile, fun hdue => ⟨fun e hg => ?_, fun kp hg => ?_⟩,
    fun r hr hrot => ?_, fun kp fp hdue hg hf hp hw => ⟨fun hnil => ?_, fun hnil => ?_⟩⟩
  · exact (ensureKey_of_generate_error c clock profile hdue hg).1
  · obtain ⟨n, h1, h3, hb, h2n, h3n⟩ := ensureKeyWithKey_calls c profile clock.rotated kp
    refine ⟨n, h1, h3, ?_, h2n, h3n⟩
    rw [(ensureKey_of_generate_ok c clock profile hdue hg).1, hb]
    obtain ⟨m, rfl⟩ : ∃ m, n = m + 1 := ⟨n - 1, by omega⟩
    rfl
  · cases hdue : due
    · obtain ⟨-, -, r', hr', hrot'⟩ := ensureKey_of_not_due c clock profile hdue
      cases hr.symm.trans hr'
      cases hrot.symm.trans hrot'
    · rcases hg : c.generate opts with e | kp
      · cases hr.symm.trans (ensureKey_of_generate_error c clock profile hdue hg).2
      · rw [(ensureKey_of_generate_ok c clock profile hdue hg).2] at hr
        obtain ⟨hbody, hnil⟩ := deferWipe_eq_ok hr
        obtain ⟨fp, hf, hp, hw, rfl⟩ := (ensureKeyWithKey_result_eq_ok c profile _ kp _).1 hbody
        exact ⟨rfl, kp, fp, rfl, hf, hp, hw, hnil, rfl, rfl⟩
  · have hbody := (ensureKeyWithKey_result_eq_ok c profile clock.rotated kp _).2 ⟨fp, hf, hp, hw, rfl⟩
    exact ⟨_, (ensureKey_of_generate_ok c clock profile hdue hg).2.trans
      ((deferWipe_of_ne_nil_rsa hnil _).trans hbody), rfl, rfl, rfl⟩
  · rw [(ensureKey_of_generate_ok c clock profile hdue hg).2]
    exact deferWipe_of_nil_rsa hnil _

/-- A profile with no key yet, so its rotation is due at once. -/
def freshProfile : KeyProfile :=
  ⟨"signing", "default", "uid-signing",
    ⟨⟨"default"⟩, ⟨"RSA", GoMap.ofList [("keySize", "2048")], false⟩, ⟨Duration.zero, Duration.zero⟩,
      ⟨"signing-key", "split-pem", ∅⟩, []⟩, KeyProfileStatus.empty⟩

/-- Collaborators whose every call succeeds, `Generate` answering `nilRSAKeyPair`. -/
def nilRSACollaborators : Collaborators Unit :=
  ⟨fun _ => .ok nilRSAKeyPair, fun _ => .ok "", fun _ _ => .ok (), fun _ _ => .ok ()⟩

/-- For `freshProfile`, with `Generate` answering `nilRSAKeyPair` and the three calls succeeding,
`EnsureKey` panics in the deferred `Wipe` instead of reporting the rotation. -/
theorem nilRSAKeyPair_rotation_panics :
    (checkRotationNeeded freshProfile Time.zero).1 = true ∧
      nilRSACollaborators.generate (.ofKeySpec freshProfile.spec.keySpec) = .ok nilRSAKeyPair ∧
      nilRSACollaborators.computeFingerprint nilRSAKeyPair.publicKey = .ok "" ∧
      nilRSACollaborators.publishAll freshProfile.spec.publish nilRSAKeyPair = .ok () ∧
      nilRSACollaborators.write freshProfile nilRSAKeyPair = .ok () ∧
      (ensureKey nilRSACollaborators ⟨Time.zero, Time.zero⟩ freshProfile).result = .error .panic :=
  ⟨rfl, rfl, rfl, rfl, rfl, ((ensureKey_follows_rotation_protocol nilRSACollaborators
    ⟨Time.zero, Time.zero⟩ freshProfile).2.2.2 nilRSAKeyPair "" rfl rfl rfl rfl rfl).2 rfl⟩

end Protocol

end Rotation
end OpenUKR
