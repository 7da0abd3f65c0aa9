import OpenUKR.Controller.StatusLoop
import OpenUKR.Output.Writer

/-!
# The cluster around the reconciler

The state is what one `KeyProfile` has in the cluster: the profile in the API server's store with
its `resourceVersion`, the copy in the informer cache the reconciler reads (with the version it
was read at), and the Secrets. Three things happen to it:
- a user edits the spec, which the defaulting webhook fills in and the validating webhook admits
  or refuses;
- the cache catches up with the store;
- a `Reconcile` runs against the cache.

In a reconcile, `EnsureKey` calls its collaborators. `Write` is the Secret writer of
`Output/Writer.lean`, run against the store. `Status().Update` is refused with a conflict when
the object was read at an older version, and may fail otherwise too. The world's answers to
every call are the parameter `Answers`, so the statements hold for every outcome of each call.

`SecretMatchesStatus` is what `ComputeFingerprint`'s doc comment promises: the Secret the profile
names carries the status's key ID and holds the key whose fingerprint the status records.
`Reconcile` never reads the Secret. A reconcile that finds no rotation due reports success and
leaves a Secret that disagrees with the status disagreeing
(`reconcile_succeeds_over_mismatched_secret`). `driftEvents` is a run that produces such a
Secret: a reconcile on a stale cache rotates, writes the Secret, and then loses the status write
to a conflict. Only a rotation or a renamed Secret changes whether the two agree: along any run
without them, whatever each call answers, agreement stays as it was
(`secretMatchesStatus_fixed_until_rotation`, carried by `Cluster.SameKey`).

The store and the cache only ever hold profiles the validating webhook admitted, so every
reconcile reads a profile whose key spec `Generate` accepts (`reconcile_reads_admitted_profile`).

Take a run in which no edit renames the Secret, every reconcile reads the cache at the stored
version, and no status write fails. In such a run, every reconcile that returns without error
leaves the Secret matching the status (`tame_reconcile_secret_matches_status`). The proof carries `SecretTracksStatus` and the version
bookkeeping `Cluster.Coherent` through every step.
-/

namespace OpenUKR
namespace Controller

open Api Crypto Output Rotation

/-- What the cluster holds for one profile. -/
structure Cluster where
  /-- The profile in the API server's store. -/
  stored : KeyProfile
  /-- Its `resourceVersion`. -/
  version : Nat
  /-- The profile in the informer cache the reconciler reads. -/
  cached : KeyProfile
  /-- The `resourceVersion` the cache read it at. -/
  cachedVersion : Nat
  /-- The Secrets in the store. -/
  secrets : Secrets

/-- An error a collaborator of `EnsureKey` returns. -/
inductive Failure
  /-- From `Generate`, `ComputeFingerprint` or `PublishAll`. -/
  | call (e : String)
  /-- From `Write`. -/
  | write (e : WriteError)
  deriving DecidableEq

/-- The errors of `Status().Update`: a stale `resourceVersion`, or any other. -/
inductive StatusError
  | conflict
  | other (e : String)
  deriving DecidableEq

/-- What the world answers during one reconcile. -/
structure Answers where
  /-- `Generate`'s answer. -/
  generate : Except String KeyPair
  /-- `PublishAll`'s answer. -/
  publish : Except String Unit
  /-- The API server's answers to the Secret calls of `Write`. -/
  getError : ObjectKey → Option String
  createError : ObjectKey → Secret → Option String
  updateError : ObjectKey → Secret → Secret → Option String
  /-- A failure of `Status().Update` other than a conflict. -/
  statusError : Option String
  /-- The two readings of the clock in `EnsureKey`. -/
  clock : Clock
  /-- The reading in `time.Until`. -/
  now : Time

/-- The Secrets API as a reconcile meets it. -/
def Answers.server (a : Answers) (secrets : Secrets) : SecretServer :=
  ⟨secrets, a.getError, a.createError, a.updateError⟩

/-- The collaborators of `EnsureKey` in the cluster: `Write` is the Secret writer against the
store. -/
def collaborators (lib : CryptoLib) (keystore : Keystore) (srv : SecretServer) (a : Answers) :
    Collaborators Failure where
  generate _ := a.generate.mapError (.error ∘ .call)
  computeFingerprint k := (computeFingerprint lib k).mapError (.error ∘ .call)
  publishAll _ _ := a.publish.mapError (.error ∘ .call)
  write profile kp := (Output.write lib keystore srv profile kp).1.mapError (·.map .write)

/-- The Secrets after the calls `EnsureKey` made: those `Write` left, if it was called. -/
def secretsAfter (lib : CryptoLib) (keystore : Keystore) (srv : SecretServer) : List Call → Secrets
  | [] => srv.secrets
  | .write profile kp :: _ => (Output.write lib keystore srv profile kp).2
  | _ :: calls => secretsAfter lib keystore srv calls

/-- `Status().Update(obj)` against the store: optimistic concurrency on the version the object
was read at, then the world's answer. -/
def updateStatus (s : Cluster) (a : Answers) (_obj : KeyProfile) : Except StatusError Unit :=
  if s.cachedVersion ≠ s.version then .error .conflict
  else
    match a.statusError with
    | some e => .error (.other e)
    | none => .ok ()

/-- The cluster after a reconcile left the Secrets `secrets` and sent `sent` to
`Status().Update`, if it sent anything: an accepted update stores the status and bumps the
version. -/
def afterStatus (s : Cluster) (a : Answers) (secrets : Secrets) : Option KeyProfile → Cluster
  | some sent =>
    match updateStatus s a sent with
    | .ok () =>
      { s with stored := { s.stored with status := persistStatus sent.status },
               version := s.version + 1, secrets }
    | .error _ => { s with secrets }
  | none => { s with secrets }

/-- One `Reconcile` against the cluster: its result, and the cluster afterwards. -/
def reconcileStep (lib : CryptoLib) (keystore : Keystore) (s : Cluster) (a : Answers) :
    Except (ReconcileError Empty (RotationError Failure) StatusError) Result × Cluster :=
  let c := collaborators lib keystore (a.server s.secrets) a
  let r := reconcile (.ok s.cached) (fun p => (ensureKey c a.clock p).result) (updateStatus s a) a.now
  (r.1, afterStatus s a (secretsAfter lib keystore (a.server s.secrets) (ensureKey c a.clock s.cached).calls)
    r.2)

/-- What happens in the cluster. -/
inductive Event
  /-- A user updates the spec; the defaulting webhook fills it in, and the validating webhook
  admits or refuses it. -/
  | edit (spec : KeyProfileSpec)
  /-- The informer cache catches up with the store. -/
  | sync
  /-- A `Reconcile` runs. -/
  | reconcile (a : Answers)

/-- One event. -/
def step (lib : CryptoLib) (keystore : Keystore) (s : Cluster) : Event → Cluster
  | .edit spec =>
    let edited := Webhook.default { s.stored with spec }
    match Webhook.validateKeyProfile edited with
    | .ok _ => { s with stored := edited, version := s.version + 1 }
    | .error _ => s
  | .sync => { s with cached := s.stored, cachedVersion := s.version }
  | .reconcile a => (reconcileStep lib keystore s a).2

/-- The cluster after the events, in order. -/
def run (lib : CryptoLib) (keystore : Keystore) (s : Cluster) (events : List Event) : Cluster :=
  events.foldl (step lib keystore) s

/-- A profile just created: no Secret yet, and the cache in step with the store. -/
def Cluster.init (p : KeyProfile) : Cluster := ⟨p, 1, p, 1, ∅⟩

/-- The DER of the public key a Secret holds: the block of `public.pem` (split layout), or the
second block of `keypair.pem` (single layout). -/
def secretPublicDER (secret : Secret) : Option Bytes :=
  match secret.data.lookup "public.pem" with
  | some pem => (Pem.decode pem).1.map (·.bytes)
  | none =>
    match secret.data.lookup "keypair.pem" with
    | some pem => (Pem.decode (Pem.decode pem).2).1.map (·.bytes)
    | none => none

/-- The Secret the stored profile names carries the status's key ID, and holds the public key
whose fingerprint the status records. -/
def SecretMatchesStatus (lib : CryptoLib) (s : Cluster) : Prop :=
  ∃ secret, s.secrets.lookup (secretKey s.stored) = some secret ∧
    secret.annotations.lookup keyIDAnnotation = some s.stored.status.currentKeyID ∧
    (secretPublicDER secret).map lib.fingerprintOfDER = some s.stored.status.currentKeyFingerprint

/-- Two clusters agree on everything `SecretMatchesStatus` reads. -/
structure Cluster.SameKey (s' s : Cluster) : Prop where
  /-- The same Secrets. -/
  secrets : s'.secrets = s.secrets
  /-- The profile names the same Secret. -/
  key : secretKey s'.stored = secretKey s.stored
  /-- The status names the same key. -/
  keyID : s'.stored.status.currentKeyID = s.stored.status.currentKeyID
  fingerprint : s'.stored.status.currentKeyFingerprint = s.stored.status.currentKeyFingerprint

theorem Cluster.SameKey.refl (s : Cluster) : s.SameKey s := ⟨rfl, rfl, rfl, rfl⟩

theorem Cluster.SameKey.trans {s₁ s₂ s₃ : Cluster} (h₁ : s₁.SameKey s₂) (h₂ : s₂.SameKey s₃) :
    s₁.SameKey s₃ :=
  ⟨h₁.secrets.trans h₂.secrets, h₁.key.trans h₂.key, h₁.keyID.trans h₂.keyID,
    h₁.fingerprint.trans h₂.fingerprint⟩

theorem Cluster.SameKey.of_stored {s s' : Cluster} (hsecrets : s'.secrets = s.secrets)
    (hstored : s'.stored = s.stored) : s'.SameKey s :=
  ⟨hsecrets, by rw [hstored], by rw [hstored], by rw [hstored]⟩

theorem Cluster.SameKey.matches_iff {s s' : Cluster} (h : s'.SameKey s) (lib : CryptoLib) :
    SecretMatchesStatus lib s' ↔ SecretMatchesStatus lib s := by
  unfold SecretMatchesStatus
  rw [h.secrets, h.key, h.keyID, h.fingerprint]

/-! ## What a step does -/

/-- An edit is refused, or stores the new spec at the next version. -/
theorem step_edit (lib : CryptoLib) (keystore : Keystore) (s : Cluster) (spec : KeyProfileSpec) :
    step lib keystore s (.edit spec) = s ∨
      step lib keystore s (.edit spec) =
        { s with stored := Webhook.default { s.stored with spec }, version := s.version + 1 } := by
  rcases h : Webhook.validateKeyProfile (Webhook.default { s.stored with spec }) with e | w
  · exact .inl (by simp only [step, h])
  · exact .inr (by simp only [step, h])

/-- An edit that keeps the Secret's name keeps the key. -/
theorem step_edit_sameKey (lib : CryptoLib) (keystore : Keystore) (s : Cluster) {spec : KeyProfileSpec}
    (hname : spec.output.secretName = s.stored.spec.output.secretName) :
    (step lib keystore s (.edit spec)).SameKey s := by
  rcases step_edit lib keystore s spec with h | h <;> rw [h]
  · exact .refl s
  · refine ⟨rfl, ?_, ?_, ?_⟩ <;> simp only [Webhook.default] <;> split_ifs <;> simp [secretKey, hname]

theorem run_cons (lib : CryptoLib) (keystore : Keystore) (s : Cluster) (e : Event) (es : List Event) :
    run lib keystore s (e :: es) = run lib keystore (step lib keystore s e) es := rfl

/-- The version bookkeeping: the cache never runs ahead of the store, and at the store's version
it holds the stored profile. -/
def Cluster.Coherent (s : Cluster) : Prop :=
  s.cachedVersion ≤ s.version ∧ (s.cachedVersion = s.version → s.cached = s.stored)

instance (s : Cluster) : Decidable s.Coherent := inferInstanceAs (Decidable (_ ∧ _))

theorem cachedVersion_eq_of_updateStatus {s : Cluster} {a : Answers} {obj : KeyProfile}
    (h : updateStatus s a obj = .ok ()) : s.cachedVersion = s.version := by
  by_contra hv
  simp [updateStatus, hv] at h

/-- The status write leaves the cache alone, and either leaves the stored profile and its
version alone or, the object having been read at the stored version, bumps the version. -/
theorem afterStatus_versions (s : Cluster) (a : Answers) (secrets : Secrets) (sent : Option KeyProfile) :
    (afterStatus s a secrets sent).cached = s.cached ∧
      (afterStatus s a secrets sent).cachedVersion = s.cachedVersion ∧
      ((afterStatus s a secrets sent).version = s.version ∧
          (afterStatus s a secrets sent).stored = s.stored ∨
        (afterStatus s a secrets sent).version = s.version + 1 ∧ s.cachedVersion = s.version) := by
  rcases sent with _ | sent
  · exact ⟨rfl, rfl, .inl ⟨rfl, rfl⟩⟩
  rcases hupd : updateStatus s a sent with e | ⟨⟩
  · simp [afterStatus, hupd]
  · simp [afterStatus, hupd, cachedVersion_eq_of_updateStatus hupd]

/-- A write that bumps the store's version, the cache left alone, keeps the bookkeeping. -/
theorem Cluster.Coherent.bump {s s' : Cluster} (hs : s.Coherent)
    (hcv : s'.cachedVersion = s.cachedVersion) (hv : s'.version = s.version + 1) : s'.Coherent := by
  have := hs.1
  exact ⟨by omega, fun h => absurd h (by omega)⟩

theorem afterStatus_coherent {s : Cluster} (hs : s.Coherent) (a : Answers) (secrets : Secrets)
    (sent : Option KeyProfile) : (afterStatus s a secrets sent).Coherent := by
  obtain ⟨hc, hcv, ⟨hv, hst⟩ | ⟨hv, -⟩⟩ := afterStatus_versions s a secrets sent
  · simpa only [Cluster.Coherent, hc, hcv, hv, hst] using hs
  · exact hs.bump hcv hv

/-- Every event keeps the version bookkeeping. -/
theorem step_coherent (lib : CryptoLib) (keystore : Keystore) {s : Cluster} (hs : s.Coherent) :
    ∀ e, (step lib keystore s e).Coherent
  | .edit spec => by
    rcases step_edit lib keystore s spec with h | h <;> rw [h]
    · exact hs
    · exact hs.bump rfl rfl
  | .sync => ⟨le_rfl, fun _ => rfl⟩
  | .reconcile a => afterStatus_coherent hs a _ _

/-! ## What `EnsureKey` leaves in the store -/

/-- A Secret written by `Write` for `kp` holds `kp`'s public key, in either PEM layout. -/
theorem secretPublicDER_of_write {lib : CryptoLib} {keystore : Keystore} {kp : KeyPair}
    {profile : KeyProfile} {data : GoMap Bytes} {secret obj : Secret}
    (hr : render lib keystore kp ⟨profile.spec.output.format, "", ""⟩ = .ok data)
    (hm : mutateSecret profile kp data secret = .ok obj) :
    ∃ pub, kp.publicKey = some pub ∧ secretPublicDER obj = some (lib.pkixDER pub) := by
  obtain ⟨priv, pub, hpriv, hpub, hprivM, hpubM⟩ := marshalable_of_render hr
  refine ⟨pub, hpub, ?_⟩
  have hdata := (mutateSecret_spec hm).1
  rw [render_of_keys lib keystore hpriv hpub hprivM hpubM] at hr
  simp only [secretPublicDER, hdata]
  split_ifs at hr with hsplit hsingle hjks
  · cases hr
    simp [GoMap.ofList, List.toFinmap, decode_publicPEM, publicBlock]
  · cases hr
    simp [GoMap.ofList, List.toFinmap, decode_privatePEM_append, decode_publicPEM, publicBlock]
  · simp [renderJKS] at hr

section Effects

variable (lib : CryptoLib) (keystore : Keystore) (srv : SecretServer) (a : Answers) (clock : Clock)
  (p : KeyProfile)

/-- The Secrets after `Generate`, the body's calls and the wipe are those after the body's calls. -/
theorem secretsAfter_generate_wipe (opts : GenerateOptions) (kp : KeyPair) :
    ∀ calls, secretsAfter lib keystore srv (.generate opts :: calls ++ [.wipe kp]) =
      secretsAfter lib keystore srv calls
  | [] => rfl
  | .write _ _ :: _ => rfl
  | .generate _ :: calls | .publishAll _ _ :: calls | .wipe _ :: calls =>
    secretsAfter_generate_wipe opts kp calls

/-- A pair `Render` accepts holds no nil `*rsa.PrivateKey`, so the deferred `Wipe` returns. -/
theorem ne_nil_rsa_of_render {kp : KeyPair} {opts : RenderOptions} {data : GoMap Bytes}
    (h : render lib keystore kp opts = .ok data) : kp.privateKey ≠ some (.rsa none) := by
  obtain ⟨priv, -, hpriv, -, hm, -⟩ := marshalable_of_render h
  rw [hpriv]
  exact fun hnil => hm.ne_nil_rsa (Option.some.inj hnil)

/-- The body of a rotation in the cluster fails and leaves the Secrets as they were (`Write`, if
it was called, failed), or it has written the Secret for the pair and reports the pair's key ID
and fingerprint. -/
theorem ensureKeyWithKey_cases (now : Time) (kp : KeyPair) :
    (∃ e, (ensureKeyWithKey (collaborators lib keystore srv a) now p kp).2.2 = .error e ∧
        secretsAfter lib keystore srv (ensureKeyWithKey (collaborators lib keystore srv a) now p kp).1 =
          srv.secrets) ∨
      ∃ res data obj, (ensureKeyWithKey (collaborators lib keystore srv a) now p kp).2.2 = .ok res ∧
        res.keyID = kp.keyID ∧ computeFingerprint lib kp.publicKey = .ok res.fingerprint ∧
        render lib keystore kp ⟨p.spec.output.format, "", ""⟩ = .ok data ∧
        mutateSecret p kp data (srv.current (secretKey p)) = .ok obj ∧
        secretsAfter lib keystore srv (ensureKeyWithKey (collaborators lib keystore srv a) now p kp).1 =
          srv.secrets.insert (secretKey p) obj := by
  simp only [ensureKeyWithKey, collaborators, Except.mapError]
  rcases hf : computeFingerprint lib kp.publicKey with ef | fp
  · exact .inl ⟨_, rfl, rfl⟩
  rcases a.publish with ep | ⟨⟩
  · exact .inl ⟨_, rfl, rfl⟩
  rcases write_cases lib keystore srv p kp with ⟨ew, hw⟩ | ⟨data, obj, hr, hm, hw⟩
  · simp only [hw]
    exact .inl ⟨_, rfl, by simp only [secretsAfter, hw]⟩
  · simp only [hw]
    exact .inr ⟨_, data, obj, rfl, rfl, rfl, hr, hm, by simp only [secretsAfter, hw]⟩

/-- What a rotating `EnsureKey` does to the Secrets: it fails and leaves them as they were
(`Write`, if it was called, failed), or it succeeds, having written the Secret for the pair it
generated, and reports that pair's key ID and fingerprint. A pair whose `Wipe` panics never gets
that far: `Render` refuses its nil `*rsa.PrivateKey`. -/
theorem ensureKey_rotating_cases (hdue : (checkRotationNeeded p clock.check).1 = true) :
    (∃ e, (ensureKey (collaborators lib keystore srv a) clock p).result = .error e ∧
        secretsAfter lib keystore srv (ensureKey (collaborators lib keystore srv a) clock p).calls =
          srv.secrets) ∨
      ∃ res kp data obj, (ensureKey (collaborators lib keystore srv a) clock p).result = .ok res ∧
        res.keyID = kp.keyID ∧ computeFingerprint lib kp.publicKey = .ok res.fingerprint ∧
        render lib keystore kp ⟨p.spec.output.format, "", ""⟩ = .ok data ∧
        mutateSecret p kp data (srv.current (secretKey p)) = .ok obj ∧
        secretsAfter lib keystore srv (ensureKey (collaborators lib keystore srv a) clock p).calls =
          srv.secrets.insert (secretKey p) obj := by
  rcases hg : a.generate with eg | kp
  · obtain ⟨hcalls, hres⟩ := ensureKey_of_generate_error (collaborators lib keystore srv a) clock p hdue
      (show _ = Except.error (Fault.error (Failure.call eg)) by simp only [collaborators, hg]; rfl)
    exact .inl ⟨_, hres, by rw [hcalls]; rfl⟩
  obtain ⟨hcalls, hres⟩ := ensureKey_of_generate_ok (collaborators lib keystore srv a) clock p hdue
    (show _ = Except.ok kp by simp only [collaborators, hg]; rfl)
  rw [hcalls, hres, secretsAfter_generate_wipe]
  rcases ensureKeyWithKey_cases lib keystore srv a p clock.rotated kp with
    ⟨e, he, hs⟩ | ⟨res, data, obj, hok, hid, hfp, hr, hm, hs⟩
  · obtain ⟨e', he'⟩ := deferWipe_error kp e
    rw [he, he']
    exact .inl ⟨e', rfl, hs⟩
  · rw [hok, deferWipe_of_ne_nil_rsa (ne_nil_rsa_of_render lib keystore hr)]
    exact .inr ⟨res, kp, data, obj, rfl, hid, hfp, hr, hm, hs⟩

/-- A failed `EnsureKey` leaves the Secrets as they were. -/
theorem secretsAfter_of_error {e : RotationError Failure}
    (h : (ensureKey (collaborators lib keystore srv a) clock p).result = .error e) :
    secretsAfter lib keystore srv (ensureKey (collaborators lib keystore srv a) clock p).calls =
      srv.secrets := by
  by_cases hdue : (checkRotationNeeded p clock.check).1 = true
  · rcases ensureKey_rotating_cases lib keystore srv a clock p hdue with ⟨-, -, hs⟩ | ⟨_, _, _, _, hok, -⟩
    · exact hs
    · cases h.symm.trans hok
  · rw [ensureKey_of_not_needed (by simpa using hdue)] at h
    cases h

/-- A rotating `EnsureKey` that succeeds has written the Secret for the pair it generated, and
reports that pair's key ID and fingerprint. -/
theorem secretsAfter_of_rotated {res : RotationResult}
    (hdue : (checkRotationNeeded p clock.check).1 = true)
    (h : (ensureKey (collaborators lib keystore srv a) clock p).result = .ok res) :
    ∃ kp data obj, res.keyID = kp.keyID ∧ computeFingerprint lib kp.publicKey = .ok res.fingerprint ∧
      render lib keystore kp ⟨p.spec.output.format, "", ""⟩ = .ok data ∧
      mutateSecret p kp data (srv.current (secretKey p)) = .ok obj ∧
      secretsAfter lib keystore srv (ensureKey (collaborators lib keystore srv a) clock p).calls =
        srv.secrets.insert (secretKey p) obj := by
  rcases ensureKey_rotating_cases lib keystore srv a clock p hdue with ⟨_, herr, -⟩ | ⟨_, kp, data, obj, hok, rest⟩
  · cases h.symm.trans herr
  · cases h.symm.trans hok
    exact ⟨kp, data, obj, rest⟩

end Effects

theorem needsStatusUpdate_eq_false {p : KeyProfile} {res : RotationResult}
    (h : needsStatusUpdate p res = false) :
    p.status.currentKeyID = res.keyID ∧ p.status.currentKeyFingerprint = res.fingerprint := by
  simp only [needsStatusUpdate, Bool.or_eq_false_iff, decide_eq_false_iff_not, not_not] at h
  exact ⟨h.1.1.1.1, h.1.1.1.2⟩

theorem checkRotationNeeded_of_keyID_empty {p : KeyProfile} (h : p.status.currentKeyID = "")
    (now : Time) : (checkRotationNeeded p now).1 = true := by
  unfold checkRotationNeeded
  split
  · rfl
  · simp [h]

theorem updateStatus_of_fresh {s : Cluster} {a : Answers} (hfresh : s.cachedVersion = s.version)
    (hstatus : a.statusError = none) (obj : KeyProfile) : updateStatus s a obj = .ok () := by
  simp [updateStatus, hfresh, hstatus]

/-! ## The reconcile that does not rotate -/

section NotDue

variable (lib : CryptoLib) (keystore : Keystore) {s : Cluster} {a : Answers}

/-- A reconcile whose `EnsureKey` finds no rotation due on the profile it read keeps the key: it
calls no collaborator, and a status write, if one is accepted, was read at the stored version and
names the key the status already names. -/
theorem reconcileStep_sameKey_of_not_due (hs : s.Coherent)
    (hnotdue : (checkRotationNeeded s.cached a.clock.check).1 = false) :
    (reconcileStep lib keystore s a).2.SameKey s := by
  have hrun := @ensureKey_of_not_needed _ (collaborators lib keystore (a.server s.secrets) a)
    a.clock s.cached hnotdue
  simp only [reconcileStep, reconcile, hrun, secretsAfter]
  split_ifs
  · rcases hupd : updateStatus s a (withResult s.cached (currentResult s.cached)) with e | ⟨⟩
    · simp only [afterStatus, hupd]
      exact .refl s
    · have hcache := hs.2 (cachedVersion_eq_of_updateStatus hupd)
      simp only [afterStatus, hupd]
      refine ⟨rfl, ?_, ?_, ?_⟩ <;> simp [hcache, currentResult, secretKey]
  · exact .refl s

/-- A reconcile that reads the stored profile itself, with its key not due and the status write
accepted, returns the requeue of the current key. -/
theorem reconcileStep_of_not_needed (hcache : s.cached = s.stored)
    (hfresh : s.cachedVersion = s.version)
    (hnotdue : (checkRotationNeeded s.stored a.clock.check).1 = false)
    (hstatus : a.statusError = none) :
    (reconcileStep lib keystore s a).1 = .ok (scheduleRequeue a.now (currentResult s.stored)) := by
  have hrun := @ensureKey_of_not_needed _ (collaborators lib keystore (a.server s.secrets) a)
    a.clock s.stored hnotdue
  simp only [reconcileStep, reconcile, hcache, hrun]
  split_ifs <;> simp [updateStatus_of_fresh hfresh hstatus]

/-- A reconcile that reads, fresh from the store, a profile whose key is not due never looks at
the Secret: it reports success, and a Secret that disagrees with the status still disagrees
after it. -/
theorem reconcile_succeeds_over_mismatched_secret (lib : CryptoLib) (keystore : Keystore)
    (s : Cluster) (a : Answers) (hcache : s.cached = s.stored) (hfresh : s.cachedVersion = s.version)
    (hnotdue : (checkRotationNeeded s.stored a.clock.check).1 = false)
    (hstatus : a.statusError = none) (hmismatch : ¬ SecretMatchesStatus lib s) :
    (∃ r, (reconcileStep lib keystore s a).1 = .ok r) ∧
      ¬ SecretMatchesStatus lib (reconcileStep lib keystore s a).2 := by
  have hs : s.Coherent := ⟨hfresh.le, fun _ => hcache⟩
  refine ⟨⟨_, reconcileStep_of_not_needed lib keystore hcache hfresh hnotdue hstatus⟩, ?_⟩
  rwa [(reconcileStep_sameKey_of_not_due lib keystore hs (hcache ▸ hnotdue)).matches_iff]

end NotDue

theorem not_secretMatchesStatus_of_keyID (lib : CryptoLib) {s : Cluster}
    (h : (s.secrets.lookup (secretKey s.stored)).map (·.annotations.lookup keyIDAnnotation) ≠
      some (some s.stored.status.currentKeyID)) :
    ¬ SecretMatchesStatus lib s := by
  rintro ⟨secret, hlookup, hid, -⟩
  exact h (by rw [hlookup, Option.map_some', hid])

/-! ## A reconcile from a fresh cache -/

section Fresh

variable (lib : CryptoLib) (keystore : Keystore) {s : Cluster} {a : Answers}
  (hcache : s.cached = s.stored) (hfresh : s.cachedVersion = s.version)
  (hstatus : a.statusError = none)
include hcache hfresh hstatus

/-- A failed reconcile from a fresh cache leaves the store and the Secrets as they were. -/
theorem reconcileStep_fresh_error {e : ReconcileError Empty (RotationError Failure) StatusError}
    (h : (reconcileStep lib keystore s a).1 = .error e) :
    (reconcileStep lib keystore s a).2.stored = s.stored ∧
      (reconcileStep lib keystore s a).2.secrets = s.secrets := by
  simp only [reconcileStep, reconcile, hcache] at h ⊢
  rcases hres : (ensureKey (collaborators lib keystore (a.server s.secrets) a) a.clock s.stored).result
    with e' | res
  · simp only [hres] at h ⊢
    exact ⟨rfl, secretsAfter_of_error lib keystore _ a a.clock s.stored hres⟩
  · simp only [hres] at h
    split_ifs at h
    simp [updateStatus_of_fresh hfresh hstatus] at h

/-- A successful reconcile from a fresh cache leaves the status naming the key `EnsureKey`
reported, the profile's Secret where it was, and the Secrets as `EnsureKey` left them. -/
theorem reconcileStep_fresh_ok {r : Result} (h : (reconcileStep lib keystore s a).1 = .ok r) :
    ∃ res, (ensureKey (collaborators lib keystore (a.server s.secrets) a) a.clock s.stored).result =
        .ok res ∧
      (reconcileStep lib keystore s a).2.stored.status.currentKeyID = res.keyID ∧
      (reconcileStep lib keystore s a).2.stored.status.currentKeyFingerprint = res.fingerprint ∧
      secretKey (reconcileStep lib keystore s a).2.stored = secretKey s.stored ∧
      (reconcileStep lib keystore s a).2.secrets = secretsAfter lib keystore (a.server s.secrets)
        (ensureKey (collaborators lib keystore (a.server s.secrets) a) a.clock s.stored).calls := by
  simp only [reconcileStep, reconcile, hcache] at h ⊢
  rcases hres : (ensureKey (collaborators lib keystore (a.server s.secrets) a) a.clock s.stored).result
    with e' | res
  · simp [hres] at h
  refine ⟨res, rfl, ?_⟩
  simp only [hres]
  split_ifs with hneed
  · simp [afterStatus, updateStatus_of_fresh hfresh hstatus, secretKey]
  · exact ⟨(needsStatusUpdate_eq_false (Bool.eq_false_iff.2 hneed)).1,
      (needsStatusUpdate_eq_false (Bool.eq_false_iff.2 hneed)).2, rfl, rfl⟩

/-- A successful reconcile from a fresh cache of a cluster whose Secret tracks the status leaves
the Secret matching the status: a rotation writes the new key into the Secret before recording
it, and a reconcile without rotation keeps both. -/
theorem reconcileStep_matches
    (hinv : s.stored.status.currentKeyID = "" ∨ SecretMatchesStatus lib s) {r : Result}
    (h : (reconcileStep lib keystore s a).1 = .ok r) :
    SecretMatchesStatus lib (reconcileStep lib keystore s a).2 := by
  by_cases hdue : (checkRotationNeeded s.stored a.clock.check).1 = true
  · obtain ⟨res, hres, hid, hfp, hkey, hsecrets⟩ :=
      reconcileStep_fresh_ok lib keystore hcache hfresh hstatus h
    obtain ⟨kp, data, obj, hkid, hkfp, hr, hm, hafter⟩ :=
      secretsAfter_of_rotated lib keystore _ a a.clock s.stored hdue hres
    obtain ⟨pub, hpub, hder⟩ := secretPublicDER_of_write hr hm
    refine ⟨obj, ?_, ?_, ?_⟩
    · rw [hsecrets, hafter, hkey]
      exact Finmap.lookup_insert _
    · rw [(mutateSecret_spec hm).2.2.1, hid, hkid]
      simp [ algorithmAnnotation, keyIDAnnotation]
    · obtain ⟨pub', hpub', -, hfp'⟩ := computeFingerprint_eq_ok.1 hkfp
      cases hpub.symm.trans hpub'
      rw [hder, hfp, Option.map_some', hfp']
  · have hnot : (checkRotationNeeded s.cached a.clock.check).1 = false := by simpa [hcache] using hdue
    have hkeyID : s.stored.status.currentKeyID ≠ "" := fun h' =>
      hdue (checkRotationNeeded_of_keyID_empty h' _)
    rw [(reconcileStep_sameKey_of_not_due lib keystore ⟨hfresh.le, fun _ => hcache⟩ hnot).matches_iff]
    exact hinv.resolve_left hkeyID

end Fresh

/-! ## Tame runs keep the Secret and the status together -/

/-- No key recorded yet, or the Secret matches the status. -/
def SecretTracksStatus (lib : CryptoLib) (s : Cluster) : Prop :=
  s.stored.status.currentKeyID = "" ∨ SecretMatchesStatus lib s

/-- An event that renames no Secret, or reconciles from a fresh cache against an accepting
`Status().Update`. -/
def Event.tame (s : Cluster) : Event → Bool
  | .edit spec => decide (spec.output.secretName = s.stored.spec.output.secretName)
  | .sync => true
  | .reconcile a => decide (s.cachedVersion = s.version) && decide (a.statusError = none)

/-- Every event of the run is tame where it happens. -/
def tameRun (lib : CryptoLib) (keystore : Keystore) : Cluster → List Event → Bool
  | _, [] => true
  | s, e :: es => e.tame s && tameRun lib keystore (step lib keystore s e) es

theorem Cluster.SameKey.tracks_iff {s s' : Cluster} (h : s'.SameKey s) (lib : CryptoLib) :
    SecretTracksStatus lib s' ↔ SecretTracksStatus lib s := by
  unfold SecretTracksStatus
  rw [h.matches_iff, h.keyID]

/-- A tame event keeps the Secret tracking the status. -/
theorem step_tracks (lib : CryptoLib) (keystore : Keystore) {s : Cluster} (hs : s.Coherent)
    (hinv : SecretTracksStatus lib s) : ∀ e, e.tame s = true →
      SecretTracksStatus lib (step lib keystore s e)
  | .edit spec, htame =>
    ((step_edit_sameKey lib keystore s (by simpa [Event.tame] using htame)).tracks_iff lib).2 hinv
  | .sync, _ => hinv
  | .reconcile a, htame => by
    simp only [Event.tame, Bool.and_eq_true, decide_eq_true_eq] at htame
    obtain ⟨hfresh, hstatus⟩ := htame
    rcases hres : (reconcileStep lib keystore s a).1 with e | r
    · obtain ⟨hstored, hsecrets⟩ := reconcileStep_fresh_error lib keystore (hs.2 hfresh) hfresh hstatus hres
      exact ((Cluster.SameKey.of_stored hsecrets hstored).tracks_iff lib).2 hinv
    · exact .inr (reconcileStep_matches lib keystore (hs.2 hfresh) hfresh hstatus hinv hres)

/-- A tame run keeps the version bookkeeping and the Secret tracking the status. -/
theorem run_tracks (lib : CryptoLib) (keystore : Keystore) :
    ∀ (events : List Event) (s : Cluster), s.Coherent → SecretTracksStatus lib s →
      tameRun lib keystore s events = true →
        (run lib keystore s events).Coherent ∧ SecretTracksStatus lib (run lib keystore s events)
  | [], _, hs, hinv, _ => ⟨hs, hinv⟩
  | e :: es, s, hs, hinv, htame => by
    simp only [tameRun, Bool.and_eq_true] at htame
    exact run_tracks lib keystore es _ (step_coherent lib keystore hs e)
      (step_tracks lib keystore hs hinv e htame.1) htame.2

theorem tameRun_append (lib : CryptoLib) (keystore : Keystore) :
    ∀ (xs ys : List Event) (s : Cluster),
      tameRun lib keystore s (xs ++ ys) = (tameRun lib keystore s xs && tameRun lib keystore (run lib keystore s xs) ys)
  | [], _, _ => by simp [tameRun, run]
  | e :: es, ys, s => by
    simp only [List.cons_append, tameRun, List.append_eq, tameRun_append lib keystore es ys,
      Bool.and_assoc, run_cons]

/-- In a run from a newly created profile in which no edit renames the Secret, no reconcile reads
a stale cache and no `Status().Update` fails, every reconcile that returns without error leaves
the Secret matching the status. -/
theorem tame_reconcile_secret_matches_status (lib : CryptoLib) (keystore : Keystore) (p : KeyProfile)
    (hp : p.status.currentKeyID = "") (events : List Event) (a : Answers)
    (htame : tameRun lib keystore (Cluster.init p) (events ++ [.reconcile a]) = true) (r : Result)
    (hok : (reconcileStep lib keystore (run lib keystore (Cluster.init p) events) a).1 = .ok r) :
    SecretMatchesStatus lib (reconcileStep lib keystore (run lib keystore (Cluster.init p) events) a).2 := by
  rw [tameRun_append, Bool.and_eq_true] at htame
  obtain ⟨hs, hinv⟩ := run_tracks lib keystore events (Cluster.init p) ⟨le_rfl, fun _ => rfl⟩
    (.inl hp) htame.1
  simp only [tameRun, Event.tame, Bool.and_true, Bool.and_eq_true, decide_eq_true_eq] at htame
  exact reconcileStep_matches lib keystore (hs.2 htame.2.1) htame.2.1 htame.2.2 hinv hok

/-! ## A run that leaves the Secret ahead of the status -/

/-- A profile as created: an EC P-256 key rotated every 15 minutes into the split-PEM Secret
`signing-key`, and the empty status. -/
def newProfile : KeyProfile where
  name := "signing"
  «namespace» := "default"
  uid := "uid-signing"
  spec :=
    { serviceAccountRef := ⟨"default"⟩
      keySpec := ⟨"EC", GoMap.ofList [("curve", "P-256")], false⟩
      rotation := ⟨⟨900000000000, by omega, by omega⟩, Validation.minGracePeriod⟩
      output := ⟨"signing-key", "split-pem", ∅⟩
      publish := [] }
  status := KeyProfileStatus.empty

/-- `2G` on P-256: the public key of the scalar 2. -/
def p256DoubledBasePoint : ECDSAPublicKey :=
  ⟨.p256, 0x7cf27b188d034f7e8a52380304b51ac3c08969e277f21b35a60b48fc47669978,
    0x07775510db8ed040293d9ac69f7430dbba7dade63ce982299e04b79d227873d1⟩

/-- An EC P-256 key pair with the ID `keyID`: the scalar `d` and its public point `pub`, created
at `createdAt`. -/
def ecKeyPair (keyID : String) (d : Int) (pub : ECDSAPublicKey) (createdAt : Time) : KeyPair :=
  ⟨keyID, some (.ecdsa (some ⟨pub, some d⟩)), some (.ecdsa pub), "EC", createdAt, []⟩

/-- A world that accepts every call, read at the clock reading `t`, where `Generate` answers
`generated`. -/
def answersAt (t : Time) (generated : Except String KeyPair) : Answers :=
  ⟨generated, .ok (), fun _ => none, fun _ _ => none, fun _ _ _ => none, none, ⟨t, t⟩, t⟩

/-- A keystore that is never reached: the Secret writer passes no password. -/
def noKeystore : Keystore := fun _ _ => .error "no keystore"

/-- The first reconcile of `newProfile`, at 2025-11-07T16:00:00Z, where nothing fails: it creates
the first key and records it in the status. -/
def firstReconcile : Event :=
  .reconcile (answersAt ⟨63898128000000000000⟩
    (.ok (ecKeyPair "ec-P-256-20251107-000001" 1 Curve.p256.basePoint ⟨63898128000000000000⟩)))

/-- After `firstReconcile`, a reconcile a minute later (16:01:00Z) reads the cache from before the
first status write, rotates again, writes the second key into the Secret, and fails
`Status().Update` with a conflict. Then the cache catches up. -/
def driftEvents : List Event :=
  [firstReconcile,
    .reconcile (answersAt ⟨63898128060000000000⟩
      (.ok (ecKeyPair "ec-P-256-20251107-000002" 2 p256DoubledBasePoint ⟨63898128060000000000⟩))),
    .sync]

/-- The cluster after `driftEvents`. -/
def driftedCluster : Cluster := run CryptoLib.empty noKeystore (Cluster.init newProfile) driftEvents

/-- A reconcile two minutes after the first key (16:02:00Z), where nothing fails. -/
def laterAnswers : Answers := answersAt ⟨63898128120000000000⟩ (.error "not called")

/-- After `driftEvents` the Secret holds the second key and the status names the first; the next
reconcile, with nothing failing, reports success and leaves them so. -/
theorem driftedCluster_reconciles_successfully :
    driftedCluster.cached = driftedCluster.stored ∧
      driftedCluster.cachedVersion = driftedCluster.version ∧
      (checkRotationNeeded driftedCluster.stored laterAnswers.clock.check).1 = false ∧
      laterAnswers.statusError = none ∧
      ¬ SecretMatchesStatus CryptoLib.empty driftedCluster ∧
      (∃ r, (reconcileStep CryptoLib.empty noKeystore driftedCluster laterAnswers).1 = .ok r) ∧
      ¬ SecretMatchesStatus CryptoLib.empty
        (reconcileStep CryptoLib.empty noKeystore driftedCluster laterAnswers).2 := by
  have hcache : driftedCluster.cached = driftedCluster.stored := by decide
  have hfresh : driftedCluster.cachedVersion = driftedCluster.version := by decide
  have hnotdue : (checkRotationNeeded driftedCluster.stored laterAnswers.clock.check).1 = false := by
    decide
  have hmismatch := not_secretMatchesStatus_of_keyID CryptoLib.empty (s := driftedCluster) (by decide)
  exact ⟨hcache, hfresh, hnotdue, rfl, hmismatch,
    reconcile_succeeds_over_mismatched_secret CryptoLib.empty noKeystore driftedCluster laterAnswers
      hcache hfresh hnotdue rfl hmismatch⟩

/-- Without the stale read, the same start is a tame run: after `firstReconcile` and a catch-up of
the cache, a reconcile two minutes later reports success and leaves the Secret matching the
status. -/
theorem firstReconcile_keeps_secret_matching :
    newProfile.status.currentKeyID = "" ∧
      tameRun CryptoLib.empty noKeystore (Cluster.init newProfile)
        ([firstReconcile, .sync] ++ [.reconcile laterAnswers]) = true ∧
      (reconcileStep CryptoLib.empty noKeystore
          (run CryptoLib.empty noKeystore (Cluster.init newProfile) [firstReconcile, .sync])
          laterAnswers).1 = .ok ⟨⟨780000000000, by omega, by omega⟩⟩ ∧
      SecretMatchesStatus CryptoLib.empty (reconcileStep CryptoLib.empty noKeystore
        (run CryptoLib.empty noKeystore (Cluster.init newProfile) [firstReconcile, .sync])
        laterAnswers).2 := by
  have htame : tameRun CryptoLib.empty noKeystore (Cluster.init newProfile)
      ([firstReconcile, .sync] ++ [.reconcile laterAnswers]) = true := by decide
  have hok : (reconcileStep CryptoLib.empty noKeystore
      (run CryptoLib.empty noKeystore (Cluster.init newProfile) [firstReconcile, .sync])
      laterAnswers).1 = .ok ⟨⟨780000000000, by omega, by omega⟩⟩ := by decide
  exact ⟨rfl, htame, hok, tame_reconcile_secret_matches_status CryptoLib.empty noKeystore newProfile
    rfl _ laterAnswers htame _ hok⟩

/-! ## Only a rotation moves the key -/

/-- An event that neither rotates nor renames the Secret: an edit that keeps the Secret's name, a
catch-up of the cache, or a reconcile whose `EnsureKey` finds no rotation due on the profile it
reads. -/
def Event.keepsKey (s : Cluster) : Event → Bool
  | .edit spec => decide (spec.output.secretName = s.stored.spec.output.secretName)
  | .sync => true
  | .reconcile a => !(checkRotationNeeded s.cached a.clock.check).1

/-- Every event of the run keeps the key where it happens. -/
def keepsKeyRun (lib : CryptoLib) (keystore : Keystore) : Cluster → List Event → Bool
  | _, [] => true
  | s, e :: es => e.keepsKey s && keepsKeyRun lib keystore (step lib keystore s e) es

theorem step_sameKey (lib : CryptoLib) (keystore : Keystore) {s : Cluster} (hs : s.Coherent) :
    ∀ e, e.keepsKey s = true → (step lib keystore s e).SameKey s
  | .edit _, h => step_edit_sameKey lib keystore s (by simpa [Event.keepsKey] using h)
  | .sync, _ => ⟨rfl, rfl, rfl, rfl⟩
  | .reconcile _, h =>
    reconcileStep_sameKey_of_not_due lib keystore hs (by simpa [Event.keepsKey] using h)

theorem run_sameKey (lib : CryptoLib) (keystore : Keystore) :
    ∀ (events : List Event) (s : Cluster), s.Coherent → keepsKeyRun lib keystore s events = true →
      (run lib keystore s events).SameKey s
  | [], s, _, _ => .refl s
  | e :: es, s, hs, h => by
    simp only [keepsKeyRun, Bool.and_eq_true] at h
    exact (run_sameKey lib keystore es _ (step_coherent lib keystore hs e) h.2).trans
      (step_sameKey lib keystore hs e h.1)

/-- From any cluster whose cache is coherent with the store, along every run in which no
reconcile finds a rotation due and no edit renames the Secret, whether the Secret matches the
status never changes, whatever each call answers: `Reconcile` neither repairs nor breaks it. A
Secret left ahead of the status stays so until the next rotation. -/
theorem secretMatchesStatus_fixed_until_rotation (lib : CryptoLib) (keystore : Keystore)
    (s : Cluster) (hs : s.Coherent) (events : List Event)
    (hkeep : keepsKeyRun lib keystore s events = true) :
    SecretMatchesStatus lib (run lib keystore s events) ↔ SecretMatchesStatus lib s :=
  (run_sameKey lib keystore events s hs hkeep).matches_iff lib

/-- After the drift: a reconcile where nothing fails, an edit that lengthens the interval to 30
minutes, and a reconcile, on the cache from before the edit, whose status write would fail. -/
def afterDriftEvents : List Event :=
  [.reconcile laterAnswers,
    .edit { newProfile.spec with
      rotation := ⟨⟨1800000000000, by omega, by omega⟩, Validation.minGracePeriod⟩ },
    .reconcile { answersAt ⟨63898128180000000000⟩ (.error "not called") with
      statusError := some "etcd unavailable" }]

/-- The Secret `driftEvents` left ahead of the status is still ahead after `afterDriftEvents`. -/
theorem driftedCluster_stays_mismatched :
    driftedCluster.Coherent ∧
      keepsKeyRun CryptoLib.empty noKeystore driftedCluster afterDriftEvents = true ∧
      ¬ SecretMatchesStatus CryptoLib.empty
        (run CryptoLib.empty noKeystore driftedCluster afterDriftEvents) := by
  have hs : driftedCluster.Coherent := by decide
  have hkeep : keepsKeyRun CryptoLib.empty noKeystore driftedCluster afterDriftEvents = true := by
    decide
  exact ⟨hs, hkeep, (secretMatchesStatus_fixed_until_rotation CryptoLib.empty noKeystore
    driftedCluster hs afterDriftEvents hkeep).not.2
    (not_secretMatchesStatus_of_keyID CryptoLib.empty (by decide))⟩

/-! ## The store holds only admitted profiles -/

/-- The stored profile and the cached one were both admitted by the validating webhook. -/
structure Cluster.Admitted (s : Cluster) : Prop where
  stored : ∃ ws, Webhook.validateKeyProfile s.stored = .ok ws
  cached : ∃ ws, Webhook.validateKeyProfile s.cached = .ok ws

theorem afterStatus_admitted {s : Cluster} (hs : s.Admitted) (a : Answers) (secrets : Secrets)
    (sent : Option KeyProfile) : (afterStatus s a secrets sent).Admitted := by
  refine ⟨?_, (afterStatus_versions s a secrets sent).1 ▸ hs.cached⟩
  rcases sent with _ | sent
  · exact hs.stored
  rcases hupd : updateStatus s a sent with e | ⟨⟩ <;> simp only [afterStatus, hupd]
  · exact hs.stored
  · obtain ⟨ws, h⟩ := hs.stored
    exact ⟨ws, (Webhook.validateKeyProfile_congr rfl rfl).trans h⟩

/-- An edit is stored only once admitted; a catch-up copies the stored profile; a status write
leaves the namespace and the spec alone. -/
theorem step_admitted (lib : CryptoLib) (keystore : Keystore) {s : Cluster} (hs : s.Admitted) :
    ∀ e, (step lib keystore s e).Admitted
  | .edit spec => by
    rcases h : Webhook.validateKeyProfile (Webhook.default { s.stored with spec }) with err | ws
    · simpa only [step, h] using hs
    · simp only [step, h]
      exact ⟨⟨ws, h⟩, hs.cached⟩
  | .sync => ⟨hs.stored, hs.stored⟩
  | .reconcile a => afterStatus_admitted hs a _ _

theorem run_admitted (lib : CryptoLib) (keystore : Keystore) :
    ∀ (events : List Event) (s : Cluster), s.Admitted → (run lib keystore s events).Admitted
  | [], _, hs => hs
  | e :: es, _, hs => run_admitted lib keystore es _ (step_admitted lib keystore hs e)

/-- When every change of the spec goes through the webhooks, every profile the store and the
informer cache hold, along any run from an admitted profile, was admitted. So every reconcile
reads a profile whose service account is in its own namespace, whose rotation policy holds
whenever `3 · gracePeriod` fits in an `int64`, and whose key spec `Generate` accepts: `Generate`
fails only in the random source, and with a reliable one returns a key pair of the algorithm the
spec asks for. -/
theorem reconcile_reads_admitted_profile (lib : CryptoLib) (keystore : Keystore) (p : KeyProfile)
    (ws : List String) (hp : Webhook.validateKeyProfile p = .ok ws) (events : List Event)
    (E : Entropy) :
    let read := (run lib keystore (Cluster.init p) events).cached
    read.namespace = read.spec.serviceAccountRef.namespace ∧
      (3 * read.spec.rotation.gracePeriod.ns < 2 ^ 63 →
        300000000000 ≤ read.spec.rotation.gracePeriod.ns ∧
          3 * read.spec.rotation.gracePeriod.ns ≤ read.spec.rotation.interval.ns ∧
          900000000000 ≤ read.spec.rotation.interval.ns) ∧
      (∀ e, generate lib E (.ofKeySpec read.spec.keySpec) = .error e → e.IsRandomSourceFailure) ∧
      (E.Reliable → ∃ kp, generate lib E (.ofKeySpec read.spec.keySpec) = .ok kp ∧
        kp.algorithm = read.spec.keySpec.algorithm) := by
  intro read
  obtain ⟨ws', hread⟩ := (run_admitted lib keystore events (Cluster.init p) ⟨⟨ws, hp⟩, ⟨ws, hp⟩⟩).cached
  obtain ⟨hns, -, w, hw, -⟩ := (Webhook.validateKeyProfile_eq_ok_iff _ _).1 hread
  obtain ⟨halg, hfail, hok⟩ := generate_ok_of_validate lib E (.ofKeySpec read.spec.keySpec) hw
  exact ⟨hns, fun hfit => Webhook.validateKeyProfile_policy_of_no_overflow hfit hread, hfail,
    fun hE => (hok hE).imp fun kp hkp => ⟨hkp, halg kp hkp⟩⟩

/-- The profile `driftEvents` starts from is admitted without warnings, and the profile the next
reconcile reads has its service account in its own namespace. -/
theorem driftedCluster_reads_admitted_profile :
    Webhook.validateKeyProfile newProfile = .ok [] ∧
      driftedCluster.cached.namespace = driftedCluster.cached.spec.serviceAccountRef.namespace := by
  have hp : Webhook.validateKeyProfile newProfile = .ok [] := by decide
  exact ⟨hp, (reconcile_reads_admitted_profile CryptoLib.empty noKeystore newProfile [] hp driftEvents
    ⟨fun _ => .error "", fun _ => .error "", .error "", Time.zero, Time.zero,
      fun _ _ h => Except.noConfusion h, fun _ _ h => Except.noConfusion h⟩).1⟩

/-! ## The phase the status reports -/

/-- `Reconcile` sends `Status().Update` only the profile it read with the result recorded, whose
phase is `Active`. -/
theorem reconcile_sent_phase {ε₀ ε₁ ε₂ : Type} (get : Except (GetError ε₀) KeyProfile)
    (ensureKey : KeyProfile → Except ε₁ RotationResult) (updateStatus : KeyProfile → Except ε₂ Unit)
    (now : Time) {sent : KeyProfile} (h : (reconcile get ensureKey updateStatus now).2 = some sent) :
    sent.status.phase = "Active" := by
  simp only [reconcile] at h
  repeat' split at h
  all_goals (cases h; try rfl)

/-- The status write either keeps the stored phase or stores the phase of what was sent. -/
theorem afterStatus_phase (s : Cluster) (a : Answers) (secrets : Secrets) {sent : Option KeyProfile}
    (hsent : ∀ p, sent = some p → p.status.phase = "Active") :
    (afterStatus s a secrets sent).stored.status.phase = s.stored.status.phase ∨
      (afterStatus s a secrets sent).stored.status.phase = "Active" := by
  rcases sent with _ | p
  · exact .inl rfl
  rcases hupd : updateStatus s a p with e | ⟨⟩
  · exact .inl (by simp only [afterStatus, hupd])
  · exact .inr (by simp only [afterStatus, hupd, persistStatus_phase, hsent p rfl])

theorem step_phase (lib : CryptoLib) (keystore : Keystore) (s : Cluster) :
    ∀ e, (step lib keystore s e).stored.status.phase = s.stored.status.phase ∨
      (step lib keystore s e).stored.status.phase = "Active"
  | .edit spec => by
    rcases step_edit lib keystore s spec with h | h <;> rw [h]
    · exact .inl rfl
    · obtain ⟨spec', hd⟩ := Webhook.default_eq_with_spec { s.stored with spec }
      rw [hd]
      exact .inl rfl
  | .sync => .inl rfl
  | .reconcile a => afterStatus_phase s a _ fun _ h => reconcile_sent_phase _ _ _ _ h

/-- Along every run, whatever each call answers, the phase the status reports is the one the
profile started with or `Active`: the controller sets no other phase. The CRD lists `Idle`,
`Active`, `Generating`, `Publishing`, `Distributing`, `GracePeriod` and `Error`, but a failing
reconcile writes no status at all, so a profile whose every reconcile fails keeps its initial
phase. -/
theorem status_phase_initial_or_active (lib : CryptoLib) (keystore : Keystore) :
    ∀ (events : List Event) (s : Cluster),
      (run lib keystore s events).stored.status.phase = s.stored.status.phase ∨
        (run lib keystore s events).stored.status.phase = "Active"
  | [], _ => .inl rfl
  | e :: es, s => by
    rw [run_cons]
    rcases status_phase_initial_or_active lib keystore es (step lib keystore s e) with h | h
    · rw [h]
      exact step_phase lib keystore s e
    · exact .inr h

end Controller
end OpenUKR
