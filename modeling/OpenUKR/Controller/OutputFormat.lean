import OpenUKR.Controller.Cluster

/-!
# What the output format decides

The CRD admits three values for `spec.output.format` (`+kubebuilder:validation:Enum`):
`split-pem`, `bundle-json` and `jwks`; the defaulting webhook fills in `split-pem`, and the
validating webhook does not look at the format. `Render` lays out `split-pem`, `single-pem` and,
given a password, `jks`, and `Write` passes no password.

For the two PEM layouts the first reconcile of a new profile installs a key whenever the world
cooperates and `Generate` answers with a pair `x509` encodes, as every pair the real generator
returns is: it succeeds, the status names the generated key, and the Secret holds it
(`pem_format_reconcile_installs_key`).

A profile admitted with `bundle-json` or `jwks` reaches `Write` with a format `Render` refuses.
`EnsureKey` publishes before it persists, so each reconcile of such a profile generates a key,
publishes it to every target, and then fails in `Write`. No Secret is written and the status
never names a key, so the retry rotates again and publishes another key
(`unrendered_format_published_never_stored`). The invariant is `Cluster.Unwritable`, which every
event keeps unless an edit sets a format `Render` lays out.
-/

namespace OpenUKR
namespace Controller

open Api Crypto Output Rotation

/-! ## A PEM format gets its key from the first reconcile -/

section Progress

variable (lib : CryptoLib) (keystore : Keystore) {s : Cluster} {a : Answers}

/-- A reconcile from a fresh cache whose `EnsureKey` succeeds, against an accepting
`Status().Update`, succeeds. -/
theorem reconcileStep_fresh_succeeds (hcache : s.cached = s.stored)
    (hfresh : s.cachedVersion = s.version) (hstatus : a.statusError = none) {res : RotationResult}
    (hres : (ensureKey (collaborators lib keystore (a.server s.secrets) a) a.clock s.stored).result =
      .ok res) :
    ∃ r, (reconcileStep lib keystore s a).1 = .ok r := by
  simp only [reconcileStep, reconcile, hcache, hres]
  split_ifs
  · simp only [updateStatus_of_fresh hfresh hstatus]
    exact ⟨_, rfl⟩
  · exact ⟨_, rfl⟩

end Progress

/-- For the two PEM formats, the reconcile of a profile with no key yet, from a fresh cache,
against a world where every call succeeds, `Generate` answering with a pair whose two keys `x509`
encodes, and on a Secret no other object controls, succeeds: the status then names the key
`Generate` returned, and the Secret holds that key. -/
theorem pem_format_reconcile_installs_key (lib : CryptoLib) (keystore : Keystore) (s : Cluster)
    (hcache : s.cached = s.stored) (hfresh : s.cachedVersion = s.version)
    (hid : s.stored.status.currentKeyID = "")
    (hfmt : s.stored.spec.output.format = formatSplitPEM ∨ s.stored.spec.output.format = formatSinglePEM)
    (hclaim : ∀ secret c, s.secrets.lookup (secretKey s.stored) = some secret →
      getControllerOf secret.ownerReferences = some c → referSameObject c (controllerRef s.stored) = true)
    (a : Answers) {kp : KeyPair} {priv : PrivateKey} {pub : PublicKey} (hgen : a.generate = .ok kp)
    (hpriv : kp.privateKey = some priv) (hpub : kp.publicKey = some pub)
    (hprivM : priv.Marshalable) (hpubM : pub.Marshalable)
    (hpublish : a.publish = .ok ()) (hsrv : (a.server s.secrets).Accepting)
    (hstatus : a.statusError = none) :
    (∃ r, (reconcileStep lib keystore s a).1 = .ok r) ∧
      (reconcileStep lib keystore s a).2.stored.status.currentKeyID = kp.keyID ∧
      SecretMatchesStatus lib (reconcileStep lib keystore s a).2 := by
  have hdue := checkRotationNeeded_of_keyID_empty hid a.clock.check
  have hclaim' : ∀ c, getControllerOf ((a.server s.secrets).current (secretKey s.stored)).ownerReferences =
      some c → referSameObject c (controllerRef s.stored) = true := by
    intro c hc
    rcases hl : s.secrets.lookup (secretKey s.stored) with _ | secret
    · simp [SecretServer.current, Answers.server, hl, Secret.empty, getControllerOf] at hc
    · exact hclaim secret c hl (by simpa [SecretServer.current, Answers.server, hl] using hc)
  have hw := write_ok_of_pem lib keystore (a.server s.secrets) s.stored kp hpriv hpub hprivM hpubM
    hfmt hsrv hclaim'
  have hres := (ensureKey_of_generate_ok (collaborators lib keystore (a.server s.secrets) a) a.clock
    s.stored hdue (by simp [collaborators, hgen])).2.trans
    ((deferWipe_of_ne_nil_rsa (by rw [hpriv]; exact fun h => hprivM.ne_nil_rsa (Option.some.inj h)) _).trans
      ((ensureKeyWithKey_result_eq_ok _ s.stored a.clock.rotated kp _).2
        ⟨lib.fingerprintOfDER (lib.pkixDER pub),
          by simp [collaborators, hpub, computeFingerprint_of_marshalable lib hpubM],
          by simp [collaborators, hpublish], by simp [collaborators, hw], rfl⟩))
  obtain ⟨r, hr⟩ := reconcileStep_fresh_succeeds lib keystore hcache hfresh hstatus hres
  obtain ⟨res, hres', hkid, -⟩ := reconcileStep_fresh_ok lib keystore hcache hfresh hstatus hr
  cases hres.symm.trans hres'
  exact ⟨⟨r, hr⟩, hkid, reconcileStep_matches lib keystore hcache hfresh hstatus (.inl hid) hr⟩

/-- The first reconcile of `newProfile` at 2025-11-07T16:00:00Z, where nothing fails and
`Generate` answers with the scalar 1 and the base point. -/
theorem newProfile_first_reconcile_installs_key :
    let a := answersAt ⟨63898128000000000000⟩
      (.ok (ecKeyPair "ec-P-256-20251107-000001" 1 Curve.p256.basePoint ⟨63898128000000000000⟩))
    (Cluster.init newProfile).cached = (Cluster.init newProfile).stored ∧
      (Cluster.init newProfile).cachedVersion = (Cluster.init newProfile).version ∧
      (Cluster.init newProfile).stored.status.currentKeyID = "" ∧
      ((Cluster.init newProfile).stored.spec.output.format = formatSplitPEM ∨
        (Cluster.init newProfile).stored.spec.output.format = formatSinglePEM) ∧
      (∀ secret c, (Cluster.init newProfile).secrets.lookup (secretKey (Cluster.init newProfile).stored) =
          some secret → getControllerOf secret.ownerReferences = some c →
            referSameObject c (controllerRef (Cluster.init newProfile).stored) = true) ∧
      a.generate = .ok (ecKeyPair "ec-P-256-20251107-000001" 1 Curve.p256.basePoint
        ⟨63898128000000000000⟩) ∧
      (PrivateKey.ecdsa (some ⟨Curve.p256.basePoint, some 1⟩)).Marshalable ∧
      (PublicKey.ecdsa Curve.p256.basePoint).Marshalable ∧
      a.publish = .ok () ∧ (a.server (Cluster.init newProfile).secrets).Accepting ∧
      a.statusError = none ∧
      (∃ r, (reconcileStep CryptoLib.empty noKeystore (Cluster.init newProfile) a).1 = .ok r) ∧
      (reconcileStep CryptoLib.empty noKeystore (Cluster.init newProfile) a).2.stored.status.currentKeyID =
        "ec-P-256-20251107-000001" ∧
      SecretMatchesStatus CryptoLib.empty (reconcileStep CryptoLib.empty noKeystore (Cluster.init newProfile) a).2 := by
  intro a
  have hclaim : ∀ secret c, (Cluster.init newProfile).secrets.lookup
      (secretKey (Cluster.init newProfile).stored) = some secret → getControllerOf secret.ownerReferences =
        some c → referSameObject c (controllerRef (Cluster.init newProfile).stored) = true := by
    intro secret c h
    simp [Cluster.init] at h
  have hsrv : (a.server (Cluster.init newProfile).secrets).Accepting :=
    fun _ => ⟨rfl, fun _ => rfl, fun _ _ => rfl⟩
  have hprivM : (PrivateKey.ecdsa (some ⟨Curve.p256.basePoint, some 1⟩)).Marshalable := by decide
  have hpubM : (PublicKey.ecdsa Curve.p256.basePoint).Marshalable := by decide
  exact ⟨rfl, rfl, rfl, .inl rfl, hclaim, rfl, hprivM, hpubM, rfl, hsrv, rfl,
    pem_format_reconcile_installs_key CryptoLib.empty noKeystore (Cluster.init newProfile) rfl rfl rfl
      (.inl rfl) hclaim a rfl rfl rfl hprivM hpubM rfl hsrv rfl⟩

/-! ## A format `Render` refuses never gets a Secret -/

/-- The values the CRD schema admits for `OutputConfig.Format`
(`+kubebuilder:validation:Enum=split-pem;bundle-json;jwks`). -/
def outputFormatEnum : List String := ["split-pem", "bundle-json", "jwks"]

/-- Of the formats the CRD admits, only the default `split-pem` is one `Render` lays out without
a password. -/
theorem unrendered_of_mem_outputFormatEnum :
    ∀ f ∈ outputFormatEnum, f ≠ formatSplitPEM → f ≠ "" ∧ Unrendered f := by
  decide

/-- The profile has no key yet, and neither the stored nor the cached spec names a format
`Render` lays out without a password. -/
structure Cluster.Unwritable (s : Cluster) : Prop where
  storedKeyID : s.stored.status.currentKeyID = ""
  cachedKeyID : s.cached.status.currentKeyID = ""
  storedFormat : Unrendered s.stored.spec.output.format
  cachedFormat : Unrendered s.cached.spec.output.format

/-- An event that sets no format `Render` lays out: an edit to a format the defaulting webhook
keeps and `Render` refuses, a catch-up of the cache, or a reconcile. -/
def Event.keepsUnrendered : Event → Bool
  | .edit spec => decide (spec.output.format ≠ "" ∧ Unrendered spec.output.format)
  | .sync => true
  | .reconcile _ => true

section Unwritable

variable (lib : CryptoLib) (keystore : Keystore) {s : Cluster}

/-- On a profile with no key and a format `Render` refuses, `EnsureKey` fails whatever the world
answers: it rotates, and its `Write` fails if nothing before it does. -/
theorem ensureKey_error_of_unrendered (srv : SecretServer) (a : Answers) (clock : Clock)
    {p : KeyProfile} (hid : p.status.currentKeyID = "") (hf : Unrendered p.spec.output.format) :
    ∃ e, (ensureKey (collaborators lib keystore srv a) clock p).result = .error e := by
  rcases ensureKey_rotating_cases lib keystore srv a clock p (checkRotationNeeded_of_keyID_empty hid _)
    with ⟨e, he, -⟩ | ⟨_, kp, _, _, -, -, -, hr, -⟩
  · exact ⟨e, he⟩
  · obtain ⟨e, he⟩ := render_error_of_unrendered lib keystore kp ⟨p.spec.output.format, "", ""⟩ hf rfl
    cases hr.symm.trans he

/-- A reconcile of an unwritable cluster fails and leaves the cluster exactly as it was: the
Secrets untouched, and nothing sent to `Status().Update`. -/
theorem reconcileStep_of_unwritable (hs : s.Unwritable) (a : Answers) :
    (∃ e, (reconcileStep lib keystore s a).1 = .error e) ∧ (reconcileStep lib keystore s a).2 = s := by
  obtain ⟨e, he⟩ := ensureKey_error_of_unrendered lib keystore (a.server s.secrets) a a.clock
    hs.cachedKeyID hs.cachedFormat
  have hsecrets := secretsAfter_of_error lib keystore _ a a.clock s.cached he
  simp only [reconcileStep, reconcile, he, hsecrets]
  exact ⟨⟨_, rfl⟩, rfl⟩

/-- Every event that keeps the format unrendered keeps the cluster unwritable, and the Secrets and
the stored status as they were. -/
theorem step_unwritable (hs : s.Unwritable) :
    ∀ e, e.keepsUnrendered = true →
      (step lib keystore s e).Unwritable ∧ (step lib keystore s e).secrets = s.secrets ∧
        (step lib keystore s e).stored.status = s.stored.status
  | .edit spec, he => by
    simp only [Event.keepsUnrendered, decide_eq_true_eq] at he
    rcases step_edit lib keystore s spec with h | h <;> rw [h]
    · exact ⟨hs, rfl, rfl⟩
    · rw [@Webhook.default_of_format_ne_empty { s.stored with spec } he.1]
      exact ⟨⟨hs.storedKeyID, hs.cachedKeyID, he.2, hs.cachedFormat⟩, rfl, rfl⟩
  | .sync, _ => ⟨⟨hs.storedKeyID, hs.storedKeyID, hs.storedFormat, hs.storedFormat⟩, rfl, rfl⟩
  | .reconcile a, _ => by
    rw [step, (reconcileStep_of_unwritable lib keystore hs a).2]
    exact ⟨hs, rfl, rfl⟩

theorem run_unwritable :
    ∀ (events : List Event) (s : Cluster), s.Unwritable → events.all Event.keepsUnrendered = true →
      (run lib keystore s events).Unwritable ∧ (run lib keystore s events).secrets = s.secrets ∧
        (run lib keystore s events).stored.status = s.stored.status
  | [], _, hs, _ => ⟨hs, rfl, rfl⟩
  | e :: es, s, hs, hall => by
    simp only [List.all_cons, Bool.and_eq_true] at hall
    obtain ⟨hs', hsec, hst⟩ := step_unwritable lib keystore hs e hall.1
    obtain ⟨hr, hrsec, hrst⟩ := run_unwritable es _ hs' hall.2
    exact ⟨hr, hrsec.trans hsec, hrst.trans hst⟩

end Unwritable

/-- A profile with no key whose format `Render` refuses without a password (of the formats the
CRD admits, `bundle-json` and `jwks`) never gets a Secret. Along every run whose edits keep such a
format, whatever each call answers, the Secrets and the stored status stay as they were. From
every cluster the run reaches, each reconcile fails and changes nothing; yet, whenever `Generate`
returns a pair whose fingerprint is computed, it has published that pair's public key to the
targets first. -/
theorem unrendered_format_published_never_stored (lib : CryptoLib) (keystore : Keystore)
    (s : Cluster) (hs : s.Unwritable) (events : List Event)
    (hevents : events.all Event.keepsUnrendered = true) :
    let s' := run lib keystore s events
    s'.secrets = s.secrets ∧ s'.stored.status = s.stored.status ∧
      ∀ a : Answers, (∃ e, (reconcileStep lib keystore s' a).1 = .error e) ∧
        (reconcileStep lib keystore s' a).2 = s' ∧
        ∀ kp fp, a.generate = .ok kp → computeFingerprint lib kp.publicKey = .ok fp →
          Call.publishAll s'.cached.spec.publish kp ∈
            (ensureKey (collaborators lib keystore (a.server s'.secrets) a) a.clock s'.cached).calls := by
  intro s'
  obtain ⟨hs', hsec, hst⟩ := run_unwritable lib keystore events s hs hevents
  refine ⟨hsec, hst, fun a => ⟨(reconcileStep_of_unwritable lib keystore hs' a).1,
    (reconcileStep_of_unwritable lib keystore hs' a).2, fun kp fp hg hf => ?_⟩⟩
  exact publishAll_mem_calls _ a.clock s'.cached (checkRotationNeeded_of_keyID_empty hs'.cachedKeyID _)
    (by simp [collaborators, hg]) (show _ = Except.ok fp by simp [collaborators, hf])

/-- `newProfile` with the output format `jwks`, which the CRD admits. -/
def jwksProfile : KeyProfile := { newProfile with spec.output.format := "jwks" }

/-- The first reconcile of `jwksProfile`, a catch-up of the cache, and an edit to `bundle-json`. -/
def jwksEvents : List Event :=
  [firstReconcile, .sync,
    .edit { jwksProfile.spec with output := { jwksProfile.spec.output with format := "bundle-json" } }]

theorem jwksProfile_published_never_stored :
    (Cluster.init jwksProfile).Unwritable ∧ jwksEvents.all Event.keepsUnrendered = true ∧
      let s' := run CryptoLib.empty noKeystore (Cluster.init jwksProfile) jwksEvents
      s'.secrets = (Cluster.init jwksProfile).secrets ∧
        s'.stored.status = (Cluster.init jwksProfile).stored.status ∧
        ∀ a : Answers, (∃ e, (reconcileStep CryptoLib.empty noKeystore s' a).1 = .error e) ∧
          (reconcileStep CryptoLib.empty noKeystore s' a).2 = s' ∧
          ∀ kp fp, a.generate = .ok kp → computeFingerprint CryptoLib.empty kp.publicKey = .ok fp →
            Call.publishAll s'.cached.spec.publish kp ∈
              (ensureKey (collaborators CryptoLib.empty noKeystore (a.server s'.secrets) a) a.clock
                s'.cached).calls := by
  have hjwks := (unrendered_of_mem_outputFormatEnum "jwks" (by decide) (by decide)).2
  have hs : (Cluster.init jwksProfile).Unwritable := ⟨rfl, rfl, hjwks, hjwks⟩
  have hev : jwksEvents.all Event.keepsUnrendered = true := by decide
  exact ⟨hs, hev, unrendered_format_published_never_stored CryptoLib.empty noKeystore _ hs jwksEvents hev⟩

end Controller
end OpenUKR
