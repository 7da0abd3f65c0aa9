import OpenUKR.Output.Renderer

/-!
# `output.kubeSecretWriter.Write` — the Secret as a create-or-update

`Write` renders the key material and hands a mutate function to controller-runtime's
`CreateOrUpdate`. The mutate function claims the Secret with `SetControllerReference`, merges
the labels, replaces the data, sets the type and adds the three annotations.

The library code it runs is modelled from controller-runtime: `SetControllerReference` refuses a
Secret whose controller does not `referSameObject` the profile. That comparison is by API group,
kind and name: the UID is not compared, so a Secret controlled by another object of the same
name (an earlier `KeyProfile` deleted and created again, or any reference naming it) is claimed.

The API server is the store of Secrets by key, together with its answer to each call
`CreateOrUpdate` makes: a `Get` may fail, and a `Create` or an `Update` may be refused (an
immutable `type` or `data`, an admission webhook, a conflict). Everything below holds for every
such server.
-/

namespace OpenUKR
namespace Output

open Api Crypto

/-- `metav1.OwnerReference`. -/
structure OwnerReference where
  apiVersion : String
  kind : String
  name : String
  uid : String
  controller : Option Bool
  blockOwnerDeletion : Option Bool
  deriving DecidableEq

/-- `corev1.Secret`, by the fields `Write` reads or sets; its name and namespace are its key in
the store. -/
structure Secret where
  labels : GoMap String
  annotations : GoMap String
  data : GoMap Bytes
  type : String
  ownerReferences : List OwnerReference
  deriving DecidableEq

/-- The object `CreateOrUpdate` mutates when no Secret exists: only its key is set. -/
def Secret.empty : Secret := ⟨∅, ∅, ∅, "", []⟩

/-- `schema.ParseGroupVersion(gv)`: group and version, split at the only `/`. -/
def parseGroupVersion (gv : String) : Except String (String × String) :=
  if gv = "" ∨ gv = "/" then .ok ("", "")
  else
    match gv.toList.count '/' with
    | 0 => .ok ("", gv)
    | 1 => .ok (String.mk (gv.toList.takeWhile (· ≠ '/')),
        String.mk ((gv.toList.dropWhile (· ≠ '/')).drop 1))
    | _ => .error ("unexpected GroupVersion string: " ++ gv)

example : parseGroupVersion "openukr.openukr.io/v1alpha1" = .ok ("openukr.openukr.io", "v1alpha1") := by
  decide

/-- `referSameObject(a, b)`: the same API group, kind and name. -/
def referSameObject (a b : OwnerReference) : Bool :=
  match parseGroupVersion a.apiVersion, parseGroupVersion b.apiVersion with
  | .ok ga, .ok gb => ga.1 = gb.1 && a.kind = b.kind && a.name = b.name
  | _, _ => false

/-- `metav1.GetControllerOf`: the first reference with `Controller` set. -/
def getControllerOf (refs : List OwnerReference) : Option OwnerReference :=
  refs.find? fun r => r.controller = some true

/-- `upsertOwnerRef(ref, object)`: `ref` replaces the first reference to the same object
(`indexOwnerRef`), or is appended when there is none. -/
def upsertOwnerRef (ref : OwnerReference) : List OwnerReference → List OwnerReference
  | [] => [ref]
  | r :: rs => if referSameObject r ref then ref :: rs else r :: upsertOwnerRef ref rs

/-- The errors of `SetControllerReference`. -/
inductive OwnerError
  /-- `"cluster-scoped resource must not have a namespace-scoped owner, owner's namespace %s"`. -/
  | clusterScoped (ownerNs : String)
  /-- `"cross-namespace owner references are disallowed, owner's namespace %s, obj's namespace %s"`. -/
  | crossNamespace (ownerNs objNs : String)
  /-- `AlreadyOwnedError`: `"Object %s/%s is already owned by another %s controller %s"`. -/
  | alreadyOwned (existing : OwnerReference)
  deriving DecidableEq

/-- `validateOwner(owner, object)`, on the two namespaces. -/
def validateOwner (ownerNs objNs : String) : Except OwnerError Unit :=
  if ownerNs ≠ "" then
    if objNs = "" then .error (.clusterScoped ownerNs)
    else if ownerNs ≠ objNs then .error (.crossNamespace ownerNs objNs)
    else .ok ()
  else .ok ()

/-- The group and version `KeyProfile` is registered under in the scheme. -/
def keyProfileAPIVersion : String := "openukr.openukr.io/v1alpha1"

/-- The reference `SetControllerReference` builds for the profile. -/
def controllerRef (profile : KeyProfile) : OwnerReference :=
  { apiVersion := keyProfileAPIVersion, kind := "KeyProfile", name := profile.name,
    uid := profile.uid, controller := some true, blockOwnerDeletion := some true }

/-- `ctrl.SetControllerReference(profile, object, scheme)`, on the object's namespace and its
owner references. -/
def setControllerReference (profile : KeyProfile) (objNs : String) (refs : List OwnerReference) :
    Except OwnerError (List OwnerReference) := do
  validateOwner profile.namespace objNs
  let ref := controllerRef profile
  match getControllerOf refs with
  | some existing =>
    if !referSameObject existing ref then throw (.alreadyOwned existing)
    else pure (upsertOwnerRef ref refs)
  | none => pure (upsertOwnerRef ref refs)

/-- `"app.kubernetes.io/managed-by"`. -/
def managedByLabel : String := "app.kubernetes.io/managed-by"

/-- `"openukr.io/key-profile"`. -/
def keyProfileLabel : String := "openukr.io/key-profile"

/-- `"openukr.io/last-rotation"`. -/
def lastRotationAnnotation : String := "openukr.io/last-rotation"

/-- `"openukr.io/key-id"`. -/
def keyIDAnnotation : String := "openukr.io/key-id"

/-- `"openukr.io/algorithm"`. -/
def algorithmAnnotation : String := "openukr.io/algorithm"

/-- `corev1.SecretTypeOpaque`. -/
def secretTypeOpaque : String := "Opaque"

/-- `corev1.SecretTypeTLS`. -/
def secretTypeTLS : String := "kubernetes.io/tls"

/-- The mutate function `Write` passes to `CreateOrUpdate`. -/
def mutateSecret (profile : KeyProfile) (kp : KeyPair) (data : GoMap Bytes) (secret : Secret) :
    Except OwnerError Secret := do
  let refs ← setControllerReference profile profile.namespace secret.ownerReferences
  let labels := ((secret.labels.assign profile.spec.output.labels).insert managedByLabel "openukr").insert
    keyProfileLabel profile.name
  let type := if profile.spec.output.format = formatSplitPEM then secretTypeTLS else secretTypeOpaque
  let annotations :=
    ((secret.annotations.insert lastRotationAnnotation kp.createdAt.formatRFC3339).insert
      keyIDAnnotation kp.keyID).insert algorithmAnnotation kp.algorithm
  pure { labels, annotations, data, type, ownerReferences := refs }

/-- The key of a Secret: `client.ObjectKey`. -/
structure ObjectKey where
  «namespace» : String
  name : String
  deriving DecidableEq

/-- The Secrets the API server stores, by key. -/
abbrev Secrets := Finmap fun _ : ObjectKey => Secret

/-- The API server: its Secrets, and its answer to each call (`none` admits it). -/
structure SecretServer where
  secrets : Secrets
  /-- A `Get` failing with an error other than NotFound. -/
  getError : ObjectKey → Option String
  /-- The answer to a `Create` of the object. -/
  createError : ObjectKey → Secret → Option String
  /-- The answer to an `Update` from the stored object to the new one. -/
  updateError : ObjectKey → Secret → Secret → Option String

/-- `controllerutil.OperationResult`. -/
inductive OperationResult
  | none
  | created
  | updated
  deriving DecidableEq

/-- The error `CreateOrUpdate` returns: the API server's, or the mutate function's. -/
inductive ApplyError (ε : Type)
  | api (e : String)
  | mutate (e : ε)
  deriving DecidableEq

/-- `controllerutil.CreateOrUpdate(ctx, c, obj, f)` for the object with key `key`: the result,
and the Secrets afterwards. The `DeepEqual` test skips the `Update` of an unchanged object. -/
def createOrUpdate {ε : Type} (srv : SecretServer) (key : ObjectKey) (f : Secret → Except ε Secret) :
    Except (ApplyError ε) OperationResult × Secrets :=
  match srv.getError key with
  | some e => (.error (.api e), srv.secrets)
  | none =>
    match srv.secrets.lookup key with
    | none =>
      match f Secret.empty with
      | .error e => (.error (.mutate e), srv.secrets)
      | .ok obj =>
        match srv.createError key obj with
        | some e => (.error (.api e), srv.secrets)
        | none => (.ok .created, srv.secrets.insert key obj)
    | some existing =>
      match f existing with
      | .error e => (.error (.mutate e), srv.secrets)
      | .ok obj =>
        if existing = obj then (.ok .none, srv.secrets)
        else
          match srv.updateError key existing obj with
          | some e => (.error (.api e), srv.secrets)
          | none => (.ok .updated, srv.secrets.insert key obj)

/-- The errors of `Write`. -/
inductive WriteError
  /-- `"failed to render key material: %w"`. -/
  | render (e : String)
  /-- `"failed to apply secret: %w"`; a mutate error reads
  `"failed to set controller reference: %w"`. -/
  | apply (e : ApplyError OwnerError)
  deriving DecidableEq

/-- The key of the Secret `Write` manages for the profile. -/
def secretKey (profile : KeyProfile) : ObjectKey := ⟨profile.namespace, profile.spec.output.secretName⟩

/-- `kubeSecretWriter.Write(ctx, profile, kp)`: the result, and the Secrets afterwards. No
password is passed to `Render`, and a panic in it goes on unwinding. -/
def write (lib : CryptoLib) (keystore : Keystore) (srv : SecretServer) (profile : KeyProfile)
    (kp : KeyPair) : Except (Fault WriteError) Unit × Secrets :=
  match render lib keystore kp ⟨profile.spec.output.format, "", ""⟩ with
  | .error e => (.error (e.map .render), srv.secrets)
  | .ok data =>
    let (res, secrets) := createOrUpdate srv (secretKey profile) (mutateSecret profile kp data)
    ((res.map fun _ => ()).mapError (.error ∘ .apply), secrets)

/-! ## Claiming the Secret -/

theorem validateOwner_self (ns : String) : validateOwner ns ns = .ok () := by
  unfold validateOwner; split_ifs <;> simp_all

/-- The upserted reference is the controller, provided the one it replaces, if any, was one
for the same object. -/
theorem getControllerOf_upsertOwnerRef {ref : OwnerReference} (hctl : ref.controller = some true) :
    ∀ {refs : List OwnerReference},
      (∀ c, getControllerOf refs = some c → referSameObject c ref = true) →
        getControllerOf (upsertOwnerRef ref refs) = some ref
  | [], _ => by simp [getControllerOf, upsertOwnerRef, hctl]
  | r :: rs, h => by
    by_cases hr : referSameObject r ref = true
    · simp [getControllerOf, upsertOwnerRef, hr, hctl]
    · have hrc : ¬ r.controller = some true := fun hc =>
        hr (h r (by simp [getControllerOf, hc]))
      have ih := @getControllerOf_upsertOwnerRef ref hctl rs fun c hc =>
        h c (by simpa [getControllerOf, hrc] using hc)
      simpa [getControllerOf, upsertOwnerRef, hr, hrc] using ih

/-- `SetControllerReference` on an object in the owner's namespace succeeds exactly when the
object has no controller or one that refers to the same object, and then upserts the
reference. -/
theorem setControllerReference_eq_ok_iff (profile : KeyProfile) (refs r : List OwnerReference) :
    setControllerReference profile profile.namespace refs = .ok r ↔
      (∀ c, getControllerOf refs = some c → referSameObject c (controllerRef profile) = true) ∧
        r = upsertOwnerRef (controllerRef profile) refs := by
  simp only [setControllerReference, validateOwner_self, Except.bind_ok_left]
  cases hc : getControllerOf refs with
  | none => simpa using eq_comm
  | some c =>
    cases hs : referSameObject c (controllerRef profile)
    · simp [hs, throw, throwThe, MonadExceptOf.throw]
    · simp only [hs, Bool.not_true, Bool.false_eq_true, if_false, Except.ok.injEq,
        Option.some.injEq, forall_eq', true_and, Except.pure_eq_ok]
      exact eq_comm

/-- The mutate function succeeds exactly when the Secret may be claimed, and sets every field
it writes. -/
theorem mutateSecret_eq_ok_iff {profile : KeyProfile} {kp : KeyPair} {data : GoMap Bytes}
    {secret obj : Secret} :
    mutateSecret profile kp data secret = .ok obj ↔
      (∀ c, getControllerOf secret.ownerReferences = some c →
        referSameObject c (controllerRef profile) = true) ∧
      obj = { labels := ((secret.labels.assign profile.spec.output.labels).insert managedByLabel
                "openukr").insert keyProfileLabel profile.name,
              annotations := ((secret.annotations.insert lastRotationAnnotation
                kp.createdAt.formatRFC3339).insert keyIDAnnotation kp.keyID).insert
                algorithmAnnotation kp.algorithm,
              data,
              type := if profile.spec.output.format = formatSplitPEM then secretTypeTLS
                else secretTypeOpaque,
              ownerReferences := upsertOwnerRef (controllerRef profile) secret.ownerReferences } := by
  simp only [mutateSecret, Except.bind_eq_ok, setControllerReference_eq_ok_iff, Except.pure_eq_ok,
    Except.ok.injEq]
  constructor
  · rintro ⟨r, ⟨hc, rfl⟩, rfl⟩
    exact ⟨hc, rfl⟩
  · rintro ⟨hc, rfl⟩
    exact ⟨_, ⟨hc, rfl⟩, rfl⟩

/-- What a successful mutate function writes: the rendered data and nothing else, the labels
merged with the management labels on top, the three annotations over the old ones, the type of
the format, and the profile as controller. -/
theorem mutateSecret_spec {profile : KeyProfile} {kp : KeyPair} {data : GoMap Bytes}
    {secret obj : Secret} (h : mutateSecret profile kp data secret = .ok obj) :
    obj.data = data ∧
      (∀ k, obj.labels.lookup k =
        if k = keyProfileLabel then some profile.name
        else if k = managedByLabel then some "openukr"
        else (profile.spec.output.labels.lookup k).or (secret.labels.lookup k)) ∧
      (∀ k, obj.annotations.lookup k =
        if k = algorithmAnnotation then some kp.algorithm
        else if k = keyIDAnnotation then some kp.keyID
        else if k = lastRotationAnnotation then some kp.createdAt.formatRFC3339
        else secret.annotations.lookup k) ∧
      obj.type = (if profile.spec.output.format = formatSplitPEM then secretTypeTLS
        else secretTypeOpaque) ∧
      getControllerOf obj.ownerReferences = some (controllerRef profile) := by
  obtain ⟨hc, rfl⟩ := mutateSecret_eq_ok_iff.1 h
  refine ⟨rfl, fun k => ?_, fun k => ?_, rfl, getControllerOf_upsertOwnerRef rfl hc⟩
  · dsimp only
    by_cases h₁ : k = keyProfileLabel
    · rw [if_pos h₁, h₁, Finmap.lookup_insert]
    rw [Finmap.lookup_insert_of_ne _ h₁, if_neg h₁]
    by_cases h₂ : k = managedByLabel
    · rw [if_pos h₂, h₂, Finmap.lookup_insert]
    rw [Finmap.lookup_insert_of_ne _ h₂, if_neg h₂, GoMap.lookup_assign]
  · dsimp only
    by_cases h₁ : k = algorithmAnnotation
    · rw [if_pos h₁, h₁, Finmap.lookup_insert]
    rw [Finmap.lookup_insert_of_ne _ h₁, if_neg h₁]
    by_cases h₂ : k = keyIDAnnotation
    · rw [if_pos h₂, h₂, Finmap.lookup_insert]
    rw [Finmap.lookup_insert_of_ne _ h₂, if_neg h₂]
    by_cases h₃ : k = lastRotationAnnotation
    · rw [if_pos h₃, h₃, Finmap.lookup_insert]
    rw [Finmap.lookup_insert_of_ne _ h₃, if_neg h₃]

/-! ## `CreateOrUpdate` against the store -/

/-- The object `CreateOrUpdate` mutates: the stored Secret, or an empty one. -/
def SecretServer.current (srv : SecretServer) (key : ObjectKey) : Secret :=
  (srv.secrets.lookup key).getD Secret.empty

/-- A server that admits every call. -/
def SecretServer.Accepting (srv : SecretServer) : Prop :=
  ∀ key, srv.getError key = none ∧ (∀ obj, srv.createError key obj = none) ∧
    ∀ old new, srv.updateError key old new = none

theorem insert_lookup_self {s : Secrets} {key : ObjectKey} {obj : Secret}
    (h : s.lookup key = some obj) : s.insert key obj = s :=
  Finmap.ext_lookup fun k => by
    by_cases hk : k = key
    · subst hk; rw [Finmap.lookup_insert, h]
    · rw [Finmap.lookup_insert_of_ne _ hk]

section CreateOrUpdate

variable {ε : Type} (srv : SecretServer) (key : ObjectKey) (f : Secret → Except ε Secret)

/-- `CreateOrUpdate` either fails and leaves the store as it was, or stores what the mutate
function made of the current object. -/
theorem createOrUpdate_cases :
    (∃ e, createOrUpdate srv key f = (.error e, srv.secrets)) ∨
      ∃ obj r, f (srv.current key) = .ok obj ∧
        createOrUpdate srv key f = (.ok r, srv.secrets.insert key obj) := by
  unfold createOrUpdate SecretServer.current
  split
  · exact .inl ⟨_, rfl⟩
  · rcases hl : srv.secrets.lookup key with _ | existing <;> simp only [Option.getD]
    · rcases hf : f Secret.empty with e | obj
      · exact .inl ⟨_, rfl⟩
      · dsimp only
        cases srv.createError key obj
        · exact .inr ⟨obj, .created, rfl, rfl⟩
        · exact .inl ⟨_, rfl⟩
    · rcases hf : f existing with e | obj
      · exact .inl ⟨_, rfl⟩
      · dsimp only
        by_cases heq : existing = obj
        · exact .inr ⟨obj, .none, rfl, by simp only [heq, if_true, insert_lookup_self (heq ▸ hl)]⟩
        · cases hu : srv.updateError key existing obj with
          | none => exact .inr ⟨obj, .updated, rfl, by simp only [heq, if_false, hu]⟩
          | some e => exact .inl ⟨.api e, by simp only [heq, if_false, hu]⟩

/-- A failing mutate function fails `CreateOrUpdate`. -/
theorem createOrUpdate_error_of_mutate {e : ε} (h : f (srv.current key) = .error e) :
    ∃ e', (createOrUpdate srv key f).1 = .error e' := by
  rcases createOrUpdate_cases srv key f with ⟨e', he'⟩ | ⟨obj, r, hobj, -⟩
  · exact ⟨e', by rw [he']⟩
  · cases h.symm.trans hobj

/-- Against a server that admits every call, `CreateOrUpdate` fails only in the mutate
function. -/
theorem createOrUpdate_ok_of_accepting (hsrv : srv.Accepting) {obj : Secret}
    (h : f (srv.current key) = .ok obj) : ∃ r, (createOrUpdate srv key f).1 = .ok r := by
  obtain ⟨hget, hcreate, hupdate⟩ := hsrv key
  unfold SecretServer.current at h
  unfold createOrUpdate
  rcases hl : srv.secrets.lookup key with _ | existing <;>
    simp only [hget, hl, Option.getD] at h ⊢ <;> simp only [h, hcreate, hupdate]
  · exact ⟨_, rfl⟩
  · split_ifs <;> exact ⟨_, rfl⟩

end CreateOrUpdate

/-! ## `Write` -/

section Write

variable (lib : CryptoLib) (keystore : Keystore) (srv : SecretServer) (profile : KeyProfile)
  (kp : KeyPair)

/-- Once rendered, `Write` is `CreateOrUpdate` with its error wrapped. -/
theorem write_of_render {data : GoMap Bytes}
    (hr : render lib keystore kp ⟨profile.spec.output.format, "", ""⟩ = .ok data) :
    write lib keystore srv profile kp =
      (((createOrUpdate srv (secretKey profile) (mutateSecret profile kp data)).1.map
        fun _ => ()).mapError (.error ∘ .apply),
        (createOrUpdate srv (secretKey profile) (mutateSecret profile kp data)).2) := by
  simp only [write, hr]

/-- `Write` either fails and leaves every Secret as it was, or stores at the profile's key what
the mutate function made of the current Secret with the rendered data. -/
theorem write_cases :
    (∃ e, write lib keystore srv profile kp = (.error e, srv.secrets)) ∨
      ∃ data obj, render lib keystore kp ⟨profile.spec.output.format, "", ""⟩ = .ok data ∧
        mutateSecret profile kp data (srv.current (secretKey profile)) = .ok obj ∧
        write lib keystore srv profile kp = (.ok (), srv.secrets.insert (secretKey profile) obj) := by
  rcases hr : render lib keystore kp ⟨profile.spec.output.format, "", ""⟩ with e | data
  · exact .inl ⟨e.map .render, by simp only [write, hr]⟩
  · rw [write_of_render lib keystore srv profile kp hr]
    rcases createOrUpdate_cases srv (secretKey profile) (mutateSecret profile kp data) with
      ⟨e, he⟩ | ⟨obj, r, hobj, hcu⟩
    · exact .inl ⟨.error (.apply e), by rw [he]; rfl⟩
    · exact .inr ⟨data, obj, rfl, hobj, by rw [hcu]; rfl⟩

/-- A refused claim fails `Write`. -/
theorem write_error_of_mutate {data : GoMap Bytes} {e : OwnerError}
    (hr : render lib keystore kp ⟨profile.spec.output.format, "", ""⟩ = .ok data)
    (hm : mutateSecret profile kp data (srv.current (secretKey profile)) = .error e) :
    ∃ e', (write lib keystore srv profile kp).1 = .error e' := by
  obtain ⟨e', he'⟩ := createOrUpdate_error_of_mutate srv (secretKey profile) _ hm
  exact ⟨.error (.apply e'), by rw [write_of_render lib keystore srv profile kp hr, he']; rfl⟩

/-- `Write` succeeds for a pair with two keys `x509` encodes in a PEM format, against a server that
refuses nothing, on a Secret it may claim. -/
theorem write_ok_of_pem {priv : PrivateKey} {pub : PublicKey} (hpriv : kp.privateKey = some priv)
    (hpub : kp.publicKey = some pub) (hprivM : priv.Marshalable) (hpubM : pub.Marshalable)
    (hfmt : profile.spec.output.format = formatSplitPEM ∨ profile.spec.output.format = formatSinglePEM)
    (hsrv : srv.Accepting)
    (hclaim : ∀ c, getControllerOf (srv.current (secretKey profile)).ownerReferences = some c →
      referSameObject c (controllerRef profile) = true) :
    (write lib keystore srv profile kp).1 = .ok () := by
  obtain ⟨data, hr⟩ : ∃ data, render lib keystore kp ⟨profile.spec.output.format, "", ""⟩ = .ok data := by
    rw [render_of_keys lib keystore hpriv hpub hprivM hpubM]
    rcases hfmt with h | h <;> simp [h, formatSplitPEM, formatSinglePEM]
  have hm := (@mutateSecret_eq_ok_iff profile kp data _ _).2 ⟨hclaim, rfl⟩
  obtain ⟨r, hcu⟩ := createOrUpdate_ok_of_accepting srv (secretKey profile) _ hsrv hm
  rw [write_of_render lib keystore srv profile kp hr, hcu]
  rfl

/-! ### Writing the same pair again -/

theorem referSameObject_controllerRef (profile : KeyProfile) :
    referSameObject (controllerRef profile) (controllerRef profile) = true := by
  have hgv : parseGroupVersion keyProfileAPIVersion = .ok ("openukr.openukr.io", "v1alpha1") := by
    decide
  simp [referSameObject, controllerRef, hgv]

/-- Upserting a reference to its own object a second time changes nothing. -/
theorem upsertOwnerRef_upsertOwnerRef {ref : OwnerReference} (hself : referSameObject ref ref = true) :
    ∀ refs, upsertOwnerRef ref (upsertOwnerRef ref refs) = upsertOwnerRef ref refs
  | [] => by simp [upsertOwnerRef, hself]
  | r :: rs => by
    by_cases hr : referSameObject r ref = true
    · simp [upsertOwnerRef, hr, hself]
    · simp [upsertOwnerRef, hr, upsertOwnerRef_upsertOwnerRef hself rs]

/-- The label merge of the mutate function, done twice, is done once. -/
theorem mergeLabels_idem (labels user : GoMap String) (k₁ k₂ v₁ v₂ : String) :
    ((GoMap.assign (((labels.assign user).insert k₁ v₁).insert k₂ v₂) user).insert k₁ v₁).insert
        k₂ v₂ =
      ((labels.assign user).insert k₁ v₁).insert k₂ v₂ := by
  refine Finmap.ext_lookup fun k => ?_
  by_cases h₂ : k = k₂
  · subst h₂; simp only [Finmap.lookup_insert]
  by_cases h₁ : k = k₁
  · subst h₁; simp only [Finmap.lookup_insert_of_ne _ h₂, Finmap.lookup_insert]
  simp only [Finmap.lookup_insert_of_ne _ h₂, Finmap.lookup_insert_of_ne _ h₁, GoMap.lookup_assign]
  cases user.lookup k <;> rfl

/-- The three annotations, set twice, are set once. -/
theorem setAnnotations_idem (annotations : GoMap String) (k₁ k₂ k₃ v₁ v₂ v₃ : String) :
    (((((annotations.insert k₁ v₁).insert k₂ v₂).insert k₃ v₃).insert k₁ v₁).insert k₂ v₂).insert k₃ v₃ =
      ((annotations.insert k₁ v₁).insert k₂ v₂).insert k₃ v₃ := by
  refine Finmap.ext_lookup fun k => ?_
  by_cases h₃ : k = k₃
  · subst h₃; simp only [Finmap.lookup_insert]
  by_cases h₂ : k = k₂
  · subst h₂; simp only [Finmap.lookup_insert_of_ne _ h₃, Finmap.lookup_insert]
  by_cases h₁ : k = k₁
  · subst h₁; simp only [Finmap.lookup_insert_of_ne _ h₃, Finmap.lookup_insert_of_ne _ h₂, Finmap.lookup_insert]
  simp only [Finmap.lookup_insert_of_ne _ h₃, Finmap.lookup_insert_of_ne _ h₂,
    Finmap.lookup_insert_of_ne _ h₁]

/-- The mutate function leaves what it made as it was. -/
theorem mutateSecret_mutateSecret {data : GoMap Bytes} {secret obj : Secret}
    (h : mutateSecret profile kp data secret = .ok obj) : mutateSecret profile kp data obj = .ok obj := by
  have hctl := (mutateSecret_spec h).2.2.2.2
  obtain ⟨-, rfl⟩ := mutateSecret_eq_ok_iff.1 h
  refine mutateSecret_eq_ok_iff.2 ⟨fun c hc => ?_, ?_⟩
  · rw [hctl, Option.some.injEq] at hc
    exact hc ▸ referSameObject_controllerRef profile
  · simp only [mergeLabels_idem, setAnnotations_idem,
      upsertOwnerRef_upsertOwnerRef (referSameObject_controllerRef profile)]

/-- `Write` is idempotent: once it has succeeded, writing the same pair for the same profile
again changes no Secret and succeeds, whatever the API server would answer to a `Create` or an
`Update`, since `CreateOrUpdate` finds the Secret as the mutate function leaves it and makes
neither call. Only a failing `Get` can fail it. -/
theorem write_twice_changes_nothing {secrets : Secrets}
    (h : write lib keystore srv profile kp = (.ok (), secrets)) (srv' : SecretServer)
    (hs : srv'.secrets = secrets) (hget : srv'.getError (secretKey profile) = none) :
    write lib keystore srv' profile kp = (.ok (), secrets) := by
  rcases write_cases lib keystore srv profile kp with ⟨e, he⟩ | ⟨data, obj, hr, hm, hw⟩
  · cases (Prod.mk.inj (he.symm.trans h)).1
  have hlookup : srv'.secrets.lookup (secretKey profile) = some obj := by
    rw [hs, ← (Prod.mk.inj (hw.symm.trans h)).2, Finmap.lookup_insert]
  rw [write_of_render lib keystore srv' profile kp hr, ← hs]
  simp only [createOrUpdate, hget, hlookup, mutateSecret_mutateSecret profile kp hm, if_true]
  rfl

/-- `kubeSecretWriter.Write` creates or updates the profile's Secret, for every API server.
When it fails, every Secret is as it was; it fails when `Render` fails and when the Secret's
controller does not refer to the profile by API group, kind and name. When it succeeds, only the
Secret at `(profile.Namespace, Spec.Output.SecretName)` changed, and it holds exactly the
rendered data, the old labels overridden by the user's and then by the two management labels,
the three annotations describing `kp` over the old ones, the type of the format, and the profile
(with its UID) as controller. Against a server that refuses nothing, it succeeds exactly when
`Render` does and the controller, if any, refers to the profile by group, kind and name. -/
theorem write_creates_or_updates_secret (lib : CryptoLib) (keystore : Keystore) (srv : SecretServer)
    (profile : KeyProfile) (kp : KeyPair) :
    let run := write lib keystore srv profile kp
    let old := srv.current (secretKey profile)
    let bundle := render lib keystore kp ⟨profile.spec.output.format, "", ""⟩
    let claimable := ∀ c, getControllerOf old.ownerReferences = some c →
      referSameObject c (controllerRef profile) = true
    (∀ e, run.1 = .error e → run.2 = srv.secrets) ∧
    ((∃ e, bundle = .error e) → ∃ e, run.1 = .error e) ∧
    (¬ claimable → ∃ e, run.1 = .error e) ∧
    (run.1 = .ok () →
      (∀ key, key ≠ secretKey profile → run.2.lookup key = srv.secrets.lookup key) ∧
      ∃ data s, bundle = .ok data ∧ run.2.lookup (secretKey profile) = some s ∧
        s.data = data ∧
        (∀ k, s.labels.lookup k =
          if k = keyProfileLabel then some profile.name
          else if k = managedByLabel then some "openukr"
          else (profile.spec.output.labels.lookup k).or (old.labels.lookup k)) ∧
        (∀ k, s.annotations.lookup k =
          if k = algorithmAnnotation then some kp.algorithm
          else if k = keyIDAnnotation then some kp.keyID
          else if k = lastRotationAnnotation then some kp.createdAt.formatRFC3339
          else old.annotations.lookup k) ∧
        s.type = (if profile.spec.output.format = formatSplitPEM then secretTypeTLS
          else secretTypeOpaque) ∧
        getControllerOf s.ownerReferences = some (controllerRef profile)) ∧
    (srv.Accepting → (run.1 = .ok () ↔ (∃ data, bundle = .ok data) ∧ claimable)) := by
  intro run old bundle claimable
  have hcases := write_cases lib keystore srv profile kp
  refine ⟨fun e he => ?_, fun ⟨e, hr⟩ => ?_, fun hnc => ?_, fun hok => ?_, fun hsrv => ?_⟩
  · rcases hcases with ⟨e', he'⟩ | ⟨data, obj, -, -, hw⟩
    · rw [show run = _ from he']
    · cases he.symm.trans (congrArg Prod.fst hw)
  · exact ⟨e.map .render, by simp only [run, write, show render lib keystore kp _ = _ from hr]⟩
  · rcases hb : bundle with e | data
    · exact ⟨e.map .render, by simp only [run, write, show render lib keystore kp _ = _ from hb]⟩
    · rcases hm : mutateSecret profile kp data old with e | obj
      · exact write_error_of_mutate lib keystore srv profile kp hb hm
      · exact absurd (mutateSecret_eq_ok_iff.1 hm).1 hnc
  · rcases hcases with ⟨e', he'⟩ | ⟨data, obj, hr, hm, hw⟩
    · cases hok.symm.trans (congrArg Prod.fst he')
    obtain ⟨hdata, hlabels, hannotations, htype, hctl⟩ := mutateSecret_spec hm
    rw [show run = _ from hw]
    exact ⟨fun key hkey => Finmap.lookup_insert_of_ne _ hkey, data, obj, hr,
      Finmap.lookup_insert _, hdata, hlabels, hannotations, htype, hctl⟩
  · constructor
    · intro hok
      rcases hcases with ⟨e', he'⟩ | ⟨data, obj, hr, hm, -⟩
      · cases hok.symm.trans (congrArg Prod.fst he')
      · exact ⟨⟨data, hr⟩, (mutateSecret_eq_ok_iff.1 hm).1⟩
    · rintro ⟨⟨data, hr⟩, hc⟩
      have hm := (@mutateSecret_eq_ok_iff profile kp data old _).2 ⟨hc, rfl⟩
      obtain ⟨r, hr'⟩ := createOrUpdate_ok_of_accepting srv (secretKey profile) _ hsrv hm
      simp only [run, write_of_render lib keystore srv profile kp hr, hr']
      rfl

end Write

/-- A `KeyProfile` named `signing`, created again (UID `uid-new`) after an earlier `signing`
(UID `uid-old`) was deleted. -/
def recreatedProfile : KeyProfile where
  name := "signing"
  «namespace» := "default"
  uid := "uid-new"
  spec :=
    { serviceAccountRef := ⟨"default"⟩
      keySpec := ⟨"EC", GoMap.ofList [("curve", "P-256")], false⟩
      rotation := ⟨⟨900000000000, by omega, by omega⟩, ⟨300000000000, by omega, by omega⟩⟩
      output := ⟨"signing-key", "split-pem", ∅⟩
      publish := [] }
  status := KeyProfileStatus.empty

/-- The Secret the earlier `signing` left behind, still controlled by it. -/
def previousOwnerSecret : Secret :=
  ⟨∅, ∅, ∅, secretTypeTLS, [{ controllerRef recreatedProfile with uid := "uid-old" }]⟩

/-- An API server holding that Secret and refusing nothing. -/
def previousOwnerServer : SecretServer :=
  ⟨Finmap.singleton (secretKey recreatedProfile) previousOwnerSecret, fun _ => none,
    fun _ _ => none, fun _ _ _ => none⟩

/-- An EC P-256 key pair: the scalar 1 and the base point. -/
def sampleKeyPair : KeyPair :=
  ⟨"ec-P-256-20251107-0a1b2c", some (.ecdsa (some ⟨Curve.p256.basePoint, some 1⟩)),
    some (.ecdsa Curve.p256.basePoint), "EC", ⟨63898128000000000000⟩, []⟩

/-- The Secret's controller is another object than the profile (its UID differs), yet `Write`
succeeds and makes the profile its controller. -/
theorem write_claims_secret_of_other_owner :
    getControllerOf previousOwnerSecret.ownerReferences ≠ some (controllerRef recreatedProfile) ∧
      (write CryptoLib.empty (fun _ _ => .error "") previousOwnerServer recreatedProfile sampleKeyPair).1 =
        .ok () ∧
      ((write CryptoLib.empty (fun _ _ => .error "") previousOwnerServer recreatedProfile
          sampleKeyPair).2.lookup (secretKey recreatedProfile)).map
        (fun s => getControllerOf s.ownerReferences) = some (some (controllerRef recreatedProfile)) := by
  decide

/-- `previousOwnerServer` after the first `Write` of `sampleKeyPair`, now refusing every `Create`
and every `Update`. -/
def refusingServerAfterWrite : SecretServer :=
  ⟨(write CryptoLib.empty (fun _ _ => .error "") previousOwnerServer recreatedProfile sampleKeyPair).2,
    fun _ => none, fun _ _ => some "admission webhook denied the request",
    fun _ _ _ => some "admission webhook denied the request"⟩

theorem recreatedProfile_write_twice :
    write CryptoLib.empty (fun _ _ => .error "") previousOwnerServer recreatedProfile sampleKeyPair =
        (.ok (), refusingServerAfterWrite.secrets) ∧
      refusingServerAfterWrite.getError (secretKey recreatedProfile) = none ∧
      write CryptoLib.empty (fun _ _ => .error "") refusingServerAfterWrite recreatedProfile
          sampleKeyPair = (.ok (), refusingServerAfterWrite.secrets) := by
  have h1 : (write CryptoLib.empty (fun _ _ => .error "") previousOwnerServer recreatedProfile
      sampleKeyPair).1 = .ok () := by decide
  have h : write CryptoLib.empty (fun _ _ => .error "") previousOwnerServer recreatedProfile
      sampleKeyPair = (.ok (), refusingServerAfterWrite.secrets) := Prod.ext h1 rfl
  exact ⟨h, rfl, write_twice_changes_nothing CryptoLib.empty (fun _ _ => .error "")
    previousOwnerServer recreatedProfile sampleKeyPair h refusingServerAfterWrite rfl rfl⟩

end Output
end OpenUKR
