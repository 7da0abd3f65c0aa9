import OpenUKR.Go.Time
import OpenUKR.Go.Map

/-!
# The `KeyProfile` API, `openukr.openukr.io/v1alpha1`

The custom resource every other module reads. Go maps are `GoMap`s, and `*metav1.Time`
fields are `Option Time`, `none` for a nil pointer. Only the fields some modelled function reads are kept (the rest are listed in
`MODEL_MAP.json`).
-/

namespace OpenUKR

namespace Api

/-- `ServiceAccountReference`; only the namespace is read. -/
structure ServiceAccountReference where
  «namespace» : String
  deriving DecidableEq

/-- `KeySpec`: algorithm, its parameters, and the legacy-size override. -/
structure KeySpec where
  algorithm : String
  params : GoMap String
  allowLegacyKeySize : Bool
  deriving DecidableEq

/-- `RotationPolicy`: the two `metav1.Duration`s. -/
structure RotationPolicy where
  interval : Duration
  gracePeriod : Duration
  deriving DecidableEq

/-- `OutputConfig`: where and how the key material is stored. -/
structure OutputConfig where
  secretName : String
  format : String
  labels : GoMap String
  deriving DecidableEq

/-- `TLSConfig`; only the verification override is read. -/
structure TLSConfig where
  insecureSkipVerify : Bool
  deriving DecidableEq

/-- `PublishTarget`. -/
structure PublishTarget where
  type : String
  config : GoMap String
  tls : Option TLSConfig
  deriving DecidableEq

/-- `KeyProfileSpec`. -/
structure KeyProfileSpec where
  serviceAccountRef : ServiceAccountReference
  keySpec : KeySpec
  rotation : RotationPolicy
  output : OutputConfig
  publish : List PublishTarget
  deriving DecidableEq

/-- `KeyProfileStatus`. -/
structure KeyProfileStatus where
  phase : String
  currentKeyID : String
  currentKeyFingerprint : String
  lastRotation : Option Time
  nextRotation : Option Time
  deriving DecidableEq

/-- `KeyProfile`, with the object metadata the controller and the writer read. -/
structure KeyProfile where
  name : String
  «namespace» : String
  uid : String
  spec : KeyProfileSpec
  status : KeyProfileStatus
  deriving DecidableEq

/-- The empty status of a freshly created profile. -/
def KeyProfileStatus.empty : KeyProfileStatus := ⟨"", "", "", none, none⟩

/-- `metav1.Time.IsZero` through a possibly nil pointer: nil counts as zero. -/
def timeIsZero : Option Time → Bool
  | none => true
  | some t => t.isZero

@[simp] theorem timeIsZero_none : timeIsZero none = true := rfl
@[simp] theorem timeIsZero_some (t : Time) : timeIsZero (some t) = t.isZero := rfl

end Api
end OpenUKR
