import OpenUKR.Controller.Cluster

/-!
# The Secrets the controller changes

`Reconcile` touches Secrets only through `Write`, which `CreateOrUpdate`s the Secret named by the
spec in the profile's namespace after its mutate function has claimed it for the profile with
`SetControllerReference` and set the two management labels. Edits may rename the Secret, so a
profile may write several Secrets over a run; none is ever deleted.

`run_changes_only_owned_secrets`: along every run, whatever the API server answers, no Secret
present at the start disappears, and every Secret that is not as it was at the start lies in the
profile's namespace, is controlled by the profile (its UID included) and carries the labels
`app.kubernetes.io/managed-by: openukr` and `openukr.io/key-profile: <name>`. A Secret the spec
no longer names keeps the key it last held: the controller never cleans it up.

The invariant is `Cluster.OwnedBy`: the store and the cache hold the same object, and the
Secrets are `SecretsOwned` against those of the start.
-/

namespace OpenUKR
namespace Controller

open Api Crypto Output Rotation

/-- `q` is the object `p`: the same name, namespace and UID. -/
def SameObject (q p : KeyProfile) : Prop := q.name = p.name ∧ q.namespace = p.namespace ∧ q.uid = p.uid

/-- A Secret the profile `p` manages: `p` is its controller, and it carries both management
labels. -/
def ManagedBy (p : KeyProfile) (obj : Secret) : Prop :=
  getControllerOf obj.ownerReferences = some (controllerRef p) ∧
    obj.labels.lookup managedByLabel = some "openukr" ∧ obj.labels.lookup keyProfileLabel = some p.name

/-- Against the Secrets `init` of the start: none of them is gone, and each Secret that differs
from the start lies in `p`'s namespace and is managed by `p`. -/
structure SecretsOwned (init : Secrets) (p : KeyProfile) (secrets : Secrets) : Prop where
  kept : ∀ k, k ∈ init → k ∈ secrets
  owned : ∀ k obj, secrets.lookup k = some obj → init.lookup k ≠ some obj →
    k.namespace = p.namespace ∧ ManagedBy p obj

/-- The store and the cache hold the object `p`, and the Secrets are owned against `init`. -/
structure Cluster.OwnedBy (init : Secrets) (p : KeyProfile) (s : Cluster) : Prop where
  stored : SameObject s.stored p
  cached : SameObject s.cached p
  secrets : SecretsOwned init p s.secrets

theorem controllerRef_eq_of_sameObject {q p : KeyProfile} (h : SameObject q p) :
    controllerRef q = controllerRef p := by
  simp only [controllerRef, h.1, h.2.2]

/-- What the mutate function of `Write` makes is managed by the profile. -/
theorem managedBy_of_mutateSecret {q p : KeyProfile} {kp : KeyPair} {data : GoMap Bytes}
    {secret obj : Secret} (hm : mutateSecret q kp data secret = .ok obj) (hq : SameObject q p) :
    ManagedBy p obj := by
  obtain ⟨-, hlabels, -, -, hctl⟩ := mutateSecret_spec hm
  refine ⟨hctl.trans (congrArg some (controllerRef_eq_of_sameObject hq)), ?_, ?_⟩
  · rw [hlabels]
    simp [managedByLabel, keyProfileLabel]
  · rw [hlabels, if_pos rfl, hq.1]

theorem SecretsOwned.insert {init : Secrets} {p : KeyProfile} {secrets : Secrets}
    (h : SecretsOwned init p secrets) {k : ObjectKey} {obj : Secret} (hk : k.namespace = p.namespace)
    (hobj : ManagedBy p obj) : SecretsOwned init p (secrets.insert k obj) := by
  refine ⟨fun k' hk' => Finmap.mem_insert.2 (.inr (h.kept k' hk')), fun k' obj' hl hne => ?_⟩
  by_cases hkk : k' = k
  · subst hkk
    rw [Finmap.lookup_insert, Option.some.injEq] at hl
    exact hl ▸ ⟨hk, hobj⟩
  · rw [Finmap.lookup_insert_of_ne _ hkk] at hl
    exact h.owned k' obj' hl hne

section Step

variable (lib : CryptoLib) (keystore : Keystore)

/-- `EnsureKey` leaves the Secrets as they were, or has stored at the profile's key what the
mutate function of `Write` made of the Secret there. -/
theorem secretsAfter_ensureKey_cases (srv : SecretServer) (a : Answers) (clock : Clock)
    (p : KeyProfile) :
    secretsAfter lib keystore srv (ensureKey (collaborators lib keystore srv a) clock p).calls =
        srv.secrets ∨
      ∃ kp data obj, mutateSecret p kp data (srv.current (secretKey p)) = .ok obj ∧
        secretsAfter lib keystore srv (ensureKey (collaborators lib keystore srv a) clock p).calls =
          srv.secrets.insert (secretKey p) obj := by
  cases hdue : (checkRotationNeeded p clock.check).1
  · rw [ensureKey_of_not_needed hdue]
    exact .inl rfl
  · rcases ensureKey_rotating_cases lib keystore srv a clock p hdue with
      ⟨-, -, hs⟩ | ⟨-, kp, data, obj, -, -, -, -, hm, hs⟩
    · exact .inl hs
    · exact .inr ⟨kp, data, obj, hm, hs⟩

/-- The status write stores the Secrets it is given, and keeps the stored object. -/
theorem afterStatus_ownedBy {s : Cluster} {init : Secrets} {p : KeyProfile} (hs : s.OwnedBy init p)
    (a : Answers) {secrets : Secrets} (hsec : SecretsOwned init p secrets) (sent : Option KeyProfile) :
    (afterStatus s a secrets sent).OwnedBy init p := by
  rcases sent with _ | sent
  · exact ⟨hs.stored, hs.cached, hsec⟩
  rcases hupd : updateStatus s a sent with e | ⟨⟩ <;> simp only [afterStatus, hupd] <;>
    exact ⟨hs.stored, hs.cached, hsec⟩

theorem step_ownedBy {s : Cluster} {init : Secrets} {p : KeyProfile} (hs : s.OwnedBy init p) :
    ∀ e, (step lib keystore s e).OwnedBy init p
  | .edit spec => by
    rcases step_edit lib keystore s spec with h | h <;> rw [h]
    · exact hs
    · obtain ⟨spec', hd⟩ := Webhook.default_eq_with_spec { s.stored with spec }
      rw [hd]
      exact ⟨hs.stored, hs.cached, hs.secrets⟩
  | .sync => ⟨hs.stored, hs.stored, hs.secrets⟩
  | .reconcile a => by
    refine afterStatus_ownedBy hs a ?_ _
    rcases secretsAfter_ensureKey_cases lib keystore (a.server s.secrets) a a.clock s.cached with
      h | ⟨kp, data, obj, hm, h⟩ <;> rw [h]
    · exact hs.secrets
    · exact hs.secrets.insert hs.cached.2.1 (managedBy_of_mutateSecret hm hs.cached)

theorem run_ownedBy {init : Secrets} {p : KeyProfile} :
    ∀ (events : List Event) (s : Cluster), s.OwnedBy init p → (run lib keystore s events).OwnedBy init p
  | [], _, hs => hs
  | e :: es, _, hs => run_ownedBy es _ (step_ownedBy lib keystore hs e)

end Step

/-- Along every run from a cluster whose store and cache hold one profile, whatever Secrets exist
at the start and whatever each call answers: no Secret is ever deleted, and every Secret that is
not as it was at the start lies in the profile's namespace, has the profile (with its UID) as
controller, and carries the labels `app.kubernetes.io/managed-by: openukr` and
`openukr.io/key-profile: <name>`. -/
theorem run_changes_only_owned_secrets (lib : CryptoLib) (keystore : Keystore) (s : Cluster)
    (hcached : SameObject s.cached s.stored) (events : List Event) :
    let s' := run lib keystore s events
    (∀ k, k ∈ s.secrets → k ∈ s'.secrets) ∧
      ∀ k obj, s'.secrets.lookup k = some obj → s.secrets.lookup k ≠ some obj →
        k.namespace = s.stored.namespace ∧
          getControllerOf obj.ownerReferences = some (controllerRef s.stored) ∧
          obj.labels.lookup managedByLabel = some "openukr" ∧
          obj.labels.lookup keyProfileLabel = some s.stored.name := by
  intro s'
  have hs : s.OwnedBy s.secrets s.stored :=
    ⟨⟨rfl, rfl, rfl⟩, hcached, fun _ hk => hk, fun _ _ hl hne => absurd hl hne⟩
  exact ⟨(run_ownedBy lib keystore events s hs).secrets.kept,
    (run_ownedBy lib keystore events s hs).secrets.owned⟩

/-- A Secret of another application in the profile's namespace. -/
def otherSecret : Secret :=
  ⟨GoMap.ofList [("app", "web")], ∅, GoMap.ofList [("token", Pem.ascii "t")], "Opaque", []⟩

/-- `newProfile` created next to `otherSecret`. -/
def clusterWithOtherSecret : Cluster :=
  { Cluster.init newProfile with secrets := (∅ : Secrets).insert ⟨"default", "web-token"⟩ otherSecret }

theorem driftEvents_change_only_owned_secrets :
    SameObject clusterWithOtherSecret.cached clusterWithOtherSecret.stored ∧
      let s' := run CryptoLib.empty noKeystore clusterWithOtherSecret driftEvents
      (∀ k, k ∈ clusterWithOtherSecret.secrets → k ∈ s'.secrets) ∧
        ∀ k obj, s'.secrets.lookup k = some obj → clusterWithOtherSecret.secrets.lookup k ≠ some obj →
          k.namespace = clusterWithOtherSecret.stored.namespace ∧
            getControllerOf obj.ownerReferences = some (controllerRef clusterWithOtherSecret.stored) ∧
            obj.labels.lookup managedByLabel = some "openukr" ∧
            obj.labels.lookup keyProfileLabel = some clusterWithOtherSecret.stored.name :=
  have h : SameObject clusterWithOtherSecret.cached clusterWithOtherSecret.stored := ⟨rfl, rfl, rfl⟩
  ⟨h, run_changes_only_owned_secrets CryptoLib.empty noKeystore clusterWithOtherSecret h driftEvents⟩

end Controller
end OpenUKR
