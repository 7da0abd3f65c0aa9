import OpenUKR.Controller.Reconcile

/-!
# The status loop — `Reconcile` against the status store

A `KeyProfileStatus` reaches the controller through the API server: `Status().Update` sends it,
and the next reconcile reads what the store returns. `LastRotation` and `NextRotation` are
`*metav1.Time`, and `metav1.Time.MarshalJSON` writes the zero time as `null`, which decodes
to a nil pointer, and any other time as RFC 3339, which keeps whole seconds. `persist` is that
round trip, and `Stored p` (`persist p = p`) holds of every profile the cache hands out.

`reconcileStored` is one reconcile of the stored profile against a status client that accepts
the write, and `runStored` a sequence of them at the given clock readings. While no rotation is
due, every reconcile reports `currentResult`, so after one write the store holds `settled p`,
which every later reconcile writes again unchanged. Whether that write is needed is decided by
one question: does `NextRotation = LastRotation + interval` survive the round trip? It does for
a non-zero whole-second interval (`runStored_writes_at_most_once`); it does not for an interval
with a sub-second part, and then every reconcile rewrites the status
(`reconcile_rewrites_status_every_time`).
-/

namespace OpenUKR
namespace Controller

open Api Rotation

/-- What a `*metav1.Time` holding `t` reads back as from the store. -/
def persistTime (t : Time) : Option Time :=
  if t.isZero then none else some (Time.rfc3339RoundTrip t)

/-- The status as the store returns it after a write. -/
def persistStatus (s : KeyProfileStatus) : KeyProfileStatus :=
  { s with lastRotation := s.lastRotation.bind persistTime,
           nextRotation := s.nextRotation.bind persistTime }

/-- The profile as the informer cache holds it after `Status().Update`. -/
def persist (p : KeyProfile) : KeyProfile := { p with status := persistStatus p.status }

@[simp] theorem persistStatus_phase (s : KeyProfileStatus) : (persistStatus s).phase = s.phase := rfl
@[simp] theorem persistStatus_currentKeyID (s : KeyProfileStatus) :
    (persistStatus s).currentKeyID = s.currentKeyID := rfl
@[simp] theorem persistStatus_currentKeyFingerprint (s : KeyProfileStatus) :
    (persistStatus s).currentKeyFingerprint = s.currentKeyFingerprint := rfl
@[simp] theorem persistStatus_lastRotation (s : KeyProfileStatus) :
    (persistStatus s).lastRotation = s.lastRotation.bind persistTime := rfl
@[simp] theorem persistStatus_nextRotation (s : KeyProfileStatus) :
    (persistStatus s).nextRotation = s.nextRotation.bind persistTime := rfl
@[simp] theorem persist_spec (p : KeyProfile) : (persist p).spec = p.spec := rfl
@[simp] theorem persist_status (p : KeyProfile) : (persist p).status = persistStatus p.status := rfl

/-- A profile as the store returns it. -/
def Stored (p : KeyProfile) : Prop := persist p = p

instance (p : KeyProfile) : Decidable (Stored p) := inferInstanceAs (Decidable (_ = _))

variable {ε : Type}

/-- One reconcile of the stored profile at the clock reading `now`, with a status client that
accepts the write: the profile stored afterwards, and whether `Status().Update` was called. -/
def reconcileStored (c : Collaborators ε) (now : Time) (stored : KeyProfile) : KeyProfile × Bool :=
  match (reconcile (.ok stored : Except (GetError Empty) KeyProfile)
      (fun p => (ensureKey c ⟨now, now⟩ p).result) (fun _ => (.ok () : Except Empty Unit)) now).2 with
  | some sent => (persist sent, true)
  | none => (stored, false)

/-- Reconciles at the clock readings `times`: the final stored profile, and for each reconcile
whether it wrote the status. -/
def runStored (c : Collaborators ε) : List Time → KeyProfile → KeyProfile × List Bool
  | [], stored => (stored, [])
  | now :: rest, stored =>
    let (stored₁, wrote) := reconcileStored c now stored
    let (stored', writes) := runStored c rest stored₁
    (stored', wrote :: writes)

/-- The stored profile after a reconcile that wrote `currentResult`. -/
def settled (p : KeyProfile) : KeyProfile := persist (withResult p (currentResult p))

/-! ## The store round trip -/

theorem persistTime_eq_some_self_iff (t : Time) :
    persistTime t = some t ↔ t.ns ≠ 0 ∧ Time.rfc3339RoundTrip t = t := by
  unfold persistTime
  split_ifs with h <;> simp_all

/-- A stored `LastRotation` is a non-zero whole-second instant. -/
theorem Stored.persistTime_last {p : KeyProfile} (hp : Stored p) {L : Time}
    (hL : p.status.lastRotation = some L) : persistTime L = some L := by
  have := congrArg (fun q : KeyProfile => q.status.lastRotation) hp
  simpa [persist, persistStatus, hL] using this

/-! ## One reconcile while no rotation is due -/

variable (c : Collaborators ε)

/-- With no rotation due, a reconcile writes `currentResult` exactly when `needsStatusUpdate`
says so, and the store then holds `settled p`. -/
theorem reconcileStored_of_not_needed {now : Time} {p : KeyProfile}
    (h : (checkRotationNeeded p now).1 = false) :
    reconcileStored c now p =
      if needsStatusUpdate p (currentResult p) then (settled p, true) else (p, false) := by
  simp only [reconcileStored, reconcile, @ensureKey_of_not_needed _ c ⟨now, now⟩ p h]
  split_ifs <;> rfl

section Settled

variable {p : KeyProfile} {L : Time} (hL : p.status.lastRotation = some L)
  (hLs : persistTime L = some L)
include hL hLs

theorem settled_lastRotation : (settled p).status.lastRotation = some L := by
  simp [settled, currentResult, hL, hLs]

theorem currentResult_settled : currentResult (settled p) = currentResult p := by
  simp [currentResult, settled_lastRotation hL hLs, hL, hLs, settled]

theorem checkRotationNeeded_settled : checkRotationNeeded (settled p) = checkRotationNeeded p :=
  checkRotationNeeded_congr (by simp [settled, currentResult])
    ((settled_lastRotation hL hLs).trans hL.symm) rfl

theorem settled_settled : settled (settled p) = settled p := by
  conv_lhs => rw [settled, currentResult_settled hL hLs]
  simp [settled, persist, withResult]

/-- After the first write, a reconcile writes again exactly when the computed `NextRotation`
does not survive the store round trip. -/
theorem needsStatusUpdate_settled :
    needsStatusUpdate (settled p) (currentResult p) =
      !decide (persistTime (calculateNextRotation L p.spec.rotation.interval) =
        some (calculateNextRotation L p.spec.rotation.interval)) := by
  have hnext : (settled p).status.nextRotation =
      persistTime (calculateNextRotation L p.spec.rotation.interval) := by
    simp [settled, currentResult, hL]
  simp only [needsStatusUpdate, settled_lastRotation hL hLs, hnext]
  cases persistTime (calculateNextRotation L p.spec.rotation.interval) <;>
    simp [settled, currentResult, hL]

/-- From `settled p`, every reconcile with no rotation due leaves the store as it is, and
writes exactly when `NextRotation` does not survive the round trip. -/
theorem reconcileStored_settled {now : Time} (h : (checkRotationNeeded p now).1 = false) :
    reconcileStored c now (settled p) =
      (settled p, !decide (persistTime (calculateNextRotation L p.spec.rotation.interval) =
        some (calculateNextRotation L p.spec.rotation.interval))) := by
  rw [reconcileStored_of_not_needed c (by rwa [checkRotationNeeded_settled hL hLs]),
    currentResult_settled hL hLs, needsStatusUpdate_settled hL hLs, settled_settled hL hLs]
  split_ifs <;> simp_all

end Settled

/-! ## Runs -/

/-- A profile every reconcile of a run maps to itself, with the same write decision, stays
stored through the run, and the run makes that decision at every step. -/
theorem runStored_of_fixed {q : KeyProfile} {b : Bool} :
    ∀ {ts : List Time}, (∀ t ∈ ts, reconcileStored c t q = (q, b)) →
      runStored c ts q = (q, List.replicate ts.length b)
  | [], _ => rfl
  | t :: ts, h => by
    simp only [runStored, h t (List.mem_cons_self _ _),
      runStored_of_fixed fun t' ht' => h t' (List.mem_cons_of_mem _ ht'), List.length_cons,
      List.replicate_succ]

/-- Up to the first write the store is unchanged; from it on the store holds `settled p`. The
writes after the first reconcile are decided by the round trip of `NextRotation` alone. -/
theorem runStored_tail_of_not_due {p : KeyProfile} {L : Time} (hp : Stored p)
    (hL : p.status.lastRotation = some L) {ts : List Time}
    (hnotdue : ∀ t ∈ ts, (checkRotationNeeded p t).1 = false) :
    (runStored c ts p).2.tail =
      if needsStatusUpdate p (currentResult p) then
        List.replicate (ts.length - 1)
          (!decide (persistTime (calculateNextRotation L p.spec.rotation.interval) =
            some (calculateNextRotation L p.spec.rotation.interval)))
      else List.replicate (ts.length - 1) false := by
  have hLs := hp.persistTime_last hL
  cases ts with
  | nil => split_ifs <;> rfl
  | cons t ts =>
    have hrest : ∀ t' ∈ ts, (checkRotationNeeded p t').1 = false :=
      fun t' ht' => hnotdue t' (List.mem_cons_of_mem _ ht')
    simp only [runStored, reconcileStored_of_not_needed c (hnotdue t (List.mem_cons_self _ _))]
    split_ifs with hneeds
    · simp [runStored_of_fixed c fun t' ht' => reconcileStored_settled c hL hLs (hrest t' ht')]
    · have hfix : ∀ t' ∈ ts, reconcileStored c t' p = (p, false) := fun t' ht' => by
        rw [reconcileStored_of_not_needed c (hrest t' ht'), if_neg hneeds]
      simp [runStored_of_fixed c hfix]

/-- The status loop reaches its fixpoint: with a positive whole-second interval, a stored profile
whose rotation stays not due is written at most once, by the first reconcile of the run. -/
theorem runStored_writes_at_most_once {p : KeyProfile} {L : Time} (hp : Stored p)
    (hL : p.status.lastRotation = some L) (hpos : 0 < p.spec.rotation.interval.ns)
    (hwhole : p.spec.rotation.interval.WholeSeconds) (hL0 : 0 ≤ L.ns) {ts : List Time}
    (hnotdue : ∀ t ∈ ts, (checkRotationNeeded p t).1 = false) :
    (runStored c ts p).2.tail = List.replicate (ts.length - 1) false := by
  have hLs := hp.persistTime_last hL
  have hnext : persistTime (calculateNextRotation L p.spec.rotation.interval) =
      some (calculateNextRotation L p.spec.rotation.interval) := by
    have hi : p.spec.rotation.interval ≠ Duration.zero := fun h => by
      rw [h] at hpos; exact absurd hpos (lt_irrefl 0)
    rw [persistTime_eq_some_self_iff] at hLs ⊢
    simp only [calculateNextRotation, hi, if_false, Time.add_ns]
    exact ⟨by omega, by rw [Time.rfc3339RoundTrip_add_of_whole L hwhole, hLs.2]⟩
  rw [runStored_tail_of_not_due c hp hL hnotdue, hnext]
  split_ifs <;> simp

/-- Reconciled at 16:01, 16:02 and 16:03, `dueProfile`, with its whole 15-minute interval, has
its status written by no reconcile after the first. -/
theorem dueProfile_status_settles :
    Stored dueProfile ∧
      (runStored Collaborators.unavailable
        [⟨63898128060000000000⟩, ⟨63898128120000000000⟩, ⟨63898128180000000000⟩]
        dueProfile).2.tail = [false, false] :=
  ⟨by decide, runStored_writes_at_most_once _ (p := dueProfile) (L := ⟨63898128000000000000⟩)
    (by decide) rfl (by decide) (by decide) (by decide) (by decide)⟩

/-- Every reconcile of a stored profile whose interval has a sub-second part rewrites the
status, for every run during which no rotation falls due: `NextRotation` is `LastRotation` plus
the interval, off the whole-second grid, and the store hands back its truncation, which
`needsStatusUpdate` compares with `Time.Equal`. -/
theorem reconcile_rewrites_status_every_time (p : KeyProfile) (L : Time) (ts : List Time)
    (hp : Stored p) (hL : p.status.lastRotation = some L)
    (hfrac : ¬ p.spec.rotation.interval.WholeSeconds)
    (hnotdue : ∀ t ∈ ts, (checkRotationNeeded p t).1 = false) :
    (runStored c ts p).2 = List.replicate ts.length true := by
  have hLs := hp.persistTime_last hL
  have hi : p.spec.rotation.interval ≠ Duration.zero := fun h => hfrac (h ▸ rfl)
  have hnext : persistTime (calculateNextRotation L p.spec.rotation.interval) ≠
      some (calculateNextRotation L p.spec.rotation.interval) := by
    rw [persistTime_eq_some_self_iff] at hLs
    rw [Ne, persistTime_eq_some_self_iff]
    simp only [calculateNextRotation, hi, if_false]
    exact fun h => Time.rfc3339RoundTrip_add_ne hLs.2 hfrac h.2
  -- the stored `NextRotation` is on the grid, so the first reconcile writes as well
  have hneeds : needsStatusUpdate p (currentResult p) = true := by
    have hstored := congrArg (fun q : KeyProfile => q.status.nextRotation) hp
    simp only [persist, persistStatus] at hstored
    simp only [needsStatusUpdate, currentResult, hL, Option.getD_some]
    rcases hn : p.status.nextRotation with _ | n
    · simp
    · rw [hn] at hstored
      have : n ≠ calculateNextRotation L p.spec.rotation.interval := by
        rintro rfl; exact hnext hstored
      simp [this]
  cases ts with
  | nil => rfl
  | cons t ts =>
    have hhead : (reconcileStored c t p).2 = true := by
      rw [reconcileStored_of_not_needed c (hnotdue t (List.mem_cons_self _ _)), if_pos hneeds]
    have htail := runStored_tail_of_not_due c hp hL hnotdue
    rw [if_pos hneeds, decide_eq_false hnext, Bool.not_false] at htail
    simp only [runStored, List.tail_cons] at htail ⊢
    rw [hhead, htail]
    rfl

/-- An admitted profile with `interval: 15m0.5s`, as the store holds it after its key was
rotated at 2025-11-07T16:00:00Z: `NextRotation` truncated to 16:15:00Z. -/
def fractionalProfile : KeyProfile where
  name := "fractional"
  «namespace» := "default"
  uid := "uid-fractional"
  spec :=
    { serviceAccountRef := ⟨"default"⟩
      keySpec := ⟨"EC", GoMap.ofList [("curve", "P-256")], false⟩
      rotation := ⟨⟨900500000000, by omega, by omega⟩, Validation.minGracePeriod⟩
      output := ⟨"fractional-key", "split-pem", ∅⟩
      publish := [] }
  status :=
    { phase := "Active", currentKeyID := "ec-P-256-20251107-0a1b2c",
      currentKeyFingerprint := "SHA256:AAAA",
      lastRotation := some ⟨63898128000000000000⟩,
      nextRotation := some ⟨63898128900000000000⟩ }

/-- Reconciled at 16:01, 16:02 and 16:03, the admitted `fractionalProfile` has its status
written three times. -/
theorem fractionalProfile_status_rewritten :
    Webhook.validateKeyProfile fractionalProfile = .ok [] ∧
      (runStored Collaborators.unavailable
        [⟨63898128060000000000⟩, ⟨63898128120000000000⟩, ⟨63898128180000000000⟩]
        fractionalProfile).2 = [true, true, true] :=
  ⟨by decide, reconcile_rewrites_status_every_time _ fractionalProfile ⟨63898128000000000000⟩ _
    rfl rfl (by decide) (by decide)⟩

end Controller
end OpenUKR
