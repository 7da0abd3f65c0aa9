import OpenUKR.Crypto.Keys
import OpenUKR.Api.Types

/-!
# `publish.Manager.PublishAll` — fan-out with failure aggregation

A publisher is any function of the target, the key pair and the state `σ` of the outside world,
returning its result and the new state, so a publisher may behave differently on every call.
`PublishAll` threads the world through the registered publishers and collects one error entry
per failing target. The loop also returns the attempts it made, one per target, as data.

`callInOrder` is the abstract behaviour: each registered target's publisher, once, in list
order, whatever the earlier ones returned. `publishAll_attempts_every_target` shows the loop
refines it and that the aggregate error is exactly the failing targets in index order.
-/

namespace OpenUKR
namespace Publish

open Api Crypto

/-- `Publisher.Publish(ctx, target, kp)` acting on the world `σ`. -/
abbrev Publisher (σ ε : Type) := PublishTarget → KeyPair → σ → Except ε Unit × σ

/-- `Manager`: the registered publishers by target type. -/
structure Manager (σ ε : Type) where
  publishers : GoMap (Publisher σ ε)

/-- One entry of the aggregate error. -/
inductive TargetError (ε : Type)
  /-- `"target[%d]: unknown publisher type %q"`. -/
  | unknownType (index : Nat) (type : String)
  /-- `"target[%d] (%s) failed: %w"`. -/
  | failed (index : Nat) (type : String) (err : ε)
  deriving DecidableEq

/-- The index an entry is tagged with. -/
def TargetError.index {ε : Type} : TargetError ε → Nat
  | .unknownType i _ | .failed i _ _ => i

/-- What happened to one target. -/
inductive Outcome (ε : Type)
  | unknownType
  | published (result : Except ε Unit)
  deriving DecidableEq

/-- One iteration of the loop: the index, the target, and its outcome. -/
structure Attempt (ε : Type) where
  index : Nat
  target : PublishTarget
  outcome : Outcome ε
  deriving DecidableEq

/-- The error entry an attempt contributes, if any. -/
def Attempt.toError {ε : Type} (a : Attempt ε) : Option (TargetError ε) :=
  match a.outcome with
  | .unknownType => some (.unknownType a.index a.target.type)
  | .published (.error e) => some (.failed a.index a.target.type e)
  | .published (.ok ()) => none

/-- The result of the publisher call an attempt made, if it made one. -/
def Attempt.publishResult {ε : Type} (a : Attempt ε) : Option (Except ε Unit) :=
  match a.outcome with
  | .unknownType => none
  | .published r => some r

/-- What one `PublishAll` did. -/
structure Run (σ ε : Type) where
  attempts : List (Attempt ε)
  result : Except (List (TargetError ε)) Unit
  world : σ

variable {σ ε : Type}

/-- The `for i, target := range targets` loop, with `errs` its accumulator. -/
def publishLoop (m : Manager σ ε) (kp : KeyPair) :
    Nat → List PublishTarget → List (TargetError ε) → σ →
      List (TargetError ε) × List (Attempt ε) × σ
  | _, [], errs, w => (errs, [], w)
  | i, target :: rest, errs, w =>
    match m.publishers.lookup target.type with
    | none =>
      let (errs', attempts, w') :=
        publishLoop m kp (i + 1) rest (errs ++ [.unknownType i target.type]) w
      (errs', ⟨i, target, .unknownType⟩ :: attempts, w')
    | some pub =>
      let (r, w₁) := pub target kp w
      let errs₁ := match r with
        | .error e => errs ++ [.failed i target.type e]
        | .ok () => errs
      let (errs', attempts, w') := publishLoop m kp (i + 1) rest errs₁ w₁
      (errs', ⟨i, target, .published r⟩ :: attempts, w')

/-- `Manager.PublishAll(ctx, targets, kp)`; the error is `"publish errors: %v"` of the list. -/
def publishAll (m : Manager σ ε) (targets : List PublishTarget) (kp : KeyPair) (w : σ) :
    Run σ ε :=
  let (errs, attempts, w') := publishLoop m kp 0 targets [] w
  ⟨attempts, if errs.length > 0 then .error errs else .ok (), w'⟩

/-- The intended behaviour: call the registered publisher of each target, once, in order,
threading the world; skip unregistered targets. -/
def callInOrder (m : Manager σ ε) (kp : KeyPair) : List PublishTarget → σ → List (Except ε Unit) × σ
  | [], w => ([], w)
  | target :: rest, w =>
    match m.publishers.lookup target.type with
    | none => callInOrder m kp rest w
    | some pub =>
      let (r, w₁) := pub target kp w
      let (rs, w') := callInOrder m kp rest w₁
      (r :: rs, w')

/-! ## The loop invariant -/

/-- The loop visits every target once, in order, calls exactly the registered publishers as
`callInOrder` does, and appends one entry per failing attempt to its accumulator. -/
theorem publishLoop_spec (m : Manager σ ε) (kp : KeyPair) (targets : List PublishTarget) :
    ∀ (i : Nat) (errs : List (TargetError ε)) (w : σ),
      let run := publishLoop m kp i targets errs w
      run.2.1.map (fun a => (a.index, a.target)) = targets.enumFrom i ∧
        (∀ a ∈ run.2.1, a.outcome = .unknownType ↔ m.publishers.lookup a.target.type = none) ∧
        callInOrder m kp targets w = (run.2.1.filterMap Attempt.publishResult, run.2.2) ∧
        run.1 = errs ++ run.2.1.filterMap Attempt.toError := by
  induction targets with
  | nil => intro i errs w; simp [publishLoop, callInOrder]
  | cons target rest ih =>
    intro i errs w
    cases hpub : m.publishers.lookup target.type with
    | none =>
      obtain ⟨h₁, h₂, h₃, h₄⟩ := ih (i + 1) (errs ++ [.unknownType i target.type]) w
      simp only [publishLoop, callInOrder, hpub]
      refine ⟨by simp [h₁], ?_, by simp [Attempt.publishResult, h₃], ?_⟩
      · simpa [hpub] using h₂
      · simp [Attempt.toError, h₄]
    | some pub =>
      rcases hr : (pub target kp w).1 with e | ⟨⟩
      · obtain ⟨h₁, h₂, h₃, h₄⟩ := ih (i + 1) (errs ++ [.failed i target.type e]) (pub target kp w).2
        simp only [publishLoop, callInOrder, hpub, hr]
        refine ⟨by simp [h₁], ?_, by simp [Attempt.publishResult, h₃], ?_⟩
        · simpa [hpub] using h₂
        · simp [Attempt.toError, h₄]
      · obtain ⟨h₁, h₂, h₃, h₄⟩ := ih (i + 1) errs (pub target kp w).2
        simp only [publishLoop, callInOrder, hpub, hr]
        refine ⟨by simp [h₁], ?_, by simp [Attempt.publishResult, h₃], ?_⟩
        · simpa [hpub] using h₂
        · simp [Attempt.toError, h₄]

/-- Entries derived from a list of attempts carry the attempts' indices, in order. -/
theorem map_index_filterMap_toError (attempts : List (Attempt ε)) :
    (attempts.filterMap Attempt.toError).map TargetError.index =
      (attempts.filter fun a => (Attempt.toError a).isSome).map Attempt.index := by
  induction attempts with
  | nil => rfl
  | cons a rest ih =>
    rcases a with ⟨i, t, _ | _ | ⟨⟩⟩ <;> simp [Attempt.toError, TargetError.index, ih]

/-- `PublishAll` attempts every target exactly once, in list order, whatever the earlier
targets returned; it calls a publisher exactly for the targets whose type is registered, in
order, threading the world through them; it returns nil exactly when every attempt was a
successful publish; otherwise the aggregate error holds one entry per failing target (unknown
type or publish error), tagged with its index and type, in increasing index order. -/
theorem publishAll_attempts_every_target (m : Manager σ ε) (targets : List PublishTarget)
    (kp : KeyPair) (w : σ) :
    let run := publishAll m targets kp w
    run.attempts.map (fun a => (a.index, a.target)) = targets.enum ∧
      (∀ a ∈ run.attempts, a.outcome = .unknownType ↔ m.publishers.lookup a.target.type = none) ∧
      callInOrder m kp targets w = (run.attempts.filterMap Attempt.publishResult, run.world) ∧
      (run.result = .ok () ↔ ∀ a ∈ run.attempts, a.outcome = .published (.ok ())) ∧
      ∀ errs, run.result = .error errs →
        errs = run.attempts.filterMap Attempt.toError ∧ (errs.map TargetError.index).Pairwise (· < ·) := by
  obtain ⟨h₁, h₂, h₃, h₄⟩ := publishLoop_spec m kp targets 0 [] w
  simp only [List.nil_append] at h₄
  have hidx : (publishLoop m kp 0 targets [] w).2.1.map Attempt.index = List.range targets.length := by
    have := congrArg (List.map Prod.fst) h₁
    simpa [List.map_map, Function.comp_def, List.enumFrom_map_fst, ← List.range_eq_range'] using this
  have hnone : ∀ a : Attempt ε, a.toError = none ↔ a.outcome = .published (.ok ()) := by
    rintro ⟨i, t, _ | _ | ⟨⟩⟩ <;> simp [Attempt.toError]
  simp only [publishAll]
  refine ⟨h₁, h₂, h₃, ?_, fun errs herr => ?_⟩
  · rw [h₄]
    split_ifs with h
    · simp only [false_iff, not_forall]
      obtain ⟨a, ha, hne⟩ : ∃ a ∈ (publishLoop m kp 0 targets [] w).2.1, a.toError ≠ none := by
        simpa [List.length_pos, List.filterMap_eq_nil_iff] using h
      exact ⟨a, ha, (hnone a).not.1 hne⟩
    · simpa [List.length_pos, List.filterMap_eq_nil_iff, hnone] using h
  · rw [h₄] at herr
    split_ifs at herr with h
    cases herr
    refine ⟨rfl, ?_⟩
    rw [map_index_filterMap_toError]
    exact List.Pairwise.sublist
      ((List.filter_sublist (p := fun a : Attempt ε => (Attempt.toError a).isSome) _).map
        Attempt.index) (hidx ▸ List.pairwise_lt_range _)

/-! ## What the loop reads of the key pair -/

/-- A publisher that reads of the key pair only its ID and its public key. -/
def Publisher.ReadsPublicPart (pub : Publisher σ ε) : Prop :=
  ∀ target kp₁ kp₂ w, kp₁.keyID = kp₂.keyID → kp₁.publicKey = kp₂.publicKey →
    pub target kp₁ w = pub target kp₂ w

/-- A manager whose publishers read only the public part of the key pair runs the same loop,
with the same world, for two key pairs that agree on it. -/
theorem publishLoop_eq_of_public {m : Manager σ ε}
    (hm : ∀ type pub, m.publishers.lookup type = some pub → pub.ReadsPublicPart)
    {kp₁ kp₂ : KeyPair} (hid : kp₁.keyID = kp₂.keyID) (hpub : kp₁.publicKey = kp₂.publicKey)
    (targets : List PublishTarget) :
    ∀ i errs w, publishLoop m kp₁ i targets errs w = publishLoop m kp₂ i targets errs w := by
  induction targets with
  | nil => intro i errs w; rfl
  | cons target rest ih =>
    intro i errs w
    cases hlookup : m.publishers.lookup target.type with
    | none => simp only [publishLoop, hlookup, ih]
    | some pub => simp only [publishLoop, hlookup, hm _ pub hlookup target kp₁ kp₂ w hid hpub, ih]

end Publish
end OpenUKR
