import OpenUKR.Api.Types
import OpenUKR.Go.Strconv

/-!
# `ValidateKeySpec` — the single source of truth for key parameters

`ValidateKeySpec(algorithm, params, allowLegacy)` returns `(warnings, err)`, and every error
return has nil warnings, so the result is an `Except` whose error side carries no warnings.
The main result, `validateKeySpec_eq_ok_iff`, gives the accepted inputs and their warnings in
closed form.
-/

namespace OpenUKR
namespace Crypto

open Strconv

/-- `AlgorithmEC`. -/
def algorithmEC : String := "EC"
/-- `AlgorithmRSA`. -/
def algorithmRSA : String := "RSA"

/-- The keys of `validCurves`. -/
def validCurves : List String := ["P-256", "P-384", "P-521"]

/-- The keys of `validRSAKeySizes`. -/
def validRSAKeySizes : List Int := [2048, 3072, 4096]

/-- `RSAMinKeySize`. -/
def rsaMinKeySize : Int := 2048
/-- `RSARecommendedMinKeySize`. -/
def rsaRecommendedMinKeySize : Int := 3072

/-- The errors of `ValidateKeySpec`, one constructor per `fmt.Errorf` site. -/
inductive KeySpecError
  /-- `"unsupported algorithm %q, must be one of: EC, RSA"`. -/
  | unsupportedAlgorithm (algorithm : String)
  /-- `"EC algorithm requires 'curve' parameter"`. -/
  | missingCurve
  /-- `"unsupported EC curve %q, must be one of: P-256, P-384, P-521"`. -/
  | unsupportedCurve (curve : String)
  /-- `"RSA algorithm requires 'keySize' parameter"`. -/
  | missingKeySize
  /-- `"invalid RSA keySize %q: %w"`. -/
  | invalidKeySize (keySize : String) (err : NumError)
  /-- `"unsupported RSA keySize %d, must be one of: 2048, 3072, 4096"`. -/
  | unsupportedKeySize (keySize : Int)
  /-- `"RSA keySize %d is below absolute minimum %d"`. -/
  | belowAbsoluteMinimum (keySize min : Int)
  /-- `"RSA keySize %d is deprecated per BSI TR-02102-1 (2025): set allowLegacyKeySize=true to
  override, or use >= %d"`. -/
  | deprecatedKeySize (keySize recommended : Int)
  deriving DecidableEq

/-- The advisory returned for an accepted legacy RSA size. -/
def legacyWarning (keySize : Int) : String :=
  "RSA keySize " ++ toString keySize ++ " is deprecated per BSI TR-02102-1 (2025). " ++
    "Migrate to >= " ++ toString rsaRecommendedMinKeySize ++ " or EC P-256."

/-- `validateEC(params)`. -/
def validateEC (params : GoMap String) : Except KeySpecError (List String) :=
  match params.lookup "curve" with
  | none => .error .missingCurve
  | some curve =>
    if curve = "" then .error .missingCurve
    else if curve ∉ validCurves then .error (.unsupportedCurve curve)
    else .ok []

/-- `validateRSA(params, allowLegacy)`. -/
def validateRSA (params : GoMap String) (allowLegacy : Bool) : Except KeySpecError (List String) :=
  match params.lookup "keySize" with
  | none => .error .missingKeySize
  | some keySizeStr =>
    if keySizeStr = "" then .error .missingKeySize
    else
      match atoi keySizeStr with
      | .error e => .error (.invalidKeySize keySizeStr e)
      | .ok keySize =>
        if keySize ∉ validRSAKeySizes then .error (.unsupportedKeySize keySize)
        else if keySize < rsaMinKeySize then .error (.belowAbsoluteMinimum keySize rsaMinKeySize)
        else if keySize < rsaRecommendedMinKeySize then
          if !allowLegacy then .error (.deprecatedKeySize keySize rsaRecommendedMinKeySize)
          else .ok [legacyWarning keySize]
        else .ok []

/-- `ValidateKeySpec(algorithm, params, allowLegacy)`. -/
def validateKeySpec (algorithm : String) (params : GoMap String) (allowLegacy : Bool) :
    Except KeySpecError (List String) :=
  if algorithm = algorithmEC then validateEC params
  else if algorithm = algorithmRSA then validateRSA params allowLegacy
  else .error (.unsupportedAlgorithm algorithm)

/-- The `warnings` result of a call: nil on every error return. -/
def warningsOf {ε : Type} : Except ε (List String) → List String
  | .ok w => w
  | .error _ => []

/-- `params["keySize"]` as `Atoi` reads it, in one of the accepted sizes. -/
def RSASizeAdmissible (params : GoMap String) (allowLegacy : Bool) : Prop :=
  atoi (params.get "keySize") = .ok 3072 ∨ atoi (params.get "keySize") = .ok 4096 ∨
    (atoi (params.get "keySize") = .ok 2048 ∧ allowLegacy = true)

/-- The accepted inputs in closed form: a known curve for EC, an accepted size for RSA. -/
def KeySpecAdmissible (algorithm : String) (params : GoMap String) (allowLegacy : Bool) : Prop :=
  (algorithm = "EC" ∧ params.get "curve" ∈ validCurves) ∨
    (algorithm = "RSA" ∧ RSASizeAdmissible params allowLegacy)

/-- The warning case: RSA at the legacy size 2048. -/
def LegacyRSA (algorithm : String) (params : GoMap String) : Prop :=
  algorithm = "RSA" ∧ atoi (params.get "keySize") = .ok 2048

instance (p : GoMap String) (l : Bool) : Decidable (RSASizeAdmissible p l) :=
  inferInstanceAs (Decidable (_ ∨ _))
instance (a : String) (p : GoMap String) (l : Bool) : Decidable (KeySpecAdmissible a p l) :=
  inferInstanceAs (Decidable (_ ∨ _))
instance (a : String) (p : GoMap String) : Decidable (LegacyRSA a p) :=
  inferInstanceAs (Decidable (_ ∧ _))

theorem validateEC_eq_ok_iff (params : GoMap String) (w : List String) :
    validateEC params = .ok w ↔ params.get "curve" ∈ validCurves ∧ w = [] := by
  unfold validateEC GoMap.get
  rcases params.lookup "curve" with _ | c
  · simp [validCurves]
  · by_cases hc : c = ""
    · simp [hc, validCurves]
    · by_cases hm : c ∈ validCurves <;> simp [hc, hm, eq_comm]

/-- `atoi ""` fails, so an absent or empty `keySize` reads as a failed `Atoi`. -/
theorem atoi_empty : atoi "" = .error ⟨"Atoi", "", .errSyntax⟩ := rfl

theorem validateRSA_eq_ok_iff (params : GoMap String) (allowLegacy : Bool) (w : List String) :
    validateRSA params allowLegacy = .ok w ↔
      RSASizeAdmissible params allowLegacy ∧
        w = if atoi (params.get "keySize") = .ok 2048 then [legacyWarning 2048] else [] := by
  unfold validateRSA RSASizeAdmissible GoMap.get
  rcases params.lookup "keySize" with _ | s
  · simp [atoi_empty]
  · by_cases hs : s = ""
    · simp [hs, atoi_empty]
    · simp only [hs, if_false, Option.getD_some]
      split
      · rename_i e he; simp [he]
      · rename_i n hn
        simp only [hn, Except.ok.injEq]
        by_cases h1 : n = 2048
        · subst h1; cases allowLegacy <;>
            simp [validRSAKeySizes, rsaMinKeySize, rsaRecommendedMinKeySize, eq_comm]
        · by_cases h2 : n = 3072
          · subst h2; simp [validRSAKeySizes, rsaMinKeySize, rsaRecommendedMinKeySize, eq_comm]
          · by_cases h3 : n = 4096
            · subst h3; simp [validRSAKeySizes, rsaMinKeySize, rsaRecommendedMinKeySize, eq_comm]
            · simp [validRSAKeySizes, h1, h2, h3]

/-- `ValidateKeySpec` accepts exactly the admissible inputs, with one warning exactly at
legacy RSA-2048 and none otherwise. -/
theorem validateKeySpec_eq_ok_iff (algorithm : String) (params : GoMap String)
    (allowLegacy : Bool) (w : List String) :
    validateKeySpec algorithm params allowLegacy = .ok w ↔
      KeySpecAdmissible algorithm params allowLegacy ∧
        w = if LegacyRSA algorithm params then [legacyWarning 2048] else [] := by
  unfold validateKeySpec KeySpecAdmissible LegacyRSA
  by_cases hEC : algorithm = "EC"
  · simp [hEC, algorithmEC, validateEC_eq_ok_iff]
  · by_cases hRSA : algorithm = "RSA"
    · simp [hRSA, algorithmEC, algorithmRSA, validateRSA_eq_ok_iff]
    · simp [hEC, hRSA, algorithmEC, algorithmRSA]

/-- `ValidateKeySpec` warns exactly at legacy RSA-2048 with the override set. -/
theorem warningsOf_validateKeySpec_ne_nil_iff (algorithm : String) (params : GoMap String)
    (allowLegacy : Bool) :
    warningsOf (validateKeySpec algorithm params allowLegacy) ≠ [] ↔
      LegacyRSA algorithm params ∧ allowLegacy = true := by
  rcases h : validateKeySpec algorithm params allowLegacy with e | w
  · simp only [warningsOf, ne_eq, not_true_eq_false, false_iff, not_and]
    intro hl hallow
    have hadm : KeySpecAdmissible algorithm params allowLegacy :=
      .inr ⟨hl.1, .inr (.inr ⟨hl.2, hallow⟩)⟩
    obtain ⟨w, hw⟩ : ∃ w, validateKeySpec algorithm params allowLegacy = .ok w :=
      ⟨_, (validateKeySpec_eq_ok_iff _ _ _ _).2 ⟨hadm, rfl⟩⟩
    rw [h] at hw; cases hw
  · obtain ⟨hadm, rfl⟩ := (validateKeySpec_eq_ok_iff _ _ _ _).1 h
    by_cases hl : LegacyRSA algorithm params
    · simp only [warningsOf, hl, if_true, ne_eq, List.cons_ne_self, not_false_eq_true, true_and,
        true_iff]
      rcases hadm with ⟨hEC, -⟩ | ⟨-, h3 | h4 | ⟨-, hallow⟩⟩
      · exact absurd (hEC.symm.trans hl.1) (by decide)
      · exact absurd (h3.symm.trans hl.2) (by decide)
      · exact absurd (h4.symm.trans hl.2) (by decide)
      · exact hallow
    · simp [warningsOf, hl]

end Crypto
end OpenUKR
