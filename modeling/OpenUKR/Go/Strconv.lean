import OpenUKR.Go.Result

/-!
# `strconv.Atoi`

Go's `Atoi` on a 64-bit platform, both paths of it: the fast path taken for strings of 1 to 18
bytes, and `ParseInt(s, 10, 0)` with its `ParseUint` loop for the rest. Strings are read as
lists of characters: a character outside ASCII is encoded by bytes `≥ 0x80`, none of which is a
sign or a digit, so every byte test of the Go code fails on it exactly when the character test
here fails.

`validateRSA` and `generateRSA` both read the RSA key size through this function.
-/

namespace OpenUKR
namespace Strconv

/-- The sentinel in the `Err` field of a `*strconv.NumError`. -/
inductive NumErr
  /-- `strconv.ErrSyntax`, "invalid syntax". -/
  | errSyntax
  /-- `strconv.ErrRange`, "value out of range". -/
  | errRange
  deriving DecidableEq, Repr

/-- `*strconv.NumError`: the function, the input, and the sentinel. -/
structure NumError where
  func : String
  num : String
  err : NumErr
  deriving DecidableEq, Repr

/-- A byte in `'0'..'9'`. -/
def isDigit (c : Char) : Bool := decide ('0' ≤ c ∧ c ≤ '9')

/-- The value of a decimal digit. -/
def digitVal (c : Char) : Nat := c.toNat - '0'.toNat

/-- `maxUint64 / 10 + 1`, the multiplication cutoff of `ParseUint` in base 10. -/
def cutoff10 : Nat := (2 ^ 64 - 1) / 10 + 1

/-- The digit loop of `Atoi`'s fast path: `n = n*10 + int(ch)`, failing on a non-digit. -/
def fastDigits : List Char → Nat → Option Nat
  | [], n => some n
  | c :: cs, n => if isDigit c then fastDigits cs (n * 10 + digitVal c) else none

/-- The loop of `ParseUint(s, 10, 64)` after its empty check. Letters and `_` are rejected as
`ErrSyntax` in base 10, like every other non-digit. -/
def parseUintLoop : List Char → Nat → Except NumErr Nat
  | [], n => .ok n
  | c :: cs, n =>
    if isDigit c then
      if cutoff10 ≤ n then .error .errRange
      else if 2 ^ 64 - 1 < n * 10 + digitVal c then .error .errRange
      else parseUintLoop cs (n * 10 + digitVal c)
    else .error .errSyntax

/-- Split a leading `+` or `-` off: `(neg, rest)`. -/
def splitSign : List Char → Bool × List Char
  | '+' :: cs => (false, cs)
  | '-' :: cs => (true, cs)
  | cs => (false, cs)

/-- `ParseInt(s, 10, 0)` on a 64-bit platform. A `ParseUint` syntax error is re-labelled with
the whole input; a range error is replaced by `ParseInt`'s own. -/
def parseInt (s : String) : Except NumError Int :=
  let (neg, body) := splitSign s.toList
  let rangeError : Except NumError Int := .error ⟨"ParseInt", s, .errRange⟩
  if s.toList = [] ∨ body = [] then .error ⟨"ParseInt", s, .errSyntax⟩
  else
    match parseUintLoop body 0 with
    | .error .errSyntax => .error ⟨"ParseInt", s, .errSyntax⟩
    | .error .errRange => rangeError
    | .ok un =>
      if !neg && 2 ^ 63 ≤ un then rangeError
      else if neg && 2 ^ 63 < un then rangeError
      else .ok (if neg then -(un : Int) else un)

/-- The fast path of `Atoi`, for inputs of 1 to 18 bytes. -/
def atoiFast (s : String) : Except NumError Int :=
  let (neg, body) := splitSign s.toList
  if body = [] then .error ⟨"Atoi", s, .errSyntax⟩
  else
    match fastDigits body 0 with
    | none => .error ⟨"Atoi", s, .errSyntax⟩
    | some n => .ok (if neg then -(n : Int) else n)

/-- `strconv.Atoi(s)`. -/
def atoi (s : String) : Except NumError Int :=
  if 0 < s.utf8ByteSize ∧ s.utf8ByteSize < 19 then atoiFast s
  else (parseInt s).mapError fun e => { e with func := "Atoi" }

/-! ## What `Atoi` accepts -/

theorem mem_of_splitSign {l : List Char} {c : Char} (hc : c ∈ l) :
    c ∈ (splitSign l).2 ∨ c = '+' ∨ c = '-' := by
  unfold splitSign
  split <;> simp only [List.mem_cons] at hc ⊢ <;> tauto

theorem fastDigits_eq_some {m : Nat} : ∀ {cs : List Char} {n : Nat}, fastDigits cs n = some m →
    ∀ c ∈ cs, isDigit c = true
  | [], _, _ => by simp
  | c :: cs, n, h => by
    unfold fastDigits at h
    split_ifs at h with hc
    exact List.forall_mem_cons.2 ⟨hc, fastDigits_eq_some h⟩

theorem parseUintLoop_eq_ok {m : Nat} : ∀ {cs : List Char} {n : Nat}, parseUintLoop cs n = .ok m →
    ∀ c ∈ cs, isDigit c = true
  | [], _, _ => by simp
  | c :: cs, n, h => by
    unfold parseUintLoop at h
    split_ifs at h with hc
    exact List.forall_mem_cons.2 ⟨hc, parseUintLoop_eq_ok h⟩

/-- Every character of a string `Atoi` accepts is a decimal digit or a sign. -/
theorem atoi_eq_ok_mem {s : String} {n : Int} (h : atoi s = .ok n) {c : Char} (hc : c ∈ s.toList) :
    isDigit c = true ∨ c = '+' ∨ c = '-' := by
  refine (mem_of_splitSign hc).imp_left fun hc => ?_
  rcases hs : splitSign s.toList with ⟨neg, body⟩
  rw [hs] at hc
  unfold atoi at h
  split_ifs at h
  · cases hf : fastDigits body 0 with
    | none =>
      simp only [atoiFast, hs, hf] at h
      split_ifs at h
    | some m => exact fastDigits_eq_some hf c hc
  · cases hp : parseUintLoop body 0 with
    | error e =>
      simp only [parseInt, hs, hp, Except.mapError] at h
      cases e <;> split_ifs at h
    | ok m => exact parseUintLoop_eq_ok hp c hc

example : atoi "+3072" = .ok 3072 := rfl
example : atoi "0003072" = .ok 3072 := rfl
example : atoi "3072 " = .error ⟨"Atoi", "3072 ", .errSyntax⟩ := rfl

end Strconv
end OpenUKR
