import OpenUKR.Go.Result

/-!
# Go time values — `time.Duration`, `time.Time` and the `metav1.Time` store

`time.Duration` is an `int64` count of nanoseconds: the structure below carries the `int64`
bounds as fields, and its multiplication wraps modulo `2^64` exactly as Go's does. This is the
arithmetic `ValidateRotationPolicy` runs on.

`time.Time` is modelled by the instant it denotes, as nanoseconds since January 1, year 1,
00:00:00 UTC — the origin of Go's absolute clock, so `Time{}` is `0` and `IsZero` is `= 0`.
`Time.Add` is exact here; Go saturates it only beyond `±2^63` seconds, hundreds of billions of
years outside the range RFC 3339 can print. `Time.Sub` saturates at the `Duration` bounds, as
Go's does.

A `metav1.Time` is stored as RFC 3339 text, which keeps whole seconds only:
`Time.rfc3339RoundTrip` is what a status timestamp becomes after a write and a read.
-/

namespace OpenUKR

/-- Go's `time.Duration`: a signed 64-bit count of nanoseconds. -/
structure Duration where
  ns : Int
  min_le : -2 ^ 63 ≤ ns
  lt_max : ns < 2 ^ 63
  deriving DecidableEq

namespace Duration

/-- Two's-complement wrap of an integer into the `int64` range: the value Go's `int64`
arithmetic produces for an exact result `x`. -/
def wrap (x : Int) : Duration :=
  ⟨(x + 2 ^ 63) % 2 ^ 64 - 2 ^ 63, by omega, by omega⟩

/-- Saturation into the `int64` range, as `Time.Sub` returns `minDuration`/`maxDuration`
when the exact difference does not fit. -/
def saturate (x : Int) : Duration :=
  ⟨max (-2 ^ 63) (min x (2 ^ 63 - 1)), by omega, by omega⟩

/-- Go's `*` on `Duration` (an `int64` product, wrapping). -/
instance : Mul Duration := ⟨fun a b => wrap (a.ns * b.ns)⟩

instance : LT Duration := ⟨fun a b => a.ns < b.ns⟩
instance : LE Duration := ⟨fun a b => a.ns ≤ b.ns⟩
instance : DecidableRel (α := Duration) (· < ·) := fun a b => inferInstanceAs (Decidable (a.ns < b.ns))
instance : DecidableRel (α := Duration) (· ≤ ·) := fun a b => inferInstanceAs (Decidable (a.ns ≤ b.ns))

/-- The zero duration. -/
def zero : Duration := ⟨0, by omega, by omega⟩

/-- `time.Second`. -/
def second : Duration := ⟨1000000000, by omega, by omega⟩

/-- `time.Minute`. -/
def minute : Duration := ⟨60000000000, by omega, by omega⟩

@[simp] theorem lt_def {a b : Duration} : a < b ↔ a.ns < b.ns := Iff.rfl
@[simp] theorem le_def {a b : Duration} : a ≤ b ↔ a.ns ≤ b.ns := Iff.rfl
@[simp] theorem mul_ns (a b : Duration) : (a * b).ns = (wrap (a.ns * b.ns)).ns := rfl
@[simp] theorem zero_ns : zero.ns = 0 := rfl
@[simp] theorem second_ns : second.ns = 1000000000 := rfl
@[simp] theorem minute_ns : minute.ns = 60000000000 := rfl

theorem ext_ns {a b : Duration} (h : a.ns = b.ns) : a = b := by
  cases a; cases b; cases h; rfl

theorem eq_zero_iff {d : Duration} : d = zero ↔ d.ns = 0 :=
  ⟨fun h => h ▸ rfl, fun h => ext_ns h⟩

/-- Inside the `int64` range the wrap is the identity. -/
theorem wrap_ns_of_mem {x : Int} (h₁ : -2 ^ 63 ≤ x) (h₂ : x < 2 ^ 63) : (wrap x).ns = x := by
  simp only [wrap]; omega

/-- Above the range, and below `3 · 2^63`, the wrap subtracts `2^64` once. -/
theorem wrap_ns_of_ge {x : Int} (h₁ : 2 ^ 63 ≤ x) (h₂ : x < 3 * 2 ^ 63) :
    (wrap x).ns = x - 2 ^ 64 := by
  simp only [wrap]; omega

theorem saturate_ns_of_mem {x : Int} (h₁ : -2 ^ 63 ≤ x) (h₂ : x < 2 ^ 63) :
    (saturate x).ns = x := by
  simp only [saturate]; omega

/-- A duration of whole seconds, the only kind RFC 3339 timestamps can be shifted by
without leaving the whole-second grid. -/
def WholeSeconds (d : Duration) : Prop := d.ns % 1000000000 = 0

instance (d : Duration) : Decidable d.WholeSeconds := inferInstanceAs (Decidable (_ = _))

end Duration

/-- Go's `time.Time`, as the instant it denotes (see the module header). -/
structure Time where
  ns : Int
  deriving DecidableEq

namespace Time

/-- The zero `time.Time{}` (January 1, year 1, 00:00:00 UTC). -/
def zero : Time := ⟨0⟩

/-- `t.IsZero()`. -/
def isZero (t : Time) : Bool := decide (t.ns = 0)

/-- `t.Add(d)`. -/
def add (t : Time) (d : Duration) : Time := ⟨t.ns + d.ns⟩

/-- `t.Sub(u)`: the exact difference, saturated to the `Duration` range. -/
def sub (t u : Time) : Duration := Duration.saturate (t.ns - u.ns)

/-- `t.After(u)`. -/
def after (t u : Time) : Bool := decide (u.ns < t.ns)

/-- `t.Equal(u)`: the same instant. -/
def equal (t u : Time) : Bool := decide (t.ns = u.ns)

/-- `time.Until(t)` read at the clock value `now`. -/
def «until» (now t : Time) : Duration := t.sub now

/-! ## Formatting in UTC

The controller runs in a distroless image with no zone database, so `time.Local` is UTC. -/

/-- Days from January 1, year 1 to January 1, 1970 in the proleptic Gregorian calendar. -/
def unixEpochDays : Int := 719162

/-- The civil date `(year, month, day)` of a day count since 1970-01-01 (the era/year-of-era
decomposition of the proleptic Gregorian calendar). -/
def civilFromDays (days : Int) : Int × Nat × Nat :=
  let z := days + 719468
  let era := z / 146097
  let doe := z - era * 146097
  let yoe := (doe - doe / 1460 + doe / 36524 - doe / 146096) / 365
  let doy := doe - (365 * yoe + yoe / 4 - yoe / 100)
  let mp := (5 * doy + 2) / 153
  let d := doy - (153 * mp + 2) / 5 + 1
  let m := if mp < 10 then mp + 3 else mp - 9
  (yoe + era * 400 + (if m ≤ 2 then 1 else 0), m.toNat, d.toNat)

/-- Go's `appendInt(b, x, width)`: decimal, zero-padded to `width`, a `-` before negatives. -/
def padInt (x : Int) (width : Nat) : String :=
  let digits := Nat.toDigits 10 x.natAbs
  let body := String.mk (List.replicate (width - digits.length) '0' ++ digits)
  if x < 0 then "-" ++ body else body

/-- `t.Format("20060102")`. -/
def formatDate (t : Time) : String :=
  let (y, m, d) := civilFromDays (t.ns / 86400000000000 - unixEpochDays)
  padInt y 4 ++ padInt m 2 ++ padInt d 2

/-- `t.Format(time.RFC3339)` in UTC: `2006-01-02T15:04:05Z`. -/
def formatRFC3339 (t : Time) : String :=
  let (y, m, d) := civilFromDays (t.ns / 86400000000000 - unixEpochDays)
  let secs := t.ns / 1000000000 % 86400
  padInt y 4 ++ "-" ++ padInt m 2 ++ "-" ++ padInt d 2 ++ "T" ++ padInt (secs / 3600) 2 ++ ":" ++
    padInt (secs / 60 % 60) 2 ++ ":" ++ padInt (secs % 60) 2 ++ "Z"

/-- What a `metav1.Time` holding `t` reads back as after the store serialises it with
RFC 3339: the sub-second part is dropped. -/
def rfc3339RoundTrip (t : Time) : Time := ⟨t.ns / 1000000000 * 1000000000⟩

@[simp] theorem zero_ns : zero.ns = 0 := rfl
@[simp] theorem add_ns (t : Time) (d : Duration) : (t.add d).ns = t.ns + d.ns := rfl
@[simp] theorem isZero_iff (t : Time) : t.isZero = true ↔ t.ns = 0 := by simp [isZero]
@[simp] theorem after_iff (t u : Time) : t.after u = true ↔ u.ns < t.ns := by simp [after]
@[simp] theorem equal_eq_decide (t u : Time) : t.equal u = decide (t = u) := by
  cases t; cases u; simp [equal]
@[simp] theorem rfc3339RoundTrip_ns (t : Time) :
    (rfc3339RoundTrip t).ns = t.ns / 1000000000 * 1000000000 := rfl

theorem ext_ns {t u : Time} (h : t.ns = u.ns) : t = u := by
  cases t; cases u; cases h; rfl

theorem until_ns_of_mem {now t : Time} (h₁ : -2 ^ 63 ≤ t.ns - now.ns) (h₂ : t.ns - now.ns < 2 ^ 63) :
    («until» now t).ns = t.ns - now.ns :=
  Duration.saturate_ns_of_mem h₁ h₂

/-- `time.Until` is positive exactly when the target is strictly in the future. -/
theorem until_pos_iff (now t : Time) : 0 < («until» now t).ns ↔ now.ns < t.ns := by
  simp only [«until», sub, Duration.saturate]; omega

/-- A value read back from the store is on the whole-second grid. -/
theorem rfc3339RoundTrip_idem (t : Time) : rfc3339RoundTrip (rfc3339RoundTrip t) = rfc3339RoundTrip t :=
  ext_ns (by simp only [rfc3339RoundTrip_ns]; omega)

/-- Shifting by whole seconds commutes with the round trip. -/
theorem rfc3339RoundTrip_add_of_whole (t : Time) {d : Duration} (hd : d.WholeSeconds) :
    rfc3339RoundTrip (t.add d) = (rfc3339RoundTrip t).add d :=
  ext_ns (by simp only [Duration.WholeSeconds] at hd; simp only [rfc3339RoundTrip_ns, add_ns]; omega)

/-- From a whole-second instant, a shift by a duration with a sub-second part does not survive
the round trip. -/
theorem rfc3339RoundTrip_add_ne {t : Time} (ht : rfc3339RoundTrip t = t) {d : Duration}
    (hd : ¬ d.WholeSeconds) : rfc3339RoundTrip (t.add d) ≠ t.add d := by
  intro h
  have h₁ := congrArg Time.ns ht
  have h₂ := congrArg Time.ns h
  simp only [rfc3339RoundTrip_ns, add_ns] at h₁ h₂
  simp only [Duration.WholeSeconds] at hd
  omega

/-! ## The characters of a date -/

/-- `Nat.toDigits` writes base-`b` digits only, in front of what it was given. -/
theorem mem_toDigitsCore {b : Nat} (hb : 0 < b) {c : Char} :
    ∀ {fuel n : Nat} {acc : List Char}, c ∈ Nat.toDigitsCore b fuel n acc →
      c ∈ acc ∨ ∃ d < b, c = Nat.digitChar d
  | 0, _, _, h => .inl h
  | fuel + 1, n, acc, h => by
    have h' : c ∈ Nat.digitChar (n % b) :: acc ∨ ∃ d < b, c = Nat.digitChar d := by
      simp only [Nat.toDigitsCore] at h
      split_ifs at h
      exacts [.inl h, mem_toDigitsCore hb h]
    rcases h' with h | h
    · rcases List.mem_cons.1 h with rfl | h
      exacts [.inr ⟨_, Nat.mod_lt _ hb, rfl⟩, .inl h]
    · exact .inr h

/-- `appendInt` writes a sign and decimal digits. -/
theorem mem_padInt {x : Int} {width : Nat} {c : Char} (h : c ∈ (padInt x width).toList) :
    c = '-' ∨ ∃ d < 10, c = Nat.digitChar d := by
  have hbody : ∀ c ∈ List.replicate (width - (Nat.toDigits 10 x.natAbs).length) '0' ++
      Nat.toDigits 10 x.natAbs, ∃ d < 10, c = Nat.digitChar d := by
    intro c hc
    rcases List.mem_append.1 hc with hc | hc
    · exact ⟨0, by decide, List.eq_of_mem_replicate hc⟩
    · simpa using mem_toDigitsCore (by decide) hc
  unfold padInt at h
  split_ifs at h
  · rcases List.mem_cons.1 h with rfl | h
    exacts [.inl rfl, .inr (hbody c h)]
  · exact .inr (hbody c h)

/-- A date is written with decimal digits and signs only. -/
theorem mem_formatDate {t : Time} {c : Char} (h : c ∈ t.formatDate.toList) :
    c = '-' ∨ ∃ d < 10, c = Nat.digitChar d := by
  simp only [formatDate, String.toList, String.data_append, List.mem_append] at h
  rcases h with (h | h) | h <;> exact mem_padInt h

end Time

end OpenUKR
