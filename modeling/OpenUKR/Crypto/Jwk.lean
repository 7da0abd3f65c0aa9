import OpenUKR.Crypto.Pem

/-!
# `jwkEncoder` — JSON Web Keys (RFC 7517)

The JWK encoder of `pkg/crypto` writes each integer of a key as the big-endian bytes of
`big.Int.Bytes`, EC coordinates and scalars left-padded with zeros to the curve's byte length,
then base64url without padding, and marshals the `jwk` struct with `encoding/json`.

This file models

* `base64.RawURLEncoding`: the encoder, and the decoder a reader of the key runs;
* `big.Int.Bytes`, `padLeft`, and the unsigned big-endian value of a byte string;
* `json.Marshal` on the `jwk` struct: the fields in declaration order, `omitempty` dropping the
  empty `kid` and the nil pointers, and the string escaping of `encoding/json` on ASCII text;
* the four encoders and the type switches of `EncodePrivate` and `EncodePublic`.

The main result, `ecJWK_coordinates_fixed_width`, gives the exact JSON text of an EC key and
says that each coordinate field decodes to exactly `(BitSize + 7) / 8` bytes holding the
coordinate. No caller of `NewKeyEncoder` in the repository asks for `"JWK"`; the encoder is
library code of the package.
-/

namespace OpenUKR
namespace Jwk

open Crypto Pem

/-! ## `base64.RawURLEncoding` -/

/-- `encodeURL`: the alphabet of `base64.URLEncoding`, with `-` and `_` for the last two
values. -/
def encodeURL (v : Nat) : UInt8 :=
  if v < 26 then (v + 65).toUInt8
  else if v < 52 then (v + 71).toUInt8
  else if v < 62 then (v - 4).toUInt8
  else if v = 62 then 45
  else 95

/-- The four characters of the 24-bit group `v`. -/
def encodeQuantum (v : Nat) : Bytes :=
  [encodeURL (v / 262144 % 64), encodeURL (v / 4096 % 64), encodeURL (v / 64 % 64),
    encodeURL (v % 64)]

/-- `base64.RawURLEncoding.EncodeToString`: three bytes to four characters, and a last group
of one or two bytes to two or three characters, without padding. -/
def rawURLEncode : Bytes → Bytes
  | b₀ :: b₁ :: b₂ :: rest =>
    encodeQuantum (b₀.toNat * 65536 + b₁.toNat * 256 + b₂.toNat) ++ rawURLEncode rest
  | [b₀, b₁] => (encodeQuantum (b₀.toNat * 65536 + b₁.toNat * 256)).take 3
  | [b₀] => (encodeQuantum (b₀.toNat * 65536)).take 2
  | [] => []

/-- `base64Url(data)`. -/
def base64Url (data : Bytes) : Bytes := rawURLEncode data

/-- `decodeMap` of `base64.URLEncoding`: the value of an alphabet character. -/
def decodeURL (c : UInt8) : Option Nat :=
  if 65 ≤ c ∧ c ≤ 90 then some (c.toNat - 65)
  else if 97 ≤ c ∧ c ≤ 122 then some (c.toNat - 71)
  else if 48 ≤ c ∧ c ≤ 57 then some (c.toNat + 4)
  else if c = 45 then some 62
  else if c = 95 then some 63
  else none

/-- The quanta of an unpadded base64url text without line breaks: a last quantum of two or
three characters gives one or two bytes; a single last character, or a character outside the
alphabet (padding included), is a `CorruptInputError`. -/
def rawURLDecodeQuanta : Bytes → Option Bytes
  | a :: b :: c :: d :: rest => do
    let v₀ ← decodeURL a
    let v₁ ← decodeURL b
    let v₂ ← decodeURL c
    let v₃ ← decodeURL d
    let tail ← rawURLDecodeQuanta rest
    pure (groupBytes v₀ v₁ v₂ v₃ ++ tail)
  | [a, b, c] => do
    let v₀ ← decodeURL a
    let v₁ ← decodeURL b
    let v₂ ← decodeURL c
    pure ((groupBytes v₀ v₁ v₂ 0).take 2)
  | [a, b] => do
    let v₀ ← decodeURL a
    let v₁ ← decodeURL b
    pure ((groupBytes v₀ v₁ 0 0).take 1)
  | [_] => none
  | [] => some []

/-- `base64.RawURLEncoding.DecodeString`, `none` for a `CorruptInputError`; line breaks are
skipped. -/
def rawURLDecode (src : Bytes) : Option Bytes := rawURLDecodeQuanta (src.filter (!isNewline ·))

example : base64Url [251, 255] = ascii "-_8" := by decide
example : rawURLDecode (ascii "-_8") = some [251, 255] := by decide

/-! ### Round trip -/

/-- What a reader needs of the alphabet: the decoder reads each character back, and none of
them is a line break. -/
theorem encodeURL_alphabet :
    ∀ v : Fin 64, decodeURL (encodeURL v) = some v ∧ isNewline (encodeURL v) = false := by
  decide

@[simp] theorem decodeURL_encodeURL_mod (x : Nat) :
    decodeURL (encodeURL (x % 64)) = some (x % 64) :=
  (encodeURL_alphabet ⟨x % 64, Nat.mod_lt _ (by decide)⟩).1

theorem mem_rawURLEncode {bs : Bytes} {c : UInt8} (h : c ∈ rawURLEncode bs) :
    ∃ v : Fin 64, encodeURL v = c := by
  have quantum : ∀ {v : Nat}, c ∈ encodeQuantum v → ∃ v : Fin 64, encodeURL v = c := by
    intro v hv
    simp only [encodeQuantum, List.mem_cons, List.mem_singleton, List.not_mem_nil, or_false] at hv
    rcases hv with rfl | rfl | rfl | rfl <;> exact ⟨⟨_, Nat.mod_lt _ (by decide)⟩, rfl⟩
  induction bs using rawURLEncode.induct with
  | case1 b₀ b₁ b₂ rest ih => exact (List.mem_append.1 h).elim quantum ih
  | case2 b₀ b₁ => exact quantum (List.mem_of_mem_take h)
  | case3 b₀ => exact quantum (List.mem_of_mem_take h)
  | case4 => cases h

theorem rawURLDecodeQuanta_rawURLEncode (bs : Bytes) :
    rawURLDecodeQuanta (rawURLEncode bs) = some bs := by
  induction bs using rawURLEncode.induct with
  | case1 b₀ b₁ b₂ rest ih =>
    simp only [rawURLEncode, encodeQuantum, List.cons_append, List.append_eq, List.nil_append,
      rawURLDecodeQuanta, decodeURL_encodeURL_mod, ih, Option.bind_eq_bind, Option.some_bind,
      Option.pure_def, groupBytes_encode b₀ b₁ b₂ _ rfl]
  | case2 b₀ b₁ =>
    have h := groupBytes_encode b₀ b₁ 0 (b₀.toNat * 65536 + b₁.toNat * 256) (by simp)
    rw [show (b₀.toNat * 65536 + b₁.toNat * 256) % 64 = 0 by omega] at h
    simp only [rawURLEncode, encodeQuantum, List.take_succ_cons, List.take_zero,
      rawURLDecodeQuanta, decodeURL_encodeURL_mod, Option.bind_eq_bind, Option.some_bind,
      Option.pure_def, h]
  | case3 b₀ =>
    have h := groupBytes_encode b₀ 0 0 (b₀.toNat * 65536) (by simp)
    rw [show b₀.toNat * 65536 / 64 % 64 = 0 by omega, show b₀.toNat * 65536 % 64 = 0 by omega] at h
    simp only [rawURLEncode, encodeQuantum, List.take_succ_cons, List.take_zero,
      rawURLDecodeQuanta, decodeURL_encodeURL_mod, Option.bind_eq_bind, Option.some_bind,
      Option.pure_def, h]
  | case4 => rfl

/-- Decoding undoes `base64Url`. -/
theorem rawURLDecode_base64Url (bs : Bytes) : rawURLDecode (base64Url bs) = some bs := by
  rw [rawURLDecode, base64Url, List.filter_eq_self.2, rawURLDecodeQuanta_rawURLEncode]
  intro c hc
  obtain ⟨v, rfl⟩ := mem_rawURLEncode hc
  simp [(encodeURL_alphabet v).2]

/-! ## Big-endian bytes -/

/-- `x.Bytes()` of a `*big.Int`: the absolute value, big-endian, without leading zeros (no bytes
for zero). -/
def intBytes (x : Int) : Bytes := ((Nat.digits 256 x.natAbs).map Nat.toUInt8).reverse

/-- The unsigned big-endian value of a byte string. -/
def beValue (bs : Bytes) : Nat := bs.foldl (fun acc b => acc * 256 + b.toNat) 0

/-- `padLeft(data, size)`: `data` if it has at least `size` bytes, otherwise `data` after
enough zeros to make `size` bytes. -/
def padLeft (data : Bytes) (size : Nat) : Bytes :=
  if size ≤ data.length then data else List.replicate (size - data.length) 0 ++ data

example : padLeft [1, 2] 4 = [0, 0, 1, 2] := by decide

theorem foldl_beValue (acc : Nat) (bs : Bytes) :
    bs.foldl (fun acc b => acc * 256 + b.toNat) acc = acc * 256 ^ bs.length + beValue bs := by
  induction bs generalizing acc with
  | nil =>
    simp only [List.foldl_nil, List.length_nil, pow_zero, mul_one]
    rfl
  | cons b bs ih =>
    rw [List.foldl_cons, ih, show beValue (b :: bs) = bs.foldl _ (0 * 256 + b.toNat) from rfl, ih,
      List.length_cons]
    ring

theorem beValue_append (a b : Bytes) : beValue (a ++ b) = beValue a * 256 ^ b.length + beValue b :=
  by rw [beValue, List.foldl_append, foldl_beValue]; rfl

theorem beValue_replicate_zero (k : Nat) : beValue (List.replicate k 0) = 0 := by
  induction k with
  | zero => rfl
  | succ k ih =>
    rw [List.replicate_succ', beValue_append, ih]
    rfl

/-- The digits of a base-256 numeral, most significant first, have the numeral's value. -/
theorem beValue_digits {l : List Nat} (h : ∀ d ∈ l, d < 256) :
    beValue ((l.map Nat.toUInt8).reverse) = Nat.ofDigits 256 l := by
  induction l with
  | nil => rfl
  | cons d l ih =>
    have hd := h d (List.mem_cons_self _ _)
    rw [List.map_cons, List.reverse_cons, beValue_append,
      ih fun x hx => h x (List.mem_cons_of_mem _ hx), Nat.ofDigits_cons]
    simp [beValue, toNat_toUInt8, Nat.mod_eq_of_lt hd]
    ring

theorem beValue_intBytes (x : Int) : beValue (intBytes x) = x.natAbs := by
  rw [intBytes, beValue_digits fun d hd => Nat.digits_lt_base (by decide) hd, Nat.ofDigits_digits]

/-- A value below `256 ^ k` takes at most `k` bytes. -/
theorem length_intBytes_le {x : Int} {k : Nat} (h : x.natAbs < 256 ^ k) :
    (intBytes x).length ≤ k := by
  rw [intBytes, List.length_reverse, List.length_map]
  rcases Nat.eq_zero_or_pos x.natAbs with h0 | h0
  · simp [h0]
  · rw [Nat.digits_len _ _ (by decide) h0.ne']
    exact Nat.log_lt_of_lt_pow h0.ne' h

theorem padLeft_length (data : Bytes) (size : Nat) :
    (padLeft data size).length = max data.length size := by
  unfold padLeft
  split_ifs <;> simp <;> omega

theorem beValue_padLeft (data : Bytes) (size : Nat) :
    beValue (padLeft data size) = beValue data := by
  unfold padLeft
  split_ifs
  · rfl
  · rw [beValue_append, beValue_replicate_zero, zero_mul, zero_add]

/-! ## `json.Marshal` of a `jwk` -/

/-- `jwk`: each Go `string` and non-nil `*string` is the bytes of the string; Go's zero value is
each field's default. -/
structure JWK where
  kty : Bytes
  use : Bytes
  kid : Bytes := []
  n : Option Bytes := none
  e : Option Bytes := none
  d : Option Bytes := none
  p : Option Bytes := none
  q : Option Bytes := none
  crv : Option Bytes := none
  x : Option Bytes := none
  y : Option Bytes := none
  deriving DecidableEq

/-- A lowercase hex digit, as the `\u00XX` escape writes it. -/
def hexDigit (v : Nat) : UInt8 := (Nat.digitChar v).toNat.toUInt8

/-- `encoding/json`'s string encoder on one ASCII byte, with HTML escaping on: the quote and the
backslash after a backslash, the short forms of `\b`, `\f`, `\n`, `\r`, `\t`, a `\u00XX`
escape for the other control characters and for `<`, `>`, `&`, and every other byte as it is.
The encoders write ASCII only, so the UTF-8 branch of the encoder is not modelled. -/
def escapeByte (c : UInt8) : Bytes :=
  if c = 34 ∨ c = 92 then [92, c]
  else if c = 8 then [92, 98]
  else if c = 12 then [92, 102]
  else if c = 10 then [92, 110]
  else if c = 13 then [92, 114]
  else if c = 9 then [92, 116]
  else if c < 32 ∨ c = 60 ∨ c = 62 ∨ c = 38 then
    [92, 117, 48, 48, hexDigit (c.toNat / 16), hexDigit (c.toNat % 16)]
  else [c]

/-- A JSON string. -/
def jsonString (s : Bytes) : Bytes := 34 :: s.flatMap escapeByte ++ [34]

/-- The members `json.Marshal` writes for a `jwk`, in field order: `kty` and `use`, `kid` unless
empty, and each non-nil pointer. -/
def members (j : JWK) : List (Bytes × Bytes) :=
  [(ascii "kty", j.kty), (ascii "use", j.use)] ++
    (if j.kid = [] then [] else [(ascii "kid", j.kid)]) ++
    ([("n", j.n), ("e", j.e), ("d", j.d), ("p", j.p), ("q", j.q), ("crv", j.crv), ("x", j.x),
      ("y", j.y)].filterMap fun m => m.2.map (ascii m.1, ·))

/-- One member: the name, a colon, the value. -/
def member (m : Bytes × Bytes) : Bytes := jsonString m.1 ++ 58 :: jsonString m.2

/-- `json.Marshal(j)`. -/
def marshal (j : JWK) : Bytes := 123 :: List.intercalate [44] ((members j).map member) ++ [125]

example : marshal { kty := ascii "EC", use := ascii "a<b" } =
    [123] ++ ascii "\"kty\":\"EC\",\"use\":\"a\\u003cb\"" ++ [125] := by decide

/-- A byte `json.Marshal` copies as it is. -/
def JsonSafe (c : UInt8) : Prop := escapeByte c = [c]

instance : DecidablePred JsonSafe := fun c => inferInstanceAs (Decidable (escapeByte c = [c]))

theorem jsonString_of_safe {s : Bytes} (h : ∀ c ∈ s, JsonSafe c) :
    jsonString s = 34 :: s ++ [34] := by
  have hflat : s.flatMap escapeByte = s := by
    induction s with
    | nil => rfl
    | cons c s ih =>
      rw [List.flatMap_cons, h c (List.mem_cons_self _ _),
        ih fun x hx => h x (List.mem_cons_of_mem _ hx)]
      rfl
  rw [jsonString, hflat]

/-- The base64url alphabet needs no JSON escape. -/
theorem jsonString_base64Url (bs : Bytes) :
    jsonString (base64Url bs) = 34 :: base64Url bs ++ [34] := by
  have safe : ∀ v : Fin 64, JsonSafe (encodeURL v) := by decide
  refine jsonString_of_safe fun c hc => ?_
  obtain ⟨v, rfl⟩ := mem_rawURLEncode hc
  exact safe v

/-! ## The encoders -/

/-- `curveName(curve)`; its `default` case, `""`, is for curves other than these three. -/
def curveName : Curve → String
  | .p256 => "P-256"
  | .p384 => "P-384"
  | .p521 => "P-521"

/-- `encodeECPublicJWK(pub)`. -/
def encodeECPublicJWK (pub : ECDSAPublicKey) : Except (Fault String) Bytes :=
  let crv := curveName pub.curve
  if crv = "" then .error (.error "unsupported EC curve for JWK")
  else
    let byteLen := (pub.curve.bitSize + 7) / 8
    let x := base64Url (padLeft (intBytes pub.x) byteLen)
    let y := base64Url (padLeft (intBytes pub.y) byteLen)
    .ok (marshal
      { kty := ascii "EC", use := ascii "sig", crv := some (ascii crv), x := some x, y := some y })

/-- `encodeECPrivateJWK(priv)`: `priv.D.Bytes()` on a nil `D` dereferences it. -/
def encodeECPrivateJWK (priv : ECDSAPrivateKey) : Except (Fault String) Bytes :=
  let crv := curveName priv.pub.curve
  if crv = "" then .error (.error "unsupported EC curve for JWK")
  else
    let byteLen := (priv.pub.curve.bitSize + 7) / 8
    let x := base64Url (padLeft (intBytes priv.pub.x) byteLen)
    let y := base64Url (padLeft (intBytes priv.pub.y) byteLen)
    match priv.d with
    | none => .error .panic
    | some d =>
      let d := base64Url (padLeft (intBytes d) byteLen)
      .ok (marshal
        { kty := ascii "EC", use := ascii "sig", d := some d, crv := some (ascii crv),
          x := some x, y := some y })

/-- `encodeRSAPublicJWK(pub)`; `big.NewInt(int64(pub.E))` holds `E` itself on a 64-bit
platform. -/
def encodeRSAPublicJWK (pub : RSAPublicKey) : Except (Fault String) Bytes :=
  let n := base64Url (intBytes pub.n)
  let e := base64Url (intBytes pub.e)
  .ok (marshal { kty := ascii "RSA", use := ascii "sig", n := some n, e := some e })

/-- `encodeRSAPrivateJWK(priv)`: `p` and `q` from the first two primes when there are at least
two, each dereferenced. -/
def encodeRSAPrivateJWK (priv : RSAPrivateKey) : Except (Fault String) Bytes :=
  let n := base64Url (intBytes priv.pub.n)
  let e := base64Url (intBytes priv.pub.e)
  match priv.d with
  | none => .error .panic
  | some d =>
    let j : JWK :=
      { kty := ascii "RSA", use := ascii "sig", n := some n, e := some e,
        d := some (base64Url (intBytes d)) }
    match priv.primes with
    | some p :: some q :: _ =>
      .ok (marshal
        { j with p := some (base64Url (intBytes p)), q := some (base64Url (intBytes q)) })
    | _ :: _ :: _ => .error .panic
    | _ => .ok (marshal j)

/-- `jwkEncoder.EncodePrivate(key)`: a typed nil pointer reaches its encoder, which dereferences
it; the nil interface is an unsupported type. -/
def encodePrivate : Option PrivateKey → Except (Fault String) Bytes
  | some (.ecdsa (some k)) => encodeECPrivateJWK k
  | some (.rsa (some k)) => encodeRSAPrivateJWK k
  | some (.ecdsa none) | some (.rsa none) => .error .panic
  | none => .error (.error "unsupported key type for JWK: <nil>")

/-- `jwkEncoder.EncodePublic(key)`. -/
def encodePublic : Option PublicKey → Except (Fault String) Bytes
  | some (.ecdsa k) => encodeECPublicJWK k
  | some (.rsa k) => encodeRSAPublicJWK k
  | none => .error (.error "unsupported key type for JWK: <nil>")

/-! ## What an EC key's JWK holds -/

/-- A field holds `v` on `n` bytes: its text base64url-decodes to exactly `n` bytes whose
unsigned big-endian value is `v`. -/
def EncodesOn (n : Nat) (v : Int) (field : Bytes) : Prop :=
  ∃ bs, rawURLDecode field = some bs ∧ bs.length = n ∧ (beValue bs : Int) = v

/-- A value in `[0, 256 ^ n)`, padded to `n` bytes and base64url-encoded, is held on `n`
bytes. -/
theorem encodesOn_padLeft {n : Nat} {v : Int} (h0 : 0 ≤ v) (h : v < 256 ^ n) :
    EncodesOn n v (base64Url (padLeft (intBytes v) n)) := by
  obtain ⟨m, rfl⟩ := Int.eq_ofNat_of_zero_le h0
  have hm : m < 256 ^ n := by exact_mod_cast h
  have hlen := length_intBytes_le (x := m) (by simpa using hm)
  refine ⟨_, rawURLDecode_base64Url _, ?_, ?_⟩
  · rw [padLeft_length]
    omega
  · rw [beValue_padLeft, beValue_intBytes]
    rfl

/-- `BitSize` bits fit in `(BitSize + 7) / 8` bytes. -/
theorem two_pow_le_byteLen (b : Nat) : (2 : Int) ^ b ≤ 256 ^ ((b + 7) / 8) := by
  have h : 2 ^ b ≤ 256 ^ ((b + 7) / 8) :=
    calc 2 ^ b ≤ 2 ^ (8 * ((b + 7) / 8)) := Nat.pow_le_pow_right (by decide) (by omega)
      _ = 256 ^ ((b + 7) / 8) := by rw [pow_mul]; rfl
  exact_mod_cast h

theorem curveName_safe (c : Curve) :
    curveName c ≠ "" ∧ jsonString (ascii (curveName c)) = 34 :: ascii (curveName c) ++ [34] := by
  cases c <;> decide

/-- The JSON text of an EC public key. -/
theorem encodeECPublicJWK_eq (pub : ECDSAPublicKey) :
    encodeECPublicJWK pub = .ok (123 :: ascii "\"kty\":\"EC\",\"use\":\"sig\",\"crv\":\"" ++
      ascii (curveName pub.curve) ++ ascii "\",\"x\":\"" ++
      base64Url (padLeft (intBytes pub.x) ((pub.curve.bitSize + 7) / 8)) ++ ascii "\",\"y\":\"" ++
      base64Url (padLeft (intBytes pub.y) ((pub.curve.bitSize + 7) / 8)) ++ [34, 125]) := by
  obtain ⟨hne, hcrv⟩ := curveName_safe pub.curve
  simp only [encodeECPublicJWK, if_neg hne, marshal, members]
  simp [List.intercalate, List.intersperse, List.filterMap, member, jsonString_base64Url, hcrv]
  generalize ascii (curveName pub.curve) = A
  generalize base64Url _ = X
  generalize base64Url _ = Y
  rfl

/-- The JSON text of an EC private key with a scalar `D`: `d` comes before `crv`, in the order
of the struct's fields. -/
theorem encodeECPrivateJWK_eq (pub : ECDSAPublicKey) (D : Int) :
    encodeECPrivateJWK ⟨pub, some D⟩ =
      .ok (123 :: ascii "\"kty\":\"EC\",\"use\":\"sig\",\"d\":\"" ++
      base64Url (padLeft (intBytes D) ((pub.curve.bitSize + 7) / 8)) ++ ascii "\",\"crv\":\"" ++
      ascii (curveName pub.curve) ++ ascii "\",\"x\":\"" ++
      base64Url (padLeft (intBytes pub.x) ((pub.curve.bitSize + 7) / 8)) ++ ascii "\",\"y\":\"" ++
      base64Url (padLeft (intBytes pub.y) ((pub.curve.bitSize + 7) / 8)) ++ [34, 125]) := by
  obtain ⟨hne, hcrv⟩ := curveName_safe pub.curve
  simp only [encodeECPrivateJWK, if_neg hne, marshal, members]
  simp [List.intercalate, List.intersperse, List.filterMap, member, jsonString_base64Url, hcrv]
  generalize ascii (curveName pub.curve) = A
  generalize base64Url (padLeft (intBytes D) _) = Z
  generalize base64Url _ = X
  generalize base64Url _ = Y
  rfl

/-- For every key on P-256, P-384 or P-521 with its coordinates (and scalar) in
`[0, 2 ^ BitSize)`, the public and the private encoder write the JSON texts above, and each of
the fields `x`, `y` (and `d`) holds its integer on exactly `(BitSize + 7) / 8` bytes. This rests
on `padLeft b n` having `max (len b) n` bytes and the value of `b`. -/
theorem ecJWK_coordinates_fixed_width :
    (∀ (b : Bytes) (n : Nat),
      (padLeft b n).length = max b.length n ∧ beValue (padLeft b n) = beValue b) ∧
    ∀ (pub : ECDSAPublicKey), 0 ≤ pub.x → pub.x < 2 ^ pub.curve.bitSize →
      0 ≤ pub.y → pub.y < 2 ^ pub.curve.bitSize →
      let n := (pub.curve.bitSize + 7) / 8
      (∃ x y, encodeECPublicJWK pub =
          .ok (123 :: ascii "\"kty\":\"EC\",\"use\":\"sig\",\"crv\":\"" ++
          ascii (curveName pub.curve) ++ ascii "\",\"x\":\"" ++ x ++ ascii "\",\"y\":\"" ++ y ++
          [34, 125]) ∧
        EncodesOn n pub.x x ∧ EncodesOn n pub.y y) ∧
      ∀ D, 0 ≤ D → D < 2 ^ pub.curve.bitSize →
        ∃ x y d, encodeECPrivateJWK ⟨pub, some D⟩ =
            .ok (123 :: ascii "\"kty\":\"EC\",\"use\":\"sig\",\"d\":\"" ++ d ++
              ascii "\",\"crv\":\"" ++ ascii (curveName pub.curve) ++ ascii "\",\"x\":\"" ++ x ++
              ascii "\",\"y\":\"" ++ y ++ [34, 125]) ∧
          EncodesOn n pub.x x ∧ EncodesOn n pub.y y ∧ EncodesOn n D d := by
  refine ⟨fun b n => ⟨padLeft_length b n, beValue_padLeft b n⟩, ?_⟩
  intro pub hx₀ hx hy₀ hy n
  have hbound := two_pow_le_byteLen pub.curve.bitSize
  have hx' := encodesOn_padLeft hx₀ (hx.trans_le hbound)
  have hy' := encodesOn_padLeft hy₀ (hy.trans_le hbound)
  refine ⟨⟨_, _, encodeECPublicJWK_eq pub, hx', hy'⟩, fun D hD₀ hD => ?_⟩
  exact ⟨_, _, _, encodeECPrivateJWK_eq pub D, hx', hy', encodesOn_padLeft hD₀ (hD.trans_le hbound)⟩

/-- The P-256 key with `D = 1`, whose public point is the base point: `d`, a one-byte integer,
still takes 32 bytes, as `x` and `y` do. -/
theorem smallP256Key_fixed_width :
    ∃ x y d, encodeECPrivateJWK ⟨Curve.p256.basePoint, some 1⟩ =
        .ok (123 :: ascii "\"kty\":\"EC\",\"use\":\"sig\",\"d\":\"" ++ d ++
          ascii "\",\"crv\":\"" ++ ascii "P-256" ++ ascii "\",\"x\":\"" ++ x ++
          ascii "\",\"y\":\"" ++ y ++ [34, 125]) ∧
      EncodesOn 32 Curve.p256.basePoint.x x ∧ EncodesOn 32 Curve.p256.basePoint.y y ∧
      EncodesOn 32 1 d :=
  (ecJWK_coordinates_fixed_width.2 Curve.p256.basePoint (by decide)
    (by norm_num [Curve.basePoint, Curve.bitSize]) (by decide)
    (by norm_num [Curve.basePoint, Curve.bitSize])).2 1 (by decide)
    (by norm_num [Curve.basePoint, Curve.bitSize])

/-! ## The public JWK is the private one without its private members -/

/-- A JWK without the members that hold private key material: `d`, `p` and `q`. -/
def JWK.withoutPrivate (j : JWK) : JWK := { j with d := none, p := none, q := none }

/-- For every key the private encoders read, the public encoder writes the private JWK with `d`,
`p` and `q` dropped: stripping the private members of the private JWK gives the public JWK byte
for byte. The private encoders never return an error value on the three curves: they panic
exactly on a nil `D`, or on a nil first or second prime of an RSA key with two or more, and
otherwise write a JWK with `d`. -/
theorem jwk_public_is_private_without_secrets :
    (∀ k : ECDSAPrivateKey, (encodeECPrivateJWK k = .error .panic ↔ k.d = none) ∧
      (encodeECPrivateJWK k = .error .panic ∨
        ∃ j : JWK, encodeECPrivateJWK k = .ok (marshal j) ∧ j.d.isSome ∧
          encodeECPublicJWK k.pub = .ok (marshal j.withoutPrivate))) ∧
    ∀ k : RSAPrivateKey, (encodeRSAPrivateJWK k = .error .panic ↔
        k.d = none ∨ ∃ p q rest, k.primes = p :: q :: rest ∧ (p = none ∨ q = none)) ∧
      (encodeRSAPrivateJWK k = .error .panic ∨
        ∃ j : JWK, encodeRSAPrivateJWK k = .ok (marshal j) ∧ j.d.isSome ∧
          encodeRSAPublicJWK k.pub = .ok (marshal j.withoutPrivate)) := by
  refine ⟨fun ⟨pub, d⟩ => ?_, fun ⟨pub, d, primes⟩ => ?_⟩
  · have hne := (curveName_safe pub.curve).1
    rcases d with _ | d
    · exact ⟨iff_of_true (by simp only [encodeECPrivateJWK, if_neg hne]) rfl,
        .inl (by simp only [encodeECPrivateJWK, if_neg hne])⟩
    · exact ⟨iff_of_false (by simp [encodeECPrivateJWK, if_neg hne]) (by simp), .inr ⟨_,
        by simp only [encodeECPrivateJWK, if_neg hne]; rfl, by rfl,
        by simp only [encodeECPublicJWK, if_neg hne]; rfl⟩⟩
  · rcases d with _ | d
    · exact ⟨iff_of_true rfl (.inl rfl), .inl rfl⟩
    match primes with
    | some _ :: some _ :: _ =>
      exact ⟨iff_of_false (by simp [encodeRSAPrivateJWK]) (by simp), .inr ⟨_, by rfl, by rfl, by rfl⟩⟩
    | none :: _ :: _ => exact ⟨iff_of_true rfl (.inr ⟨_, _, _, rfl, .inl rfl⟩), .inl rfl⟩
    | some _ :: none :: _ => exact ⟨iff_of_true rfl (.inr ⟨_, _, _, rfl, .inr rfl⟩), .inl rfl⟩
    | [] => exact ⟨iff_of_false (by simp [encodeRSAPrivateJWK]) (by simp), .inr ⟨_, by rfl, by rfl, by rfl⟩⟩
    | [some _] =>
      exact ⟨iff_of_false (by simp [encodeRSAPrivateJWK]) (by simp), .inr ⟨_, by rfl, by rfl, by rfl⟩⟩
    | [none] =>
      exact ⟨iff_of_false (by simp [encodeRSAPrivateJWK]) (by simp), .inr ⟨_, by rfl, by rfl, by rfl⟩⟩

/-! ## RSA members are minimal -/

/-- A field holds the magnitude of `v` on the fewest bytes: it base64url-decodes to big-endian
bytes of value `|v|` whose first byte is not zero (no bytes at all for zero). -/
def EncodesMinimal (v : Int) (field : Bytes) : Prop :=
  ∃ bs, rawURLDecode field = some bs ∧ beValue bs = v.natAbs ∧ bs.head? ≠ some 0

/-- `big.Int.Bytes` never starts with a zero byte: its first byte is the last base-256 digit. -/
theorem head?_intBytes_ne_zero (x : Int) : (intBytes x).head? ≠ some 0 := by
  rw [intBytes, List.head?_reverse, List.getLast?_map]
  rcases Nat.eq_zero_or_pos x.natAbs with h0 | h0
  · simp [h0]
  rw [List.getLast?_eq_getLast _ (Nat.digits_ne_nil_iff_ne_zero.2 h0.ne'), Option.map_some',
    Ne, Option.some.injEq]
  have hlt := Nat.digits_lt_base (show 1 < 256 by decide) (List.getLast_mem (Nat.digits_ne_nil_iff_ne_zero.2 h0.ne'))
  intro h
  have h' := congrArg UInt8.toNat h
  rw [toNat_toUInt8, Nat.mod_eq_of_lt hlt] at h'
  exact Nat.getLast_digit_ne_zero 256 h0.ne' h'

theorem encodesMinimal_intBytes (x : Int) : EncodesMinimal x (base64Url (intBytes x)) :=
  ⟨_, rawURLDecode_base64Url _, beValue_intBytes x, head?_intBytes_ne_zero x⟩

/-- The JSON text of an RSA public key. -/
theorem encodeRSAPublicJWK_eq (pub : RSAPublicKey) :
    encodeRSAPublicJWK pub = .ok (123 :: ascii "\"kty\":\"RSA\",\"use\":\"sig\",\"n\":\"" ++
      base64Url (intBytes pub.n) ++ ascii "\",\"e\":\"" ++ base64Url (intBytes pub.e) ++ [34, 125]) := by
  simp only [encodeRSAPublicJWK, marshal, members]
  simp [List.intercalate, List.intersperse, List.filterMap, member, jsonString_base64Url]
  generalize base64Url _ = N
  generalize base64Url _ = E
  rfl

/-- For every RSA key, the public encoder writes the JSON text with `n` and `e`, and every integer
member of either JWK holds the magnitude of its integer on the fewest bytes, with no leading zero
byte; unlike the EC coordinates, nothing is padded. The private encoder panics on a nil `D` or
a nil first or second prime, and otherwise writes `d`, and `p`, `q` from the first two primes
exactly when there are at least two. -/
theorem rsaJWK_members_minimal (k : RSAPrivateKey) :
    (∃ n e, encodeRSAPublicJWK k.pub =
        .ok (123 :: ascii "\"kty\":\"RSA\",\"use\":\"sig\",\"n\":\"" ++ n ++ ascii "\",\"e\":\"" ++ e ++
          [34, 125]) ∧
      EncodesMinimal k.pub.n n ∧ EncodesMinimal k.pub.e e) ∧
    ((k.d = none ∨ ∃ p q rest, k.primes = p :: q :: rest ∧ (p = none ∨ q = none)) ∧
        encodeRSAPrivateJWK k = .error .panic ∨
      ∃ j n e d D, encodeRSAPrivateJWK k = .ok (marshal j) ∧ j.n = some n ∧ j.e = some e ∧
        j.d = some d ∧ k.d = some D ∧
        EncodesMinimal k.pub.n n ∧ EncodesMinimal k.pub.e e ∧ EncodesMinimal D d ∧
        ((k.primes.length < 2 ∧ j.p = none ∧ j.q = none) ∨
          ∃ P Q rest p q, k.primes = some P :: some Q :: rest ∧ j.p = some p ∧ j.q = some q ∧
            EncodesMinimal P p ∧ EncodesMinimal Q q)) := by
  refine ⟨⟨_, _, encodeRSAPublicJWK_eq k.pub, encodesMinimal_intBytes _, encodesMinimal_intBytes _⟩, ?_⟩
  obtain ⟨pub, d, primes⟩ := k
  rcases d with _ | D
  · exact .inl ⟨.inl rfl, rfl⟩
  have hn := encodesMinimal_intBytes pub.n
  have he := encodesMinimal_intBytes pub.e
  have hd := encodesMinimal_intBytes D
  match primes with
  | some P :: some Q :: rest =>
    exact .inr ⟨_, _, _, _, D, by rfl, rfl, rfl, rfl, rfl, hn, he, hd,
      .inr ⟨P, Q, rest, _, _, rfl, rfl, rfl, encodesMinimal_intBytes P, encodesMinimal_intBytes Q⟩⟩
  | none :: _ :: _ => exact .inl ⟨.inr ⟨_, _, _, rfl, .inl rfl⟩, rfl⟩
  | some _ :: none :: _ => exact .inl ⟨.inr ⟨_, _, _, rfl, .inr rfl⟩, rfl⟩
  | [] => exact .inr ⟨_, _, _, _, D, by rfl, rfl, rfl, rfl, rfl, hn, he, hd, .inl ⟨by simp, rfl, rfl⟩⟩
  | [some _] =>
    exact .inr ⟨_, _, _, _, D, by rfl, rfl, rfl, rfl, rfl, hn, he, hd, .inl ⟨by simp, rfl, rfl⟩⟩
  | [none] =>
    exact .inr ⟨_, _, _, _, D, by rfl, rfl, rfl, rfl, rfl, hn, he, hd, .inl ⟨by simp, rfl, rfl⟩⟩

end Jwk
end OpenUKR
