import OpenUKR.Go.Time

/-!
# `pkg/crypto` — key material and fingerprints

Keys are the two pointer types the code switches on. A `crypto.PrivateKey` interface holding a
typed nil pointer is `.ecdsa none` / `.rsa none`; the nil interface itself is `none` at the
`KeyPair` field. `*big.Int` fields are integers, `Option` where the code tests them for nil.

What `x509` checks before it encodes a key is modelled: `MarshalPKIXPublicKey` refuses an EC
point off its curve, and `MarshalPKCS8PrivateKey` refuses one too, and panics on a nil pointer,
on a scalar `D` that is nil or wider than the curve's, and on an RSA key `Precompute` cannot take
(`D` nil, fewer than two primes, a nil prime, a prime equal to 1). The bytes it writes for a key
it accepts, and the hashes, are the fields of `CryptoLib`: no property here depends on their
layout, only on which key each is applied to, so each is an arbitrary function.
-/

namespace OpenUKR
namespace Crypto

/-- Bytes, as Go's `[]byte`. -/
abbrev Bytes := List UInt8

/-- The NIST curves `elliptic.P256()`, `P384()`, `P521()`. -/
inductive Curve
  | p256
  | p384
  | p521
  deriving DecidableEq, Repr

/-- `Curve.Params().BitSize`. -/
def Curve.bitSize : Curve → Nat
  | .p256 => 256
  | .p384 => 384
  | .p521 => 521

/-- `ecdsa.PublicKey`. -/
structure ECDSAPublicKey where
  curve : Curve
  x : Int
  y : Int
  deriving DecidableEq, Repr

/-- `ecdsa.PrivateKey`: the embedded public key and the scalar `D`. -/
structure ECDSAPrivateKey where
  pub : ECDSAPublicKey
  d : Option Int
  deriving DecidableEq, Repr

/-- `rsa.PublicKey`. -/
structure RSAPublicKey where
  n : Int
  e : Int
  deriving DecidableEq, Repr

/-- `rsa.PrivateKey`: the embedded public key, the exponent `D`, and `Primes`. -/
structure RSAPrivateKey where
  pub : RSAPublicKey
  d : Option Int
  primes : List (Option Int)
  deriving DecidableEq, Repr

/-- The dynamic value of a non-nil `crypto.PublicKey`. -/
inductive PublicKey
  | ecdsa (k : ECDSAPublicKey)
  | rsa (k : RSAPublicKey)
  deriving DecidableEq, Repr

/-- The dynamic value of a non-nil `crypto.PrivateKey`: a possibly nil pointer. -/
inductive PrivateKey
  | ecdsa (k : Option ECDSAPrivateKey)
  | rsa (k : Option RSAPrivateKey)
  deriving DecidableEq, Repr

/-- `crypto.KeyPair`. -/
structure KeyPair where
  keyID : String
  privateKey : Option PrivateKey
  publicKey : Option PublicKey
  algorithm : String
  createdAt : Time
  rawPrivateBytes : Bytes
  deriving DecidableEq

/-! ## `Wipe` -/

/-- How `Wipe` can end other than by returning: the runtime panic of a nil pointer
dereference. -/
inductive WipeError
  /-- `range k.Primes` on a nil `*rsa.PrivateKey`. -/
  | nilDereference
  deriving DecidableEq, Repr

/-- `x.SetInt64(0)` on a `*big.Int` the code checked for nil. -/
def zeroInt : Option Int → Option Int
  | some _ => some 0
  | none => none

/-- The loop `for i := range kp.rawPrivateBytes { kp.rawPrivateBytes[i] = 0 }`, on the array
the slice points to. -/
def zeroBytes : Bytes → Bytes
  | [] => []
  | _ :: bs => 0 :: zeroBytes bs

/-- The type switch of `Wipe`: the key it finds, after `D` and the non-nil `Primes` are zeroed in
place. A nil `*ecdsa.PrivateKey` fails the guard `k != nil`; a nil `*rsa.PrivateKey` fails it too,
but `range k.Primes` after the guard dereferences it. -/
def wipePrivateKey : Option PrivateKey → Except WipeError (Option PrivateKey)
  | some (.ecdsa (some k)) => .ok (some (.ecdsa (some { k with d := zeroInt k.d })))
  | some (.ecdsa none) => .ok (some (.ecdsa none))
  | some (.rsa (some k)) =>
    .ok (some (.rsa (some { k with d := zeroInt k.d, primes := k.primes.map zeroInt })))
  | some (.rsa none) => .error .nilDereference
  | none => .ok none

/-- Memory after a `Wipe` call: the receiver, and the two objects its fields pointed to before the
call (the array behind `rawPrivateBytes`, and the private key) as every other reference to them
now sees them. A nil receiver reaches neither. -/
structure Wiped where
  keyPair : Option KeyPair
  buffer : Bytes
  privateKey : Option PrivateKey
  deriving DecidableEq

/-- `kp.Wipe()` on the receiver `kp`. -/
def wipe : Option KeyPair → Except WipeError Wiped
  | none => .ok ⟨none, [], none⟩
  | some kp => do
    let buffer := zeroBytes kp.rawPrivateBytes
    let privateKey ← wipePrivateKey kp.privateKey
    pure ⟨some { kp with rawPrivateBytes := [], privateKey := none, publicKey := none }, buffer,
      privateKey⟩

/-- Every scalar of a private key is zero: its `D` and, for RSA, every prime, where they are
not nil. -/
def PrivateKey.Zeroed : PrivateKey → Prop
  | .ecdsa k => ∀ k' ∈ k, ∀ d ∈ k'.d, d = 0
  | .rsa k => ∀ k' ∈ k, (∀ d ∈ k'.d, d = 0) ∧ ∀ p ∈ k'.primes, ∀ v ∈ p, v = 0

instance : DecidablePred PrivateKey.Zeroed
  | .ecdsa _ => inferInstanceAs (Decidable (∀ _ ∈ _, _))
  | .rsa _ => inferInstanceAs (Decidable (∀ _ ∈ _, _))

@[simp] theorem zeroBytes_eq_replicate (bs : Bytes) : zeroBytes bs = List.replicate bs.length 0 := by
  induction bs with
  | nil => rfl
  | cons _ bs ih => simp [zeroBytes, ih, List.replicate_succ]

@[simp] theorem zeroInt_eq_some {v : Option Int} {x : Int} :
    zeroInt v = some x ↔ v.isSome ∧ x = 0 := by
  cases v <;> simp [zeroInt, eq_comm]

theorem wipePrivateKey_eq_error {k : Option PrivateKey} {e : WipeError} :
    wipePrivateKey k = .error e ↔ k = some (.rsa none) := by
  rcases k with _ | (_ | _) | (_ | _) <;> simp [wipePrivateKey]

/-- The key the switch leaves has every scalar zeroed, and is there exactly when there was one. -/
theorem wipePrivateKey_zeroed {k k' : Option PrivateKey} (h : wipePrivateKey k = .ok k') :
    (∀ key ∈ k', key.Zeroed) ∧ (k' = none ↔ k = none) := by
  rcases k with _ | (_ | _) | (_ | _) <;> simp only [wipePrivateKey, Except.ok.injEq,
    reduceCtorEq] at h <;> subst h <;>
    simp [PrivateKey.Zeroed]

theorem wipe_some (kp : KeyPair) :
    wipe (some kp) = (wipePrivateKey kp.privateKey).map fun k =>
      ⟨some { kp with rawPrivateBytes := [], privateKey := none, publicKey := none },
        zeroBytes kp.rawPrivateBytes, k⟩ := by
  simp only [wipe]
  rcases wipePrivateKey kp.privateKey <;> rfl

/-- `Wipe` returns on every key pair but one holding a nil `*rsa.PrivateKey`. -/
theorem wipe_ok_of_ne_nil_rsa {kp : KeyPair} (h : kp.privateKey ≠ some (.rsa none)) :
    ∃ w, wipe (some kp) = .ok w := by
  rcases hk : wipePrivateKey kp.privateKey with e | k
  · exact absurd (wipePrivateKey_eq_error.1 hk) h
  · exact ⟨_, by rw [wipe_some, hk]; rfl⟩

/-- A wiped key pair holds nothing for a second `Wipe` to reach. -/
theorem wipe_wipe {r : Option KeyPair} {w : Wiped} (h : wipe r = .ok w) :
    wipe w.keyPair = .ok ⟨w.keyPair, [], none⟩ := by
  rcases r with _ | kp
  · cases h; rfl
  rw [wipe_some] at h
  rcases hk : wipePrivateKey kp.privateKey with e | k <;> rw [hk] at h <;> cases h
  rfl

/-- `Wipe` panics exactly on a key pair holding a nil `*rsa.PrivateKey`: the guard `k != nil`
protects `D` but not `range k.Primes`. On every other key pair it returns. The key pair then
holds no private key, public key or raw bytes; every byte of the buffer it held is zero; the key
it held is still there, with `D` and every non-nil prime zero. Whatever the receiver, nil
included, a second `Wipe` reaches nothing and changes nothing. -/
theorem wipe_panics_on_nil_rsa_key (kp : KeyPair) :
    ((∃ e, wipe (some kp) = .error e) ↔ kp.privateKey = some (.rsa none)) ∧
    (kp.privateKey ≠ some (.rsa none) → ∃ w, wipe (some kp) = .ok w ∧
      w.keyPair = some { kp with rawPrivateBytes := [], privateKey := none, publicKey := none } ∧
      w.buffer = List.replicate kp.rawPrivateBytes.length 0 ∧
      (∀ k ∈ w.privateKey, k.Zeroed) ∧ (w.privateKey = none ↔ kp.privateKey = none)) ∧
    (∀ r w, wipe r = .ok w → wipe w.keyPair = .ok ⟨w.keyPair, [], none⟩) := by
  refine ⟨?_, fun hk => ?_, fun _ _ => wipe_wipe⟩
  · rw [wipe_some]
    rcases h : wipePrivateKey kp.privateKey with e | k
    · exact iff_of_true ⟨e, rfl⟩ (wipePrivateKey_eq_error.1 h)
    · refine iff_of_false (fun ⟨e, he⟩ => by cases he) fun hrsa => ?_
      simp [hrsa, wipePrivateKey] at h
  · rcases h : wipePrivateKey kp.privateKey with e | k
    · exact absurd (wipePrivateKey_eq_error.1 h) hk
    · rw [wipe_some, h]
      exact ⟨_, rfl, rfl, zeroBytes_eq_replicate _, wipePrivateKey_zeroed h⟩

/-- `&KeyPair{PrivateKey: (*rsa.PrivateKey)(nil)}`. -/
def nilRSAKeyPair : KeyPair := ⟨"", some (.rsa none), none, "", Time.zero, []⟩

/-- `Wipe` panics on `nilRSAKeyPair`. -/
theorem nilRSAKeyPair_wipe_panics : wipe (some nilRSAKeyPair) = .error .nilDereference := by
  obtain ⟨e, he⟩ := (wipe_panics_on_nil_rsa_key nilRSAKeyPair).1.2 rfl
  cases e
  exact he

/-! ## `x509` -/

/-- The prime `P` of the curve's field: `2²⁵⁶ - 2²²⁴ + 2¹⁹² + 2⁹⁶ - 1`,
`2³⁸⁴ - 2¹²⁸ - 2⁹⁶ + 2³² - 1` and `2⁵²¹ - 1` (FIPS 186-4, D.1.2). -/
def Curve.p : Curve → Nat
  | .p256 => 0xffffffff00000001000000000000000000000000ffffffffffffffffffffffff
  | .p384 => 0xfffffffffffffffffffffffffffffffffffffffffffffffffffffffffffffffeffffffff0000000000000000ffffffff
  | .p521 => 0x1ffffffffffffffffffffffffffffffffffffffffffffffffffffffffffffffffffffffffffffffffffffffffffffffffffffffffffffffffffffffffffffffffff

/-- The coefficient `B` of the curve `y² = x³ - 3x + B`. -/
def Curve.b : Curve → Nat
  | .p256 => 0x5ac635d8aa3a93e7b3ebbd55769886bc651d06b0cc53b0f63bce3c3e27d2604b
  | .p384 => 0xb3312fa7e23ee7e4988e056be3f82d19181d9c6efe8141120314088f5013875ac656398d8a2ed19d2a85c8edd3ec2aef
  | .p521 => 0x51953eb9618e1c9a1f929a21a0b68540eea2da725b99b315f3b8b489918ef109e156193951ec7e937b1652c0bd3bb1bf073573df883d2c34f1ef451fd46b503f00

/-- The base point `(Gx, Gy)`: the public key of the scalar 1. -/
def Curve.basePoint (c : Curve) : ECDSAPublicKey :=
  match c with
  | .p256 => ⟨c, 0x6b17d1f2e12c4247f8bce6e563a440f277037d812deb33a0f4a13945d898c296,
      0x4fe342e2fe1a7f9b8ee7eb4a7c0f9e162bce33576b315ececbb6406837bf51f5⟩
  | .p384 => ⟨c, 0xaa87ca22be8b05378eb1c71ef320ad746e1d3b628ba79b9859f741e082542a385502f25dbf55296c3a545e3872760ab7,
      0x3617de4a96262c6f5d9e98bf9292dc29f8f41dbd289a147ce9da3113b5f0b8c00a60b1ce1d7e819d7a431d7c90ea0e5f⟩
  | .p521 => ⟨c, 0xc6858e06b70404e9cd9e3ecb662395b4429c648139053fb521f828af606b4d3dbaa14b5e77efe75928fe1dc127a2ffa8de3348b3c1856a429bf97e7e31c2e5bd66,
      0x11839296a789a3bc0045c8a5fb42c7d1bd998f54449579b446817afbd17273e662c97ee72995ef42640c550b9013fad0761353c7086a272c24088be94769fd16650⟩

/-- `(N.BitLen() + 7) / 8`: the bytes of a scalar, the order `N` having as many bits as the
field. -/
def Curve.byteLen (c : Curve) : Nat := (c.bitSize + 7) / 8

/-- `curve.IsOnCurve(x, y)`: both coordinates reduced modulo `P`, and `y² = x³ - 3x + B` there.
The point at infinity `(0, 0)`, which Go rejects first, fails the equation. -/
def ECDSAPublicKey.IsOnCurve (k : ECDSAPublicKey) : Prop :=
  0 ≤ k.x ∧ k.x < k.curve.p ∧ 0 ≤ k.y ∧ k.y < k.curve.p ∧
    (k.y * k.y - (k.x * k.x * k.x - 3 * k.x + k.curve.b)) % k.curve.p = 0

instance : DecidablePred ECDSAPublicKey.IsOnCurve := fun _ => inferInstanceAs (Decidable (_ ∧ _))

theorem basePoint_isOnCurve (c : Curve) : c.basePoint.IsOnCurve := by
  cases c <;> decide

/-- `D.FillBytes` into `byteLen` bytes returns: `D` is set, and its magnitude fits. -/
def ECDSAPrivateKey.ScalarFits (k : ECDSAPrivateKey) : Prop :=
  ∃ d ∈ k.d, d.natAbs < 256 ^ k.pub.curve.byteLen

instance : DecidablePred ECDSAPrivateKey.ScalarFits :=
  fun _ => inferInstanceAs (Decidable (∃ _ ∈ _, _))

/-- `priv.Precompute()` returns: it reads `D`, `Primes[0]` and `Primes[1]`, and takes `D` modulo
`p - 1` for every prime `p`. -/
def RSAPrivateKey.Precomputable (k : RSAPrivateKey) : Prop :=
  k.d.isSome ∧ 2 ≤ k.primes.length ∧ ∀ p ∈ k.primes, p ≠ none ∧ p ≠ some 1

instance : DecidablePred RSAPrivateKey.Precomputable :=
  fun _ => inferInstanceAs (Decidable (_ ∧ _))

/-- The public keys `x509.MarshalPKIXPublicKey` encodes. -/
def PublicKey.Marshalable : PublicKey → Prop
  | .ecdsa k => k.IsOnCurve
  | .rsa _ => True

instance : DecidablePred PublicKey.Marshalable
  | .ecdsa k => inferInstanceAs (Decidable k.IsOnCurve)
  | .rsa _ => inferInstanceAs (Decidable True)

/-- The private keys `x509.MarshalPKCS8PrivateKey` encodes without an error or a panic. -/
def PrivateKey.Marshalable : PrivateKey → Prop
  | .ecdsa k => ∃ key ∈ k, key.pub.IsOnCurve ∧ key.ScalarFits
  | .rsa k => ∃ key ∈ k, key.Precomputable

instance : DecidablePred PrivateKey.Marshalable
  | .ecdsa _ => inferInstanceAs (Decidable (∃ _ ∈ _, _))
  | .rsa _ => inferInstanceAs (Decidable (∃ _ ∈ _, _))

/-- A key `x509` encodes is no nil `*rsa.PrivateKey`, so `Wipe` returns on it. -/
theorem PrivateKey.Marshalable.ne_nil_rsa {k : PrivateKey} (h : k.Marshalable) : k ≠ .rsa none := by
  rintro rfl
  simp [PrivateKey.Marshalable] at h

/-- The standard-library primitives the package calls (see the module header). -/
structure CryptoLib where
  /-- The DER `x509.MarshalPKIXPublicKey` returns for a key it accepts. -/
  pkixDER : PublicKey → Bytes
  /-- The DER `x509.MarshalPKCS8PrivateKey` returns for a key it accepts. -/
  pkcs8DER : PrivateKey → Bytes
  /-- The DER `x509.MarshalECPrivateKey` returns for a key it accepts. -/
  ecDER : ECDSAPrivateKey → Bytes
  /-- The DER `x509.MarshalPKCS1PrivateKey` returns for a key `Precompute` accepts. -/
  pkcs1DER : RSAPrivateKey → Bytes
  /-- `sha256.Sum256`. -/
  sha256 : Bytes → Bytes
  /-- `base64.RawURLEncoding.EncodeToString`. -/
  base64RawURL : Bytes → String

/-- Primitives returning empty output. -/
def CryptoLib.empty : CryptoLib :=
  ⟨fun _ => [], fun _ => [], fun _ => [], fun _ => [], fun _ => [], fun _ => ""⟩

/-- `x509.MarshalPKIXPublicKey(key)`. -/
def marshalPKIXPublicKey (lib : CryptoLib) : PublicKey → Except String Bytes
  | .ecdsa k =>
    if k.IsOnCurve then .ok (lib.pkixDER (.ecdsa k)) else .error "x509: invalid elliptic curve public key"
  | .rsa k => .ok (lib.pkixDER (.rsa k))

/-- `x509.MarshalPKCS8PrivateKey(key)` on a non-nil interface: a nil pointer panics (at
`k.Curve`, or in `Precompute`), an EC point off its curve is refused before `D.FillBytes`, which
panics on a nil or too wide `D`, and `MarshalPKCS1PrivateKey` panics in `Precompute`. -/
def marshalPKCS8PrivateKey (lib : CryptoLib) : PrivateKey → Except (Fault String) Bytes
  | .ecdsa none | .rsa none => .error .panic
  | .ecdsa (some k) =>
    if ¬ k.pub.IsOnCurve then
      .error (.error
        "x509: failed to marshal EC private key while building PKCS#8: invalid elliptic key public key")
    else if k.ScalarFits then .ok (lib.pkcs8DER (.ecdsa (some k))) else .error .panic
  | .rsa (some k) => if k.Precomputable then .ok (lib.pkcs8DER (.rsa (some k))) else .error .panic

theorem marshalPKIXPublicKey_eq_ok {lib : CryptoLib} {k : PublicKey} {b : Bytes} :
    marshalPKIXPublicKey lib k = .ok b ↔ k.Marshalable ∧ b = lib.pkixDER k := by
  rcases k with k | k
  · by_cases h : k.IsOnCurve <;> simp [marshalPKIXPublicKey, PublicKey.Marshalable, h, eq_comm]
  · simp [marshalPKIXPublicKey, PublicKey.Marshalable, eq_comm]

theorem marshalPKCS8PrivateKey_eq_ok {lib : CryptoLib} {k : PrivateKey} {b : Bytes} :
    marshalPKCS8PrivateKey lib k = .ok b ↔ k.Marshalable ∧ b = lib.pkcs8DER k := by
  rcases k with (_ | k) | (_ | k)
  · simp [marshalPKCS8PrivateKey, PrivateKey.Marshalable]
  · by_cases h₁ : k.pub.IsOnCurve <;> by_cases h₂ : k.ScalarFits <;>
      simp [marshalPKCS8PrivateKey, PrivateKey.Marshalable, h₁, h₂, eq_comm]
  · simp [marshalPKCS8PrivateKey, PrivateKey.Marshalable]
  · by_cases h : k.Precomputable <;> simp [marshalPKCS8PrivateKey, PrivateKey.Marshalable, h, eq_comm]

/-- `FingerprintPrefix`; fixed forever by the API. -/
def fingerprintPrefix : String := "SHA256:"

/-- The fingerprint of a DER-encoded public key: `"SHA256:" + base64url(SHA-256(der))`. -/
def CryptoLib.fingerprintOfDER (lib : CryptoLib) (der : Bytes) : String :=
  fingerprintPrefix ++ lib.base64RawURL (lib.sha256 der)

/-- `ComputeFingerprint(pubKey)`: it errs on a nil key and, through `x509`, on an EC point off
its curve. -/
def computeFingerprint (lib : CryptoLib) : Option PublicKey → Except String String
  | none => .error "cannot compute fingerprint: public key is nil"
  | some k =>
    match marshalPKIXPublicKey lib k with
    | .error e => .error ("marshal public key to DER: " ++ e)
    | .ok der => .ok (lib.fingerprintOfDER der)

/-- `ComputeFingerprint` returns exactly for a key `x509` encodes, the fingerprint of its DER. -/
theorem computeFingerprint_eq_ok {lib : CryptoLib} {k : Option PublicKey} {fp : String} :
    computeFingerprint lib k = .ok fp ↔
      ∃ pub, k = some pub ∧ pub.Marshalable ∧ fp = lib.fingerprintOfDER (lib.pkixDER pub) := by
  rcases k with _ | pub
  · simp [computeFingerprint]
  rcases h : marshalPKIXPublicKey lib pub with e | der
  · refine iff_of_false (by simp [computeFingerprint, h]) fun ⟨_, hp, hm, _⟩ => ?_
    cases Option.some.inj hp
    cases h.symm.trans (marshalPKIXPublicKey_eq_ok.2 ⟨hm, rfl⟩)
  · obtain ⟨hm, rfl⟩ := marshalPKIXPublicKey_eq_ok.1 h
    simp [computeFingerprint, h, hm, eq_comm]

theorem computeFingerprint_of_marshalable (lib : CryptoLib) {pub : PublicKey} (h : pub.Marshalable) :
    computeFingerprint lib (some pub) = .ok (lib.fingerprintOfDER (lib.pkixDER pub)) :=
  computeFingerprint_eq_ok.2 ⟨pub, rfl, h, rfl⟩

end Crypto
end OpenUKR
