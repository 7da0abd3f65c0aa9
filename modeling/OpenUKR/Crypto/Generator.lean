import OpenUKR.Crypto.Keys
import OpenUKR.Crypto.Validate

/-!
# `defaultGenerator.Generate`

Generation validates with the shared `ValidateKeySpec`, then parses the parameters again on its
own (`parseCurve`, a second `Atoi`) and draws from `crypto/rand`. Everything random or
clock-dependent comes from an `Entropy` record: the two key generators, the three bytes of the
key ID, and the two `time.Now()` readings (the key-ID date, and `CreatedAt`). The record carries
what the standard library promises of its generated keys: `x509` encodes them. So the error of
`MarshalECPrivateKey` and the panic of `MarshalPKCS1PrivateKey` cannot happen here, and every
generated pair is one `Render` and `ComputeFingerprint` accept (`generate_marshalable`).

`generate_eq_error_of_validate` and `generate_ok_of_validate` connect the two parsers: on the
inputs validation accepts, generation fails only where the random source fails.
-/

namespace OpenUKR
namespace Crypto

open Strconv

/-- `GenerateOptions`. -/
structure GenerateOptions where
  algorithm : String
  params : GoMap String
  allowLegacyKeySize : Bool
  deriving DecidableEq

/-- The options `EnsureKey` builds from a profile's key spec. -/
def GenerateOptions.ofKeySpec (ks : Api.KeySpec) : GenerateOptions :=
  ⟨ks.algorithm, ks.params, ks.allowLegacyKeySize⟩

/-- What `Generate` consumes from the outside world. -/
structure Entropy where
  /-- `ecdsa.GenerateKey(curve, rand.Reader)`. -/
  ecdsaGenerateKey : Curve → Except String ECDSAPrivateKey
  /-- `rsa.GenerateKey(rand.Reader, bits)`. -/
  rsaGenerateKey : Int → Except String RSAPrivateKey
  /-- `rand.Read` into the three key-ID bytes. -/
  readKeyIDBytes : Except String (UInt8 × UInt8 × UInt8)
  /-- `time.Now()` in `generateKeyID`. -/
  keyIDClock : Time
  /-- `time.Now()` for `CreatedAt`. -/
  createdClock : Time
  /-- `ecdsa.GenerateKey` returns a point on the curve and a scalar `D` in `[1, N)`. -/
  ecdsa_marshalable : ∀ c k, ecdsaGenerateKey c = .ok k → (PrivateKey.ecdsa (some k)).Marshalable
  /-- `rsa.GenerateKey` returns `D` and two or more primes, none of them nil or 1. -/
  rsa_marshalable : ∀ bits k, rsaGenerateKey bits = .ok k → (PrivateKey.rsa (some k)).Marshalable

/-- A random source that does not fail, at every curve and at every RSA size validation can
let through. -/
def Entropy.Reliable (E : Entropy) : Prop :=
  (∀ c, ∃ k, E.ecdsaGenerateKey c = .ok k) ∧
    (∀ bits, 2048 ≤ bits → ∃ k, E.rsaGenerateKey bits = .ok k) ∧
    ∃ b, E.readKeyIDBytes = .ok b

/-- The errors of `Generate`, one constructor per `fmt.Errorf` site but the one after
`MarshalECPrivateKey`, which a key from `ecdsa.GenerateKey` never reaches
(`Entropy.ecdsa_marshalable`). -/
inductive GenerateError
  /-- `"key generation validation failed: %w"`. -/
  | validationFailed (e : KeySpecError)
  /-- `"unsupported algorithm: %s"`. -/
  | unsupportedAlgorithm (algorithm : String)
  /-- `"EC key generation failed: %w"` around `parseCurve`'s error. -/
  | ecGenerationFailed (e : String)
  /-- `"ecdsa.GenerateKey failed: %w"`. -/
  | ecdsaGenerateKeyFailed (e : String)
  /-- `"invalid RSA keySize %q: %w"`. -/
  | invalidRSAKeySize (keySize : String) (e : NumError)
  /-- `"rsa.GenerateKey failed: %w"`. -/
  | rsaGenerateKeyFailed (e : String)
  /-- `"key ID generation failed: %w"`. -/
  | keyIDFailed (e : String)
  deriving DecidableEq

/-- A failure that comes from the random source, not from parsing. -/
def GenerateError.IsRandomSourceFailure : GenerateError → Prop
  | .ecdsaGenerateKeyFailed _ | .rsaGenerateKeyFailed _ | .keyIDFailed _ => True
  | _ => False

/-- `parseCurve(name)`. -/
def parseCurve (name : String) : Except String Curve :=
  if name = "P-256" then .ok .p256
  else if name = "P-384" then .ok .p384
  else if name = "P-521" then .ok .p521
  else .error ("unsupported curve: " ++ name)

/-- `hex.EncodeToString`: two lowercase hex digits per byte. -/
def hexEncode (bs : Bytes) : String :=
  String.mk (bs.flatMap fun b => [Nat.digitChar (b.toNat / 16), Nat.digitChar (b.toNat % 16)])

/-- `generateKeyID(alg, param)`: `{alg}-{param}-{YYYYMMDD}-{6hex}`. -/
def generateKeyID (E : Entropy) (alg param : String) : Except String String :=
  match E.readKeyIDBytes with
  | .error e => .error ("generating random bytes for key ID: " ++ e)
  | .ok (b₀, b₁, b₂) =>
    .ok (alg ++ "-" ++ param ++ "-" ++ E.keyIDClock.formatDate ++ "-" ++ hexEncode [b₀, b₁, b₂])

/-- `generateEC(opts)`; `x509.MarshalECPrivateKey` returns `lib.ecDER` on the generated key. -/
def generateEC (lib : CryptoLib) (E : Entropy) (opts : GenerateOptions) :
    Except GenerateError KeyPair := do
  let curveName := opts.params.get "curve"
  let curve ← (parseCurve curveName).mapError .ecGenerationFailed
  let privateKey ← (E.ecdsaGenerateKey curve).mapError .ecdsaGenerateKeyFailed
  let rawBytes := lib.ecDER privateKey
  let keyID ← (generateKeyID E "ec" curveName).mapError .keyIDFailed
  pure { keyID, privateKey := some (.ecdsa (some privateKey)),
         publicKey := some (.ecdsa privateKey.pub), algorithm := algorithmEC,
         createdAt := E.createdClock, rawPrivateBytes := rawBytes }

/-- `generateRSA(opts)`; `x509.MarshalPKCS1PrivateKey` returns `lib.pkcs1DER` on the generated
key. -/
def generateRSA (lib : CryptoLib) (E : Entropy) (opts : GenerateOptions) :
    Except GenerateError KeyPair := do
  let keySizeStr := opts.params.get "keySize"
  let keySize ← (atoi keySizeStr).mapError (.invalidRSAKeySize keySizeStr)
  let privateKey ← (E.rsaGenerateKey keySize).mapError .rsaGenerateKeyFailed
  let rawBytes := lib.pkcs1DER privateKey
  let keyID ← (generateKeyID E "rsa" keySizeStr).mapError .keyIDFailed
  pure { keyID, privateKey := some (.rsa (some privateKey)),
         publicKey := some (.rsa privateKey.pub), algorithm := algorithmRSA,
         createdAt := E.createdClock, rawPrivateBytes := rawBytes }

/-- `defaultGenerator.Generate(opts)`. -/
def generate (lib : CryptoLib) (E : Entropy) (opts : GenerateOptions) :
    Except GenerateError KeyPair :=
  match validateKeySpec opts.algorithm opts.params opts.allowLegacyKeySize with
  | .error e => .error (.validationFailed e)
  | .ok _ =>
    if opts.algorithm = algorithmEC then generateEC lib E opts
    else if opts.algorithm = algorithmRSA then generateRSA lib E opts
    else .error (.unsupportedAlgorithm opts.algorithm)

/-! ## Validation and generation agree -/

section Agreement

variable (lib : CryptoLib) (E : Entropy) (opts : GenerateOptions)

/-- A rejected spec is rejected before any randomness is drawn: the result does not depend on
the entropy. -/
theorem generate_eq_error_of_validate {e : KeySpecError}
    (h : validateKeySpec opts.algorithm opts.params opts.allowLegacyKeySize = .error e) :
    generate lib E opts = .error (.validationFailed e) := by
  simp [generate, h]

theorem parseCurve_ok_of_mem {name : String} (h : name ∈ validCurves) :
    ∃ c, parseCurve name = .ok c := by
  simp only [validCurves, List.mem_cons, List.mem_singleton, List.not_mem_nil, or_false] at h
  rcases h with rfl | rfl | rfl <;> exact ⟨_, rfl⟩

theorem mem_of_parseCurve_eq_ok {name : String} {c : Curve} (h : parseCurve name = .ok c) :
    name ∈ validCurves := by
  unfold parseCurve at h
  split_ifs at h <;> simp [validCurves, *]

theorem generateKeyID_ok_of_reliable {E : Entropy} (hE : E.Reliable) (alg param : String) :
    ∃ id, generateKeyID E alg param = .ok id := by
  obtain ⟨-, -, ⟨b₀, b₁, b₂⟩, hb⟩ := hE
  simp [generateKeyID, hb]

/-- On an EC spec validation accepts, `generateEC` can fail only in the random source. -/
theorem generateEC_cases {opts : GenerateOptions} (h : opts.params.get "curve" ∈ validCurves) :
    (∀ kp, generateEC lib E opts = .ok kp → kp.algorithm = algorithmEC) ∧
      (∀ e, generateEC lib E opts = .error e → e.IsRandomSourceFailure) ∧
      (E.Reliable → ∃ kp, generateEC lib E opts = .ok kp) := by
  obtain ⟨c, hc⟩ := parseCurve_ok_of_mem h
  rcases hk : E.ecdsaGenerateKey c with ek | k
  · refine ⟨?_, ?_, fun hE => absurd (hE.1 c) ?_⟩ <;>
      simp [generateEC, hc, hk, GenerateError.IsRandomSourceFailure]
  · rcases hid : generateKeyID E "ec" (opts.params.get "curve") with ei | id
    · refine ⟨?_, ?_, fun hE => absurd (generateKeyID_ok_of_reliable hE "ec" (opts.params.get "curve")) ?_⟩ <;>
        simp [generateEC, hc, hk, hid, GenerateError.IsRandomSourceFailure]
    · simp [generateEC, hc, hk, hid, eq_comm]

/-- On an RSA spec validation accepts, `generateRSA` can fail only in the random source. -/
theorem generateRSA_cases {opts : GenerateOptions}
    (h : RSASizeAdmissible opts.params opts.allowLegacyKeySize) :
    (∀ kp, generateRSA lib E opts = .ok kp → kp.algorithm = algorithmRSA) ∧
      (∀ e, generateRSA lib E opts = .error e → e.IsRandomSourceFailure) ∧
      (E.Reliable → ∃ kp, generateRSA lib E opts = .ok kp) := by
  obtain ⟨n, hn, hge⟩ : ∃ n, atoi (opts.params.get "keySize") = .ok n ∧ 2048 ≤ n := by
    rcases h with h | h | ⟨h, -⟩ <;> exact ⟨_, h, by decide⟩
  rcases hk : E.rsaGenerateKey n with ek | k
  · refine ⟨?_, ?_, fun hE => absurd (hE.2.1 n hge) ?_⟩ <;>
      simp [generateRSA, hn, hk, GenerateError.IsRandomSourceFailure]
  · rcases hid : generateKeyID E "rsa" (opts.params.get "keySize") with ei | id
    · refine ⟨?_, ?_, fun hE => absurd (generateKeyID_ok_of_reliable hE "rsa" (opts.params.get "keySize")) ?_⟩ <;>
        simp [generateRSA, hn, hk, hid, GenerateError.IsRandomSourceFailure]
    · simp [generateRSA, hn, hk, hid, eq_comm]

/-- `Generate` returns a key pair only for a spec validation accepts. -/
theorem validateKeySpec_ok_of_generate {kp : KeyPair} (h : generate lib E opts = .ok kp) :
    ∃ w, validateKeySpec opts.algorithm opts.params opts.allowLegacyKeySize = .ok w := by
  unfold generate at h
  split at h
  · cases h
  · exact ⟨_, ‹_›⟩

/-- Past validation, `Generate` is its algorithm switch. -/
theorem generate_eq_of_validate {w : List String}
    (h : validateKeySpec opts.algorithm opts.params opts.allowLegacyKeySize = .ok w) :
    generate lib E opts =
      if opts.algorithm = algorithmEC then generateEC lib E opts
      else if opts.algorithm = algorithmRSA then generateRSA lib E opts
      else .error (.unsupportedAlgorithm opts.algorithm) := by
  rw [generate, h]

/-- On a spec validation accepts, `Generate` never fails in `parseCurve`, `Atoi` or its
algorithm switch; whatever it returns carries the requested algorithm; and with a reliable
random source it returns a key pair. -/
theorem generate_ok_of_validate {w : List String}
    (h : validateKeySpec opts.algorithm opts.params opts.allowLegacyKeySize = .ok w) :
    (∀ kp, generate lib E opts = .ok kp → kp.algorithm = opts.algorithm) ∧
      (∀ e, generate lib E opts = .error e → e.IsRandomSourceFailure) ∧
      (E.Reliable → ∃ kp, generate lib E opts = .ok kp) := by
  rw [generate_eq_of_validate lib E opts h]
  obtain ⟨hadm, -⟩ := (validateKeySpec_eq_ok_iff _ _ _ _).1 h
  rcases hadm with ⟨hEC, hc⟩ | ⟨hRSA, hs⟩
  · obtain ⟨h₁, h₂, h₃⟩ := generateEC_cases lib E hc
    simp only [hEC, algorithmEC, if_true]
    exact ⟨h₁, h₂, h₃⟩
  · obtain ⟨h₁, h₂, h₃⟩ := generateRSA_cases lib E hs
    have hne : ("RSA" = algorithmEC) = False := by simp [algorithmEC]
    simp only [hRSA, hne, algorithmRSA, if_true, if_false]
    exact ⟨h₁, h₂, h₃⟩

end Agreement

/-! ## What a generated key pair holds -/

theorem generateKeyID_eq_ok {E : Entropy} {alg param id : String}
    (h : generateKeyID E alg param = .ok id) :
    ∃ b₀ b₁ b₂, id = alg ++ "-" ++ param ++ "-" ++ E.keyIDClock.formatDate ++ "-" ++
      hexEncode [b₀, b₁, b₂] := by
  unfold generateKeyID at h
  split at h
  · cases h
  · cases h
    exact ⟨_, _, _, rfl⟩

/-- A key pair `Generate` returns holds a non-nil private key `x509` encodes and its public half,
and its key ID is built from the curve name `parseCurve` accepted (EC) or the key size `Atoi`
read (RSA). -/
theorem generate_eq_ok {lib : CryptoLib} {E : Entropy} {opts : GenerateOptions} {kp : KeyPair}
    (h : generate lib E opts = .ok kp) :
    (∃ k c, kp.privateKey = some (.ecdsa (some k)) ∧ kp.publicKey = some (.ecdsa k.pub) ∧
        parseCurve (opts.params.get "curve") = .ok c ∧
        generateKeyID E "ec" (opts.params.get "curve") = .ok kp.keyID ∧
        (PrivateKey.ecdsa (some k)).Marshalable) ∨
      ∃ k n, kp.privateKey = some (.rsa (some k)) ∧ kp.publicKey = some (.rsa k.pub) ∧
        atoi (opts.params.get "keySize") = .ok n ∧
        generateKeyID E "rsa" (opts.params.get "keySize") = .ok kp.keyID ∧
        (PrivateKey.rsa (some k)).Marshalable := by
  unfold generate at h
  split at h
  · cases h
  split_ifs at h
  · simp only [generateEC, Except.bind_eq_ok, Except.mapError_eq_ok, Except.pure_eq_ok] at h
    obtain ⟨c, hc, k, hk, id, hid, h⟩ := h
    cases h
    exact .inl ⟨k, c, rfl, rfl, hc, hid, E.ecdsa_marshalable c k hk⟩
  · simp only [generateRSA, Except.bind_eq_ok, Except.mapError_eq_ok, Except.pure_eq_ok] at h
    obtain ⟨n, hn, k, hk, id, hid, h⟩ := h
    cases h
    exact .inr ⟨k, n, rfl, rfl, hn, hid, E.rsa_marshalable n k hk⟩

/-- Both keys of a generated pair are ones `x509` encodes, so `ComputeFingerprint` and `Render`
accept the pair. -/
theorem generate_marshalable {lib : CryptoLib} {E : Entropy} {opts : GenerateOptions} {kp : KeyPair}
    (h : generate lib E opts = .ok kp) :
    ∃ priv pub, kp.privateKey = some priv ∧ kp.publicKey = some pub ∧ priv.Marshalable ∧
      pub.Marshalable := by
  rcases generate_eq_ok h with ⟨k, -, hpriv, hpub, -, -, hm⟩ | ⟨k, -, hpriv, hpub, -, -, hm⟩
  · exact ⟨_, _, hpriv, hpub, hm, by obtain ⟨_, ⟨⟩, hcurve, -⟩ := hm; exact hcurve⟩
  · exact ⟨_, _, hpriv, hpub, hm, trivial⟩

/-! ## The key ID -/

theorem digitChar_ne_slash {d : Nat} (hd : d < 16) : Nat.digitChar d ≠ '/' :=
  (by decide : ∀ d : Fin 16, Nat.digitChar d ≠ '/') ⟨d, hd⟩

theorem slash_not_mem_hexEncode (bs : Bytes) : '/' ∉ (hexEncode bs).toList := by
  simp only [hexEncode, String.toList, List.mem_flatMap, List.mem_cons, List.mem_singleton,
    List.not_mem_nil, or_false, not_exists, not_and]
  intro b _ h
  have hb : b.toNat < 256 := b.toNat_lt_size
  rcases h with h | h <;> exact digitChar_ne_slash (by omega) h.symm

theorem slash_not_mem_formatDate (t : Time) : '/' ∉ t.formatDate.toList := fun h =>
  (Time.mem_formatDate h).elim (by decide) fun ⟨_, hd, h⟩ => digitChar_ne_slash (by omega) h.symm

/-- A key ID built from an algorithm name and a parameter without `/` has no `/`, and it is
longer than the algorithm name. -/
theorem generateKeyID_no_slash {E : Entropy} {alg param id : String} (halg : '/' ∉ alg.toList)
    (hparam : '/' ∉ param.toList) (h : generateKeyID E alg param = .ok id) :
    '/' ∉ id.toList ∧ alg.toList.length < id.toList.length := by
  obtain ⟨b₀, b₁, b₂, rfl⟩ := generateKeyID_eq_ok h
  simp only [String.toList, String.data_append, List.mem_append, not_or, List.length_append,
    List.length_singleton]
  exact ⟨⟨⟨⟨⟨⟨⟨halg, by decide⟩, hparam⟩, by decide⟩, slash_not_mem_formatDate _⟩, by decide⟩,
    slash_not_mem_hexEncode _⟩, by omega⟩

/-- The key ID of a generated pair has no `/` and is longer than `..`: it is `ec-` or `rsa-`, a
curve name `parseCurve` accepted or a key size `Atoi` accepted, the date and six hex digits. -/
theorem generate_keyID_safe {lib : CryptoLib} {E : Entropy} {opts : GenerateOptions}
    {kp : KeyPair} (h : generate lib E opts = .ok kp) :
    '/' ∉ kp.keyID.toList ∧ 2 < kp.keyID.toList.length := by
  rcases generate_eq_ok h with ⟨-, c, -, -, hc, hid, -⟩ | ⟨-, n, -, -, hn, hid, -⟩
  · have hparam : '/' ∉ (opts.params.get "curve").toList := by
      have := mem_of_parseCurve_eq_ok hc
      simp only [validCurves, List.mem_cons, List.mem_singleton, List.not_mem_nil, or_false] at this
      rcases this with h | h | h <;> rw [h] <;> decide
    exact generateKeyID_no_slash (by decide) hparam hid
  · have hparam : '/' ∉ (opts.params.get "keySize").toList := fun hc =>
      (atoi_eq_ok_mem hn hc).elim (absurd · (by decide)) (·.elim (absurd · (by decide))
        (absurd · (by decide)))
    obtain ⟨hslash, hlen⟩ := generateKeyID_no_slash (by decide) hparam hid
    exact ⟨hslash, Nat.lt_trans (by decide) hlen⟩

/-- `EnsureKey` defers `kp.Wipe()` on the pair `Generate` returned, and that call never panics:
the pair holds a non-nil key, so `Wipe` clears the pair, zeroes every byte of its raw buffer and
leaves the key it held with zero scalars. -/
theorem generate_then_wipe_zeroes (lib : CryptoLib) (E : Entropy) (opts : GenerateOptions)
    (kp : KeyPair) (h : generate lib E opts = .ok kp) :
    ∃ w, wipe (some kp) = .ok w ∧
      w.keyPair = some { kp with rawPrivateBytes := [], privateKey := none, publicKey := none } ∧
      w.buffer = List.replicate kp.rawPrivateBytes.length 0 ∧
      ∃ k, w.privateKey = some k ∧ k.Zeroed := by
  have hne : kp.privateKey ≠ none ∧ kp.privateKey ≠ some (.rsa none) := by
    rcases generate_eq_ok h with ⟨k, -, hk, -⟩ | ⟨k, -, hk, -⟩ <;> simp [hk]
  rcases hw : wipePrivateKey kp.privateKey with e | k
  · exact absurd (wipePrivateKey_eq_error.1 hw) hne.2
  obtain ⟨hz, hnone⟩ := wipePrivateKey_zeroed hw
  obtain ⟨k, rfl⟩ := Option.ne_none_iff_exists'.1 (mt hnone.1 hne.1)
  exact ⟨_, by rw [wipe_some, hw]; rfl, rfl, zeroBytes_eq_replicate _, k, rfl, hz k rfl⟩

/-- A random source that always answers: on each curve the scalar 1 and the base point, the
RSA key `n = 55 = 5 · 11`, `e = 3`, `d = 27`, the key-ID bytes `0a abff`, and both clocks at
2025-11-07T16:00:00Z. -/
def fixedEntropy : Entropy where
  ecdsaGenerateKey c := .ok ⟨c.basePoint, some 1⟩
  rsaGenerateKey _ := .ok ⟨⟨55, 3⟩, some 27, [some 5, some 11]⟩
  readKeyIDBytes := .ok (10, 171, 255)
  keyIDClock := ⟨63898128000000000000⟩
  createdClock := ⟨63898128000000000000⟩
  ecdsa_marshalable c _ h := by
    cases h
    exact ⟨_, rfl, basePoint_isOnCurve c, 1, rfl, by cases c <;> decide⟩
  rsa_marshalable _ _ h := by
    cases h
    exact ⟨_, rfl, by decide⟩

/-- The P-256 pair `Generate` draws from `fixedEntropy` wipes without a panic, to a buffer of
zeros. -/
theorem fixedEntropy_pair_wipes :
    ∃ kp, generate CryptoLib.empty fixedEntropy ⟨"EC", GoMap.ofList [("curve", "P-256")], false⟩ =
        .ok kp ∧
      ∃ w, wipe (some kp) = .ok w ∧ w.buffer = List.replicate kp.rawPrivateBytes.length 0 := by
  obtain ⟨kp, hgen⟩ : ∃ kp, generate CryptoLib.empty fixedEntropy
      ⟨"EC", GoMap.ofList [("curve", "P-256")], false⟩ = .ok kp := ⟨_, rfl⟩
  obtain ⟨w, hw, -, hbuf, -⟩ := generate_then_wipe_zeroes _ _ _ kp hgen
  exact ⟨kp, hgen, w, hw, hbuf⟩

end Crypto
end OpenUKR
