import OpenUKR.Crypto.Pem
import OpenUKR.Api.Types

/-!
# `output.defaultRenderer.Render` — the Secret's data

`Render` encodes the private key as a PKCS #8 `PRIVATE KEY` block and the public key as a PKIX
`PUBLIC KEY` block, then lays them out by format. `jks` first requires a password; what it does
with one (a self-signed certificate around the key, signed with fresh randomness, and a
keystore from `keystore-go`) is the parameter `keystore`. The `Write` path never sets a
password, so `jks` always fails there.

The encoders fail where `x509` does: on an EC point off its curve, and, for the private key, by a
panic on a nil pointer or a scalar `x509` cannot lay out, which `Render` passes on unwrapped. So
`Render` returns exactly for a pair whose two keys are `Marshalable` (`marshalable_of_render`).
-/

namespace OpenUKR
namespace Output

open Crypto

/-- `FormatSplitPEM`. -/
def formatSplitPEM : String := "split-pem"

/-- `FormatSinglePEM`. -/
def formatSinglePEM : String := "single-pem"

/-- `FormatJKS`. -/
def formatJKS : String := "jks"

/-- `RenderOptions`. -/
structure RenderOptions where
  format : String
  password : String
  «alias» : String
  deriving DecidableEq

/-- The steps of `renderJKS` after the password check. -/
abbrev Keystore := KeyPair → RenderOptions → Except String (GoMap Bytes)

/-- `pemEncoder.EncodePrivate`. A nil interface is a type `MarshalPKCS8PrivateKey` does not know,
and an EC point off its curve an error it returns; its panic on a typed-nil key goes on
unwinding. -/
def encodePrivate (lib : CryptoLib) : Option PrivateKey → Except (Fault String) Bytes
  | none => .error (.error "marshal private key to PKCS8: x509: unknown key type while marshaling PKCS#8: <nil>")
  | some k => do
    let derBytes ← (marshalPKCS8PrivateKey lib k).mapError (·.map ("marshal private key to PKCS8: " ++ ·))
    pure (Pem.encodeToMemory ⟨"PRIVATE KEY", derBytes⟩)

/-- `pemEncoder.EncodePublic`: it errs on a nil key and on an EC point off its curve. -/
def encodePublic (lib : CryptoLib) : Option PublicKey → Except String Bytes
  | none => .error "marshal public key to PKIX: x509: unsupported public key type: <nil>"
  | some k => do
    let derBytes ← (marshalPKIXPublicKey lib k).mapError ("marshal public key to PKIX: " ++ ·)
    pure (Pem.encodeToMemory ⟨"PUBLIC KEY", derBytes⟩)

/-- `renderJKS(kp, opts)`. -/
def renderJKS (keystore : Keystore) (kp : KeyPair) (opts : RenderOptions) :
    Except String (GoMap Bytes) :=
  if opts.password = "" then .error "password is required for JKS format" else keystore kp opts

/-- `defaultRenderer.Render(kp, opts)`. -/
def render (lib : CryptoLib) (keystore : Keystore) (kp : KeyPair) (opts : RenderOptions) :
    Except (Fault String) (GoMap Bytes) := do
  let privPEM ← (encodePrivate lib kp.privateKey).mapError (·.map ("failed to encode private key: " ++ ·))
  let pubPEM ← (encodePublic lib kp.publicKey).mapError (.error <| "failed to encode public key: " ++ ·)
  if opts.format = formatSplitPEM then
    pure (GoMap.ofList [("tls.key", privPEM), ("tls.crt", pubPEM), ("public.pem", pubPEM)])
  else if opts.format = formatSinglePEM then
    pure (GoMap.ofList [("keypair.pem", privPEM ++ pubPEM)])
  else if opts.format = formatJKS then
    (renderJKS keystore kp opts).mapError .error
  else .error (.error ("unsupported output format: " ++ opts.format))

theorem encodePrivate_eq_ok {lib : CryptoLib} {k : Option PrivateKey} {b : Bytes} :
    encodePrivate lib k = .ok b ↔
      ∃ key, k = some key ∧ key.Marshalable ∧
        b = Pem.encodeToMemory ⟨"PRIVATE KEY", lib.pkcs8DER key⟩ := by
  rcases k with _ | key
  · simp [encodePrivate]
  simp only [encodePrivate, Except.bind_eq_ok, Except.mapError_eq_ok, marshalPKCS8PrivateKey_eq_ok,
    Except.pure_eq_ok, Except.ok.injEq, Option.some.injEq, exists_eq_left']
  constructor
  · rintro ⟨_, ⟨hm, rfl⟩, rfl⟩
    exact ⟨hm, rfl⟩
  · rintro ⟨hm, rfl⟩
    exact ⟨_, ⟨hm, rfl⟩, rfl⟩

theorem encodePublic_eq_ok {lib : CryptoLib} {k : Option PublicKey} {b : Bytes} :
    encodePublic lib k = .ok b ↔
      ∃ key, k = some key ∧ key.Marshalable ∧
        b = Pem.encodeToMemory ⟨"PUBLIC KEY", lib.pkixDER key⟩ := by
  rcases k with _ | key
  · simp [encodePublic]
  simp only [encodePublic, Except.bind_eq_ok, Except.mapError_eq_ok, marshalPKIXPublicKey_eq_ok,
    Except.pure_eq_ok, Except.ok.injEq, Option.some.injEq, exists_eq_left']
  constructor
  · rintro ⟨_, ⟨hm, rfl⟩, rfl⟩
    exact ⟨hm, rfl⟩
  · rintro ⟨hm, rfl⟩
    exact ⟨_, ⟨hm, rfl⟩, rfl⟩

theorem encodePrivate_of_marshalable (lib : CryptoLib) {priv : PrivateKey} (h : priv.Marshalable) :
    encodePrivate lib (some priv) = .ok (Pem.encodeToMemory ⟨"PRIVATE KEY", lib.pkcs8DER priv⟩) :=
  encodePrivate_eq_ok.2 ⟨priv, rfl, h, rfl⟩

theorem encodePublic_of_marshalable (lib : CryptoLib) {pub : PublicKey} (h : pub.Marshalable) :
    encodePublic lib (some pub) = .ok (Pem.encodeToMemory ⟨"PUBLIC KEY", lib.pkixDER pub⟩) :=
  encodePublic_eq_ok.2 ⟨pub, rfl, h, rfl⟩

/-- `Render` returns only for a pair whose two keys `x509` encodes. -/
theorem marshalable_of_render {lib : CryptoLib} {keystore : Keystore} {kp : KeyPair}
    {opts : RenderOptions} {data : GoMap Bytes} (h : render lib keystore kp opts = .ok data) :
    ∃ priv pub, kp.privateKey = some priv ∧ kp.publicKey = some pub ∧ priv.Marshalable ∧
      pub.Marshalable := by
  simp only [render, Except.bind_eq_ok, Except.mapError_eq_ok] at h
  obtain ⟨_, hpriv, _, hpub, -⟩ := h
  obtain ⟨priv, hk, hprivM, -⟩ := encodePrivate_eq_ok.1 hpriv
  obtain ⟨pub, hp, hpubM, -⟩ := encodePublic_eq_ok.1 hpub
  exact ⟨priv, pub, hk, hp, hprivM, hpubM⟩

/-! ## What the PEM formats decode to -/

/-- The `PRIVATE KEY` block of a private key, as `pem.Decode` returns it. -/
def privateBlock (lib : CryptoLib) (priv : PrivateKey) : Pem.Decoded :=
  ⟨"PRIVATE KEY", ∅, lib.pkcs8DER priv⟩

/-- The `PUBLIC KEY` block of a public key, as `pem.Decode` returns it. -/
def publicBlock (lib : CryptoLib) (pub : PublicKey) : Pem.Decoded :=
  ⟨"PUBLIC KEY", ∅, lib.pkixDER pub⟩

theorem decode_privatePEM_append (lib : CryptoLib) (priv : PrivateKey) (more : Bytes) :
    Pem.decode (Pem.encodeToMemory ⟨"PRIVATE KEY", lib.pkcs8DER priv⟩ ++ more) =
      (some (privateBlock lib priv), more) :=
  Pem.decode_encodeToMemory_append _ more (show 10 ∉ Pem.ascii "PRIVATE KEY" by decide)
    (show 58 ∉ Pem.ascii "PRIVATE KEY" by decide)

theorem decode_publicPEM_append (lib : CryptoLib) (pub : PublicKey) (more : Bytes) :
    Pem.decode (Pem.encodeToMemory ⟨"PUBLIC KEY", lib.pkixDER pub⟩ ++ more) =
      (some (publicBlock lib pub), more) :=
  Pem.decode_encodeToMemory_append _ more (show 10 ∉ Pem.ascii "PUBLIC KEY" by decide)
    (show 58 ∉ Pem.ascii "PUBLIC KEY" by decide)

theorem decode_privatePEM (lib : CryptoLib) (priv : PrivateKey) :
    Pem.decode (Pem.encodeToMemory ⟨"PRIVATE KEY", lib.pkcs8DER priv⟩) =
      (some (privateBlock lib priv), []) := by
  simpa using decode_privatePEM_append lib priv []

theorem decode_publicPEM (lib : CryptoLib) (pub : PublicKey) :
    Pem.decode (Pem.encodeToMemory ⟨"PUBLIC KEY", lib.pkixDER pub⟩) =
      (some (publicBlock lib pub), []) := by
  simpa using decode_publicPEM_append lib pub []

/-- `Render` of a key pair that holds two keys `x509` encodes: the layout of the two PEM blocks by
format. -/
theorem render_of_keys (lib : CryptoLib) (keystore : Keystore) {kp : KeyPair} {priv : PrivateKey}
    {pub : PublicKey} (hpriv : kp.privateKey = some priv) (hpub : kp.publicKey = some pub)
    (hprivM : priv.Marshalable) (hpubM : pub.Marshalable) (opts : RenderOptions) :
    render lib keystore kp opts =
      let privPEM := Pem.encodeToMemory ⟨"PRIVATE KEY", lib.pkcs8DER priv⟩
      let pubPEM := Pem.encodeToMemory ⟨"PUBLIC KEY", lib.pkixDER pub⟩
      if opts.format = formatSplitPEM then
        .ok (GoMap.ofList [("tls.key", privPEM), ("tls.crt", pubPEM), ("public.pem", pubPEM)])
      else if opts.format = formatSinglePEM then .ok (GoMap.ofList [("keypair.pem", privPEM ++ pubPEM)])
      else if opts.format = formatJKS then (renderJKS keystore kp opts).mapError .error
      else .error (.error ("unsupported output format: " ++ opts.format)) := by
  simp only [render, hpriv, hpub, encodePrivate_of_marshalable lib hprivM,
    encodePublic_of_marshalable lib hpubM]
  rfl

/-- A format `Render` lays out without a password: only the two PEM layouts. `jks` needs a
password and every other value is unsupported, so `Render` refuses the rest when none is
given. -/
def Unrendered (format : String) : Prop := format ≠ formatSplitPEM ∧ format ≠ formatSinglePEM

instance : DecidablePred Unrendered := fun _ => inferInstanceAs (Decidable (_ ∧ _))

/-- A JKS render with an empty password fails, whatever the keystore would do. -/
theorem render_jks_without_password (lib : CryptoLib) (keystore : Keystore) (kp : KeyPair)
    (opts : RenderOptions) (hjks : opts.format = formatJKS) (hpw : opts.password = "") :
    ∃ e, render lib keystore kp opts = .error e := by
  rcases hpriv : encodePrivate lib kp.privateKey with e | priv <;>
  rcases hpub : encodePublic lib kp.publicKey with e' | pub <;>
  simp [render, hpriv, hpub, hjks, formatJKS, formatSplitPEM, formatSinglePEM, renderJKS, hpw]

/-- Without a password, `Render` refuses every format but the two PEM layouts, whatever the key
pair and the keystore: `jks` for the missing password, every other format as unsupported. -/
theorem render_error_of_unrendered (lib : CryptoLib) (keystore : Keystore) (kp : KeyPair)
    (opts : RenderOptions) (hf : Unrendered opts.format) (hpw : opts.password = "") :
    ∃ e, render lib keystore kp opts = .error e := by
  by_cases hjks : opts.format = formatJKS
  · exact render_jks_without_password lib keystore kp opts hjks hpw
  obtain ⟨hsplit, hsingle⟩ := hf
  rcases hpriv : encodePrivate lib kp.privateKey with e | priv <;>
  rcases hpub : encodePublic lib kp.publicKey with e' | pub <;>
  simp only [render, hpriv, hpub, Except.mapError, bind, Except.bind, hsplit, hsingle, hjks,
    if_false] <;> exact ⟨_, rfl⟩

end Output
end OpenUKR
