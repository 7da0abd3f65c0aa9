import OpenUKR.Publish.Targets

/-!
# The Secret, the published key and the fingerprint describe one key

`EnsureKey` reports `ComputeFingerprint(kp.PublicKey)`: `"SHA256:"` and the unpadded base64url
SHA-256 of the PKIX DER of the public key. Whoever reads the key back gets that same DER out of
`pem.Decode`. This holds of every pair whose two keys `x509` encodes, which every pair `Generate`
returns is (`generate_marshalable`); on any other pair `Render` fails, and so does
`ComputeFingerprint` when it is the public key that `x509` refuses. In the Secret, the split
layout holds one block per entry, and the single layout holds the private block followed by the
public one. Of the publishers, the file-system one writes only the public block and the HTTP one
sends only the public block, whatever redirects the server answers with.

This rests on the PEM round trip (`Pem.decode_encodeToMemory_append`), on the layout of `Render`
(`render_of_keys`), and on what each publisher does to the world (`filesystemPublish_effects`,
`httpPublish_sends`).
-/

namespace OpenUKR
namespace Publish

open Api Crypto Output

section SameKey

variable (lib : CryptoLib) {kp : KeyPair} {priv : PrivateKey} {pub : PublicKey}

theorem computeFingerprint_publicBlock (hpub : kp.publicKey = some pub) (hpubM : pub.Marshalable) :
    computeFingerprint lib kp.publicKey = .ok (lib.fingerprintOfDER (publicBlock lib pub).bytes) := by
  rw [hpub]
  exact computeFingerprint_of_marshalable lib hpubM

/-- In the split layout every entry is exactly one block: the private key in `tls.key`, the
public key in `tls.crt` and `public.pem`. -/
theorem render_splitPEM_decodes (keystore : Keystore) (hpriv : kp.privateKey = some priv)
    (hpub : kp.publicKey = some pub) (hprivM : priv.Marshalable) (hpubM : pub.Marshalable)
    (password «alias» : String) :
    ∃ tlsKey tlsCrt publicPem,
      render lib keystore kp ⟨formatSplitPEM, password, «alias»⟩ =
        .ok (GoMap.ofList [("tls.key", tlsKey), ("tls.crt", tlsCrt), ("public.pem", publicPem)]) ∧
      Pem.decode tlsKey = (some (privateBlock lib priv), []) ∧
      Pem.decode tlsCrt = (some (publicBlock lib pub), []) ∧
      Pem.decode publicPem = (some (publicBlock lib pub), []) :=
  ⟨_, _, _, by simp [render_of_keys lib keystore hpriv hpub hprivM hpubM], decode_privatePEM lib priv,
    decode_publicPEM lib pub, decode_publicPEM lib pub⟩

/-- In the single layout `keypair.pem` is the private block, then the public block, then
nothing. -/
theorem render_singlePEM_decodes (keystore : Keystore) (hpriv : kp.privateKey = some priv)
    (hpub : kp.publicKey = some pub) (hprivM : priv.Marshalable) (hpubM : pub.Marshalable)
    (password «alias» : String) :
    ∃ keypairPem publicPart,
      render lib keystore kp ⟨formatSinglePEM, password, «alias»⟩ =
        .ok (GoMap.ofList [("keypair.pem", keypairPem)]) ∧
      Pem.decode keypairPem = (some (privateBlock lib priv), publicPart) ∧
      Pem.decode publicPart = (some (publicBlock lib pub), []) :=
  ⟨_, _, by simp [render_of_keys lib keystore hpriv hpub hprivM hpubM, formatSinglePEM, formatSplitPEM],
    decode_privatePEM_append lib priv _, decode_publicPEM lib pub⟩

/-- Every file the file-system publisher writes is exactly the public block, and a publish that
returns nil wrote it to `<KeyID>.pub.tmp` and renamed that to `<KeyID>.pub`. -/
theorem filesystemPublish_writes_publicBlock (env : Env) (hpub : kp.publicKey = some pub)
    (hpubM : pub.Marshalable) (target : PublishTarget) (log : List Effect) :
    let file := Filepath.join (Filepath.clean (target.config.get "path")) (kp.keyID ++ ".pub")
    ∃ new, (filesystemPublish lib env target kp log).2 = log ++ new ∧
      (∀ name data perm, Effect.writeFile name data perm ∈ new →
        Pem.decode data = (some (publicBlock lib pub), [])) ∧
      ((filesystemPublish lib env target kp log).1 = .ok () →
        ∃ data, .writeFile (file ++ ".tmp") data 0o600 ∈ new ∧ .rename (file ++ ".tmp") file ∈ new) := by
  intro file
  have hpem : encodePublic lib kp.publicKey = .ok _ := hpub ▸ encodePublic_of_marshalable lib hpubM
  obtain ⟨new, hlog, hpre⟩ := filesystemPublish_effects lib env target kp log hpem
  refine ⟨new, hlog, fun name data perm hw => ?_, fun hok => ?_⟩
  · have hdata := hpre.subset hw
    simp only [List.mem_cons, Effect.writeFile.injEq, List.mem_singleton, List.not_mem_nil,
      reduceCtorEq, false_and, false_or, or_false] at hdata
    rw [hdata.2.1]
    exact decode_publicPEM lib pub
  · obtain ⟨pem, -, hwrote⟩ := filesystemPublish_ok_wrote_key lib env target kp log hok
    rw [hlog] at hwrote
    rw [List.append_cancel_left hwrote]
    exact ⟨pem, by simp, by simp⟩

/-- Every request the HTTP publisher sends with a body, and every `POST` it sends, carries
exactly the public block. -/
theorem httpPublish_sends_publicBlock (U : Http.URLLib) (env : Env)
    (hpub : kp.publicKey = some pub) (hpubM : pub.Marshalable) (target : PublishTarget)
    (log : List Effect) :
    ∃ new, (httpPublish lib U env target kp log).2 = log ++ new ∧
      ∀ tls req, Effect.send tls req ∈ new → req.method = "POST" ∨ req.body ≠ [] →
        Pem.decode req.body = (some (publicBlock lib pub), []) := by
  obtain ⟨new, hlog, hsends⟩ := httpPublish_sends lib U env target kp log
    (hpub ▸ encodePublic_of_marshalable lib hpubM)
  refine ⟨new, hlog, fun tls req hs hpost => ?_⟩
  rcases hsends tls req hs with hbody | ⟨hbody, hmethod⟩
  · rw [hbody]
    exact decode_publicPEM lib pub
  · refine absurd hpost (not_or.2 ⟨?_, not_not.2 hbody⟩)
    rcases hmethod with h | h <;> rw [h] <;> decide

end SameKey

/-- For every key pair holding a private and a public key that `x509` encodes (an EC key on its
curve, an RSA key), the fingerprint `ComputeFingerprint` gives is that of the DER in the public
block. The split layout decodes to one block per entry, and the single layout to the private
block, then the public block, then nothing. The file-system publisher writes, and the HTTP
publisher sends in every `POST` and every request with a body, exactly the public block; a
file-system publish that returns nil wrote it to `<KeyID>.pub.tmp` and renamed that file to
`<KeyID>.pub`. -/
theorem render_and_publish_carry_fingerprinted_key (lib : CryptoLib) (keystore : Keystore)
    (U : Http.URLLib) (env : Env) (kp : KeyPair) (priv : PrivateKey) (pub : PublicKey)
    (hpriv : kp.privateKey = some priv) (hpub : kp.publicKey = some pub)
    (hprivM : priv.Marshalable) (hpubM : pub.Marshalable) :
    computeFingerprint lib kp.publicKey = .ok (lib.fingerprintOfDER (publicBlock lib pub).bytes) ∧
    (∀ password «alias», ∃ tlsKey tlsCrt publicPem,
      render lib keystore kp ⟨formatSplitPEM, password, «alias»⟩ =
        .ok (GoMap.ofList [("tls.key", tlsKey), ("tls.crt", tlsCrt), ("public.pem", publicPem)]) ∧
      Pem.decode tlsKey = (some (privateBlock lib priv), []) ∧
      Pem.decode tlsCrt = (some (publicBlock lib pub), []) ∧
      Pem.decode publicPem = (some (publicBlock lib pub), [])) ∧
    (∀ password «alias», ∃ keypairPem publicPart,
      render lib keystore kp ⟨formatSinglePEM, password, «alias»⟩ =
        .ok (GoMap.ofList [("keypair.pem", keypairPem)]) ∧
      Pem.decode keypairPem = (some (privateBlock lib priv), publicPart) ∧
      Pem.decode publicPart = (some (publicBlock lib pub), [])) ∧
    (∀ target log,
      let file := Filepath.join (Filepath.clean (target.config.get "path")) (kp.keyID ++ ".pub")
      ∃ new, (filesystemPublish lib env target kp log).2 = log ++ new ∧
        (∀ name data perm, Effect.writeFile name data perm ∈ new →
          Pem.decode data = (some (publicBlock lib pub), [])) ∧
        ((filesystemPublish lib env target kp log).1 = .ok () →
          ∃ data, .writeFile (file ++ ".tmp") data 0o600 ∈ new ∧ .rename (file ++ ".tmp") file ∈ new)) ∧
    (∀ target log, ∃ new, (httpPublish lib U env target kp log).2 = log ++ new ∧
      ∀ tls req, Effect.send tls req ∈ new → req.method = "POST" ∨ req.body ≠ [] →
        Pem.decode req.body = (some (publicBlock lib pub), [])) :=
  ⟨computeFingerprint_publicBlock lib hpub hpubM,
    render_splitPEM_decodes lib keystore hpriv hpub hprivM hpubM,
    render_singlePEM_decodes lib keystore hpriv hpub hprivM hpubM,
    filesystemPublish_writes_publicBlock lib env hpub hpubM,
    httpPublish_sends_publicBlock lib U env hpub hpubM⟩

/-- The P-256 key pair with scalar 1, whose public key is the base point: its single-PEM bundle is
its private block, then its public block, then nothing. -/
theorem keyPairWithScalar_singlePEM_decodes :
    (keyPairWithScalar 1).privateKey = some (.ecdsa (some ⟨Curve.p256.basePoint, some 1⟩)) ∧
      (keyPairWithScalar 1).publicKey = some (.ecdsa Curve.p256.basePoint) ∧
      (PrivateKey.ecdsa (some ⟨Curve.p256.basePoint, some 1⟩)).Marshalable ∧
      (PublicKey.ecdsa Curve.p256.basePoint).Marshalable ∧
      ∃ keypairPem publicPart,
        render CryptoLib.empty (fun _ _ => .error "no keystore") (keyPairWithScalar 1)
            ⟨formatSinglePEM, "", "openukr"⟩ = .ok (GoMap.ofList [("keypair.pem", keypairPem)]) ∧
        Pem.decode keypairPem =
          (some (privateBlock CryptoLib.empty (.ecdsa (some ⟨Curve.p256.basePoint, some 1⟩))),
            publicPart) ∧
        Pem.decode publicPart = (some (publicBlock CryptoLib.empty (.ecdsa Curve.p256.basePoint)), []) :=
  have hprivM : (PrivateKey.ecdsa (some ⟨Curve.p256.basePoint, some 1⟩)).Marshalable := by decide
  have hpubM : (PublicKey.ecdsa Curve.p256.basePoint).Marshalable := by decide
  ⟨rfl, rfl, hprivM, hpubM, (render_and_publish_carry_fingerprinted_key CryptoLib.empty
    (fun _ _ => .error "no keystore") ⟨.ok, fun _ loc => .ok loc, fun _ _ => none⟩
    (fun _ _ => .ok ⟨200, "200 OK", ""⟩) (keyPairWithScalar 1) _ _ rfl rfl hprivM hpubM).2.2.1 "" "openukr"⟩

end Publish
end OpenUKR
