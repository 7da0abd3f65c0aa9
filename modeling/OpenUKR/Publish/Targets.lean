import OpenUKR.Publish.Manager
import OpenUKR.Output.Renderer
import OpenUKR.Go.Path
import OpenUKR.Go.Effects
import OpenUKR.Crypto.Generator

/-!
# The publishers — `FilesystemPublisher` and `HTTPPublisher`

Both publishers act on the world of `Go/Effects.lean`: the state threaded through
`PublishAll` is the log of effects, and the environment answers each one. The file-system
publisher cleans and checks its path, creates the directory, writes `<KeyID>.pub.tmp` and
renames it into place. The HTTP publisher checks the scheme, then POSTs the PEM through
`http.Client.Do`, whose redirects it does not control. It checks only the last status, yet a nil
result still means the PEM was POSTed to the checked endpoint and that POST was answered below
400, since the client follows only redirects (`httpPublish_ok_posted_key`).

`NewManager` registers the two. Each reads of the key pair only the key ID and the public key,
so `PublishAll` cannot tell apart two key pairs that agree on those: every file, every request
and the result are the same (`publishAll_reveals_only_public_key`).
-/

namespace OpenUKR
namespace Publish

open Api Crypto Output

/-- `FilesystemPublisher.Publish(ctx, target, kp)`. -/
def filesystemPublish (lib : CryptoLib) (env : Env) : Publisher (List Effect) String :=
  fun target kp log =>
    let path := target.config.get "path"
    if path = "" then (.error "missing 'path' in config", log)
    else
      let cleanPath := Filepath.clean path
      if !Filepath.isAbs cleanPath then
        (.error ("publish path must be absolute, got: " ++ path), log)
      else if Strings.contains cleanPath ".." then
        (.error ("publish path must not contain '..': " ++ path), log)
      else
        match perform env (.mkdirAll cleanPath 0o750) log with
        | (.error e, log) => (.error ("failed to ensure directory " ++ cleanPath ++ ": " ++ e), log)
        | (.ok _, log) =>
          match encodePublic lib kp.publicKey with
          | .error e => (.error ("failed to encode public key: " ++ e), log)
          | .ok pubPEM =>
            let filename := Filepath.join cleanPath (kp.keyID ++ ".pub")
            let tmpFile := filename ++ ".tmp"
            match perform env (.writeFile tmpFile pubPEM 0o600) log with
            | (.error e, log) => (.error ("failed to write temp file " ++ tmpFile ++ ": " ++ e), log)
            | (.ok _, log) =>
              match perform env (.rename tmpFile filename) log with
              | (.error e, log) =>
                (.error ("failed to rename " ++ tmpFile ++ " → " ++ filename ++ ": " ++ e),
                  (perform env (.remove tmpFile) log).2)
              | (.ok _, log) => (.ok (), log)

/-- `HTTPPublisher.Publish(ctx, target, kp)`. `Header.Set` stores `X-Key-ID` under its
canonical form `X-Key-Id`. -/
def httpPublish (lib : CryptoLib) (U : Http.URLLib) (env : Env) : Publisher (List Effect) String :=
  fun target kp log =>
    let endpoint := target.config.get "endpoint"
    if endpoint = "" then (.error "missing 'endpoint' in config", log)
    else
      let isInsecure := (target.tls.map (·.insecureSkipVerify)).getD false
      if !Strings.hasPrefix endpoint "https://" && !isInsecure then
        (.error ("endpoint must use HTTPS (got " ++ endpoint.quote ++
          "); set insecureSkipVerify to allow HTTP"), log)
      else
        match encodePublic lib kp.publicKey with
        | .error e => (.error ("failed to encode public key: " ++ e), log)
        | .ok pubPEM =>
          match U.parse endpoint with
          | .error e => (.error ("failed to create request: " ++ e), log)
          | .ok url =>
            let req : Http.Request :=
              ⟨"POST", url, [("Content-Type", "application/x-pem-file"), ("X-Key-Id", kp.keyID)],
                pubPEM⟩
            match Http.do U env (target.tls.map (·.insecureSkipVerify)) req log with
            | (.error e, log) => (.error ("request to " ++ endpoint ++ " failed: " ++ e), log)
            | (.ok resp, log) =>
              if 400 ≤ resp.status then (.error ("server returned error: " ++ resp.statusText), log)
              else (.ok (), log)

/-- `NewManager(k8sClient)`. -/
def newManager (lib : CryptoLib) (U : Http.URLLib) (env : Env) : Manager (List Effect) String :=
  ⟨GoMap.ofList [("filesystem", filesystemPublish lib env), ("http", httpPublish lib U env)]⟩

/-! ## What reaches a target -/

/-- What the file-system publisher does to the world, on a key pair whose public key encodes to
`pem`: a prefix of creating the directory, writing `pem` to `<KeyID>.pub.tmp`, renaming it into
place and removing the temporary file. -/
theorem filesystemPublish_effects (lib : CryptoLib) (env : Env) (target : PublishTarget)
    (kp : KeyPair) (log : List Effect) {pem : Bytes} (hpem : encodePublic lib kp.publicKey = .ok pem) :
    ∃ new, (filesystemPublish lib env target kp log).2 = log ++ new ∧
      new <+: [.mkdirAll (Filepath.clean (target.config.get "path")) 0o750,
        .writeFile (Filepath.join (Filepath.clean (target.config.get "path")) (kp.keyID ++ ".pub") ++
          ".tmp") pem 0o600,
        .rename (Filepath.join (Filepath.clean (target.config.get "path")) (kp.keyID ++ ".pub") ++
          ".tmp") (Filepath.join (Filepath.clean (target.config.get "path")) (kp.keyID ++ ".pub")),
        .remove (Filepath.join (Filepath.clean (target.config.get "path")) (kp.keyID ++ ".pub") ++
          ".tmp")] := by
  simp only [filesystemPublish, perform, hpem]
  split_ifs
  iterate 3 exact ⟨[], by simp, List.nil_prefix⟩
  split <;> obtain ⟨-, rfl⟩ := Prod.mk.inj ‹_›
  · exact ⟨_, rfl, by simp⟩
  split <;> obtain ⟨-, rfl⟩ := Prod.mk.inj ‹_›
  · exact ⟨_, List.append_assoc _ _ _, by simp⟩
  split <;> obtain ⟨-, rfl⟩ := Prod.mk.inj ‹_›
  all_goals exact ⟨_, by simp only [List.append_assoc]; rfl, by simp⟩

/-- Every request the HTTP publisher sends, along any chain of redirects, carries the public key's
PEM, or no body and the method `GET` or `HEAD`. -/
theorem httpPublish_sends (lib : CryptoLib) (U : Http.URLLib) (env : Env) (target : PublishTarget)
    (kp : KeyPair) (log : List Effect) {pem : Bytes} (hpem : encodePublic lib kp.publicKey = .ok pem) :
    ∃ new, (httpPublish lib U env target kp log).2 = log ++ new ∧
      ∀ t r, Effect.send t r ∈ new → Http.CarriesBody pem r := by
  simp only [httpPublish, hpem]
  split_ifs
  iterate 2 exact ⟨[], by simp, by simp⟩
  split
  · exact ⟨[], by simp, by simp⟩
  rename_i url _
  obtain ⟨new, hnew, hsends⟩ := Http.clientDo_sends U env (target.tls.map (·.insecureSkipVerify))
    ⟨"POST", url, [("Content-Type", "application/x-pem-file"), ("X-Key-Id", kp.keyID)], pem⟩ 9 _ log
    (.inl rfl)
  refine ⟨new, ?_, hsends⟩
  rw [← hnew, Http.do]
  split <;> rename_i heq <;> rw [heq]
  split_ifs <;> rfl

/-! ## Only the public part reaches a target -/

theorem filesystemPublish_readsPublicPart (lib : CryptoLib) (env : Env) :
    (filesystemPublish lib env).ReadsPublicPart := by
  intro target kp₁ kp₂ log hid hpub
  simp only [filesystemPublish, hid, hpub]

theorem httpPublish_readsPublicPart (lib : CryptoLib) (U : Http.URLLib) (env : Env) :
    (httpPublish lib U env).ReadsPublicPart := by
  intro target kp₁ kp₂ log hid hpub
  simp only [httpPublish, hid, hpub]

theorem newManager_readsPublicPart (lib : CryptoLib) (U : Http.URLLib) (env : Env) :
    ∀ type pub, (newManager lib U env).publishers.lookup type = some pub → pub.ReadsPublicPart := by
  intro type pub h
  by_cases hfs : type = "filesystem"
  · subst hfs
    cases h
    exact filesystemPublish_readsPublicPart lib env
  by_cases hhttp : type = "http"
  · subst hhttp
    cases h
    exact httpPublish_readsPublicPart lib U env
  · simp [newManager, GoMap.ofList, hfs, hhttp] at h

/-- For every list of targets, every environment (every file system and every server, with any
redirects) and every two key pairs with the same key ID and public key, whatever their private
keys and raw private bytes, `PublishAll` makes the same attempts, performs the same effects in
the same order (the same files with the same contents, the same HTTP requests with the same
URLs, headers and bodies) and returns the same result. -/
theorem publishAll_reveals_only_public_key (lib : CryptoLib) (U : Http.URLLib) (env : Env)
    (targets : List PublishTarget) (kp₁ kp₂ : KeyPair) (log : List Effect)
    (hid : kp₁.keyID = kp₂.keyID) (hpub : kp₁.publicKey = kp₂.publicKey) :
    publishAll (newManager lib U env) targets kp₁ log =
      publishAll (newManager lib U env) targets kp₂ log := by
  simp only [publishAll,
    publishLoop_eq_of_public (newManager_readsPublicPart lib U env) hid hpub targets 0 [] log]

/-- An EC key pair `ec-P-256-20251107-0a1b2c` with private scalar `d` and the P-256 base point
as public key, whatever `d` (the pair of the scalar 1). -/
def keyPairWithScalar (d : Int) : KeyPair :=
  ⟨"ec-P-256-20251107-0a1b2c", some (.ecdsa (some ⟨Curve.p256.basePoint, some d⟩)),
    some (.ecdsa Curve.p256.basePoint), "EC", ⟨63898128000000000000⟩, [d.toNat.toUInt8]⟩

/-- A file-system target and an HTTP target with the configuration the API documents. -/
def documentedTargets : List PublishTarget :=
  [⟨"filesystem", GoMap.ofList [("path", "/var/keys/")], none⟩,
    ⟨"http", GoMap.ofList [("endpoint", "https://...")], none⟩]

/-- Two key pairs that differ only in their private scalar and raw bytes publish alike, against
a world that accepts every operation with status 200. -/
theorem keyPairWithScalar_publishes_alike :
    (keyPairWithScalar 3).privateKey ≠ (keyPairWithScalar 5).privateKey ∧
      (keyPairWithScalar 3).rawPrivateBytes ≠ (keyPairWithScalar 5).rawPrivateBytes ∧
      publishAll (newManager CryptoLib.empty ⟨.ok, fun _ loc => .ok loc, fun _ _ => none⟩
          (fun _ _ => .ok ⟨200, "200 OK", ""⟩)) documentedTargets (keyPairWithScalar 3) [] =
        publishAll (newManager CryptoLib.empty ⟨.ok, fun _ loc => .ok loc, fun _ _ => none⟩
          (fun _ _ => .ok ⟨200, "200 OK", ""⟩)) documentedTargets (keyPairWithScalar 5) [] :=
  ⟨by decide, by decide, publishAll_reveals_only_public_key _ _ _ _ _ _ _ rfl rfl⟩

/-! ## What a successful HTTP publish means -/

/-- `HTTPPublisher.Publish` returns nil only after it POSTed the public key's PEM, under the
`Content-Type` and `X-Key-Id` headers, to the endpoint as `url.Parse` reads it. That endpoint
begins with `https://` unless the target sets `insecureSkipVerify`. And the answer to that POST
had a status below 400: either it was the final answer, or it was a redirect the client followed,
and every such status is below 400. -/
theorem httpPublish_ok_posted_key (lib : CryptoLib) (U : Http.URLLib) (env : Env)
    (target : PublishTarget) (kp : KeyPair) (log : List Effect)
    (h : (httpPublish lib U env target kp log).1 = .ok ()) :
    (Strings.hasPrefix (target.config.get "endpoint") "https://" = true ∨
      (target.tls.map (·.insecureSkipVerify)).getD false = true) ∧
    ∃ pem url resp rest, encodePublic lib kp.publicKey = .ok pem ∧
      U.parse (target.config.get "endpoint") = .ok url ∧
      (httpPublish lib U env target kp log).2 =
        log ++ .send (target.tls.map (·.insecureSkipVerify))
          ⟨"POST", url, [("Content-Type", "application/x-pem-file"), ("X-Key-Id", kp.keyID)], pem⟩ :: rest ∧
      env log (.send (target.tls.map (·.insecureSkipVerify))
          ⟨"POST", url, [("Content-Type", "application/x-pem-file"), ("X-Key-Id", kp.keyID)], pem⟩) =
        .ok resp ∧
      resp.status < 400 := by
  simp only [httpPublish] at h ⊢
  split_ifs at h ⊢ with hempty hscheme
  refine ⟨by simpa [Bool.and_eq_true, or_iff_not_imp_left] using hscheme, ?_⟩
  rcases hpem : encodePublic lib kp.publicKey with e | pem <;> simp only [hpem] at h ⊢
  · cases h
  rcases hurl : U.parse (target.config.get "endpoint") with e | url <;> simp only [hurl] at h ⊢
  · cases h
  rcases hdo : Http.do U env (target.tls.map (·.insecureSkipVerify))
    ⟨"POST", url, [("Content-Type", "application/x-pem-file"), ("X-Key-Id", kp.keyID)], pem⟩ log with
    ⟨_ | r, log'⟩ <;> simp only [hdo] at h ⊢
  · cases h
  split_ifs at h ⊢ with hstatus
  obtain ⟨resp, hresp, hfirst⟩ := Http.clientDo_eq_ok (congrArg Prod.fst hdo)
  obtain ⟨rest, hrest⟩ := Http.clientDo_log U env (target.tls.map (·.insecureSkipVerify)) _ 9 _ log
  refine ⟨pem, url, resp, rest, rfl, rfl, (congrArg Prod.snd hdo).symm.trans hrest, hresp, ?_⟩
  rcases hfirst with rfl | hfollow
  · omega
  · exact Http.redirectBehavior_follow_lt hfollow

/-- A server that answers every `POST` with `302 Found` to `/done`, and everything else with
`200 OK`. -/
def redirectingServer : Env := fun _ e =>
  match e with
  | .send _ req =>
    if req.method = "POST" then .ok ⟨302, "302 Found", "/done"⟩ else .ok ⟨200, "200 OK", ""⟩
  | _ => .ok ⟨200, "200 OK", ""⟩

/-- Against `redirectingServer` the publish to the documented HTTP target succeeds on the `200`
of the `GET` the redirect turned the `POST` into; the `POST` itself carried the key and was
answered `302`. -/
theorem redirectingServer_publish_posted_key :
    (httpPublish CryptoLib.empty ⟨.ok, fun _ loc => .ok loc, fun _ _ => none⟩ redirectingServer
        ⟨"http", GoMap.ofList [("endpoint", "https://...")], none⟩ (keyPairWithScalar 1) []).1 =
      .ok () ∧
    ∃ pem resp rest, encodePublic CryptoLib.empty (keyPairWithScalar 1).publicKey = .ok pem ∧
      (httpPublish CryptoLib.empty ⟨.ok, fun _ loc => .ok loc, fun _ _ => none⟩ redirectingServer
        ⟨"http", GoMap.ofList [("endpoint", "https://...")], none⟩ (keyPairWithScalar 1) []).2 =
        .send none ⟨"POST", "https://...", [("Content-Type", "application/x-pem-file"),
          ("X-Key-Id", (keyPairWithScalar 1).keyID)], pem⟩ :: rest ∧
      redirectingServer [] (.send none ⟨"POST", "https://...", [("Content-Type",
          "application/x-pem-file"), ("X-Key-Id", (keyPairWithScalar 1).keyID)], pem⟩) = .ok resp ∧
      resp.status < 400 := by
  have h : (httpPublish CryptoLib.empty ⟨.ok, fun _ loc => .ok loc, fun _ _ => none⟩ redirectingServer
      ⟨"http", GoMap.ofList [("endpoint", "https://...")], none⟩ (keyPairWithScalar 1) []).1 =
      .ok () := by decide
  obtain ⟨-, pem, url, resp, rest, hpem, hurl, hlog, hresp, hlt⟩ := httpPublish_ok_posted_key _ _ _ _ _ _ h
  cases hurl
  exact ⟨h, pem, resp, rest, hpem, hlog, hresp, hlt⟩

/-! ## Where the file-system publisher writes -/

/-- The file-system publisher touches the world only past its path checks: the cleaned path is
absolute and holds no `..`. -/
theorem filesystemPublish_checked (lib : CryptoLib) (env : Env) (target : PublishTarget)
    (kp : KeyPair) (log : List Effect) (h : (filesystemPublish lib env target kp log).2 ≠ log) :
    Filepath.isAbs (Filepath.clean (target.config.get "path")) = true ∧
      Strings.contains (Filepath.clean (target.config.get "path")) ".." = false := by
  simp only [filesystemPublish] at h
  split_ifs at h with hempty habs hdots
  iterate 3 exact absurd rfl h
  exact ⟨by simpa using habs, by simpa using hdots⟩

/-- A file-system publish that returns nil created the cleaned directory, wrote the public key's
PEM to `<KeyID>.pub.tmp` in it and renamed that file to `<KeyID>.pub`, and did nothing else. -/
theorem filesystemPublish_ok_wrote_key (lib : CryptoLib) (env : Env) (target : PublishTarget)
    (kp : KeyPair) (log : List Effect) (h : (filesystemPublish lib env target kp log).1 = .ok ()) :
    let directory := Filepath.clean (target.config.get "path")
    let file := Filepath.join directory (kp.keyID ++ ".pub")
    ∃ pem, encodePublic lib kp.publicKey = .ok pem ∧
      (filesystemPublish lib env target kp log).2 =
        log ++ [.mkdirAll directory 0o750, .writeFile (file ++ ".tmp") pem 0o600,
          .rename (file ++ ".tmp") file] := by
  intro directory file
  simp only [filesystemPublish, perform] at h ⊢
  split_ifs at h ⊢
  rcases hpem : encodePublic lib kp.publicKey with e | pem
  · split at h <;> simp only [hpem] at h <;> cases h
  refine ⟨pem, rfl, ?_⟩
  split at h <;> obtain ⟨-, rfl⟩ := Prod.mk.inj ‹_› <;> simp only [hpem] at h ⊢
  · cases h
  split at h <;> obtain ⟨-, rfl⟩ := Prod.mk.inj ‹_›
  · cases h
  split at h <;> obtain ⟨-, rfl⟩ := Prod.mk.inj ‹_›
  · cases h
  simp

/-- Every key pair `Generate` returns is published, by the file-system publisher, only inside
the cleaned configured directory: its effects are a prefix of creating that directory, writing
the PEM to `<KeyID>.pub.tmp`, renaming it to `<KeyID>.pub` and removing the temporary file, and
if there is any effect, the directory is absolute with no `..`, the key ID is a normal path
element, and `Dir` of both files is the directory, with `Base` their names. A publish that
returns nil has written the PEM to `<KeyID>.pub.tmp` and renamed it to `<KeyID>.pub`. -/
theorem filesystemPublish_confined (lib : CryptoLib) (env : Env) (target : PublishTarget)
    {E : Entropy} {opts : GenerateOptions} {kp : KeyPair} (hgen : generate lib E opts = .ok kp)
    (log : List Effect) :
    let directory := Filepath.clean (target.config.get "path")
    let file := Filepath.join directory (kp.keyID ++ ".pub")
    ∃ pem new, encodePublic lib kp.publicKey = .ok pem ∧
      (filesystemPublish lib env target kp log).2 = log ++ new ∧
      new <+: [.mkdirAll directory 0o750, .writeFile (file ++ ".tmp") pem 0o600,
        .rename (file ++ ".tmp") file, .remove (file ++ ".tmp")] ∧
      ((filesystemPublish lib env target kp log).1 = .ok () →
        new = [.mkdirAll directory 0o750, .writeFile (file ++ ".tmp") pem 0o600,
          .rename (file ++ ".tmp") file]) ∧
      (new ≠ [] → Filepath.isAbs directory = true ∧ Strings.contains directory ".." = false ∧
        Filepath.Normal kp.keyID.toList ∧
        Filepath.dir file = directory ∧ Filepath.base file = kp.keyID ++ ".pub" ∧
        Filepath.dir (file ++ ".tmp") = directory ∧
        Filepath.base (file ++ ".tmp") = kp.keyID ++ ".pub" ++ ".tmp") := by
  intro directory file
  obtain ⟨hslash, hlen⟩ := Crypto.generate_keyID_safe hgen
  obtain ⟨-, pub, -, hk, -, hm⟩ := Crypto.generate_marshalable hgen
  have hpem : encodePublic lib kp.publicKey = .ok _ := hk ▸ encodePublic_of_marshalable lib hm
  obtain ⟨new, hnew, hpre⟩ := filesystemPublish_effects lib env target kp log hpem
  have hok : (filesystemPublish lib env target kp log).1 = .ok () →
      new = [.mkdirAll directory 0o750, .writeFile (file ++ ".tmp") _ 0o600,
        .rename (file ++ ".tmp") file] := fun h => by
    obtain ⟨pem', hpem', hwrote⟩ := filesystemPublish_ok_wrote_key lib env target kp log h
    cases hpem.symm.trans hpem'
    exact List.append_cancel_left (hnew.symm.trans hwrote)
  refine ⟨_, new, hpem, hnew, hpre, hok, fun hne => ?_⟩
  obtain ⟨habs, hdots⟩ :=
    filesystemPublish_checked lib env target kp log (by simpa [hnew] using hne)
  have hnormal : ∀ t : String, '/' ∉ t.toList → Filepath.Normal (kp.keyID ++ t).toList :=
    fun t ht => Filepath.normal_of_two_lt_length (by simp [String.toList] at hlen ⊢; omega)
      (by simpa [String.toList] using ⟨hslash, ht⟩)
  obtain ⟨hdir, hbase⟩ := Filepath.dir_base_join habs (hnormal ".pub" (by decide))
  obtain ⟨hdir', hbase'⟩ := Filepath.dir_base_join_append habs ".tmp" (hnormal ".pub" (by decide))
    (by rw [String.append_assoc]; exact hnormal _ (by decide))
  exact ⟨habs, hdots, Filepath.normal_of_two_lt_length hlen hslash, hdir, hbase, hdir', hbase'⟩

/-- Past its checks the file-system publisher always creates the directory first. -/
theorem filesystemPublish_mkdirAll (lib : CryptoLib) (env : Env) (target : PublishTarget)
    (kp : KeyPair) (log : List Effect) (hpath : target.config.get "path" ≠ "")
    (habs : Filepath.isAbs (Filepath.clean (target.config.get "path")) = true)
    (hdots : Strings.contains (Filepath.clean (target.config.get "path")) ".." = false) :
    log ++ [.mkdirAll (Filepath.clean (target.config.get "path")) 0o750] <+:
      (filesystemPublish lib env target kp log).2 := by
  simp only [filesystemPublish, perform, if_neg hpath, habs, hdots, Bool.not_true,
    Bool.false_eq_true, if_false]
  split <;> obtain ⟨-, rfl⟩ := Prod.mk.inj ‹_›
  · exact List.prefix_refl _
  split
  · exact List.prefix_refl _
  split <;> obtain ⟨-, rfl⟩ := Prod.mk.inj ‹_›
  · exact List.prefix_append _ _
  split <;> obtain ⟨-, rfl⟩ := Prod.mk.inj ‹_›
  all_goals simp

/-- The `[SEC:S-3]` checks of the file-system publisher, as a whole: it touches the file system
exactly for a path that is set and cleans to an absolute path none of whose elements contains
`..`. `Clean` has already removed every `..` element of an absolute path (each element is
`Normal`), so the `strings.Contains(cleanPath, "..")` check never meets a traversal: it refuses
only directories with names such as `keys..old` or `...`. -/
theorem filesystemPublish_refuses_only_dotted_names (lib : CryptoLib) (env : Env)
    (target : PublishTarget) (kp : KeyPair) (log : List Effect) :
    (filesystemPublish lib env target kp log).2 ≠ log ↔
      target.config.get "path" ≠ "" ∧
        ∃ es, (∀ e ∈ es, Filepath.Normal e) ∧
          Filepath.clean (target.config.get "path") = String.mk ('/' :: Filepath.joinElems es) ∧
          ∀ e ∈ es, ¬ ['.', '.'] <:+: e := by
  have hdots : ∀ es : List Filepath.Elem,
      Strings.contains (String.mk ('/' :: Filepath.joinElems es)) ".." = false ↔
        ∀ e ∈ es, ¬ ['.', '.'] <:+: e := fun es => by
    rw [← Bool.not_eq_true, Strings.contains_iff_infix]
    show ¬ ['.', '.'] <:+: '/' :: Filepath.joinElems es ↔ _
    rw [List.infix_cons_iff, Filepath.dotdot_infix_joinElems]
    simp
  constructor
  · intro h
    have hpath : target.config.get "path" ≠ "" := fun hp => h (by simp [filesystemPublish, hp])
    obtain ⟨habs, hcontains⟩ := filesystemPublish_checked lib env target kp log h
    obtain ⟨es, hes, heq⟩ := Filepath.clean_eq_of_isAbs habs
    exact ⟨hpath, es, hes, heq, (hdots es).1 (heq ▸ hcontains)⟩
  · rintro ⟨hpath, es, -, heq, hnone⟩ h
    have habs : Filepath.isAbs (Filepath.clean (target.config.get "path")) = true := by
      rw [heq, Filepath.isAbs_iff]
      rfl
    have hpre := filesystemPublish_mkdirAll lib env target kp log hpath habs
      (heq ▸ (hdots es).2 hnone)
    rw [h] at hpre
    simpa using hpre.length_le

/-- The P-256 pair `Generate` draws from `fixedEntropy`, published to `/var/keys/`. -/
theorem fixedEntropy_publish_confined :
    ∃ kp, generate CryptoLib.empty Crypto.fixedEntropy
        ⟨"EC", GoMap.ofList [("curve", "P-256")], false⟩ = .ok kp ∧
      let directory := Filepath.clean "/var/keys/"
      let file := Filepath.join directory (kp.keyID ++ ".pub")
      ∃ pem new, encodePublic CryptoLib.empty kp.publicKey = .ok pem ∧
        (filesystemPublish CryptoLib.empty redirectingServer
          ⟨"filesystem", GoMap.ofList [("path", "/var/keys/")], none⟩ kp []).2 = [] ++ new ∧
        new <+: [.mkdirAll directory 0o750, .writeFile (file ++ ".tmp") pem 0o600,
          .rename (file ++ ".tmp") file, .remove (file ++ ".tmp")] ∧
        ((filesystemPublish CryptoLib.empty redirectingServer
          ⟨"filesystem", GoMap.ofList [("path", "/var/keys/")], none⟩ kp []).1 = .ok () →
          new = [.mkdirAll directory 0o750, .writeFile (file ++ ".tmp") pem 0o600,
            .rename (file ++ ".tmp") file]) ∧
        (new ≠ [] → Filepath.isAbs directory = true ∧ Strings.contains directory ".." = false ∧
          Filepath.Normal kp.keyID.toList ∧
          Filepath.dir file = directory ∧ Filepath.base file = kp.keyID ++ ".pub" ∧
          Filepath.dir (file ++ ".tmp") = directory ∧
          Filepath.base (file ++ ".tmp") = kp.keyID ++ ".pub" ++ ".tmp") := by
  obtain ⟨kp, hgen⟩ : ∃ kp, generate CryptoLib.empty Crypto.fixedEntropy
      ⟨"EC", GoMap.ofList [("curve", "P-256")], false⟩ = .ok kp := ⟨_, rfl⟩
  exact ⟨kp, hgen, filesystemPublish_confined CryptoLib.empty redirectingServer
    ⟨"filesystem", GoMap.ofList [("path", "/var/keys/")], none⟩ hgen []⟩

end Publish
end OpenUKR
