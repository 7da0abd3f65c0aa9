import OpenUKR.Go.Result

/-!
# The outside world of the publishers — files and HTTP

Every operation a publisher performs on the outside world is an `Effect`, appended to the log
of the world in the order it happens. What the world answers is the environment `Env`: a
function of everything done so far and the operation, so an environment can model any server
and any file system, failures and redirects included. A file-system operation succeeds when its
answer is `ok`; an HTTP exchange answers with a response.

`clientDo` is `http.Client.Do` with the default redirect policy: 301, 302 and 303 are followed
with a `GET` (from a `POST`) and no body, 307 and 308 with the same method and body (the
request body is a `bytes.Reader`, so `GetBody` is set), a 3xx without `Location` is returned as
it is, and the eleventh request is refused with `"stopped after 10 redirects"`. The original
headers are copied to each hop, with a `Referer` after them. The parts of `net/url` the loop
needs are the parameter `URLLib`.
-/

namespace OpenUKR
namespace Http

/-- An HTTP request as the transport sends it. -/
structure Request where
  method : String
  url : String
  header : List (String × String)
  body : List UInt8
  deriving DecidableEq

/-- An HTTP response, by what the client reads of it: the status code, the `Status` line and the
`Location` header (`""` when absent). -/
structure Response where
  status : Nat
  statusText : String
  location : String
  deriving DecidableEq

/-- The parts of `net/url` the client uses. -/
structure URLLib where
  /-- `url.Parse(rawURL)`, as `http.NewRequestWithContext` calls it. -/
  parse : String → Except String String
  /-- `req.URL.Parse(loc)`: a `Location` value resolved against the request URL. -/
  resolve : String → String → Except String String
  /-- `refererForURL(lastReq.URL, newReq.URL, "")`: none from `https` to `http`. -/
  referer : String → String → Option String

end Http

/-- An operation on the outside world. `send tls req` is one HTTP exchange; `tls` is `none` for
the publisher's default client, `some b` for a transport with `MinVersion: TLS 1.2` and
`InsecureSkipVerify: b`. -/
inductive Effect
  | mkdirAll (path : String) (perm : Nat)
  | writeFile (name : String) (data : List UInt8) (perm : Nat)
  | rename (src dst : String)
  | remove (name : String)
  | send (tls : Option Bool) (req : Http.Request)
  deriving DecidableEq

/-- The world's answer to each operation, given the operations before it. -/
abbrev Env := List Effect → Effect → Except String Http.Response

/-- Perform one operation: its answer, and the log with it appended. -/
def perform (env : Env) (e : Effect) (log : List Effect) : Except String Http.Response × List Effect :=
  (env log e, log ++ [e])

namespace Http

/-- `redirectBehavior(reqMethod, resp, ireq)`: the next method, whether to follow, and whether
to send the body again. -/
def redirectBehavior (method : String) (status : Nat) : String × Bool × Bool :=
  if status = 301 ∨ status = 302 ∨ status = 303 then
    (if method ≠ "GET" ∧ method ≠ "HEAD" then "GET" else method, true, false)
  else if status = 307 ∨ status = 308 then (method, true, true)
  else (method, false, false)

/-- The loop of `Client.do`, sending `req` with `fuel` redirects left; `ireq` is the first
request, whose headers and body the hops copy. -/
def clientDo (U : URLLib) (env : Env) (tls : Option Bool) (ireq : Request) :
    Nat → Request → List Effect → Except String Response × List Effect
  | fuel, req, log =>
    match perform env (.send tls req) log with
    | (.error e, log) => (.error e, log)
    | (.ok resp, log) =>
      let (method, follow, includeBody) := redirectBehavior req.method resp.status
      if !follow || resp.location = "" then (.ok resp, log)
      else
        match U.resolve req.url resp.location with
        | .error e => (.error ("failed to parse Location header " ++ resp.location ++ ": " ++ e), log)
        | .ok url =>
          match fuel with
          | 0 => (.error "stopped after 10 redirects", log)
          | fuel + 1 =>
            let header := ireq.header ++ ((U.referer req.url url).map fun r => [("Referer", r)]).getD []
            clientDo U env tls ireq fuel ⟨method, url, header, if includeBody then ireq.body else []⟩ log

/-- `client.Do(req)`: at most ten requests. -/
def «do» (U : URLLib) (env : Env) (tls : Option Bool) (req : Request) (log : List Effect) :
    Except String Response × List Effect :=
  clientDo U env tls req 9 req log

/-! ## What the requests carry -/

/-- A request of a redirect chain whose first request has body `body`: it carries that body, or
no body and the method `GET` or `HEAD`. -/
def CarriesBody (body : List UInt8) (req : Request) : Prop :=
  req.body = body ∨ req.body = [] ∧ (req.method = "GET" ∨ req.method = "HEAD")

/-- A redirect followed without the body is a `GET` or a `HEAD`. -/
theorem redirectBehavior_without_body {m m' : String} {s : Nat}
    (h : redirectBehavior m s = (m', true, false)) : m' = "GET" ∨ m' = "HEAD" := by
  unfold redirectBehavior at h
  split_ifs at h with h₁ h₂ h₃ <;> simp only [Prod.mk.injEq] at h
  · exact .inl h.1.symm
  · rw [← h.1]; by_contra hm; exact h₂ (not_or.1 hm)
  · exact absurd h.2.2 (by decide)
  · exact absurd h.2.1 (by decide)

/-- One exchange of `Client.Do`: it sends `req`, then either stops or follows a redirect with a
request that carries the first request's body or none. -/
theorem clientDo_cases (U : URLLib) (env : Env) (tls : Option Bool) (ireq : Request) (fuel : Nat)
    (req : Request) (log : List Effect) :
    (clientDo U env tls ireq fuel req log).2 = log ++ [.send tls req] ∨
      ∃ fuel' req', fuel = fuel' + 1 ∧ CarriesBody ireq.body req' ∧
        clientDo U env tls ireq fuel req log =
          clientDo U env tls ireq fuel' req' (log ++ [.send tls req]) := by
  rw [clientDo]
  simp only [perform]
  split
  · exact .inl (Prod.mk.inj ‹_›).2.symm
  obtain ⟨-, rfl⟩ := Prod.mk.inj ‹_›
  rcases hrb : redirectBehavior req.method _ with ⟨method, follow, includeBody⟩
  simp only
  split
  · exact .inl rfl
  rename_i hstop
  split
  · exact .inl rfl
  split
  · exact .inl rfl
  refine .inr ⟨_, _, rfl, ?_, rfl⟩
  cases includeBody
  · have hfollow : follow = true := by simp_all
    subst hfollow
    exact .inr ⟨rfl, redirectBehavior_without_body hrb⟩
  · exact .inl rfl

/-- Every request `Client.Do` sends, along any chain of redirects, carries the first request's body
or none. -/
theorem clientDo_sends (U : URLLib) (env : Env) (tls : Option Bool) (ireq : Request) (fuel : Nat) :
    ∀ (req : Request) (log : List Effect), CarriesBody ireq.body req →
      ∃ new, (clientDo U env tls ireq fuel req log).2 = log ++ new ∧
        ∀ t r, Effect.send t r ∈ new → CarriesBody ireq.body r := by
  induction fuel with
  | zero =>
    intro req log hreq
    rcases clientDo_cases U env tls ireq 0 req log with h | ⟨_, _, h, -⟩
    · exact ⟨_, h, by simp [hreq]⟩
    · cases h
  | succ n ih =>
    intro req log hreq
    rcases clientDo_cases U env tls ireq (n + 1) req log with h | ⟨_, req', h, hreq', hdo⟩
    · exact ⟨_, h, by simp [hreq]⟩
    · obtain rfl := Nat.succ.inj h
      obtain ⟨new, hnew, hsends⟩ := ih req' (log ++ [.send tls req]) hreq'
      refine ⟨.send tls req :: new, by rw [hdo, hnew]; simp, ?_⟩
      simp only [List.mem_cons, Effect.send.injEq]
      rintro t r (⟨-, rfl⟩ | h)
      · exact hreq
      · exact hsends t r h

/-! ## What a successful exchange was answered -/

/-- Every status the client follows is a redirect, below 400. -/
theorem redirectBehavior_follow_lt {m : String} {s : Nat} (h : (redirectBehavior m s).2.1 = true) :
    s < 400 := by
  unfold redirectBehavior at h
  split_ifs at h with h₁ h₂ <;> omega

/-- The log of `Client.Do` starts with the request it was given. -/
theorem clientDo_log (U : URLLib) (env : Env) (tls : Option Bool) (ireq : Request) (fuel : Nat) :
    ∀ req log, ∃ rest, (clientDo U env tls ireq fuel req log).2 = log ++ .send tls req :: rest := by
  induction fuel with
  | zero =>
    intro req log
    rcases clientDo_cases U env tls ireq 0 req log with h | ⟨_, _, h, -⟩
    · exact ⟨[], h⟩
    · cases h
  | succ n ih =>
    intro req log
    rcases clientDo_cases U env tls ireq (n + 1) req log with h | ⟨_, req', h, -, hdo⟩
    · exact ⟨[], h⟩
    · obtain rfl := Nat.succ.inj h
      obtain ⟨rest, hrest⟩ := ih req' (log ++ [.send tls req])
      exact ⟨_, by rw [hdo, hrest, List.append_assoc]; rfl⟩

/-- A `Client.Do` that returns a response got, for the request it was given, either that
response or a redirect it followed. -/
theorem clientDo_eq_ok {U : URLLib} {env : Env} {tls : Option Bool} {ireq : Request} {fuel : Nat}
    {req : Request} {log : List Effect} {r : Response} (h : (clientDo U env tls ireq fuel req log).1 = .ok r) :
    ∃ resp, env log (.send tls req) = .ok resp ∧
      (resp = r ∨ (redirectBehavior req.method resp.status).2.1 = true) := by
  rw [clientDo] at h
  simp only [perform] at h
  split at h
  · cases h
  rename_i resp log' heq
  obtain ⟨hresp, -⟩ := Prod.mk.inj heq
  refine ⟨resp, hresp, ?_⟩
  rcases hrb : redirectBehavior req.method resp.status with ⟨method, follow, includeBody⟩
  cases follow
  · simp only [hrb, Bool.not_false, Bool.true_or, if_true, Except.ok.injEq] at h
    exact .inl h
  · exact .inr rfl

end Http
end OpenUKR
