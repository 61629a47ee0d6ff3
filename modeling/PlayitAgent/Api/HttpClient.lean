import Mathlib.Order.Bounds.Basic
import PlayitAgent.Lib.Stream
import PlayitAgent.Lib.Text

/-!
# Calls of the API

`HttpClient::call_with_policy` of `api_client/src/http_client.rs`. What happens to each request is
an input: reqwest and the network are not modelled, and neither are the parsers of JSON and of
dates, which are parameters. A duration is a number of nanoseconds.

One turn of the loop either ends the call with a result that depends on the outcome of its request
alone, or sleeps and goes on (`requestLoop_succ`). The three places that go on have the same guard,
so that the last turn ends the call, and the `unreachable!` behind the loop is not reached.
-/

namespace PlayitAgent

/-! ## Durations -/

/-- `Duration::from_secs`. -/
def fromSecs (secs : ℕ) : ℕ := secs * 10 ^ 9

/-- `Duration::from_millis`. -/
def fromMillis (millis : ℕ) : ℕ := millis * 10 ^ 6

/-- `Duration::MAX`. -/
def durationMax : ℕ := fromSecs (2 ^ 64 - 1) + (10 ^ 9 - 1)

/-- `Duration::saturating_mul`. -/
def saturatingMul (duration n : ℕ) : ℕ := min (duration * n) durationMax

/-! ## Requests and responses -/

/-- `RetryPolicy`. -/
inductive RetryPolicy where
  | never
  | transient
  deriving DecidableEq

/-- `reqwest::Error`, as far as it is looked at. -/
structure ReqwestError where
  isConnect : Bool
  isTimeout : Bool
  isRequest : Bool
  isBody : Bool
  text : String
  deriving DecidableEq

/-- `StatusCode`. -/
structure StatusCode where
  code : ℕ
  /-- A status has three digits. -/
  valid : 100 ≤ code ∧ code < 1000
  deriving DecidableEq

/-- `StatusCode::TOO_MANY_REQUESTS`. -/
def StatusCode.tooManyRequests : StatusCode := ⟨429, by decide⟩

/-- `StatusCode::is_server_error`. -/
def StatusCode.isServerError (status : StatusCode) : Bool := 500 ≤ status.code ∧ status.code < 600

/-- `HeaderValue`. -/
structure HeaderValue where
  bytes : List UInt8
  deriving DecidableEq

/-- `HeaderValue::to_str`: only visible ASCII characters and tabs. -/
def HeaderValue.toStr (value : HeaderValue) : Option String :=
  if value.bytes.all fun b => (32 ≤ b ∧ b < 127) ∨ b = 9 then
    some (String.ofList (value.bytes.map fun b => Char.ofNat b.toNat))
  else none

/-- A request, as it is built. -/
structure Request (β : Type) where
  url : String
  authorization : Option String
  body : β
  deriving DecidableEq

/-- What becomes of a request that is sent. -/
inductive AttemptOutcome where
  /-- There is no response. -/
  | requestError (error : ReqwestError)
  /-- There is a response, and its body cannot be read. -/
  | bodyError (status : StatusCode) (retryAfter : Option HeaderValue) (error : ReqwestError)
  | response (status : StatusCode) (retryAfter : Option HeaderValue) (text : String)
  deriving DecidableEq

/-- An attempt: `build` fails, or the request is sent. -/
inductive Attempt where
  | notBuilt (error : ReqwestError)
  | sent (outcome : AttemptOutcome)
  deriving DecidableEq

/-- `HttpClientError`. -/
inductive HttpClientError (ε : Type) where
  | serializeError (error : ε)
  | parseError (error : ε) (status : StatusCode)
  | requestError (error : ReqwestError)
  | tooManyRequests
  deriving DecidableEq

/-- What the client takes from elsewhere. -/
structure HttpEnv (ρ ε : Type) where
  /-- `httpdate::parse_http_date`. -/
  parseHttpDate : String → Option ℤ
  /-- The system time, when the header of an attempt is looked at. -/
  now : ℕ → ℤ
  /-- `serde_path_to_error::deserialize`, with what is left of the text. -/
  deserialize : String → Except ε (ρ × String)
  /-- `Deserializer::end`. -/
  finish : String → Except ε Unit

/-- An `HttpClient`, with the header that it finds behind its lock at each attempt. -/
structure HttpClient where
  apiBase : String
  authHeader : ℕ → Option String

/-- What a call has done: its result, its requests, and its sleeps. -/
structure HttpCall (β ρ ε : Type) where
  result : Except Panic (Except (HttpClientError ε) ρ)
  requests : List (Request β)
  sleeps : List ℕ

/-! ## Retries -/

/-- `MAX_REQUEST_ATTEMPTS`. -/
def maxRequestAttempts : ℕ := 3

/-- `RETRY_DELAY`. -/
def baseRetryDelay : ℕ := fromMillis 250

/-- `MAX_RETRY_DELAY`. -/
def maxRetryDelay : ℕ := fromSecs 5

/-- `is_retryable_request_error`. -/
def isRetryableRequestError (error : ReqwestError) : Bool :=
  error.isConnect || error.isTimeout || error.isRequest || error.isBody

/-- `str::parse::<u64>`. -/
def parseU64 (s : String) : Option ℕ :=
  let digits := match s.toList with
    | '+' :: digits => digits
    | digits => digits
  if digits.isEmpty || !digits.all isAsciiDigit then none
  else
    let n := digits.foldl (fun n c => 10 * n + (c.toNat - '0'.toNat)) 0
    if n < 2 ^ 64 then some n else none

section
variable {β ρ ε : Type} (env : HttpEnv ρ ε)

/-- `parse_retry_after`, at the time of an attempt. -/
def parseRetryAfter (attempt : ℕ) (value : HeaderValue) : Option ℕ := do
  let value := trim (← value.toStr)
  match parseU64 value with
  | some seconds => return fromSecs seconds
  | none => return ((← env.parseHttpDate value) - env.now attempt).toNat

/-- `retry_delay`. -/
def retryDelay (attempt : ℕ) (retryAfter : Option HeaderValue) : ℕ :=
  -- `attempt as u32`, with `saturating_add` and `saturating_mul`.
  min ((retryAfter.bind (parseRetryAfter env attempt)).getD
      (saturatingMul baseRetryDelay (min (attempt % 2 ^ 32 + 1) (2 ^ 32 - 1))))
    maxRetryDelay

/-- `call_with_policy`, from the response of an attempt on, when it does not try again. -/
def parseResponse (status : StatusCode) (text : String) : Except (HttpClientError ε) ρ :=
  if status = .tooManyRequests then .error .tooManyRequests
  else match env.deserialize text with
    | .error error => .error (.parseError error status)
    | .ok (result, rest) =>
      match env.finish rest with
      | .error error => .error (.parseError error status)
      | .ok () => .ok result

/-- A turn of the loop that sends a request and sleeps, with the turns behind it. -/
def HttpCall.retried (request : Request β) (delay : ℕ) (call : HttpCall β ρ ε) :
    HttpCall β ρ ε :=
  { call with requests := request :: call.requests, sleeps := delay :: call.sleeps }

/-- The loop of `call_with_policy`, from an attempt on, with so many turns left. -/
def requestLoop (request : ℕ → Request β) (policy : RetryPolicy) (maxAttempts : ℕ)
    (attempts : ℕ → Attempt) : ℕ → ℕ → HttpCall β ρ ε
  | 0, _ => ⟨.error .unreachable, [], []⟩
  | remaining + 1, attempt =>
    -- `build` fails with `?` before anything is sent.
    match attempts attempt with
    | .notBuilt error => ⟨.ok (.error (.requestError error)), [], []⟩
    | .sent (.requestError error) =>
      if policy = .transient ∧ attempt + 1 < maxAttempts ∧ isRetryableRequestError error then
        (requestLoop request policy maxAttempts attempts remaining (attempt + 1)).retried
          (request attempt) (retryDelay env attempt none)
      else ⟨.ok (.error (.requestError error)), [request attempt], []⟩
    | .sent (.bodyError _ retryAfter error) =>
      if policy = .transient ∧ attempt + 1 < maxAttempts ∧ isRetryableRequestError error then
        (requestLoop request policy maxAttempts attempts remaining (attempt + 1)).retried
          (request attempt) (retryDelay env attempt retryAfter)
      else ⟨.ok (.error (.requestError error)), [request attempt], []⟩
    | .sent (.response status retryAfter text) =>
      if policy = .transient ∧ (status = .tooManyRequests ∨ status.isServerError) ∧
          attempt + 1 < maxAttempts then
        (requestLoop request policy maxAttempts attempts remaining (attempt + 1)).retried
          (request attempt) (retryDelay env attempt retryAfter)
      else ⟨.ok (parseResponse env status text), [request attempt], []⟩

/-- How many attempts a policy allows. -/
def RetryPolicy.maxAttempts : RetryPolicy → ℕ
  | .never => 1
  | .transient => maxRequestAttempts

/-- `call_with_policy`, given what the serialization of the request gives. -/
def HttpClient.callWithPolicy (client : HttpClient) (path : String) (body : Except ε β)
    (policy : RetryPolicy) (attempts : ℕ → Attempt) : HttpCall β ρ ε :=
  match body with
  | .error error => ⟨.ok (.error (.serializeError error)), [], []⟩
  | .ok body =>
    requestLoop env (fun attempt => ⟨client.apiBase ++ path, client.authHeader attempt, body⟩)
      policy policy.maxAttempts attempts policy.maxAttempts 0

/-! ## What one turn does -/

/-- The outcome is one to try again after: a transport error that may pass, a status that asks to
wait, or an error of the server. A body that cannot be read is a transport error. -/
def AttemptOutcome.retryable : AttemptOutcome → Bool
  | requestError error => isRetryableRequestError error
  | bodyError _ _ error => isRetryableRequestError error
  | response status _ _ => status = .tooManyRequests ∨ status.isServerError

/-- The `Retry-After` header of the outcome. -/
def AttemptOutcome.retryAfter : AttemptOutcome → Option HeaderValue
  | requestError _ => none
  | bodyError _ retryAfter _ => retryAfter
  | response _ retryAfter _ => retryAfter

/-- What a call returns when this is the outcome of its last request. -/
def AttemptOutcome.result : AttemptOutcome → Except (HttpClientError ε) ρ
  | requestError error => .error (.requestError error)
  | bodyError _ _ error => .error (.requestError error)
  | response status _ text => parseResponse env status text

/-- A status is its three digits. -/
theorem StatusCode.eq_tooManyRequests_iff {status : StatusCode} :
    status = .tooManyRequests ↔ status.code = 429 := by
  obtain ⟨code, hcode⟩ := status
  simp [StatusCode.tooManyRequests]

/-- A response is one to try again after when its status is 429 or one of the five hundreds. -/
theorem AttemptOutcome.retryable_response {status : StatusCode} {retryAfter : Option HeaderValue}
    {text : String} : (response status retryAfter text).retryable = true ↔
      status.code = 429 ∨ 500 ≤ status.code ∧ status.code < 600 := by
  simp [retryable, StatusCode.isServerError, StatusCode.eq_tooManyRequests_iff]

/-- What a response yields: an error of its own for the status 429, and else what the parser makes
of the whole text. -/
theorem AttemptOutcome.result_response {status : StatusCode} {retryAfter : Option HeaderValue}
    {text : String} {result : Except (HttpClientError ε) ρ} :
    (response status retryAfter text).result env = result ↔
      (status.code = 429 ∧ result = .error .tooManyRequests) ∨
      (status.code ≠ 429 ∧ ∃ error, env.deserialize text = .error error ∧
        result = .error (.parseError error status)) ∨
      (status.code ≠ 429 ∧ ∃ value rest, env.deserialize text = .ok (value, rest) ∧
        (env.finish rest = .ok () ∧ result = .ok value ∨
          ∃ error, env.finish rest = .error error ∧
            result = .error (.parseError error status))) := by
  unfold AttemptOutcome.result parseResponse
  simp only [StatusCode.eq_tooManyRequests_iff]
  by_cases hcode : status.code = 429
  · simp [hcode, eq_comm]
  · cases hvalue : env.deserialize text with
    | error error => simp [hcode, eq_comm]
    | ok parsed =>
      obtain ⟨value, rest⟩ := parsed
      cases hfinish : env.finish rest with
      | error error => simp [hcode, hfinish, eq_comm]
      | ok u => simp [hcode, hfinish, eq_comm]

/-- No delay is longer than the maximum, whatever the header says. -/
theorem retryDelay_le (attempt : ℕ) (retryAfter : Option HeaderValue) :
    retryDelay env attempt retryAfter ≤ maxRetryDelay := min_le_right _ _

variable (request : ℕ → Request β) (policy : RetryPolicy) (maxAttempts : ℕ)

/-- One turn: it sends one request, and goes on exactly when the outcome is one to try again after,
the policy allows it, and this is not the last attempt. -/
theorem requestLoop_succ {attempts : ℕ → Attempt} {attempt : ℕ} {outcome : AttemptOutcome}
    (h : attempts attempt = .sent outcome) (remaining : ℕ) :
    requestLoop env request policy maxAttempts attempts (remaining + 1) attempt =
      if policy = .transient ∧ attempt + 1 < maxAttempts ∧ outcome.retryable then
        (requestLoop env request policy maxAttempts attempts remaining (attempt + 1)).retried
          (request attempt) (retryDelay env attempt outcome.retryAfter)
      else ⟨.ok (outcome.result env), [request attempt], []⟩ := by
  rw [requestLoop, h]
  cases outcome with
  | requestError error => rfl
  | bodyError status retryAfter error => rfl
  | response status retryAfter text =>
    -- The guard stands in another order here, and has the two kinds of status in it.
    have hguard : (policy = .transient ∧ (status = .tooManyRequests ∨ status.isServerError) ∧
        attempt + 1 < maxAttempts) ↔ (policy = .transient ∧ attempt + 1 < maxAttempts ∧
          (AttemptOutcome.response status retryAfter text).retryable) := by
      simp only [AttemptOutcome.retryable, decide_eq_true_eq]
      tauto
    simp only [hguard]
    rfl

/-! ## Whole calls -/

/-- The loop from any attempt on, when every request can be built: it ends with the first outcome
that is not one to try again after, or with the last attempt. -/
theorem requestLoop_spec (outcomes : ℕ → AttemptOutcome) (hpolicy : policy = .transient)
    (remaining attempt : ℕ) (hmax : attempt + (remaining + 1) = maxAttempts) :
    ∃ k ≤ remaining,
      (∀ i < k, (outcomes (attempt + i)).retryable) ∧
      (k < remaining → ¬(outcomes (attempt + k)).retryable) ∧
      let call := requestLoop env request policy maxAttempts (fun i => .sent (outcomes i))
        (remaining + 1) attempt
      call.result = .ok ((outcomes (attempt + k)).result env) ∧
        call.requests.length = k + 1 ∧ call.sleeps.length = k ∧
        ∀ delay ∈ call.sleeps, delay ≤ maxRetryDelay := by
  -- The induction is on the turns that are left, and the attempt moves with it.
  induction remaining generalizing attempt with
  | zero =>
    have hlast : ¬attempt + 1 < maxAttempts := by omega
    refine ⟨0, le_rfl, fun i hi => absurd hi (Nat.not_lt_zero i),
      fun hlt => absurd hlt (lt_irrefl 0), ?_⟩
    rw [requestLoop_succ env request policy maxAttempts rfl]
    simp [hlast]
  | succ remaining ih =>
    rw [requestLoop_succ env request policy maxAttempts rfl]
    by_cases hretry : (outcomes attempt).retryable
    · have hnext : attempt + 1 < maxAttempts := by omega
      -- The call goes on as one from the next attempt on, which counts from there.
      obtain ⟨k, hk, hbefore, hlast, hresult, hrequests, hsleeps, hdelays⟩ :=
        ih (attempt + 1) (by omega)
      refine ⟨k + 1, by omega, fun i hi => ?_, fun hlt => ?_, ?_⟩
      · rcases Nat.eq_zero_or_pos i with rfl | hpos
        · exact hretry
        · have := hbefore (i - 1) (by omega)
          rwa [show attempt + 1 + (i - 1) = attempt + i by omega] at this
      · have := hlast (by omega)
        rwa [show attempt + 1 + k = attempt + (k + 1) by omega] at this
      · rw [show attempt + 1 + k = attempt + (k + 1) by omega] at hresult
        rw [if_pos ⟨hpolicy, hnext, hretry⟩]
        refine ⟨hresult, ?_, ?_, ?_⟩
        · simp [HttpCall.retried, hrequests]
        · simp [HttpCall.retried, hsleeps]
        · intro delay hdelay
          rcases List.mem_cons.1 hdelay with rfl | hdelay
          · exact retryDelay_le env attempt _
          · exact hdelays delay hdelay
    · refine ⟨0, by omega, fun i hi => absurd hi (Nat.not_lt_zero i), fun _ => hretry, ?_⟩
      rw [if_neg fun h => hretry h.2.2]
      simp

/-- Whether or not the requests can be built, the loop returns before it runs out of turns, and its
sleeps are bounded. -/
theorem requestLoop_returns (attempts : ℕ → Attempt) (remaining attempt : ℕ)
    (hmax : attempt + (remaining + 1) = maxAttempts) :
    let call := requestLoop env request policy maxAttempts attempts (remaining + 1) attempt
    (∃ result, call.result = .ok result) ∧ ∀ delay ∈ call.sleeps, delay ≤ maxRetryDelay := by
  induction remaining generalizing attempt with
  | zero =>
    have hlast : ¬attempt + 1 < maxAttempts := by omega
    cases hattempt : attempts attempt with
    | notBuilt error => simp [requestLoop, hattempt]
    | sent outcome =>
      rw [requestLoop_succ env request policy maxAttempts hattempt]
      simp [hlast]
  | succ remaining ih =>
    cases hattempt : attempts attempt with
    | notBuilt error =>
      rw [requestLoop, hattempt]
      simp
    | sent outcome =>
      rw [requestLoop_succ env request policy maxAttempts hattempt]
      obtain ⟨hresult, hdelays⟩ := ih (attempt + 1) (by omega)
      split_ifs with hretry
      · refine ⟨hresult, fun delay hdelay => ?_⟩
        rcases List.mem_cons.1 hdelay with rfl | hdelay
        · exact retryDelay_le env attempt _
        · exact hdelays delay hdelay
      · simp

/-- Without retries, a call sends one request, and what it returns is what that request gives.
With retries, it sends as many as it takes to the first outcome that is not one to try again after,
three at most, and what it returns is what the last of them gives. Such an outcome is a transport
error of one of four kinds, the status 429, or an error of the server; a response of another status
yields what the parser makes of its text. No call reaches the `unreachable!` or sleeps longer than
the maximum, even where a request cannot be serialized or built. -/
theorem http_retry_contract (client : HttpClient) (path : String) (body : β)
    (outcomes : ℕ → AttemptOutcome) :
    (let call := client.callWithPolicy env path (.ok body) .never (fun i => .sent (outcomes i));
      call.requests.length = 1 ∧ call.result = .ok ((outcomes 0).result env) ∧
        call.sleeps = []) ∧
    (let call := client.callWithPolicy env path (.ok body) .transient (fun i => .sent (outcomes i));
      ∃ k, IsLeast {k | 0 < k ∧ ((outcomes (k - 1)).retryable = false ∨ k = 3)} k ∧
        call.requests.length = k ∧ call.result = .ok ((outcomes (k - 1)).result env) ∧
        call.sleeps.length + 1 = k) ∧
    (∀ error : ReqwestError,
      ((AttemptOutcome.requestError error).retryable = true ↔ error.isConnect = true ∨
        error.isTimeout = true ∨ error.isRequest = true ∨ error.isBody = true) ∧
      (AttemptOutcome.requestError error).result env = .error (.requestError error)) ∧
    (∀ (status : StatusCode) (retryAfter : Option HeaderValue) (error : ReqwestError),
      (AttemptOutcome.bodyError status retryAfter error).retryable =
        (AttemptOutcome.requestError error).retryable ∧
      (AttemptOutcome.bodyError status retryAfter error).result env =
        .error (.requestError error)) ∧
    (∀ (status : StatusCode) (retryAfter : Option HeaderValue) (text : String),
      ((AttemptOutcome.response status retryAfter text).retryable = true ↔
        status.code = 429 ∨ 500 ≤ status.code ∧ status.code < 600) ∧
      ∀ result, (AttemptOutcome.response status retryAfter text).result env = result ↔
        (status.code = 429 ∧ result = .error .tooManyRequests) ∨
        (status.code ≠ 429 ∧ ∃ error, env.deserialize text = .error error ∧
          result = .error (.parseError error status)) ∨
        (status.code ≠ 429 ∧ ∃ value rest, env.deserialize text = .ok (value, rest) ∧
          (env.finish rest = .ok () ∧ result = .ok value ∨
            ∃ error, env.finish rest = .error error ∧
              result = .error (.parseError error status)))) ∧
    ∀ (body : Except ε β) (policy : RetryPolicy) (attempts : ℕ → Attempt),
      let call := client.callWithPolicy env path body policy attempts
      (∃ result, call.result = .ok result) ∧ ∀ delay ∈ call.sleeps, delay ≤ maxRetryDelay := by
  refine ⟨?_, ?_, fun error => ⟨?_, rfl⟩, fun _ _ _ => ⟨rfl, rfl⟩,
    fun _ _ _ => ⟨AttemptOutcome.retryable_response, fun _ => AttemptOutcome.result_response env⟩,
    ?_⟩
  · dsimp only [HttpClient.callWithPolicy, RetryPolicy.maxAttempts]
    rw [requestLoop_succ env _ _ _ rfl, if_neg fun h => nomatch h.1]
    exact ⟨rfl, rfl, rfl⟩
  · obtain ⟨k, hk, hbefore, hlast, hresult, hrequests, hsleeps, -⟩ :=
      requestLoop_spec env
        (fun attempt => ⟨client.apiBase ++ path, client.authHeader attempt, body⟩)
        .transient maxRequestAttempts outcomes rfl 2 0 rfl
    simp only [Nat.zero_add] at hbefore hlast hresult
    refine ⟨k + 1, ⟨⟨by omega, ?_⟩, ?_⟩, hrequests, hresult, by rw [← hsleeps]; rfl⟩
    · rcases Nat.lt_or_ge k 2 with hlt | hge
      · exact .inl (by simpa using hlast hlt)
      · exact .inr (by omega)
    · -- An earlier request was one to try again after, and is not the third.
      rintro j ⟨hpos, hj⟩
      by_contra hlt
      rcases hj with hj | hj
      · exact absurd (hbefore (j - 1) (by omega)) (by simp [hj])
      · omega
  · simp [AttemptOutcome.retryable, isRetryableRequestError, or_assoc]
  · intro body policy attempts
    cases body with
    | error error => exact ⟨⟨_, rfl⟩, by simp [HttpClient.callWithPolicy]⟩
    | ok body =>
      cases policy with
      | never => exact requestLoop_returns env _ .never 1 attempts 0 0 rfl
      | transient => exact requestLoop_returns env _ .transient 3 attempts 2 0 rfl

end

end PlayitAgent
