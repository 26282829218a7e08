import RegletHost.Text

/-!
`RetryTransport` (`src/netutil/retry.go`): a round tripper that sends a request again after a
transport error or a transient status, waiting between attempts.

The base transport is one function, its outcome at each attempt (`RetryEnv.base`), so every
statement holds for every sequence of outcomes. `retryLoop` is the loop of `RoundTrip`, one
turn (`attemptStep`) per attempt; the state it carries records what the base transport
received, which response bodies were closed, and the calls of `OnRetry`.

* `retryLoop_run`: from any attempt, the loop makes attempts up to the first outcome that
  ends it (`Final`) or its last allowed attempt, returns the last outcome, and closes the
  body of every earlier response.
* `roundTrip_law`: `RoundTrip` with a negative `MaxRetries` makes no attempt and returns
  neither a response nor an error; otherwise it makes `min(k, M + 1)` attempts. A request
  body that `GetBody` does not replay is sent once; the clones after the first send what is
  left of it, nothing.
* `calculateBackoff`: the wait before the next attempt, in `int64` nanoseconds; the product
  `initial * (1 << attempt)` and a `Retry-After` of seconds wrap as Go's arithmetic does.
-/

namespace RegletHost

namespace Netutil

/-! ### Durations -/

/-- Go's `int64` arithmetic: an integer wrapped into the 64-bit range. -/
def wrap64 (x : Int) : Int := (x + 2 ^ 63) % 2 ^ 64 - 2 ^ 63

/-- `time.Second`, in nanoseconds. -/
def durationSecond : Int := 1000000000

/-- `time.Time.Sub`: the difference, saturated at the `int64` bounds. -/
def subSat (t u : Int) : Int := max int64Min (min int64Max (t - u))

/-! ### The transport -/

/-- A response of the base transport as the retry loop reads it: its status and
`Header.Get("Retry-After")`, empty when absent. -/
structure BaseResponse where
  statusCode : Int
  retryAfter : String := ""
  deriving DecidableEq, Repr

/-- An error of the base transport, and whether `IsSSRFBlockedError` recognises it (the
secure dialer's `SSRFBlockedError`). -/
structure TransportError where
  message : String
  ssrfBlocked : Bool := false
  deriving DecidableEq, Repr

/-- A request as `RoundTrip` clones it. `Clone` copies method, URL and header; the body is
the stream `req.Body`, which every clone shares, unless `GetBody` is set (`getBody`: what it
returns) and gives each clone a new one. -/
structure Request where
  method : String
  url : String
  header : List (String × List String) := []
  body : List UInt8 := []
  getBody : Option (Except String (List UInt8)) := none

/-- A request as the base transport receives it. -/
structure SentRequest where
  method : String
  url : String
  header : List (String × List String)
  body : List UInt8
  deriving DecidableEq, Repr

/-- `RetryTransport`, its durations in nanoseconds; `Base` and `OnRetry` are the
environment's (`RetryEnv`) and the loop's record. -/
structure RetryTransport where
  maxRetries : Int := 0
  initialBackoff : Int := 0
  maxBackoff : Int := 0
  deriving DecidableEq, Repr

/-- The world `RoundTrip` runs in: the base transport's outcome at each attempt,
`http.ParseTime` (the instant it reads, in nanoseconds), and the clock when each attempt's
wait is computed. -/
structure RetryEnv where
  base : Nat → Except TransportError BaseResponse
  parseTime : String → Option Int := fun _ => none
  clock : Nat → Int := fun _ => 0

/-- `isRetryableStatus`: 429, 502, 503 and 504. -/
def isRetryableStatus (statusCode : Int) : Bool := statusCode ∈ [429, 502, 503, 504]

/-- `calculateBackoff`: a `Retry-After` of seconds, capped; else an HTTP date, its distance
from `now` capped, `initial` when past; else `initial * (1 << attempt)`, capped. The products
wrap as `time.Duration` does. -/
def calculateBackoff (parseTime : String → Option Int) (now : Int) (attempt : Nat)
    (initial maxDuration : Int) (resp : Option BaseResponse) : Int :=
  let backoff := wrap64 (initial * wrap64 (2 ^ attempt))
  let exponential := if backoff > maxDuration then maxDuration else backoff
  match resp with
  | none => exponential
  | some r =>
    if r.retryAfter = "" then exponential
    else
      match atoi r.retryAfter with
      | (seconds, true) =>
        let duration := wrap64 (seconds * durationSecond)
        if duration > maxDuration then maxDuration else duration
      | (_, false) =>
        match parseTime r.retryAfter with
        | some tParser =>
          let duration := subSat tParser now
          if duration < 0 then initial else if duration > maxDuration then maxDuration else duration
        | none => exponential

/-- `int64` arithmetic leaves what fits alone. -/
lemma wrap64_of_le {x : Int} (h₁ : int64Min ≤ x) (h₂ : x ≤ int64Max) : wrap64 x = x := by
  unfold wrap64
  unfold int64Min at h₁
  unfold int64Max at h₂
  rw [Int.emod_eq_of_lt (by omega) (by omega)]
  omega

/-- **The exponential wait**: without a usable `Retry-After`, `initial · 2^attempt` capped at
`maxDuration`, as long as the product fits in an `int64`. -/
theorem calculateBackoff_exponential (parseTime : String → Option Int) (now : Int) (attempt : Nat)
    (initial maxDuration : Int) (resp : Option BaseResponse) (hi : 0 < initial)
    (ho : initial * 2 ^ attempt ≤ int64Max)
    (hr : ∀ r ∈ resp, r.retryAfter = "" ∨ ((atoi r.retryAfter).2 = false ∧ parseTime r.retryAfter = none)) :
    calculateBackoff parseTime now attempt initial maxDuration resp = min (initial * 2 ^ attempt) maxDuration := by
  have hp : (0 : Int) < 2 ^ attempt := by positivity
  have hle : (2 : Int) ^ attempt ≤ initial * 2 ^ attempt := le_mul_of_one_le_left hp.le hi
  have hmin : int64Min ≤ 0 := by decide
  have hexp : (if wrap64 (initial * wrap64 (2 ^ attempt)) > maxDuration then maxDuration
      else wrap64 (initial * wrap64 (2 ^ attempt))) = min (initial * 2 ^ attempt) maxDuration := by
    rw [wrap64_of_le (x := 2 ^ attempt) (by omega) (by omega),
      wrap64_of_le (x := initial * 2 ^ attempt) (by omega) ho]
    split_ifs <;> omega
  unfold calculateBackoff
  rcases resp with _ | r
  · exact hexp
  by_cases he : r.retryAfter = ""
  · simp only [he, if_true]; exact hexp
  obtain ⟨ha, hpt⟩ := (hr r rfl).resolve_left he
  obtain ⟨v, hv⟩ : ∃ v, atoi r.retryAfter = (v, false) := ⟨_, Prod.ext rfl ha⟩
  simp only [he, if_false, hv, hpt]
  exact hexp

theorem calculateBackoff_exponential_three :
    (0 : Int) < durationSecond ∧ durationSecond * 2 ^ 3 ≤ int64Max ∧
      (∀ r ∈ (none : Option BaseResponse), r.retryAfter = "" ∨ ((atoi r.retryAfter).2 = false ∧
        (fun _ => none : String → Option Int) r.retryAfter = none)) ∧
      calculateBackoff (fun _ => none) 0 3 durationSecond (30 * durationSecond) none =
        min (durationSecond * 2 ^ 3) (30 * durationSecond) :=
  ⟨by decide, by decide, by simp,
    calculateBackoff_exponential (fun _ => none) 0 3 durationSecond (30 * durationSecond) none (by decide)
      (by decide) (by simp)⟩

/-- **The wait can be negative.** At attempt 34 the product of one second and `1 << 34`
wraps below zero, and the cap, which bounds the wait only from above, returns it as it is; a
`Retry-After` of `-5` is a wait of minus five seconds. -/
theorem calculateBackoff_wraps :
    calculateBackoff (fun _ => none) 0 34 durationSecond (30 * durationSecond) none =
        -1266874889709551616 ∧
      calculateBackoff (fun _ => none) 0 0 durationSecond (30 * durationSecond)
        (some ⟨429, "-5"⟩) = -5 * durationSecond := by
  decide

/-- The settings `RoundTrip` uses: a zero field takes its default, three retries, one
second, thirty seconds. -/
def RetryTransport.effective (t : RetryTransport) : RetryTransport where
  maxRetries := if t.maxRetries = 0 then 3 else t.maxRetries
  initialBackoff := if t.initialBackoff = 0 then durationSecond else t.initialBackoff
  maxBackoff := if t.maxBackoff = 0 then 30 * durationSecond else t.maxBackoff

/-! ### The loop -/

/-- What `RoundTrip` returns: the response, with the attempt that got it, or the error. -/
abbrev RoundTripResult := Option (Nat × BaseResponse) × Option TransportError

/-- What the loop carries from one attempt to the next: `lastErr`, `lastResp` (with its
attempt) and what is left of `req.Body`; and what it has done: the requests the base
transport received, the attempts whose response body it closed, the calls of `OnRetry`. -/
structure RetryState where
  lastErr : Option TransportError := none
  lastResp : Option (Nat × BaseResponse) := none
  stream : List UInt8
  sent : List SentRequest := []
  closed : List Nat := []
  onRetry : List (Nat × Int × Int) := []

/-- The body a clone sends and what is left of `req.Body` after: `GetBody`'s new body, or
`req.Body` itself, which the base transport reads to its end. -/
def cloneBody (req : Request) (stream : List UInt8) : Except String (List UInt8 × List UInt8) :=
  match req.getBody with
  | some (.ok b) => .ok (b, stream)
  | some (.error e) => .error e
  | none => .ok (stream, [])

/-- The request the base transport receives from a clone of `req` with body `bytes`. -/
def Request.sent (req : Request) (bytes : List UInt8) : SentRequest :=
  ⟨req.method, req.url, req.header, bytes⟩

/-- One turn of `RoundTrip`'s loop at attempt `attempt`: the return (`.inl`), or the state
for the next attempt (`.inr`). -/
def attemptStep (t : RetryTransport) (env : RetryEnv) (req : Request) (attempt : Nat)
    (s : RetryState) : (RoundTripResult × RetryState) ⊕ RetryState :=
  match cloneBody req s.stream with
  | .error e => .inl ((none, some ⟨e, false⟩), s)
  | .ok (bytes, stream) =>
    let s := { s with stream := stream, sent := s.sent ++ [req.sent bytes] }
    match env.base attempt with
    | .error err =>
      let s := { s with lastErr := some err }
      if err.ssrfBlocked then .inl ((none, some err), s)
      else if (attempt : Int) < t.maxRetries then
        .inr { s with onRetry := s.onRetry ++
          [(attempt + 1, calculateBackoff env.parseTime (env.clock attempt) attempt t.initialBackoff
            t.maxBackoff none, 0)] }
      else .inl ((none, s.lastErr), s)
    | .ok resp =>
      if !isRetryableStatus resp.statusCode then .inl ((some (attempt, resp), none), s)
      else if 400 ≤ resp.statusCode ∧ resp.statusCode < 500 ∧ resp.statusCode ≠ 429 then
        .inl ((some (attempt, resp), none), s)
      else
        let s := { s with lastResp := some (attempt, resp), lastErr := none }
        if (attempt : Int) < t.maxRetries then
          .inr { s with
            onRetry := s.onRetry ++ [(attempt + 1, calculateBackoff env.parseTime (env.clock attempt)
              attempt t.initialBackoff t.maxBackoff (some resp), resp.statusCode)],
            closed := s.closed ++ [attempt] }
        else .inr s

/-- The loop from attempt `attempt`, for `n` more attempts, and the return after it. -/
def retryLoop (t : RetryTransport) (env : RetryEnv) (req : Request) :
    Nat → Nat → RetryState → RoundTripResult × RetryState
  | 0, _, s =>
    match s.lastResp with
    | some r => ((some r, none), s)
    | none => ((none, s.lastErr), s)
  | n + 1, attempt, s =>
    match attemptStep t env req attempt s with
    | .inl r => r
    | .inr s' => retryLoop t env req n (attempt + 1) s'

/-- `RoundTrip`: attempts `0` to `maxRetries`. -/
def RetryTransport.roundTrip (t : RetryTransport) (env : RetryEnv) (req : Request) :
    RoundTripResult × RetryState :=
  retryLoop t.effective env req (t.effective.maxRetries + 1).toNat 0 { stream := req.body }

/-! ### One attempt -/

/-- Whether an outcome ends the loop at once: an SSRF block, or a status not worth retrying. -/
def Final : Except TransportError BaseResponse → Bool
  | .error e => e.ssrfBlocked
  | .ok r => !isRetryableStatus r.statusCode

/-- What `RoundTrip` returns when an attempt's outcome is the last. -/
def outcomeResult (attempt : Nat) : Except TransportError BaseResponse → RoundTripResult
  | .ok resp => (some (attempt, resp), none)
  | .error e => (none, some e)

/-- The state a turn leaves, whether it returns or goes on. -/
def stepState : (RoundTripResult × RetryState) ⊕ RetryState → RetryState
  | .inl (_, s) => s
  | .inr s => s

/-- The check for 4xx statuses after `isRetryableStatus` never holds: the only retryable
4xx status is 429. -/
lemma not_clientError_of_retryable {c : Int} (h : isRetryableStatus c = true) :
    ¬(400 ≤ c ∧ c < 500 ∧ c ≠ 429) := by
  simp only [isRetryableStatus, List.mem_cons, List.mem_singleton, List.not_mem_nil, or_false,
    decide_eq_true_eq] at h
  omega

variable {t : RetryTransport} {env : RetryEnv} {req : Request} {s : RetryState} {a : Nat}
  {bytes stream : List UInt8}

/-- A turn whose clone cannot get its body returns `GetBody`'s error and sends nothing. -/
lemma attemptStep_of_cloneBody_error {e : String} (hc : cloneBody req s.stream = .error e) :
    attemptStep t env req a s = .inl ((none, some ⟨e, false⟩), s) := by
  simp only [attemptStep, hc]

/-- Every turn that gets its clone's body sends it, and leaves what is left of `req.Body`. -/
lemma attemptStep_sent (hc : cloneBody req s.stream = .ok (bytes, stream)) :
    (stepState (attemptStep t env req a s)).sent = s.sent ++ [req.sent bytes] ∧
      (stepState (attemptStep t env req a s)).stream = stream := by
  unfold attemptStep
  rw [hc]
  dsimp only
  cases env.base a with
  | error err => dsimp only; split_ifs <;> exact ⟨rfl, rfl⟩
  | ok resp => dsimp only; split_ifs <;> exact ⟨rfl, rfl⟩

/-- A final outcome is returned at once. -/
lemma retryLoop_of_final (hc : cloneBody req s.stream = .ok (bytes, stream))
    (hf : Final (env.base a) = true) (n : Nat) :
    ∃ s', retryLoop t env req (n + 1) a s = (outcomeResult a (env.base a), s') ∧
      s'.sent = s.sent ++ [req.sent bytes] ∧ s'.closed = s.closed := by
  simp only [retryLoop, attemptStep, hc]
  cases hb : env.base a with
  | error err =>
    rw [hb] at hf
    simp only [Final] at hf
    simp [hf, outcomeResult]
  | ok resp =>
    rw [hb] at hf
    simp only [Final, Bool.not_eq_true'] at hf
    simp [hf, outcomeResult]

/-- At the last allowed attempt, whatever comes is returned. -/
lemma retryLoop_of_last (env : RetryEnv) (hc : cloneBody req s.stream = .ok (bytes, stream))
    (ha : ¬(a : Int) < t.maxRetries) :
    ∃ s', retryLoop t env req 1 a s = (outcomeResult a (env.base a), s') ∧
      s'.sent = s.sent ++ [req.sent bytes] ∧ s'.closed = s.closed := by
  simp only [retryLoop, attemptStep, hc]
  cases hb : env.base a with
  | error err => dsimp only; split_ifs <;> simp [outcomeResult]
  | ok resp => dsimp only; split_ifs <;> simp [outcomeResult]

/-- An outcome that is not final, before the last allowed attempt, is retried; a response's
body is closed first. -/
lemma retryLoop_of_retry (hc : cloneBody req s.stream = .ok (bytes, stream))
    (hf : Final (env.base a) = false) (ha : (a : Int) < t.maxRetries) (n : Nat) :
    ∃ s', retryLoop t env req (n + 1) a s = retryLoop t env req n (a + 1) s' ∧
      s'.sent = s.sent ++ [req.sent bytes] ∧
      s'.closed = s.closed ++ (if (env.base a).isOk then [a] else []) ∧ s'.stream = stream := by
  simp only [retryLoop, attemptStep, hc]
  cases hb : env.base a with
  | error err =>
    rw [hb] at hf
    simp only [Final] at hf
    simp only [hf, ha, Final, Except.isOk, Except.toBool]
    exact ⟨_, rfl, rfl, by simp, rfl⟩
  | ok resp =>
    rw [hb] at hf
    simp only [Final, Bool.not_eq_false'] at hf
    simp only [hf, ha, not_clientError_of_retryable hf, Except.isOk, Except.toBool]
    exact ⟨_, rfl, rfl, rfl, rfl⟩

/-- `GetBody` either fails or gives every clone its body. -/
lemma cloneBody_ok (hb : ∀ e, req.getBody ≠ some (.error e)) (st : List UInt8) :
    ∃ bytes stream, cloneBody req st = .ok (bytes, stream) := by
  unfold cloneBody
  split
  · exact ⟨_, _, rfl⟩
  · exact absurd ‹_› (hb _)
  · exact ⟨_, _, rfl⟩

/-! ### The loop -/

/-- **The loop's run**: from attempt `a`, with `n` attempts left until `maxRetries` is
passed, the loop makes attempts up to the first final outcome or the last allowed one,
returns that attempt's outcome, and has closed the body of every response before it. -/
lemma retryLoop_run (env : RetryEnv) (hb : ∀ e, req.getBody ≠ some (.error e)) :
    ∀ (n a : Nat) (s : RetryState), 0 < n → (a : Int) + n = t.maxRetries + 1 →
    ∃ j < n, (∀ i < j, Final (env.base (a + i)) = false) ∧
      (Final (env.base (a + j)) = true ∨ j + 1 = n) ∧
      (retryLoop t env req n a s).2.sent.length = s.sent.length + (j + 1) ∧
      (retryLoop t env req n a s).2.closed =
        s.closed ++ (List.range' a j).filter (fun i => (env.base i).isOk) ∧
      (retryLoop t env req n a s).1 = outcomeResult (a + j) (env.base (a + j)) := by
  intro n
  induction n with
  | zero => intro a s h; omega
  | succ n ih =>
    intro a s _ hn
    obtain ⟨bytes, stream, hc⟩ := cloneBody_ok hb s.stream
    by_cases hf : Final (env.base a) = true
    · -- a final outcome: returned at once
      obtain ⟨s', hr, hs, hcl⟩ := retryLoop_of_final (t := t) hc hf n
      refine ⟨0, by omega, by omega, .inl hf, ?_⟩
      simp [hr, hs, hcl]
    rw [Bool.not_eq_true] at hf
    by_cases ha : (a : Int) < t.maxRetries
    · -- retried: the rest of the run is the run from the next attempt
      obtain ⟨s', hr, hs, hcl, -⟩ := retryLoop_of_retry hc hf ha n
      obtain ⟨j, hj, hpre, hend, hlen, hclosed, hres⟩ := ih (a + 1) s' (by omega) (by push_cast; omega)
      rw [hr]
      refine ⟨j + 1, by omega, fun i hi => ?_, ?_, ?_, ?_, ?_⟩
      · cases i with
        | zero => exact hf
        | succ i => rw [show a + (i + 1) = a + 1 + i by omega]; exact hpre i (by omega)
      · rw [show a + (j + 1) = a + 1 + j by omega]; exact hend.imp_right fun h => by omega
      · rw [hlen, hs, List.length_append, List.length_singleton]; omega
      · rw [hclosed, hcl, List.range'_succ, List.filter_cons]
        cases (env.base a).isOk <;> simp
      · rw [hres, show a + (j + 1) = a + 1 + j by omega]
    · -- the last allowed attempt: its outcome is returned
      obtain rfl : n = 0 := by omega
      obtain ⟨s', hr, hs, hcl⟩ := retryLoop_of_last env hc ha
      refine ⟨0, by omega, by omega, .inr rfl, ?_⟩
      simp [hr, hs, hcl]

/-- What every turn keeps of the state, the whole loop keeps. -/
lemma retryLoop_inv (P : RetryState → Prop)
    (hstep : ∀ a s, P s → P (stepState (attemptStep t env req a s))) :
    ∀ n a s, P s → P (retryLoop t env req n a s).2
  | 0, _, s, h => by unfold retryLoop; split <;> exact h
  | n + 1, a, s, h => by
    have := hstep a s h
    unfold retryLoop
    cases hs : attemptStep t env req a s with
    | inl r => rw [hs] at this; exact this
    | inr s' => rw [hs] at this; exact retryLoop_inv P hstep n (a + 1) s' this

/-- A turn sends a clone of `req` with the body `cloneBody` gives, or nothing. -/
lemma attemptStep_sent_or_same (t : RetryTransport) (env : RetryEnv) (req : Request) (a : Nat)
    (s : RetryState) :
    stepState (attemptStep t env req a s) = s ∨
      ∃ bytes stream, cloneBody req s.stream = .ok (bytes, stream) ∧
        (stepState (attemptStep t env req a s)).sent = s.sent ++ [req.sent bytes] ∧
        (stepState (attemptStep t env req a s)).stream = stream := by
  cases hc : cloneBody req s.stream with
  | error e => exact .inl (by rw [attemptStep_of_cloneBody_error hc]; rfl)
  | ok r => exact .inr ⟨r.1, r.2, rfl, attemptStep_sent hc⟩

/-- With `GetBody` set, every attempt sends the body it returns. -/
lemma retryLoop_sent_replayed {b : List UInt8} (h : req.getBody = some (.ok b)) (n a : Nat)
    (s : RetryState) (hs : ∀ x ∈ s.sent, x = req.sent b) :
    ∀ x ∈ (retryLoop t env req n a s).2.sent, x = req.sent b := by
  refine retryLoop_inv (fun s => ∀ x ∈ s.sent, x = req.sent b) (fun a s hs => ?_) n a s hs
  rcases attemptStep_sent_or_same t env req a s with he | ⟨bytes, stream, hc, hsent, -⟩
  · rwa [he]
  · simp only [cloneBody, h, Except.ok.injEq, Prod.mk.injEq] at hc
    rw [hsent, ← hc.1]
    intro x hx
    rcases List.mem_append.mp hx with hx | hx
    · exact hs x hx
    · exact List.mem_singleton.mp hx

/-- Without `GetBody`, the first attempt reads `req.Body` to its end, and every later clone,
sharing it, sends nothing. -/
lemma retryLoop_sent_drained (h : req.getBody = none) (n a : Nat) (s : RetryState)
    (hs : (s.sent = [] ∧ s.stream = req.body) ∨
      ∃ m, s.sent = req.sent req.body :: List.replicate m (req.sent []) ∧ s.stream = []) :
    (retryLoop t env req n a s).2.sent = [] ∨
      ∃ m, (retryLoop t env req n a s).2.sent = req.sent req.body :: List.replicate m (req.sent []) := by
  let P : RetryState → Prop := fun s => (s.sent = [] ∧ s.stream = req.body) ∨
    ∃ m, s.sent = req.sent req.body :: List.replicate m (req.sent []) ∧ s.stream = []
  have hstep : ∀ a s, P s → P (stepState (attemptStep t env req a s)) := by
    intro a s hs
    dsimp only [P] at hs ⊢
    rcases attemptStep_sent_or_same t env req a s with he | ⟨bytes, stream, hc, hsent, hst⟩
    · rwa [he]
    simp only [cloneBody, h, Except.ok.injEq, Prod.mk.injEq] at hc
    rw [hsent, hst, ← hc.1, ← hc.2]
    rcases hs with ⟨hnil, hbody⟩ | ⟨m, hm, hnil⟩
    · exact .inr ⟨0, by simp [hnil, hbody], rfl⟩
    · exact .inr ⟨m + 1, by simp [hm, hnil, List.replicate_succ'], rfl⟩
  exact (retryLoop_inv P hstep n a s hs).imp And.left fun ⟨m, hm, _⟩ => ⟨m, hm⟩

/-! ### `RoundTrip` -/

/-- With no attempt allowed, `RoundTrip` returns neither a response nor an error. -/
lemma roundTrip_of_neg (h : t.effective.maxRetries < 0) :
    t.roundTrip env req = ((none, none), { stream := req.body }) := by
  simp [RetryTransport.roundTrip, show (t.effective.maxRetries + 1).toNat = 0 by omega, retryLoop]

/-- The run of `RoundTrip` from its first attempt. -/
lemma roundTrip_run (h0 : 0 ≤ t.effective.maxRetries) (hb : ∀ e, req.getBody ≠ some (.error e)) :
    ∃ k < (t.effective.maxRetries + 1).toNat, (∀ i < k, Final (env.base i) = false) ∧
      (Final (env.base k) = true ∨ k + 1 = (t.effective.maxRetries + 1).toNat) ∧
      (t.roundTrip env req).2.sent.length = k + 1 ∧
      (t.roundTrip env req).2.closed = (List.range k).filter (fun i => (env.base i).isOk) ∧
      (t.roundTrip env req).1 = outcomeResult k (env.base k) := by
  have hn : ((t.effective.maxRetries + 1).toNat : Int) = t.effective.maxRetries + 1 :=
    Int.toNat_of_nonneg (by omega)
  obtain ⟨k, hk, hpre, hend, hlen, hclosed, hres⟩ :=
    retryLoop_run (t := t.effective) env hb (t.effective.maxRetries + 1).toNat 0 { stream := req.body }
      (by omega) (by omega)
  simp only [Nat.zero_add] at hpre hend hres
  exact ⟨k, hk, hpre, hend, by simpa using hlen, by simpa [List.range_eq_range'] using hclosed, hres⟩

/-- **`RoundTrip`'s attempts**: with a negative `MaxRetries`, none, and neither a response nor
an error returned. Otherwise attempts up to the first final outcome, `maxRetries + 1` at
most; the last outcome is returned and the body of every earlier response closed. A body
that `GetBody` replays is sent on every attempt; a body without `GetBody` on the first only. -/
theorem roundTrip_law (t : RetryTransport) (env : RetryEnv) (req : Request) :
    (t.effective.maxRetries < 0 →
      (t.roundTrip env req).1 = (none, none) ∧ (t.roundTrip env req).2.sent = []) ∧
    (0 ≤ t.effective.maxRetries → (∀ e, req.getBody ≠ some (.error e)) →
      ∃ k < (t.effective.maxRetries + 1).toNat, (∀ i < k, Final (env.base i) = false) ∧
        (Final (env.base k) = true ∨ k + 1 = (t.effective.maxRetries + 1).toNat) ∧
        (t.roundTrip env req).2.sent.length = k + 1 ∧
        (t.roundTrip env req).2.closed = (List.range k).filter (fun i => (env.base i).isOk) ∧
        (t.roundTrip env req).1 = outcomeResult k (env.base k)) ∧
    (req.getBody = some (.ok req.body) → ∀ x ∈ (t.roundTrip env req).2.sent, x = req.sent req.body) ∧
    (req.getBody = none → 0 ≤ t.effective.maxRetries →
      ∃ m, (t.roundTrip env req).2.sent = req.sent req.body :: List.replicate m (req.sent [])) := by
  refine ⟨fun h => by rw [roundTrip_of_neg h]; exact ⟨rfl, rfl⟩, roundTrip_run, fun h => ?_, fun h h0 => ?_⟩
  · exact retryLoop_sent_replayed h _ 0 _ (by simp)
  · obtain ⟨k, -, -, -, hlen, -⟩ := @roundTrip_run t env req h0 (by simp [h])
    refine (retryLoop_sent_drained h _ 0 { stream := req.body } (.inl ⟨rfl, rfl⟩)).resolve_left ?_
    intro hnil
    rw [RetryTransport.roundTrip, hnil] at hlen
    exact absurd hlen (by simp)

/-- An upload with a body and no `GetBody`, answered 503 and then 200. -/
def drainedEnv : RetryEnv where
  base i := if i = 0 then .ok ⟨503, ""⟩ else .ok ⟨200, ""⟩

/-- A request whose body `http.NewRequest` cannot replay: a plain `io.Reader`. -/
def uploadRequest : Request := { method := "POST", url := "http://example.com", body := [1, 2, 3] }

/-- With `MaxRetries` at `-1` nothing is sent and nothing returned. -/
theorem roundTrip_law_negative :
    (({ maxRetries := -1 } : RetryTransport).roundTrip drainedEnv uploadRequest).1 = (none, none) :=
  ((roundTrip_law { maxRetries := -1 } drainedEnv uploadRequest).1 (by decide)).1

example : (({} : RetryTransport).roundTrip drainedEnv uploadRequest).2.sent =
    [uploadRequest.sent [1, 2, 3], uploadRequest.sent []] := by decide

/-- `Test_RetryTransport_Retries429`: two 429s, then 200; three calls, `OnRetry` at 1 and 2. -/
example :
    let env : RetryEnv := { base := fun i => if i < 2 then .ok ⟨429, ""⟩ else .ok ⟨200, ""⟩ }
    let r := ({ maxRetries := 3, initialBackoff := 1000000 } : RetryTransport).roundTrip env
      { method := "GET", url := "http://example.com" }
    r.1 = (some (2, ⟨200, ""⟩), none) ∧ r.2.sent.length = 3 ∧ r.2.onRetry.map (·.1) = [1, 2] := by
  decide

end Netutil

end RegletHost
