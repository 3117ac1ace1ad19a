import RecoveryAgent.Ai.Schemas
import RecoveryAgent.Library.Attempts
import RecoveryAgent.Python.Errors

/-!
# Requests to the memory service

The part of `memory/inherent_client.py` that all its calls share: a request is made again
after a response that says so and after a timeout or a broken connection, up to a number of
times, and what came of it becomes JSON or an error. The service is what it answers to each
attempt.
-/

namespace RecoveryAgent.Memory

open Python Ai Library

/-- The settings that decide what a call gives. -/
structure InherentConfig where
  enabled : Bool
  apiKey : String
  maxRetries : ℤ

inductive HttpError where
  /-- `TimeoutException`, `ConnectError` and `ReadError` -/
  | transient (text : String)
  /-- any other `HTTPError` -/
  | other (text : String)
  deriving DecidableEq, Repr

/-- What `resp.json()` raises. -/
inductive BodyError where
  | valueError
  | other (f : Failure)

structure HttpResponse where
  statusCode : ℤ
  json : Except BodyError Json
  /-- the header `X-RateLimit-Remaining` -/
  rateLimitRemaining : Option String := none

/-- What the service answers to the attempts of one call. -/
abbrev Service := ℕ → Except HttpError HttpResponse

/-- How a call ends that gives nothing: with an `InherentClientError`, or with an exception
that no caller expects. -/
inductive ClientError where
  | inherent (text : String)
  | python (e : PyError)
  | other (f : Failure)

def retryableStatusCodes : List ℤ := [429, 500, 502, 503, 504]

/-- What leaves `_request_with_retry`. -/
inductive RequestError where
  | inherent (text : String)
  | http (text : String)
  | python (e : PyError)
  deriving DecidableEq, Repr

/-- `_backoff_seconds`, without the random part. The power of a float has to be one. -/
def backoffSeconds (attempt : ℕ) : Except PyError ℚ :=
  if attempt < 1024 then .ok (min (2 ^ attempt) 16) else .error .overflowError

/-- The loop of `_request_with_retry` with the rounds that are left and the exception it
remembers: what it ends with, and how many requests were made. -/
def requestLoop (maxRetries : ℤ) (service : Service) :
    (rounds attempt : ℕ) → (lastExc : Option String) → Except RequestError HttpResponse × ℕ
  | 0, attempt, some text => (.error (.inherent ("inherent_transport_error:" ++ text)), attempt)
  | 0, attempt, none => (.error (.inherent "inherent_request_exhausted"), attempt)
  | rounds + 1, attempt, lastExc =>
      match service attempt with
      | .ok resp =>
          if resp.statusCode ∈ retryableStatusCodes ∧ (attempt : ℤ) < maxRetries then
            match backoffSeconds attempt with
            | .ok _ => requestLoop maxRetries service rounds (attempt + 1) lastExc
            | .error e => (.error (.python e), attempt + 1)
          else (.ok resp, attempt + 1)
      | .error (.transient text) =>
          if maxRetries ≤ attempt then
            (.error (.inherent ("inherent_transport_error:" ++ text)), attempt + 1)
          else
            match backoffSeconds attempt with
            | .ok _ => requestLoop maxRetries service rounds (attempt + 1) (some text)
            | .error e => (.error (.python e), attempt + 1)
      | .error (.other text) => (.error (.http text), attempt + 1)

/-- `_request_with_retry`, with the number of requests. -/
def requestWithRetry (maxRetries : ℤ) (service : Service) :
    Except RequestError HttpResponse × ℕ :=
  requestLoop maxRetries service (maxRetries + 1).toNat 0 none

/-- The `try` block of a call, and the `resp.json()` after it; `call` is the word that the
errors have for it. -/
def fetchJson (config : InherentConfig) (call : String) (service : Service) :
    Except ClientError (HttpResponse × Json) :=
  match (requestWithRetry config.maxRetries service).1 with
  | .error (.inherent text) => .error (.inherent text)
  | .error (.http text) => .error (.inherent s!"inherent_{call}_http_error:{text}")
  | .error (.python e) => .error (.python e)
  | .ok resp =>
      if 400 ≤ resp.statusCode then
        .error (.inherent s!"inherent_{call}_http_status:{resp.statusCode}")
      else
        match resp.json with
        | .ok data => .ok (resp, data)
        | .error .valueError => .error (.inherent s!"inherent_{call}_invalid_json")
        | .error (.other f) => .error (.other f)

/-!
## The attempt that a call ends with
-/

/-- An attempt after which there may be another one. -/
def Transient : Except HttpError HttpResponse → Bool
  | .ok resp => resp.statusCode ∈ retryableStatusCodes
  | .error (.transient _) => true
  | .error (.other _) => false

/-- What a call makes of the attempt that it ends with. -/
def concluded : Except HttpError HttpResponse → Except RequestError HttpResponse
  | .ok resp => .ok resp
  | .error (.transient text) => .error (.inherent ("inherent_transport_error:" ++ text))
  | .error (.other text) => .error (.http text)

/-- What a call ends with at attempt `i`: before another one there is a pause, and after the
attempt 1024 its length is no float. -/
def concludedAt (maxRetries : ℕ) (service : Service) (i : ℕ) :
    Except RequestError HttpResponse :=
  if Transient (service i) = true ∧ i < maxRetries then .error (.python .overflowError)
  else concluded (service i)

/-- What ends a call: an attempt that is not transient, or no pause after it. -/
def ends (service : Service) (i : ℕ) : Bool := !Transient (service i) || 1024 ≤ i

/-- The attempt that a call ends with, when it may be repeated so many times. -/
def lastAttempt (maxRetries : ℕ) (service : Service) : ℕ :=
  Attempts.stop (ends service) maxRetries 0

/-- A call asks for a pause that is no float. -/
def BackoffOverflows (maxRetries : ℤ) (service : Service) : Prop :=
  1024 < maxRetries ∧ ∀ i ≤ 1024, Transient (service i) = true

theorem ends_eq_false {service : Service} {i : ℕ} :
    ends service i = false ↔ Transient (service i) = true ∧ i < 1024 := by
  simp [ends]

theorem concludedAt_last {maxRetries : ℕ} (service : Service) :
    concludedAt maxRetries service maxRetries = concluded (service maxRetries) :=
  if_neg fun h => lt_irrefl _ h.2

theorem concludedAt_of_not_transient {maxRetries i : ℕ} {service : Service}
    (h : Transient (service i) = false) :
    concludedAt maxRetries service i = concluded (service i) :=
  if_neg fun ht => Bool.false_ne_true (h.symm.trans ht.1)

theorem backoffSeconds_of_lt {attempt : ℕ} (h : attempt < 1024) :
    backoffSeconds attempt = .ok (min (2 ^ attempt) 16) :=
  if_pos h

theorem backoffSeconds_of_ge {attempt : ℕ} (h : 1024 ≤ attempt) :
    backoffSeconds attempt = .error .overflowError :=
  if_neg (not_lt.2 h)

/-- A round after which nothing more comes. -/
theorem requestLoop_last (service : Service) (lastExc : Option String) (rounds attempt : ℕ) :
    requestLoop attempt service (rounds + 1) attempt lastExc =
      (concludedAt attempt service attempt, attempt + 1) := by
  rw [requestLoop, concludedAt_last]
  cases hanswer : service attempt with
  | ok resp => simp [concluded]
  | error e =>
      cases e with
      | transient text => simp [concluded]
      | other text => simp [concluded]

/-- A round before the last one. -/
theorem requestLoop_round {maxRetries attempt : ℕ} (hlater : attempt < maxRetries)
    (service : Service) (lastExc : Option String) (rounds : ℕ) :
    (ends service attempt = true ∧
      requestLoop maxRetries service (rounds + 1) attempt lastExc =
        (concludedAt maxRetries service attempt, attempt + 1)) ∨
    (ends service attempt = false ∧ ∃ lastExc',
      requestLoop maxRetries service (rounds + 1) attempt lastExc =
        requestLoop maxRetries service rounds (attempt + 1) lastExc') := by
  have hlater' : (attempt : ℤ) < (maxRetries : ℤ) := by exact_mod_cast hlater
  rw [requestLoop]
  cases ht : Transient (service attempt) with
  | false =>
      refine Or.inl ⟨by simp [ends, ht], ?_⟩
      rw [concludedAt_of_not_transient ht]
      cases hanswer : service attempt with
      | ok resp =>
          rw [hanswer] at ht
          have hcode : resp.statusCode ∉ retryableStatusCodes := of_decide_eq_false ht
          simp only [hcode, false_and, if_false, concluded]
      | error e =>
          cases e with
          | transient text =>
              rw [hanswer] at ht
              cases ht
          | other text => rfl
  | true =>
      have hover : concludedAt maxRetries service attempt = .error (.python .overflowError) :=
        if_pos ⟨ht, hlater⟩
      -- the pause decides whether another round comes
      rcases lt_or_ge attempt 1024 with hpause | hpause
      · refine Or.inr ⟨ends_eq_false.2 ⟨ht, hpause⟩, ?_⟩
        cases hanswer : service attempt with
        | ok resp =>
            rw [hanswer] at ht
            have hcode : resp.statusCode ∈ retryableStatusCodes := of_decide_eq_true ht
            simp only [hcode, hlater', and_self, if_true, backoffSeconds_of_lt hpause]
            exact ⟨_, rfl⟩
        | error e =>
            cases e with
            | transient text =>
                simp only [if_neg (not_le.2 hlater'), backoffSeconds_of_lt hpause]
                exact ⟨_, rfl⟩
            | other text =>
                rw [hanswer] at ht
                cases ht
      · refine Or.inl ⟨by simp [ends, hpause], ?_⟩
        rw [hover]
        cases hanswer : service attempt with
        | ok resp =>
            rw [hanswer] at ht
            have hcode : resp.statusCode ∈ retryableStatusCodes := of_decide_eq_true ht
            simp only [hcode, hlater', and_self, if_true, backoffSeconds_of_ge hpause]
        | error e =>
            cases e with
            | transient text =>
                simp only [if_neg (not_le.2 hlater'), backoffSeconds_of_ge hpause]
            | other text =>
                rw [hanswer] at ht
                cases ht

theorem requestLoop_eq {maxRetries : ℕ} (service : Service) (lastExc : Option String)
    {more attempt : ℕ} (hmore : attempt + more = maxRetries) :
    requestLoop maxRetries service (more + 1) attempt lastExc =
      (concludedAt maxRetries service (Attempts.stop (ends service) more attempt),
        Attempts.stop (ends service) more attempt + 1) := by
  induction more generalizing attempt lastExc with
  | zero =>
      obtain rfl : attempt = maxRetries := by omega
      exact requestLoop_last service lastExc 0 attempt
  | succ more ih =>
      have hlater : attempt < maxRetries := by omega
      rw [Attempts.stop]
      rcases requestLoop_round hlater service lastExc (more + 1) with
        ⟨hends, hround⟩ | ⟨hgoes, lastExc', hround⟩
      · rw [hround, if_pos hends]
      · rw [hround, hgoes, ih lastExc' (by omega)]
        rfl

/-- A call that may be repeated ends with its last attempt, and makes no request after it. -/
theorem requestWithRetry_eq (maxRetries : ℕ) (service : Service) :
    requestWithRetry maxRetries service =
      (concludedAt maxRetries service (lastAttempt maxRetries service),
        lastAttempt maxRetries service + 1) :=
  requestLoop_eq service none (Nat.zero_add maxRetries)

/-- Where all attempts are transient and all pauses are floats, the call ends with the last one
that is allowed. -/
theorem lastAttempt_of_transient {maxRetries : ℕ} {service : Service} (hle : maxRetries ≤ 1024)
    (h : ∀ i ≤ maxRetries, Transient (service i) = true) :
    lastAttempt maxRetries service = maxRetries := by
  apply Attempts.stop_eq (Nat.zero_le _) (by omega)
  · intro i _ hi
    exact ends_eq_false.2 ⟨h i hi.le, by omega⟩
  · exact Or.inr (Nat.zero_add _).symm

theorem lastAttempt_of_first {maxRetries i : ℕ} {service : Service} (hi : i ≤ maxRetries)
    (hpauses : i ≤ 1024) (hbefore : ∀ j < i, Transient (service j) = true)
    (hhere : Transient (service i) = false) :
    lastAttempt maxRetries service = i := by
  apply Attempts.stop_eq (Nat.zero_le _) (by omega)
  · intro j _ hj
    exact ends_eq_false.2 ⟨hbefore j hj, by omega⟩
  · simp [ends, hhere]

/-- Where a pause is no float, the call ends before it. -/
theorem lastAttempt_of_overflows {maxRetries : ℕ} {service : Service}
    (h : BackoffOverflows maxRetries service) : lastAttempt maxRetries service = 1024 := by
  have hretries : (1024 : ℤ) < maxRetries := h.1
  apply Attempts.stop_eq (Nat.zero_le _) (by omega)
  · intro j _ hj
    exact ends_eq_false.2 ⟨h.2 j hj.le, hj⟩
  · simp [ends]

theorem requestWithRetry_of_overflows {maxRetries : ℕ} {service : Service}
    (h : BackoffOverflows maxRetries service) :
    (requestWithRetry maxRetries service).1 = .error (.python .overflowError) := by
  have hretries : (1024 : ℤ) < maxRetries := h.1
  rw [requestWithRetry_eq, lastAttempt_of_overflows h]
  exact if_pos ⟨h.2 1024 le_rfl, by omega⟩

/-- A call whose pauses are floats ends with what its last attempt was. -/
theorem requestWithRetry_of_not_overflows {maxRetries : ℕ} {service : Service}
    (h : ¬BackoffOverflows maxRetries service) :
    (requestWithRetry maxRetries service).1 =
      concluded (service (lastAttempt maxRetries service)) := by
  rw [requestWithRetry_eq]
  refine if_neg fun ⟨htransient, hlater⟩ => h ?_
  have hends : ends service (lastAttempt maxRetries service) = true :=
    Attempts.settled_stop _ _ 0 (by rwa [Nat.zero_add])
  have hpause : 1024 ≤ lastAttempt maxRetries service := by
    simpa [ends, htransient] using hends
  refine ⟨by omega, fun i hi => ?_⟩
  rcases (hi.trans hpause).eq_or_lt with rfl | hlt
  · exact htransient
  · exact (ends_eq_false.1 (Attempts.settled_before_stop _ _ (Nat.zero_le i) hlt)).1

/-- A call makes at most one request more than it may be repeated. -/
theorem requestWithRetry_count_le (maxRetries : ℕ) (service : Service) :
    (requestWithRetry maxRetries service).2 ≤ maxRetries + 1 := by
  have hstop := Attempts.stop_le (ends service) maxRetries 0
  rw [requestWithRetry_eq, lastAttempt]
  omega

/-- A call returns the first response that is not to be repeated. -/
theorem requestWithRetry_of_first {maxRetries i : ℕ} {service : Service} {resp : HttpResponse}
    (hi : i ≤ maxRetries) (hpauses : i ≤ 1024) (hbefore : ∀ j < i, Transient (service j) = true)
    (hresp : service i = .ok resp) (hcode : resp.statusCode ∉ retryableStatusCodes) :
    (requestWithRetry maxRetries service).1 = .ok resp := by
  have hhere : Transient (service i) = false := by
    rw [hresp]
    exact decide_eq_false hcode
  rw [requestWithRetry_eq, lastAttempt_of_first hi hpauses hbefore hhere,
    concludedAt_of_not_transient hhere, hresp]
  rfl

/-!
## What a call makes of an answer
-/

/-- The body of an answer: JSON with the property, or no JSON at all. -/
def BodyMeets (P : Json → Prop) : Except BodyError Json → Prop
  | .ok data => P data
  | .error .valueError => True
  | .error (.other _) => False

/-- No pause is too long for a float, and if the call ends with an answer that is no error, its
body has the property. -/
def AnswerMeets (config : InherentConfig) (service : Service) (P : Json → Prop) : Prop :=
  ¬BackoffOverflows config.maxRetries service ∧
    ∀ resp, 0 ≤ config.maxRetries →
      service (lastAttempt config.maxRetries.toNat service) = .ok resp →
      resp.statusCode < 400 → BodyMeets P resp.json

/-- A property of what `fetchJson` ends with, where the errors of the client have it and other
exceptions do not, is a property of the answer. -/
theorem fetchJson_iff {config : InherentConfig} {call : String} {service : Service}
    {T : Except ClientError (HttpResponse × Json) → Prop} {P : Json → Prop}
    (hinherent : ∀ text, T (.error (.inherent text))) (hpython : ∀ e, ¬T (.error (.python e)))
    (hother : ∀ f, ¬T (.error (.other f))) (hok : ∀ resp data, T (.ok (resp, data)) ↔ P data) :
    T (fetchJson config call service) ↔ AnswerMeets config service P := by
  unfold fetchJson AnswerMeets
  rcases lt_or_ge config.maxRetries 0 with hneg | hretries
  · -- the loop has no round
    have hrounds : (config.maxRetries + 1).toNat = 0 := by omega
    rw [requestWithRetry, hrounds]
    refine iff_of_true (hinherent _) ⟨fun hover => ?_, fun resp h => absurd h (not_le.2 hneg)⟩
    have hlong := hover.1
    omega
  · obtain ⟨maxRetries, hnat⟩ := Int.eq_ofNat_of_zero_le hretries
    rw [hnat, Int.toNat_natCast]
    by_cases hover : BackoffOverflows maxRetries service
    · rw [requestWithRetry_of_overflows hover]
      exact iff_of_false (hpython _) fun h => h.1 hover
    rw [requestWithRetry_of_not_overflows hover, and_iff_right hover]
    cases hlast : service (lastAttempt maxRetries service) with
    | error e =>
        cases e with
        | transient text => exact iff_of_true (hinherent _) nofun
        | other text => exact iff_of_true (hinherent _) nofun
    | ok resp =>
        have hanswer : (∀ resp', 0 ≤ (maxRetries : ℤ) →
            (.ok resp : Except HttpError HttpResponse) = .ok resp' →
              resp'.statusCode < 400 → BodyMeets P resp'.json) ↔
              (resp.statusCode < 400 → BodyMeets P resp.json) := by
          constructor
          · exact fun h => h resp (Int.natCast_nonneg _) rfl
          · rintro h resp' - heq
            cases heq
            exact h
        rw [hanswer]
        simp only [concluded]
        rcases lt_or_ge resp.statusCode 400 with hcode | hcode
        · rw [if_neg (not_le.2 hcode), forall_prop_of_true hcode]
          cases resp.json with
          | ok data => exact hok resp data
          | error e =>
              cases e with
              | valueError => exact iff_of_true (hinherent _) trivial
              | other f => exact iff_of_false (hother f) id
        · rw [if_pos hcode]
          exact iff_of_true (hinherent _) fun h => absurd h (not_lt.2 hcode)

end RecoveryAgent.Memory
