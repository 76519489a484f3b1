import CryptoCollector.Network.RateLimit
import CryptoCollector.Network.StateStore

/-!
# Retries

`network/retry.py`. A response is classified, a policy decides about its retry, and the effect of
the decision on the quota group is applied. The draws of the random generator, the readings of the
clocks and `email.utils.parsedate_to_datetime` are arguments.

* `RetryPolicy.decide_lawful`: when a retry is allowed, and the delay of a decision.
* `applyQuotaRetryEffect_persists_iff`: which bans reach the store.
-/

namespace CryptoCollector.Network

open Lib

/-- `RetryAction`. -/
inductive RetryAction where
  | doNotRetry
  | backoff
  | throttle
  | ban
  deriving DecidableEq

/-- The exceptions of a retry, those of the store and those of the budget. -/
inductive RetryError where
  | valueError (message : String)
  /-- `astimezone` of a time that leaves the years of `datetime`. -/
  | overflowError
  | store (error : StoreError)
  | budget (error : BudgetError)
  deriving DecidableEq

/-- `_nonnegative_integer`. -/
def nonnegativeInteger (value : Int) (field : String) : Except RetryError Nat :=
  if value < 0 then .error (.valueError (field ++ " must be a non-negative integer"))
  else .ok value.toNat

/-- `RetryClassification`. -/
@[ext]
structure RetryClassification where
  action : RetryAction
  retryAfter : Option String
  reason : String
  reason_ne : reason ≠ ""

instance : DecidableEq RetryClassification := fun _ _ => decidable_of_iff' _ RetryClassification.ext_iff

/-- `RetryDecision`. -/
@[ext]
structure RetryDecision where
  retry : Bool
  delayNs : Nat
  action : RetryAction
  cause : String
  reason : String
  cause_ne : cause ≠ ""
  reason_ne : reason ≠ ""

instance : DecidableEq RetryDecision := fun _ _ => decidable_of_iff' _ RetryDecision.ext_iff

/-- `_RETRYABLE_HTTP_STATUSES`. -/
def retryableHttpStatuses : List Int := [408, 425, 500, 502, 503, 504]

/-- `classify_http`. -/
def classifyHttp (status : Int) (retryAfter : Option String) (explicitBan : Bool) :
    Except RetryError RetryClassification :=
  if ¬ (100 ≤ status ∧ status ≤ 599) then
    .error (.valueError "status must be an HTTP status integer")
  else if explicitBan then .ok ⟨.ban, retryAfter, "exchange_ban", by decide⟩
  else if status = 418 then .ok ⟨.ban, retryAfter, "http_418", by decide⟩
  else if status = 429 then .ok ⟨.throttle, retryAfter, "http_429", by decide⟩
  else
    let reason := "http_" ++ toString status
    have hreason : reason ≠ "" := by simp [reason]
    if status ∈ retryableHttpStatuses then .ok ⟨.backoff, retryAfter, reason, hreason⟩
    else .ok ⟨.doNotRetry, retryAfter, reason, hreason⟩

/-! ## `Retry-After` -/

/-- What becomes of a date: `parsedate_to_datetime`, the check of its time zone, and
`_datetime_to_unix_ns`. -/
inductive ParsedDate where
  /-- The parser raises, or finds no time zone. -/
  | rejected
  /-- Its conversion to UTC raises. -/
  | outOfRange
  | at (unixNs : Int)
  deriving DecidableEq

/-- The time of a date that is neither rejected nor out of range. -/
def ParsedDate.unixNs? : ParsedDate → Option Int
  | .at unixNs => some unixNs
  | _ => none

/-- `_NANOSECONDS_PER_SECOND`. -/
def nanosecondsPerSecond : Nat := 1000000000

/-- `_MAX_DELAY_SECONDS_DIGITS`. -/
def maxDelaySecondsDigits : Nat := 20

/-- `_DELAY_SECONDS.fullmatch`. -/
def isDelaySeconds (value : String) : Bool := !value.toList.isEmpty && value.toList.all Char.isDigit

/-- `parse_retry_after_ns`. -/
def parseRetryAfterNs (parseDate : String → ParsedDate) (value : Option String) (nowUnixNs : Int) :
    Except RetryError (Option Nat) :=
  match value with
  | none => .ok none
  | some value =>
    if value = "" then .ok none
    else if isDelaySeconds value then
      if maxDelaySecondsDigits < value.length then .ok none
      else .ok (some (digitsValue value.toList * nanosecondsPerSecond))
    else do
      let nowUnixNs ← nonnegativeInteger nowUnixNs "now_unix_ns"
      match parseDate value with
      | .rejected => return none
      | .outOfRange => throw .overflowError
      | .at targetUnixNs => return some (targetUnixNs - nowUnixNs).toNat

/-! ## Jitter -/

/-- `int.bit_length`. -/
def bitLength (n : Nat) : Nat := if n = 0 then 0 else n.log2 + 1

/-- `_exponential_limit`. -/
def exponentialLimit (attempt baseNs capNs : Nat) : Nat :=
  if capNs ≤ baseNs ∨ bitLength capNs < attempt then capNs
  else min capNs (baseNs * 2 ^ attempt)

/-- `random.Random`: `randrange n` is what `rng.randrange(n + 1)` draws. -/
abbrev Random := (n : Nat) → Fin (n + 1)

/-! ## The policy -/

/-- `RetryPolicy`, apart from its clock and its random generator. -/
structure RetryPolicy where
  maxAttempts : Nat
  baseNs : Nat
  capNs : Nat
  maxAttempts_pos : 0 < maxAttempts
  baseNs_pos : 0 < baseNs
  capNs_pos : 0 < capNs

/-- The defaults of `retry_policy`. -/
def retryPolicy : RetryPolicy where
  maxAttempts := 5
  baseNs := 250000000
  capNs := 30000000000
  maxAttempts_pos := by decide
  baseNs_pos := by decide
  capNs_pos := by decide

namespace RetryPolicy

/-- `full_jitter_ns`. -/
def fullJitterNs (p : RetryPolicy) (attempt : Nat) (rng : Random) : Nat :=
  rng (exponentialLimit attempt p.baseNs p.capNs)

/-- `selected` in `decide`. -/
def select (retryAfter : Option String) (classification : Option RetryClassification) :
    Except RetryError RetryClassification :=
  match classification with
  | some c =>
    if retryAfter.isSome then
      .error (.valueError "retry_after is already carried by classification")
    else .ok c
  | none => .ok ⟨.backoff, retryAfter, "transient_failure", by decide⟩

/-- `retry_after_wall_ns` in `decide`; `wallNs` is what `clock.time_ns()` returns. -/
def retryAfterWallNs (wallNs : Int) (value : String) : Except RetryError Nat :=
  if isDelaySeconds value then .ok 0 else nonnegativeInteger wallNs "clock.time_ns()"

/-- `parsed_retry_after_ns` in `decide`. -/
def parsedRetryAfterNs (parseDate : String → ParsedDate) (wallNs : Int) :
    Option String → Except RetryError (Option Nat)
  | none => .ok none
  | some value => do
    let wall ← retryAfterWallNs wallNs value
    parseRetryAfterNs parseDate (some value) wall

/-- The last part of `decide`, for a classification that may be retried. -/
def decideDelay (p : RetryPolicy) (selected : RetryClassification) (attempt remainingNs : Nat)
    (parsedRetryAfterNs : Option Nat) (jitterNs : Nat) : RetryDecision :=
  let delayNs := max (parsedRetryAfterNs.getD 0) jitterNs
  let decision (retry : Bool) (reason : String) (h : reason ≠ "") : RetryDecision :=
    ⟨retry, delayNs, selected.action, selected.reason, reason, selected.reason_ne, h⟩
  if p.maxAttempts ≤ attempt then decision false "attempt_limit" (by decide)
  else if parsedRetryAfterNs.any (remainingNs < ·) then
    decision false "retry_after_exceeds_deadline" (by decide)
  else if remainingNs < delayNs then decision false "backoff_exceeds_deadline" (by decide)
  else decision true selected.reason selected.reason_ne

/-- `decide`. -/
def decide (p : RetryPolicy) (parseDate : String → ParsedDate) (rng : Random) (wallNs : Int)
    (attempt nowNs deadlineNs : Int) (retryAfter : Option String)
    (classification : Option RetryClassification) : Except RetryError RetryDecision := do
  let attempt ← nonnegativeInteger attempt "attempt"
  let nowNs ← nonnegativeInteger nowNs "now_ns"
  let deadlineNs ← nonnegativeInteger deadlineNs "deadline_ns"
  checked (if deadlineNs < nowNs then some (.valueError "deadline_ns cannot precede now_ns")
    else none) do
  let selected ← select retryAfter classification
  if selected.action = .doNotRetry then
    return ⟨false, 0, selected.action, selected.reason, selected.reason, selected.reason_ne,
      selected.reason_ne⟩
  else
    let parsedRetryAfterNs ← parsedRetryAfterNs parseDate wallNs selected.retryAfter
    return p.decideDelay selected attempt (deadlineNs - nowNs) parsedRetryAfterNs
      (p.fullJitterNs attempt rng)

end RetryPolicy

/-! ## The effect -/

/-- `apply_quota_retry_effect`, on the database of an open store and a budget, whose clock shows
`clock`. -/
def applyQuotaRetryEffect (decision : RetryDecision) (exchange quotaGroup : String)
    (nowUnixNs : Int) (throttleMultiplier minimumRefillPerSecond : DecimalInput) (clock : Int)
    (fault : Option StoreError) (db : Database) (budget : TokenBucket) :
    Except RetryError (Database × TokenBucket) :=
  match decision.action with
  | .ban => do
    let nowUnixNs ← nonnegativeInteger nowUnixNs "now_unix_ns"
    match recordBan exchange quotaGroup (nowUnixNs + decision.delayNs : Nat) decision.cause fault
        db with
    | .error e => throw (.store e)
    | .ok db => return (db, budget)
  | .throttle =>
    match budget.shrink throttleMultiplier minimumRefillPerSecond clock with
    | .error e => throw (.budget e)
    | .ok budget => return (db, budget)
  | .doNotRetry => return (db, budget)
  | .backoff => return (db, budget)

/-! ## The delay of a decision -/

theorem nonnegativeInteger_ok {value : Int} {field : String} {n : Nat}
    (h : nonnegativeInteger value field = .ok n) : value = n := by
  unfold nonnegativeInteger at h
  split at h
  · cases h
  · cases h
    omega

namespace RetryPolicy

variable {p : RetryPolicy} {parseDate : String → ParsedDate} {rng : Random}
  {wallNs attempt nowNs deadlineNs : Int} {retryAfter : Option String} {d : RetryDecision}

/-- Whatever it decides, it keeps the action and the cause, and waits for what is asked and for the
jitter. -/
theorem decideDelay_spec (p : RetryPolicy) (selected : RetryClassification)
    (attempt remainingNs : Nat) (parsed : Option Nat) (jitterNs : Nat) :
    let d := p.decideDelay selected attempt remainingNs parsed jitterNs
    d.action = selected.action ∧ d.cause = selected.reason ∧
      d.delayNs = max (parsed.getD 0) jitterNs := by
  unfold decideDelay
  dsimp only
  split_ifs <;> exact ⟨rfl, rfl, rfl⟩

theorem select_eq_ok {c selected : RetryClassification}
    (h : select retryAfter (some c) = .ok selected) : selected = c := by
  unfold select at h
  dsimp only at h
  split at h
  · cases h
  · cases h
    rfl

/-- What `decide` has done when it returns: it has selected a classification, and has read the
header and drawn the jitter unless there is nothing to retry. -/
theorem decide_cases {classification : Option RetryClassification}
    (h : p.decide parseDate rng wallNs attempt nowNs deadlineNs retryAfter classification = .ok d) :
    ∃ n now deadline : Nat, attempt = n ∧ nowNs = now ∧ deadlineNs = deadline ∧ now ≤ deadline ∧
      ∃ selected, select retryAfter classification = .ok selected ∧
        d.action = selected.action ∧ d.cause = selected.reason ∧
        (selected.action = .doNotRetry ∧ d.retry = false ∧ d.delayNs = 0 ∨
          selected.action ≠ .doNotRetry ∧
            ∃ parsed, parsedRetryAfterNs parseDate wallNs selected.retryAfter = .ok parsed ∧
              d = p.decideDelay selected n (deadline - now) parsed (p.fullJitterNs n rng)) := by
  unfold decide at h
  simp only [bind_eq_ok, checked_eq_ok, ite_eq_right_iff, reduceCtorEq, imp_false, not_lt] at h
  obtain ⟨n, hn, now, hnow, deadline, hdeadline, hle, selected, hselected, h⟩ := h
  refine ⟨n, now, deadline, nonnegativeInteger_ok hn, nonnegativeInteger_ok hnow,
    nonnegativeInteger_ok hdeadline, hle, selected, hselected, ?_⟩
  split at h
  · next hretry =>
    cases h
    exact ⟨rfl, rfl, .inl ⟨hretry, rfl, rfl⟩⟩
  · next hretry =>
    obtain ⟨parsed, hparsed, h⟩ := bind_eq_ok.mp h
    cases h
    obtain ⟨haction, hcause, -⟩ := decideDelay_spec p selected n (deadline - now) parsed
      (p.fullJitterNs n rng)
    exact ⟨haction, hcause, .inr ⟨hretry, parsed, hparsed, rfl⟩⟩

/-- The decision for a classification. -/
theorem decide_eq_ok {c : RetryClassification}
    (h : p.decide parseDate rng wallNs attempt nowNs deadlineNs retryAfter (some c) = .ok d) :
    d.action = c.action ∧ d.cause = c.reason ∧ (c.action = .doNotRetry ∨
      ∃ parsed, parsedRetryAfterNs parseDate wallNs c.retryAfter = .ok parsed ∧
        d.delayNs = max (parsed.getD 0) (p.fullJitterNs attempt.toNat rng)) := by
  obtain ⟨n, now, deadline, rfl, -, -, -, selected, hselected, haction, hcause, h⟩ :=
    decide_cases h
  cases select_eq_ok hselected
  refine ⟨haction, hcause, h.imp And.left ?_⟩
  rintro ⟨-, parsed, hparsed, rfl⟩
  exact ⟨parsed, hparsed, (decideDelay_spec p c n _ parsed _).2.2⟩

/-! ### When a retry is allowed -/

/-- A retry is allowed below the limit of attempts, and when its delay ends by the deadline. -/
theorem decideDelay_retry {selected : RetryClassification} {n remainingNs jitterNs : Nat}
    {parsed : Option Nat}
    (h : (p.decideDelay selected n remainingNs parsed jitterNs).retry = true) :
    n < p.maxAttempts ∧ max (parsed.getD 0) jitterNs ≤ remainingNs := by
  unfold decideDelay at h
  dsimp only at h
  split_ifs at h with hlimit hheader hbackoff
  exact ⟨not_le.mp hlimit, not_lt.mp hbackoff⟩

/-- Beyond the length of a number in bits its powers of two are larger. -/
theorem lt_two_pow_of_bitLength_lt {n attempt : Nat} (h : bitLength n < attempt) :
    n < 2 ^ attempt := by
  unfold bitLength at h
  split at h
  · next hzero =>
    rw [hzero]
    exact Nat.two_pow_pos attempt
  · calc n < 2 ^ (n.log2 + 1) := Nat.lt_log2_self
      _ ≤ 2 ^ attempt := Nat.pow_le_pow_right Nat.two_pos h.le

/-- The shortcut is exact: beyond it the power alone is over the cap. -/
theorem exponentialLimit_eq {baseNs : Nat} (hbase : 0 < baseNs) (attempt capNs : Nat) :
    exponentialLimit attempt baseNs capNs = min capNs (baseNs * 2 ^ attempt) := by
  unfold exponentialLimit
  split
  · next hshort =>
    refine (min_eq_left ?_).symm
    rcases hshort with hle | hlong
    · exact hle.trans (Nat.le_mul_of_pos_right _ (Nat.two_pow_pos attempt))
    · exact (lt_two_pow_of_bitLength_lt hlong).le.trans (Nat.le_mul_of_pos_left _ hbase)
  · rfl

/-- A decision that allows a retry has an action that may be retried, is below the limit of
attempts, ends by the deadline, and waits for what the header asks. The jitter is within the
unbounded exponential and the cap. The delay does not depend on whether the retry is refused: it
is that of every policy with the same base and cap, whatever its limit, the time and the
deadline. -/
theorem decide_lawful {classification : Option RetryClassification}
    (h : p.decide parseDate rng wallNs attempt nowNs deadlineNs retryAfter classification = .ok d) :
    (d.retry = true → d.action ≠ .doNotRetry ∧ attempt < p.maxAttempts ∧
      nowNs + d.delayNs ≤ deadlineNs ∧
      ∀ selected parsed, select retryAfter classification = .ok selected →
        parsedRetryAfterNs parseDate wallNs selected.retryAfter = .ok (some parsed) →
        parsed ≤ d.delayNs) ∧
    p.fullJitterNs attempt.toNat rng ≤ min p.capNs (p.baseNs * 2 ^ attempt.toNat) ∧
    (∀ n baseNs capNs, 0 < baseNs →
      exponentialLimit n baseNs capNs = min capNs (baseNs * 2 ^ n)) ∧
    ∀ (p' : RetryPolicy) (nowNs' deadlineNs' : Int) (d' : RetryDecision),
      p'.baseNs = p.baseNs → p'.capNs = p.capNs →
      p'.decide parseDate rng wallNs attempt nowNs' deadlineNs' retryAfter classification =
        .ok d' → d'.action = d.action ∧ d'.delayNs = d.delayNs := by
  obtain ⟨n, now, deadline, rfl, rfl, rfl, hle, selected, hselected, haction, -, hcases⟩ :=
    decide_cases h
  refine ⟨fun hretry => ?_, ?_, fun n baseNs capNs hbase => exponentialLimit_eq hbase n capNs,
    fun p' nowNs' deadlineNs' d' hbase hcap h' => ?_⟩
  · rcases hcases with ⟨-, hrefused, -⟩ | ⟨hother, parsed, hparsed, rfl⟩
    · rw [hrefused] at hretry
      cases hretry
    · obtain ⟨hlimit, hdelay⟩ := decideDelay_retry hretry
      obtain ⟨-, -, hdelayNs⟩ := decideDelay_spec p selected n (deadline - now) parsed
        (p.fullJitterNs n rng)
      rw [haction, hdelayNs]
      refine ⟨hother, by exact_mod_cast hlimit, by omega, fun selected' asked hselected' hasked => ?_⟩
      rw [hselected] at hselected'
      cases hselected'
      rw [hparsed] at hasked
      cases hasked
      exact le_max_left _ _
  · rw [← exponentialLimit_eq p.baseNs_pos]
    exact Fin.is_le _
  · obtain ⟨n', now', deadline', hn, -, -, -, selected', hselected', haction', -, hcases'⟩ :=
      decide_cases h'
    obtain rfl : n = n' := by exact_mod_cast hn
    rw [hselected] at hselected'
    cases hselected'
    refine ⟨haction'.trans haction.symm, ?_⟩
    rcases hcases with ⟨hstop, -, hzero⟩ | ⟨hother, parsed, hparsed, rfl⟩
    · rcases hcases' with ⟨-, -, hzero'⟩ | ⟨hother', -⟩
      · rw [hzero, hzero']
      · exact absurd hstop hother'
    · rcases hcases' with ⟨hstop', -⟩ | ⟨-, parsed', hparsed', rfl⟩
      · exact absurd hstop' hother
      · rw [hparsed] at hparsed'
        cases hparsed'
        have hjitter : p'.fullJitterNs n rng = p.fullJitterNs n rng := by
          unfold fullJitterNs
          rw [hbase, hcap]
        rw [(decideDelay_spec p' selected n _ parsed _).2.2,
          (decideDelay_spec p selected n _ parsed _).2.2, hjitter]

/-- A throttled first attempt that has to wait a second, with two seconds left. -/
def throttledDecision : RetryDecision :=
  ⟨true, 1000000000, .throttle, "http_429", "http_429", by decide, by decide⟩

theorem throttled_lawful : throttledDecision.retry = true ∧
    (5 : Int) + throttledDecision.delayNs ≤ 2000000005 := by
  have hdecide : retryPolicy.decide (fun _ => .rejected) (fun n => Fin.last n) 0 0 5 2000000005 none
      (some ⟨.throttle, some "1", "http_429", by decide⟩) = .ok throttledDecision := by
    decide +kernel
  exact ⟨rfl, ((decide_lawful hdecide).1 rfl).2.2.1⟩

end RetryPolicy

/-! ## Bans that reach the store -/

/-- The deadline that a `Retry-After` asks for fits its column. -/
def RetryAfterFits (parseDate : String → ParsedDate) (wallNs : Int) (nowUnixNs : Nat) :
    Option String → Prop
  | none => True
  | some value =>
    if isDelaySeconds value then
      value.length ≤ maxDelaySecondsDigits →
        ((nowUnixNs + digitsValue value.toList * nanosecondsPerSecond : Nat) : Int) ≤ maxInteger
    else value ≠ "" → ∀ targetUnixNs ∈ (parseDate value).unixNs?,
      nowUnixNs + (targetUnixNs - wallNs) ≤ maxInteger

instance (parseDate : String → ParsedDate) (wallNs : Int) (nowUnixNs : Nat) :
    DecidablePred (RetryAfterFits parseDate wallNs nowUnixNs)
  | none => .isTrue trivial
  | some value => inferInstanceAs (Decidable (if isDelaySeconds value then
      value.length ≤ maxDelaySecondsDigits →
        ((nowUnixNs + digitsValue value.toList * nanosecondsPerSecond : Nat) : Int) ≤ maxInteger
    else value ≠ "" → ∀ targetUnixNs ∈ (parseDate value).unixNs?,
      nowUnixNs + (targetUnixNs - wallNs) ≤ maxInteger))

/-- The parsed `Retry-After` fits if the text does. -/
theorem parsedRetryAfterNs_fits {parseDate : String → ParsedDate} {wallNs : Int}
    {retryAfter : Option String} {parsed : Option Nat} {nowUnixNs : Nat}
    (hnow : (nowUnixNs : Int) ≤ maxInteger)
    (h : RetryPolicy.parsedRetryAfterNs parseDate wallNs retryAfter = .ok parsed) :
    ((nowUnixNs + parsed.getD 0 : Nat) : Int) ≤ maxInteger ↔
      RetryAfterFits parseDate wallNs nowUnixNs retryAfter := by
  cases retryAfter with
  | none =>
    cases h
    simpa [RetryAfterFits] using hnow
  | some value =>
    unfold RetryPolicy.parsedRetryAfterNs at h
    obtain ⟨wall, hwall, h⟩ := bind_eq_ok.mp h
    dsimp only [RetryAfterFits]
    by_cases hdigits : isDelaySeconds value = true
    · have hne : value ≠ "" := by
        rintro rfl
        cases hdigits
      simp only [parseRetryAfterNs, if_neg hne, if_pos hdigits] at h ⊢
      split at h
      · next hlong =>
        cases h
        simpa [Nat.not_le.mpr hlong] using hnow
      · next hshort =>
        cases h
        simp [Nat.not_lt.mp hshort]
    · rw [RetryPolicy.retryAfterWallNs, if_neg hdigits] at hwall
      rw [if_neg hdigits]
      by_cases hne : value = ""
      · simp only [parseRetryAfterNs, if_pos hne] at h
        cases h
        simpa [hne] using hnow
      · simp only [parseRetryAfterNs, if_neg hne, if_neg hdigits] at h
        obtain ⟨wall', hwall', h⟩ := bind_eq_ok.mp h
        have hwallNs : wallNs = wall' :=
          (nonnegativeInteger_ok hwall).trans (nonnegativeInteger_ok hwall')
        split at h
        · next hdate =>
          cases h
          simpa [hne, hdate, ParsedDate.unixNs?] using hnow
        · cases h
        · next targetUnixNs hdate =>
          cases h
          simp only [hne, hdate, ParsedDate.unixNs?, ne_eq, not_false_eq_true, forall_const,
            Option.mem_some_iff, forall_eq', Option.getD_some]
          omega

/-- What `record_ban` does in an open store. -/
theorem recordBan_eq {exchange quotaGroup reason : String} (hexchange : exchange ≠ "")
    (hgroup : quotaGroup ≠ "") (hreason : reason ≠ "") (untilNs : Nat) (db : Database) :
    recordBan exchange quotaGroup untilNs reason none db =
      if (untilNs : Int) ≤ maxInteger then
        .ok (db.setQuota (exchange, quotaGroup) (.restrict .banUntilNs untilNs reason
          (db.quotaState.get? (exchange, quotaGroup))))
      else .error .overflowError := by
  have hnonnegative : nonnegative untilNs "until_unix_ns" = none :=
    nonnegative_eq_none.mpr (Int.natCast_nonneg _)
  by_cases h : (untilNs : Int) ≤ maxInteger
  · simp [recordBan, recordQuotaRestriction, nonempty, hexchange, hgroup, hreason, hnonnegative,
      bindInteger_eq_none.mpr h, h, checked]
  · simp [recordBan, recordQuotaRestriction, nonempty, hexchange, hgroup, hreason, hnonnegative,
      bindInteger, not_le.mp h, h, checked]

/-- A ban restricts at least until its deadline, and at least as long as before. -/
theorem restrict_ban (untilNs : Nat) (reason : String) (row : Option QuotaState) :
    let s : QuotaState := .restrict .banUntilNs untilNs reason row
    untilNs ≤ s.restrictionUntilUnixNs ∧
    (row.getD {}).restrictionUntilUnixNs ≤ s.restrictionUntilUnixNs ∧ s.requiresProbe = true := by
  cases row with
  | none => simp [QuotaState.restrict, QuotaState.restrictionUntilUnixNs, QuotaState.requiresProbe]
  | some row =>
    simp only [QuotaState.restrict, QuotaState.restrictionUntilUnixNs, QuotaState.requiresProbe,
      Option.getD_some, Option.isSome_some, and_true]
    omega

/-- The effect of a ban has reached the store. -/
def Persisted (decision : RetryDecision) (key : Key) (nowUnixNs : Nat) (db : Database)
    (result : Except RetryError (Database × TokenBucket)) : Prop :=
  ∃ db' budget, result = .ok (db', budget) ∧
    nowUnixNs + decision.delayNs ≤ (db'.loadQuota key).restrictionUntilUnixNs ∧
    (db.loadQuota key).restrictionUntilUnixNs ≤ (db'.loadQuota key).restrictionUntilUnixNs ∧
    (db'.loadQuota key).requiresProbe = true

theorem persisted_iff {d : RetryDecision} (hban : d.action = .ban) {exchange quotaGroup : String}
    (hexchange : exchange ≠ "") (hgroup : quotaGroup ≠ "") (nowUnixNs : Nat)
    (multiplier floor : DecimalInput) (clock : Int) (db : Database) (budget : TokenBucket) :
    Persisted d (exchange, quotaGroup) nowUnixNs db (applyQuotaRetryEffect d exchange quotaGroup
      nowUnixNs multiplier floor clock none db budget) ↔
    ((nowUnixNs + d.delayNs : Nat) : Int) ≤ maxInteger := by
  have heffect : applyQuotaRetryEffect d exchange quotaGroup nowUnixNs multiplier floor clock none
      db budget = match recordBan exchange quotaGroup (nowUnixNs + d.delayNs : Nat) d.cause none db
        with
      | .error e => .error (.store e)
      | .ok db => .ok (db, budget) := by
    unfold applyQuotaRetryEffect
    rw [hban]
    rfl
  rw [heffect, recordBan_eq hexchange hgroup d.cause_ne]
  unfold Persisted
  split
  · next h =>
    split at h
    · cases h
    · next hlarge =>
      constructor
      · rintro ⟨_, _, hresult, -⟩
        cases hresult
      · exact fun hfits => absurd hfits hlarge
  · next db' h =>
    split at h
    · next hfits =>
      cases h
      refine iff_of_true ⟨_, budget, rfl, ?_⟩ hfits
      simpa [Database.loadQuota, Database.setQuota] using
        restrict_ban (nowUnixNs + d.delayNs) d.cause (db.quotaState.get? (exchange, quotaGroup))
    · cases h

/-- A decided ban is persisted if and only if the jitter and what `Retry-After` asks for end within
the column. -/
theorem applyQuotaRetryEffect_persists_iff (p : RetryPolicy) (parseDate : String → ParsedDate)
    (rng : Random) (wallNs attempt nowNs deadlineNs : Int) (retryAfter : Option String)
    (c : RetryClassification) (d : RetryDecision)
    (hdecide : p.decide parseDate rng wallNs attempt nowNs deadlineNs retryAfter (some c) = .ok d)
    (hban : d.action = .ban) (exchange quotaGroup : String) (hexchange : exchange ≠ "")
    (hgroup : quotaGroup ≠ "") (nowUnixNs : Nat) (multiplier floor : DecimalInput) (clock : Int)
    (db : Database) (budget : TokenBucket) :
    Persisted d (exchange, quotaGroup) nowUnixNs db (applyQuotaRetryEffect d exchange quotaGroup
      nowUnixNs multiplier floor clock none db budget) ↔
    ((nowUnixNs + p.fullJitterNs attempt.toNat rng : Nat) : Int) ≤ maxInteger ∧
      RetryAfterFits parseDate wallNs nowUnixNs c.retryAfter := by
  rw [persisted_iff hban hexchange hgroup]
  obtain ⟨haction, -, hretry | ⟨parsed, hparsed, hdelay⟩⟩ := RetryPolicy.decide_eq_ok hdecide
  · rw [hban, hretry] at haction
    cases haction
  rw [hdelay]
  constructor
  · intro h
    exact ⟨by omega, (parsedRetryAfterNs_fits (by omega) hparsed).mp (by omega)⟩
  · rintro ⟨hjitter, hfits⟩
    have := (parsedRetryAfterNs_fits (by omega) hparsed).mpr hfits
    omega

/-- The response `418` with a `Retry-After` in seconds. -/
def teapot (retryAfter : String) : RetryClassification :=
  ⟨.ban, some retryAfter, "http_418", by decide⟩

/-- The decision about a first attempt with no jitter and no time left. -/
def teapotDecision (delayNs : Nat) : RetryDecision :=
  ⟨false, delayNs, .ban, "http_418", "retry_after_exceeds_deadline", by decide, by decide⟩

theorem sixtySeconds_persists : Persisted (teapotDecision 60000000000) ("binance", "main")
    1700000000000000000 {} (applyQuotaRetryEffect (teapotDecision 60000000000) "binance" "main"
      1700000000000000000 (.finite (1 / 2)) (.int 0) 0 none {} ⟨10, 10, 1, 1, 10, 5⟩) :=
  (applyQuotaRetryEffect_persists_iff retryPolicy (fun _ => .rejected) (fun _ => 0) 0 0 0 0 none
    (teapot "60") (teapotDecision 60000000000) (by decide +kernel) rfl "binance" "main" (by decide)
    (by decide) 1700000000000000000 (.finite (1 / 2)) (.int 0) 0 {} ⟨10, 10, 1, 1, 10, 5⟩).mpr
    (by decide +kernel)

/-- A ban of three hundred years is accepted, decided, and lost. -/
theorem threeCenturies_lost : ∃ c d, classifyHttp 418 (some "9999999999") false = .ok c ∧
    retryPolicy.decide (fun _ => .rejected) (fun _ => 0) 0 0 0 0 none (some c) = .ok d ∧
    d.action = .ban ∧
    applyQuotaRetryEffect d "binance" "main" 1700000000000000000 (.finite (1 / 2)) (.int 0) 0 none
      {} ⟨10, 10, 1, 1, 10, 5⟩ = .error (.store .overflowError) :=
  ⟨teapot "9999999999", teapotDecision 9999999999000000000, by decide +kernel, by decide +kernel,
    rfl, by decide +kernel⟩

end CryptoCollector.Network
