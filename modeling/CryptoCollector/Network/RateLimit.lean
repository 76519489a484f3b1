import CryptoCollector.Lib.Dict
import Mathlib.Algebra.Order.Field.Rat
import Mathlib.Tactic.Linarith
import Mathlib.Tactic.Positivity
import Mathlib.Tactic.Ring

/-!
# Token buckets

`network/rate_limit.py: TokenBucket, BudgetRegistry`. The code chooses the precision of every calculation so that
no digit is lost (`_calculation_precision`), so a finite `Decimal` is its rational value here.

* `Sound`: the bounds of the tokens and of the refill rate.
* `Moved`: what one operation can do to a bucket. What it acquires and what it leaves was in the
  bucket before or has been refilled since.
* `run_within_quota`: the bounds and the quota of every run, whatever the clock samples are.
-/

namespace CryptoCollector.Network

/-- The exceptions of the rate limiter, with their messages. -/
inductive BudgetError where
  | valueError (message : String)
  | keyError
  deriving DecidableEq

/-- `DecimalInput = int | Decimal`. -/
inductive DecimalInput where
  | int (n : Int)
  | finite (q : ℚ)
  /-- A `Decimal` that is infinite or not a number. -/
  | special
  deriving DecidableEq

/-- The value of a finite input. -/
def DecimalInput.value? : DecimalInput → Option ℚ
  | .int n => some n
  | .finite q => some q
  | .special => none

/-- `_decimal_input`. -/
def decimalInput (value : DecimalInput) (field : String) (allowZero : Bool) :
    Except BudgetError ℚ :=
  match value.value? with
  | none => .error (.valueError (field ++ " must be finite and non-negative"))
  | some q =>
    if q < 0 then .error (.valueError (field ++ " must be finite and non-negative"))
    else if !allowZero ∧ q = 0 then .error (.valueError (field ++ " must be positive"))
    else .ok q

theorem decimalInput_nonneg {value : DecimalInput} {field : String} {allowZero : Bool} {q : ℚ}
    (h : decimalInput value field allowZero = .ok q) : 0 ≤ q := by
  unfold decimalInput at h
  split at h
  · cases h
  split at h
  · cases h
  split at h
  · cases h
  · rename_i hq _
    cases h
    exact not_lt.mp hq

/-- `_nonnegative_nanoseconds`. -/
def nonnegativeNanoseconds (value : Int) (field : String) : Except BudgetError Nat :=
  if value < 0 then .error (.valueError (field ++ " must be a non-negative integer"))
  else .ok value.toNat

/-- The time that `_refill` works with: its argument, else a reading of the clock. -/
def sampleNs (clock : Int) : Option Int → Except BudgetError Nat
  | none => nonnegativeNanoseconds clock "clock.monotonic_ns()"
  | some now => nonnegativeNanoseconds now "now_ns"

/-- The value of a string of digits. -/
def digitsValue (cs : List Char) : Nat := cs.foldl (fun n c => 10 * n + (c.toNat - 48)) 0

/-- `Decimal(raw_available)` for a text that `_NONNEGATIVE_DECIMAL_TEXT` matches. -/
def parseDecimalText (raw : String) : Option ℚ :=
  let whole := raw.toList.takeWhile Char.isDigit
  if whole.isEmpty then none
  else
    match raw.toList.dropWhile Char.isDigit with
    | [] => some (digitsValue whole)
    | '.' :: fraction =>
      if fraction.isEmpty ∨ !fraction.all Char.isDigit then none
      else some (digitsValue (whole ++ fraction) / 10 ^ fraction.length)
    | _ => none

theorem parseDecimalText_nonneg {raw : String} {q : ℚ} (h : parseDecimalText raw = some q) :
    0 ≤ q := by
  unfold parseDecimalText at h
  dsimp only at h
  split at h
  · cases h
  split at h
  · cases h
    positivity
  · split at h
    · cases h
    · cases h
      positivity
  · cases h

/-- `TokenBucket`; the clock is an argument of its operations. -/
structure TokenBucket where
  hardCapacity : ℚ
  capacity : ℚ
  hardRefillPerSecond : ℚ
  refillPerSecond : ℚ
  tokens : ℚ
  lastRefillNs : Nat
  deriving DecidableEq

namespace TokenBucket

/-- `TokenBucket.__init__`; `clock` is the reading of the clock. -/
def new (capacity refillPerSecond : DecimalInput) (clock : Int) : Except BudgetError TokenBucket :=
  do
  let hardCapacity ← decimalInput capacity "capacity" false
  let hardRefill ← decimalInput refillPerSecond "refill_per_second" false
  let now ← nonnegativeNanoseconds clock "clock.monotonic_ns()"
  return ⟨hardCapacity, hardCapacity, hardRefill, hardRefill, hardCapacity, now⟩

/-- What is replenished in a time, at the current rate. -/
def replenished (b : TokenBucket) (elapsedNs : Nat) : ℚ :=
  b.refillPerSecond * elapsedNs / 1000000000

/-- `_refill` at a valid time. -/
def refillAt (now : Nat) (b : TokenBucket) : TokenBucket :=
  if now ≤ b.lastRefillNs then b
  else { b with
    tokens := min b.capacity (b.tokens + b.replenished (now - b.lastRefillNs))
    lastRefillNs := now }

/-- The cost of an acquisition, if the bucket can ever hold it. -/
def checkCost (b : TokenBucket) (cost : DecimalInput) : Except BudgetError ℚ := do
  let cost ← decimalInput cost "cost" false
  if b.hardCapacity < cost then
    throw (.valueError "cost cannot exceed the bucket hard capacity")
  return cost

/-- The tokens of a refilled bucket are taken if there are enough. -/
def take (cost : ℚ) (b : TokenBucket) : Bool × TokenBucket :=
  if b.tokens < cost then (false, b) else (true, { b with tokens := b.tokens - cost })

/-- `try_acquire`. -/
def tryAcquire (cost : DecimalInput) (nowNs : Option Int) (clock : Int) (b : TokenBucket) :
    Except BudgetError (Bool × TokenBucket) := do
  let cost ← b.checkCost cost
  let now ← sampleNs clock nowNs
  return (b.refillAt now).take cost

/-- The time at which a refilled bucket can pay a cost that it cannot pay yet: integer division
rounds the wait up. -/
def waitUntil (cost : ℚ) (b : TokenBucket) : Option Int :=
  if cost ≤ b.tokens then some b.lastRefillNs
  else if b.refillPerSecond = 0 then none
  else
    let missingNumerator := cost.num * b.tokens.den - b.tokens.num * cost.den
    let missingDenominator : Int := cost.den * b.tokens.den
    let waitNumerator := missingNumerator * b.refillPerSecond.den * 1000000000
    let waitDenominator := missingDenominator * b.refillPerSecond.num
    some (b.lastRefillNs + (waitNumerator + waitDenominator - 1) / waitDenominator)

/-- `ready_at_ns`. -/
def readyAtNs (cost : DecimalInput) (nowNs : Option Int) (clock : Int) (b : TokenBucket) :
    Except BudgetError (Option Int × TokenBucket) := do
  let cost ← b.checkCost cost
  let now ← sampleNs clock nowNs
  return ((b.refillAt now).waitUntil cost, b.refillAt now)

/-- `observe_available`. -/
def observeAvailable (rawAvailable : String) (clock : Int) (b : TokenBucket) :
    Except BudgetError (Bool × TokenBucket) :=
  match parseDecimalText rawAvailable with
  | none => return (false, b)
  | some observed => do
    let now ← sampleNs clock none
    let b := b.refillAt now
    return (true, { b with tokens := min (min b.tokens b.capacity) observed })

/-- The checks that `shrink` and `set_refill_multiplier` share. -/
def checkMultiplier (b : TokenBucket) (multiplier floor : DecimalInput) :
    Except BudgetError (ℚ × ℚ) := do
  let multiplier ← decimalInput multiplier "multiplier" false
  let floor ← decimalInput floor "floor" true
  if 1 < multiplier then throw (.valueError "multiplier must be in the interval (0, 1]")
  if b.hardRefillPerSecond < floor then
    throw (.valueError "floor cannot exceed the hard refill rate")
  return (multiplier, floor)

/-- `shrink`. -/
def shrink (multiplier floor : DecimalInput) (clock : Int) (b : TokenBucket) :
    Except BudgetError TokenBucket := do
  let (multiplier, floor) ← b.checkMultiplier multiplier floor
  let now ← sampleNs clock none
  let b := b.refillAt now
  return { b with
    refillPerSecond := min b.refillPerSecond (max floor (b.refillPerSecond * multiplier)) }

/-- `set_refill_multiplier`. -/
def setRefillMultiplier (multiplier floor : DecimalInput) (clock : Int) (b : TokenBucket) :
    Except BudgetError TokenBucket := do
  let (multiplier, floor) ← b.checkMultiplier multiplier floor
  let now ← sampleNs clock none
  let b := b.refillAt now
  return { b with refillPerSecond := max floor (b.hardRefillPerSecond * multiplier) }

/-! ## Runs -/

/-- An operation of a bucket, with the clock sample it reads. -/
inductive Op where
  | tryAcquire (cost : DecimalInput) (nowNs : Option Int) (clock : Int)
  | readyAtNs (cost : DecimalInput) (nowNs : Option Int) (clock : Int)
  | tokens (clock : Int)
  | observeAvailable (rawAvailable : String) (clock : Int)
  | shrink (multiplier floor : DecimalInput) (clock : Int)
  | setRefillMultiplier (multiplier floor : DecimalInput) (clock : Int)

/-- What an operation has done: the cost it has acquired, the time it has sampled, and the bucket
it leaves behind. -/
structure Effect where
  acquired : ℚ := 0
  sampled : Option Nat := none
  bucket : TokenBucket

/-- An operation that raises leaves the bucket as it is. -/
def Op.exec (b : TokenBucket) : Op → Effect
  | .tryAcquire cost nowNs clock =>
    match b.checkCost cost, b.tryAcquire cost nowNs clock with
    | .ok cost, .ok (acquired, b) =>
      ⟨if acquired then cost else 0, (sampleNs clock nowNs).toOption, b⟩
    | _, _ => { bucket := b }
  | .readyAtNs cost nowNs clock =>
    match b.readyAtNs cost nowNs clock with
    | .ok (_, b) => { sampled := (sampleNs clock nowNs).toOption, bucket := b }
    | .error _ => { bucket := b }
  | .tokens clock =>
    match sampleNs clock none with
    | .ok now => { sampled := some now, bucket := b.refillAt now }
    | .error _ => { bucket := b }
  | .observeAvailable rawAvailable clock =>
    match b.observeAvailable rawAvailable clock with
    | .ok (observed, b) =>
      { sampled := if observed then (sampleNs clock none).toOption else none, bucket := b }
    | .error _ => { bucket := b }
  | .shrink multiplier floor clock =>
    match b.shrink multiplier floor clock with
    | .ok b => { sampled := (sampleNs clock none).toOption, bucket := b }
    | .error _ => { bucket := b }
  | .setRefillMultiplier multiplier floor clock =>
    match b.setRefillMultiplier multiplier floor clock with
    | .ok b => { sampled := (sampleNs clock none).toOption, bucket := b }
    | .error _ => { bucket := b }

/-- The bucket after a run. -/
def run (b : TokenBucket) : List Op → TokenBucket
  | [] => b
  | op :: ops => (op.exec b).bucket.run ops

/-- The sum of the costs that a run has acquired. -/
def spent (b : TokenBucket) : List Op → ℚ
  | [] => 0
  | op :: ops => (op.exec b).acquired + (op.exec b).bucket.spent ops

/-- The largest clock sample that a run has read, starting from `largest`. -/
def largestSample (b : TokenBucket) (largest : Nat) : List Op → Nat
  | [] => largest
  | op :: ops => (op.exec b).bucket.largestSample (max largest ((op.exec b).sampled.getD 0)) ops

/-! ## What an operation does -/

/-- The bounds of a bucket. -/
structure Sound (b : TokenBucket) : Prop where
  tokens_nonneg : 0 ≤ b.tokens
  tokens_le : b.tokens ≤ b.capacity
  capacity_eq : b.capacity = b.hardCapacity
  refill_nonneg : 0 ≤ b.refillPerSecond
  refill_le : b.refillPerSecond ≤ b.hardRefillPerSecond

/-- A bucket that an operation has left behind: it has the same hard limits, its tokens are at
most those of the refilled bucket less the acquired cost, and its time is the sampled one. -/
structure Moved (b : TokenBucket) (e : Effect) : Prop where
  sound : e.bucket.Sound
  hardCapacity : e.bucket.hardCapacity = b.hardCapacity
  hardRefill : e.bucket.hardRefillPerSecond = b.hardRefillPerSecond
  time : e.bucket.lastRefillNs = max b.lastRefillNs (e.sampled.getD 0)
  paid : e.acquired + e.bucket.tokens ≤
    b.tokens + b.hardRefillPerSecond * (e.bucket.lastRefillNs - b.lastRefillNs) / 1000000000

theorem Moved.refl {b : TokenBucket} (h : b.Sound) : Moved b { bucket := b } where
  sound := h
  hardCapacity := rfl
  hardRefill := rfl
  time := by simp
  paid := by simp

theorem moved_refillAt {b : TokenBucket} (h : b.Sound) (now : Nat) :
    Moved b { sampled := some now, bucket := b.refillAt now } := by
  obtain ⟨h0, h1, h2, h3, h4⟩ := h
  by_cases hnow : now ≤ b.lastRefillNs
  · have hb : b.refillAt now = b := if_pos hnow
    rw [hb]
    refine ⟨⟨h0, h1, h2, h3, h4⟩, rfl, rfl, ?_, by simp⟩
    exact (max_eq_left hnow).symm
  · have hlt : b.lastRefillNs < now := not_le.mp hnow
    have hb : b.refillAt now = { b with
        tokens := min b.capacity (b.tokens + b.replenished (now - b.lastRefillNs))
        lastRefillNs := now } := if_neg hnow
    have hcast : ((now - b.lastRefillNs : Nat) : ℚ) = now - b.lastRefillNs :=
      Nat.cast_sub hlt.le
    have helapsed : (0 : ℚ) ≤ (now - b.lastRefillNs : Nat) := Nat.cast_nonneg _
    have hrep : 0 ≤ b.replenished (now - b.lastRefillNs) := by
      unfold replenished
      positivity
    rw [hb]
    refine ⟨⟨?_, min_le_left _ _, h2, h3, h4⟩, rfl, rfl, ?_, ?_⟩
    · exact le_min (h0.trans h1) (add_nonneg h0 hrep)
    · exact (max_eq_right hlt.le).symm
    · have hle : b.replenished (now - b.lastRefillNs) ≤
          b.hardRefillPerSecond * (now - b.lastRefillNs) / 1000000000 := by
        unfold replenished
        rw [← hcast]
        gcongr
      calc 0 + min b.capacity (b.tokens + b.replenished (now - b.lastRefillNs))
          ≤ b.tokens + b.replenished (now - b.lastRefillNs) := by
            rw [zero_add]
            exact min_le_right _ _
        _ ≤ b.tokens + b.hardRefillPerSecond * (now - b.lastRefillNs) / 1000000000 := by
            gcongr

/-- After the refill an operation may take tokens away, as far as they go, and set a rate within
the hard one. -/
theorem Moved.then {b b' : TokenBucket} {now : Nat} (h : Moved b ⟨0, some now, b'⟩)
    {acquired tokens rate : ℚ} (h0 : 0 ≤ tokens) (hpay : acquired + tokens ≤ b'.tokens)
    (ha : 0 ≤ acquired) (hr0 : 0 ≤ rate) (hr : rate ≤ b'.hardRefillPerSecond) :
    Moved b ⟨acquired, some now, { b' with tokens, refillPerSecond := rate }⟩ := by
  obtain ⟨⟨s0, s1, s2, s3, s4⟩, h1, h2, h3, h4⟩ := h
  refine ⟨⟨h0, ?_, s2, hr0, hr⟩, h1, h2, h3, ?_⟩
  · change tokens ≤ b'.capacity
    linarith
  · change acquired + tokens ≤ _
    change 0 + b'.tokens ≤ _ at h4
    linarith

theorem checkCost_nonneg {b : TokenBucket} {cost : DecimalInput} {q : ℚ}
    (h : b.checkCost cost = .ok q) : 0 ≤ q := by
  unfold checkCost at h
  cases hd : decimalInput cost "cost" false with
  | error e =>
    rw [hd] at h
    cases h
  | ok q' =>
    rw [hd] at h
    simp only [bind, Except.bind, pure, Except.pure] at h
    split at h
    · cases h
    · cases h
      exact decimalInput_nonneg hd

theorem moved_tryAcquire {b : TokenBucket} (h : b.Sound) (cost : DecimalInput)
    (nowNs : Option Int) (clock : Int) : Moved b ((Op.tryAcquire cost nowNs clock).exec b) := by
  unfold Op.exec
  simp only [tryAcquire]
  cases hc : b.checkCost cost with
  | error e => exact Moved.refl h
  | ok q =>
    have hq := checkCost_nonneg hc
    cases hs : sampleNs clock nowNs with
    | error e => exact Moved.refl h
    | ok now =>
      have hm := moved_refillAt h now
      have hsound := hm.sound
      simp only [bind, Except.bind, pure, Except.pure, Except.toOption, take]
      by_cases hlt : (b.refillAt now).tokens < q
      · simp only [hlt, if_true]
        exact hm
      · simp only [hlt, if_false]
        refine hm.then ?_ ?_ hq hsound.refill_nonneg hsound.refill_le
        · exact sub_nonneg.mpr (not_lt.mp hlt)
        · exact (add_sub_cancel q _).le

theorem moved_readyAtNs {b : TokenBucket} (h : b.Sound) (cost : DecimalInput)
    (nowNs : Option Int) (clock : Int) : Moved b ((Op.readyAtNs cost nowNs clock).exec b) := by
  unfold Op.exec
  simp only [readyAtNs]
  cases hc : b.checkCost cost with
  | error e => exact Moved.refl h
  | ok q =>
    cases hs : sampleNs clock nowNs with
    | error e => exact Moved.refl h
    | ok now => exact moved_refillAt h now

theorem moved_observeAvailable {b : TokenBucket} (h : b.Sound) (rawAvailable : String)
    (clock : Int) : Moved b ((Op.observeAvailable rawAvailable clock).exec b) := by
  unfold Op.exec
  simp only [observeAvailable]
  cases hp : parseDecimalText rawAvailable with
  | none => exact Moved.refl h
  | some observed =>
    cases hs : sampleNs clock none with
    | error e => exact Moved.refl h
    | ok now =>
      have hm := moved_refillAt h now
      have hsound := hm.sound
      refine hm.then ?_ ?_ le_rfl hsound.refill_nonneg hsound.refill_le
      · refine le_min (le_min hsound.tokens_nonneg ?_) (parseDecimalText_nonneg hp)
        exact hsound.tokens_nonneg.trans hsound.tokens_le
      · rw [zero_add]
        exact (min_le_left _ _).trans (min_le_left _ _)

theorem checkMultiplier_spec {b : TokenBucket} {multiplier floor : DecimalInput} {m f : ℚ}
    (h : b.checkMultiplier multiplier floor = .ok (m, f)) :
    0 ≤ m ∧ m ≤ 1 ∧ 0 ≤ f ∧ f ≤ b.hardRefillPerSecond := by
  unfold checkMultiplier at h
  cases hm : decimalInput multiplier "multiplier" false with
  | error e =>
    rw [hm] at h
    cases h
  | ok m' =>
    cases hf : decimalInput floor "floor" true with
    | error e =>
      rw [hm, hf] at h
      cases h
    | ok f' =>
      rw [hm, hf] at h
      simp only [bind, Except.bind, pure, Except.pure] at h
      by_cases h1 : 1 < m'
      · simp only [h1, if_true] at h
        cases h
      · simp only [h1, if_false] at h
        by_cases h2 : b.hardRefillPerSecond < f'
        · simp only [h2, if_true] at h
          cases h
        · simp only [h2, if_false] at h
          cases h
          exact ⟨decimalInput_nonneg hm, not_lt.mp h1, decimalInput_nonneg hf, not_lt.mp h2⟩

theorem moved_shrink {b : TokenBucket} (h : b.Sound) (multiplier floor : DecimalInput)
    (clock : Int) : Moved b ((Op.shrink multiplier floor clock).exec b) := by
  unfold Op.exec
  simp only [shrink]
  cases hc : b.checkMultiplier multiplier floor with
  | error e => exact Moved.refl h
  | ok mf =>
    obtain ⟨m, f⟩ := mf
    obtain ⟨hm0, hm1, hf0, hf1⟩ := checkMultiplier_spec hc
    cases hs : sampleNs clock none with
    | error e => exact Moved.refl h
    | ok now =>
      have hm := moved_refillAt h now
      have hsound := hm.sound
      refine hm.then hsound.tokens_nonneg (zero_add _).le le_rfl ?_ ?_
      · exact le_min hsound.refill_nonneg (hf0.trans (le_max_left _ _))
      · exact (min_le_left _ _).trans hsound.refill_le

theorem moved_setRefillMultiplier {b : TokenBucket} (h : b.Sound)
    (multiplier floor : DecimalInput) (clock : Int) :
    Moved b ((Op.setRefillMultiplier multiplier floor clock).exec b) := by
  unfold Op.exec
  simp only [setRefillMultiplier]
  cases hc : b.checkMultiplier multiplier floor with
  | error e => exact Moved.refl h
  | ok mf =>
    obtain ⟨m, f⟩ := mf
    obtain ⟨hm0, hm1, hf0, hf1⟩ := checkMultiplier_spec hc
    cases hs : sampleNs clock none with
    | error e => exact Moved.refl h
    | ok now =>
      have hm := moved_refillAt h now
      have hsound := hm.sound
      have hhard : 0 ≤ (b.refillAt now).hardRefillPerSecond :=
        hsound.refill_nonneg.trans hsound.refill_le
      refine hm.then hsound.tokens_nonneg (zero_add _).le le_rfl ?_ ?_
      · exact hf0.trans (le_max_left _ _)
      · refine max_le ?_ (mul_le_of_le_one_right hhard hm1)
        rw [hm.hardRefill]
        exact hf1

/-- Every operation moves the bucket within its limits. -/
theorem moved_exec {b : TokenBucket} (h : b.Sound) (op : Op) : Moved b (op.exec b) := by
  cases op with
  | tryAcquire cost nowNs clock => exact moved_tryAcquire h cost nowNs clock
  | readyAtNs cost nowNs clock => exact moved_readyAtNs h cost nowNs clock
  | tokens clock =>
    unfold Op.exec
    dsimp only
    cases hs : sampleNs clock none with
    | error e => exact Moved.refl h
    | ok now => exact moved_refillAt h now
  | observeAvailable rawAvailable clock => exact moved_observeAvailable h rawAvailable clock
  | shrink multiplier floor clock => exact moved_shrink h multiplier floor clock
  | setRefillMultiplier multiplier floor clock =>
    exact moved_setRefillMultiplier h multiplier floor clock

/-! ## The hard capacity -/

theorem hardCapacity_refillAt (now : Nat) (b : TokenBucket) :
    (b.refillAt now).hardCapacity = b.hardCapacity := by
  unfold refillAt
  split <;> rfl

theorem hardCapacity_take (cost : ℚ) (b : TokenBucket) :
    (b.take cost).2.hardCapacity = b.hardCapacity := by
  unfold take
  split <;> rfl

theorem checkCost_ok {b : TokenBucket} {q : ℚ} (h0 : 0 < q) (hc : q ≤ b.hardCapacity) :
    b.checkCost (.finite q) = .ok q := by
  have hd : decimalInput (.finite q) "cost" false = .ok q := by
    simp [decimalInput, DecimalInput.value?, not_lt.mpr h0.le, h0.ne']
  have hlt : ¬ b.hardCapacity < q := not_lt.mpr hc
  unfold checkCost
  rw [hd]
  simp only [bind, Except.bind, hlt, if_false]
  rfl

theorem sampleNs_now (clock : Int) (now : Nat) : sampleNs clock (some now) = .ok now := by
  have hneg : ¬ (now : Int) < 0 := by omega
  change nonnegativeNanoseconds now "now_ns" = .ok now
  unfold nonnegativeNanoseconds
  rw [if_neg hneg, Int.toNat_natCast]

theorem tryAcquire_ok {b : TokenBucket} {q : ℚ} (now : Nat) (h0 : 0 < q)
    (hc : q ≤ b.hardCapacity) :
    ∃ acquired b', b.tryAcquire (.finite q) (some now) 0 = .ok (acquired, b') ∧
      b'.hardCapacity = b.hardCapacity := by
  refine ⟨((b.refillAt now).take q).1, ((b.refillAt now).take q).2, ?_, ?_⟩
  · unfold tryAcquire
    rw [checkCost_ok h0 hc, sampleNs_now]
    rfl
  · rw [hardCapacity_take, hardCapacity_refillAt]

theorem readyAtNs_ok {b : TokenBucket} {q : ℚ} (now : Nat) (h0 : 0 < q)
    (hc : q ≤ b.hardCapacity) :
    ∃ ready b', b.readyAtNs (.finite q) (some now) 0 = .ok (ready, b') ∧
      b'.hardCapacity = b.hardCapacity := by
  refine ⟨(b.refillAt now).waitUntil q, b.refillAt now, ?_, hardCapacity_refillAt now b⟩
  unfold readyAtNs
  rw [checkCost_ok h0 hc, sampleNs_now]
  rfl

theorem hardCapacity_exec (b : TokenBucket) (op : Op) :
    (op.exec b).bucket.hardCapacity = b.hardCapacity := by
  cases op with
  | tryAcquire cost nowNs clock =>
    unfold Op.exec
    simp only [tryAcquire]
    cases b.checkCost cost with
    | error e => rfl
    | ok q =>
      cases sampleNs clock nowNs with
      | error e => rfl
      | ok now => exact (hardCapacity_take q _).trans (hardCapacity_refillAt now b)
  | readyAtNs cost nowNs clock =>
    unfold Op.exec
    simp only [readyAtNs]
    cases b.checkCost cost with
    | error e => rfl
    | ok q =>
      cases sampleNs clock nowNs with
      | error e => rfl
      | ok now => exact hardCapacity_refillAt now b
  | tokens clock =>
    unfold Op.exec
    dsimp only
    cases sampleNs clock none with
    | error e => rfl
    | ok now => exact hardCapacity_refillAt now b
  | observeAvailable rawAvailable clock =>
    unfold Op.exec
    simp only [observeAvailable]
    cases parseDecimalText rawAvailable with
    | none => rfl
    | some observed =>
      cases sampleNs clock none with
      | error e => rfl
      | ok now => exact hardCapacity_refillAt now b
  | shrink multiplier floor clock =>
    unfold Op.exec
    simp only [shrink]
    cases b.checkMultiplier multiplier floor with
    | error e => rfl
    | ok mf =>
      cases sampleNs clock none with
      | error e => rfl
      | ok now => exact hardCapacity_refillAt now b
  | setRefillMultiplier multiplier floor clock =>
    unfold Op.exec
    simp only [setRefillMultiplier]
    cases b.checkMultiplier multiplier floor with
    | error e => rfl
    | ok mf =>
      cases sampleNs clock none with
      | error e => rfl
      | ok now => exact hardCapacity_refillAt now b

/-! ## The quota -/

theorem sound_new {capacity refillPerSecond : DecimalInput} {clock : Int} {b : TokenBucket}
    (h : new capacity refillPerSecond clock = .ok b) :
    b.Sound ∧ b.tokens = b.hardCapacity ∧ (b.lastRefillNs : Int) = clock := by
  unfold new at h
  cases hc : decimalInput capacity "capacity" false with
  | error e =>
    rw [hc] at h
    cases h
  | ok c =>
    cases hr : decimalInput refillPerSecond "refill_per_second" false with
    | error e =>
      rw [hc, hr] at h
      cases h
    | ok r =>
      rw [hc, hr] at h
      unfold nonnegativeNanoseconds at h
      by_cases hneg : clock < 0
      · simp only [hneg, if_true] at h
        cases h
      · simp only [hneg, if_false] at h
        cases h
        refine ⟨⟨decimalInput_nonneg hc, le_rfl, rfl, decimalInput_nonneg hr, le_rfl⟩, rfl, ?_⟩
        exact Int.toNat_of_nonneg (not_lt.mp hneg)

theorem le_largestSample (b : TokenBucket) (largest : Nat) (ops : List Op) :
    largest ≤ b.largestSample largest ops := by
  induction ops generalizing b largest with
  | nil => exact le_rfl
  | cons op ops ih => exact (le_max_left _ _).trans (ih _ _)

/-- In a run the time of the bucket is the largest sample, and what is spent and what is left is
covered by the first tokens and the refill at the hard rate. -/
theorem moved_run {b : TokenBucket} (h : b.Sound) (ops : List Op) :
    Moved b ⟨b.spent ops, some (b.largestSample b.lastRefillNs ops), b.run ops⟩ := by
  induction ops generalizing b with
  | nil => exact ⟨h, rfl, rfl, (max_self _).symm, by simp [spent, run]⟩
  | cons op ops ih =>
    obtain ⟨h1, h2, h3, h4, h5⟩ := moved_exec h op
    obtain ⟨i1, i2, i3, i4, i5⟩ := ih h1
    simp only [Option.getD_some] at i4
    have hle := le_largestSample (op.exec b).bucket (op.exec b).bucket.lastRefillNs ops
    rw [max_eq_right hle] at i4
    have hstart : b.lastRefillNs ≤ (op.exec b).bucket.lastRefillNs := by
      rw [h4]
      exact le_max_left _ _
    refine ⟨i1, i2.trans h2, i3.trans h3, ?_, ?_⟩
    · change ((op.exec b).bucket.run ops).lastRefillNs = max b.lastRefillNs
        ((op.exec b).bucket.largestSample (max b.lastRefillNs ((op.exec b).sampled.getD 0)) ops)
      rw [← h4, max_eq_right (hstart.trans hle)]
      exact i4
    · change (op.exec b).acquired + (op.exec b).bucket.spent ops +
        ((op.exec b).bucket.run ops).tokens ≤ b.tokens + b.hardRefillPerSecond *
          (((op.exec b).bucket.run ops).lastRefillNs - b.lastRefillNs) / 1000000000
      simp only [h3] at i5
      have hsplit : b.hardRefillPerSecond *
            (((op.exec b).bucket.run ops).lastRefillNs - b.lastRefillNs) / 1000000000 =
          b.hardRefillPerSecond *
              ((op.exec b).bucket.lastRefillNs - b.lastRefillNs) / 1000000000 +
            b.hardRefillPerSecond * (((op.exec b).bucket.run ops).lastRefillNs -
              (op.exec b).bucket.lastRefillNs) / 1000000000 := by
        ring
      linarith

/-- In every run of a bucket its tokens stay within its capacity and its rate within the hard
rate, and the acquired costs sum to at most the hard capacity and the refill at the hard rate up
to the largest clock sample. -/
theorem run_within_quota {capacity refillPerSecond : DecimalInput} {clock : Int}
    {b : TokenBucket} (h : new capacity refillPerSecond clock = .ok b) (ops : List Op) :
    (b.run ops).Sound ∧ (b.run ops).hardCapacity = b.hardCapacity ∧
      (b.run ops).hardRefillPerSecond = b.hardRefillPerSecond ∧
      b.spent ops ≤ b.hardCapacity + b.hardRefillPerSecond *
        (b.largestSample clock.toNat ops - clock) / 1000000000 := by
  obtain ⟨hsound, htokens, hclock⟩ := sound_new h
  obtain ⟨h1, h2, h3, h4, h5⟩ := moved_run hsound ops
  have hstart : clock.toNat = b.lastRefillNs := by omega
  have htime : (b.run ops).lastRefillNs = b.largestSample b.lastRefillNs ops :=
    h4.trans (max_eq_right (le_largestSample b b.lastRefillNs ops))
  refine ⟨h1, h2, h3, ?_⟩
  have hleft : 0 ≤ (b.run ops).tokens := h1.tokens_nonneg
  have hcast : (clock : ℚ) = b.lastRefillNs := by
    rw [← hclock]
    norm_cast
  rw [hstart, hcast, ← htime, ← htokens]
  linarith

/-! ## What an acquisition does -/

theorem refillAt_of_le {b : TokenBucket} {now : Nat} (h : now ≤ b.lastRefillNs) :
    b.refillAt now = b := if_pos h

theorem refillAt_refillAt (now : Nat) (b : TokenBucket) :
    (b.refillAt now).refillAt now = b.refillAt now := by
  apply refillAt_of_le
  unfold refillAt
  split
  · next h => exact h
  · exact le_rfl

theorem checkCost_eq {b : TokenBucket} {cost q : ℚ} (h : b.checkCost (.finite cost) = .ok q) :
    q = cost := by
  unfold checkCost decimalInput at h
  simp only [DecimalInput.value?, bind, Except.bind, pure, Except.pure] at h
  split at h
  · cases h
  · next q' hq =>
    split at hq
    · cases hq
    · split at hq
      · cases hq
      · cases hq
        split at h
        · cases h
        · cases h
          rfl

/-- What `try_acquire` leaves of the bucket. -/
theorem tryAcquire_spec {b b' : TokenBucket} {cost : ℚ} {now : Nat} {acquired : Bool}
    (h : b.tryAcquire (.finite cost) (some now) 0 = .ok (acquired, b')) :
    acquired = true ∧ cost ≤ (b.refillAt now).tokens ∧
        b' = { b.refillAt now with tokens := (b.refillAt now).tokens - cost } ∨
      acquired = false ∧ b' = b.refillAt now := by
  unfold tryAcquire at h
  cases hc : b.checkCost (.finite cost) with
  | error e =>
    rw [hc] at h
    cases h
  | ok q =>
    rw [hc, sampleNs_now] at h
    have htake : (b.refillAt now).take q = (acquired, b') := Except.ok.inj h
    rw [checkCost_eq hc] at htake
    unfold take at htake
    by_cases hlt : (b.refillAt now).tokens < cost
    · rw [if_pos hlt] at htake
      cases htake
      exact .inr ⟨rfl, rfl⟩
    · rw [if_neg hlt] at htake
      cases htake
      exact .inl ⟨rfl, not_lt.mp hlt, rfl⟩

/-- A bucket of ten tokens that refills one token a second. -/
def ofTen : TokenBucket := ⟨10, 10, 1, 1, 10, 5⟩

/-- Two acquisitions around a shrink, with a clock that goes backwards. -/
def ofTenOps : List Op :=
  [.tryAcquire (.int 6) none 3, .shrink (.finite (1 / 2)) (.int 0) 1000000005,
    .tryAcquire (.int 5) (some 7) 0]

theorem ofTen_within_quota :
    new (.int 10) (.int 1) 5 = .ok ofTen ∧ ofTen.spent ofTenOps = 11 ∧
      ofTen.spent ofTenOps ≤ 10 + 1 * (ofTen.largestSample 5 ofTenOps - 5) / 1000000000 := by
  have h : new (.int 10) (.int 1) 5 = .ok ofTen := rfl
  obtain ⟨-, -, -, hquota⟩ := run_within_quota h ofTenOps
  exact ⟨h, by decide +kernel, hquota⟩

end TokenBucket

/-! ## The registry -/

open Lib

/-- `BudgetKey`: exchange, quota group and endpoint. -/
structure BudgetKey where
  exchange : String
  quotaGroup : String
  endpoint : String
  deriving DecidableEq

/-- The check of `_validate_key`. -/
def BudgetKey.valid (k : BudgetKey) : Bool :=
  k.exchange ≠ "" && k.quotaGroup ≠ "" && k.endpoint ≠ ""

/-- `BudgetRegistry`. -/
structure BudgetRegistry where
  buckets : Dict BudgetKey TokenBucket := Dict.empty

namespace BudgetRegistry

/-- `_validate_key`. -/
def validateKey (k : BudgetKey) : Except BudgetError BudgetKey :=
  if k.valid then .ok k
  else .error (.valueError
    "budget key must contain non-empty exchange, quota group, and endpoint")

/-- `add`. -/
def add (k : BudgetKey) (capacity refillPerSecond : DecimalInput) (clock : Int)
    (r : BudgetRegistry) : Except BudgetError BudgetRegistry := do
  let k ← validateKey k
  if r.buckets.contains k then throw (.valueError "budget key already exists")
  let bucket ← TokenBucket.new capacity refillPerSecond clock
  return { r with buckets := r.buckets.set k bucket }

/-- `bucket`. -/
def bucket (k : BudgetKey) (r : BudgetRegistry) : Except BudgetError TokenBucket := do
  let k ← validateKey k
  match r.buckets.get? k with
  | none => throw .keyError
  | some b => return b

/-- Put back a bucket that an operation has changed. -/
def withBucket (k : BudgetKey) (b : TokenBucket) (r : BudgetRegistry) : BudgetRegistry :=
  { r with buckets := r.buckets.set k b }

/-- An operation on one bucket of the registry. -/
def onBucket (k : BudgetKey) (op : TokenBucket.Op) (r : BudgetRegistry) : BudgetRegistry :=
  match r.bucket k with
  | .ok b => r.withBucket k (op.exec b).bucket
  | .error _ => r

/-- The loop of `try_acquire_one`; buckets that could not pay stay refilled. -/
def acquireFirst (cost : DecimalInput) (now : Nat) :
    List BudgetKey → List BudgetKey → BudgetRegistry →
      Except BudgetError (Option BudgetKey) × BudgetRegistry
  | [], _, r => (.ok none, r)
  | k :: keys, seen, r =>
    if k ∈ seen then acquireFirst cost now keys seen r
    else
      match r.bucket k with
      | .error e => (.error e, r)
      | .ok b =>
        match b.tryAcquire cost (some now) 0 with
        | .error e => (.error e, r)
        | .ok (true, b) => (.ok (some k), r.withBucket k b)
        | .ok (false, b) => acquireFirst cost now keys (k :: seen) (r.withBucket k b)

/-- `try_acquire_one`. -/
def tryAcquireOne (keys : List BudgetKey) (cost : DecimalInput) (now : Nat) (r : BudgetRegistry) :
    Except BudgetError (Option BudgetKey) × BudgetRegistry :=
  if keys.isEmpty then (.error (.valueError "keys must be a non-empty tuple of budget keys"), r)
  else acquireFirst cost now keys [] r

/-- `ready_at_ns`. -/
def readyAtNs (k : BudgetKey) (cost : DecimalInput) (now : Nat) (r : BudgetRegistry) :
    Except BudgetError (Option Int) × BudgetRegistry :=
  match r.bucket k with
  | .error e => (.error e, r)
  | .ok b =>
    match b.readyAtNs cost (some now) 0 with
    | .error e => (.error e, r)
    | .ok (ready, b) => (.ok ready, r.withBucket k b)

/-! ### Costs that a registry can pay -/

/-- The bucket of a key exists and can hold a positive cost. -/
def Payable (r : BudgetRegistry) (k : BudgetKey) (cost : ℚ) : Prop :=
  ∃ b, r.bucket k = .ok b ∧ 0 < cost ∧ cost ≤ b.hardCapacity

theorem bucket_ok {r : BudgetRegistry} {k : BudgetKey} {b : TokenBucket} :
    r.bucket k = .ok b ↔ k.valid = true ∧ r.buckets.get? k = some b := by
  unfold bucket validateKey
  by_cases hk : k.valid = true
  · simp only [hk, if_true, bind, Except.bind, true_and]
    cases r.buckets.get? k with
    | none => simp [throw, throwThe, MonadExceptOf.throw]
    | some b' => simp [pure, Except.pure]
  · simp [hk, bind, Except.bind]

/-- The buckets of one registry are all in another, with the same hard capacities. -/
def Within (r r' : BudgetRegistry) : Prop :=
  ∀ k b, r.buckets.get? k = some b →
    ∃ b', r'.buckets.get? k = some b' ∧ b'.hardCapacity = b.hardCapacity

theorem Within.refl (r : BudgetRegistry) : r.Within r := fun _ b h => ⟨b, h, rfl⟩

theorem Within.trans {r r' r'' : BudgetRegistry} (h : r.Within r') (h' : r'.Within r'') :
    r.Within r'' := by
  intro k b hb
  obtain ⟨b', hb', hc'⟩ := h k b hb
  obtain ⟨b'', hb'', hc''⟩ := h' k b' hb'
  exact ⟨b'', hb'', hc''.trans hc'⟩

/-- What is payable stays payable when the buckets keep their hard capacities. -/
theorem Payable.mono {r r' : BudgetRegistry} {k : BudgetKey} {cost : ℚ} (h : r.Payable k cost)
    (hr : r.Within r') : r'.Payable k cost := by
  obtain ⟨b, hb, h0, hc⟩ := h
  obtain ⟨hk, hget⟩ := bucket_ok.mp hb
  obtain ⟨b', hget', hcap⟩ := hr k b hget
  exact ⟨b', bucket_ok.mpr ⟨hk, hget'⟩, h0, hcap ▸ hc⟩

theorem within_withBucket {r : BudgetRegistry} {k : BudgetKey} {b b' : TokenBucket}
    (hb : r.bucket k = .ok b) (hc : b'.hardCapacity = b.hardCapacity) :
    r.Within (r.withBucket k b') := by
  intro a c hget
  by_cases ha : a = k
  · subst ha
    have : c = b := Option.some.inj (hget.symm.trans (bucket_ok.mp hb).2)
    subst this
    exact ⟨b', Dict.get?_set_self _ _ _, hc⟩
  · exact ⟨c, (Dict.get?_set_ne _ _ ha).trans hget, rfl⟩

theorem within_onBucket (r : BudgetRegistry) (k : BudgetKey) (op : TokenBucket.Op) :
    r.Within (r.onBucket k op) := by
  unfold onBucket
  cases hb : r.bucket k with
  | error e => exact Within.refl r
  | ok b => exact within_withBucket hb (TokenBucket.hardCapacity_exec b op)

theorem within_add {r r' : BudgetRegistry} {k : BudgetKey} {capacity refill : DecimalInput}
    {clock : Int} (h : r.add k capacity refill clock = .ok r') : r.Within r' := by
  unfold add validateKey at h
  by_cases hk : k.valid = true
  · simp only [hk, if_true, bind, Except.bind] at h
    by_cases hc : r.buckets.contains k = true
    · simp only [hc, if_true] at h
      cases h
    · simp only [hc] at h
      cases hn : TokenBucket.new capacity refill clock with
      | error e =>
        rw [hn] at h
        cases h
      | ok b =>
        rw [hn] at h
        cases h
        intro a c hget
        have ha : a ≠ k := by
          rintro rfl
          exact hc (Dict.contains_iff.mpr (Dict.mem_keys_of_get? hget))
        exact ⟨c, (Dict.get?_set_ne _ _ ha).trans hget, rfl⟩
  · simp only [hk, bind, Except.bind] at h
    cases h

/-- The first bucket that can pay is found without an error when every key is payable. -/
theorem acquireFirst_ok {cost : ℚ} (now : Nat) (keys seen : List BudgetKey) (r : BudgetRegistry)
    (h : ∀ k ∈ keys, r.Payable k cost) :
    ∃ k? r', acquireFirst (.finite cost) now keys seen r = (.ok k?, r') ∧ r.Within r' ∧
      ∀ k ∈ k?, k ∈ keys := by
  induction keys generalizing seen r with
  | nil => exact ⟨none, r, rfl, Within.refl r, by simp⟩
  | cons k keys ih =>
    by_cases hs : k ∈ seen
    · obtain ⟨k?, r', he, hw, hk⟩ := ih seen r fun a ha => h a (List.mem_cons_of_mem _ ha)
      refine ⟨k?, r', ?_, hw, fun a ha => List.mem_cons_of_mem _ (hk a ha)⟩
      rw [acquireFirst, if_pos hs, he]
    · obtain ⟨b, hb, h0, hc⟩ := h k List.mem_cons_self
      obtain ⟨acquired, b', hacq, hcap⟩ := TokenBucket.tryAcquire_ok now h0 hc
      have hw := within_withBucket hb hcap
      cases acquired with
      | true =>
        refine ⟨some k, r.withBucket k b', ?_, hw, by simp⟩
        rw [acquireFirst, if_neg hs, hb]
        simp only [hacq]
      | false =>
        obtain ⟨k?, r', he, hw', hk⟩ := ih (k :: seen) (r.withBucket k b')
          fun a ha => (h a (List.mem_cons_of_mem _ ha)).mono hw
        refine ⟨k?, r', ?_, hw.trans hw', fun a ha => List.mem_cons_of_mem _ (hk a ha)⟩
        rw [acquireFirst, if_neg hs, hb]
        simp only [hacq, he]

theorem tryAcquireOne_ok {cost : ℚ} (now : Nat) {keys : List BudgetKey} (hne : keys ≠ [])
    {r : BudgetRegistry} (h : ∀ k ∈ keys, r.Payable k cost) :
    ∃ k? r', r.tryAcquireOne keys (.finite cost) now = (.ok k?, r') ∧ r.Within r' ∧
      ∀ k ∈ k?, k ∈ keys := by
  unfold tryAcquireOne
  rw [if_neg (by simpa using hne)]
  exact acquireFirst_ok now keys [] r h

theorem readyAtNs_ok {cost : ℚ} (now : Nat) {k : BudgetKey} {r : BudgetRegistry}
    (h : r.Payable k cost) :
    ∃ ready r', r.readyAtNs k (.finite cost) now = (.ok ready, r') ∧ r.Within r' := by
  obtain ⟨b, hb, h0, hc⟩ := h
  obtain ⟨ready, b', hready, hcap⟩ := TokenBucket.readyAtNs_ok now h0 hc
  refine ⟨ready, r.withBucket k b', ?_, within_withBucket hb hcap⟩
  unfold readyAtNs
  rw [hb]
  simp only [hready]

/-! ### What an acquisition does to the buckets -/

/-- Buckets are only refilled. -/
def Refilled (now : Nat) (r r' : BudgetRegistry) : Prop :=
  ∀ k, r'.buckets.get? k = r.buckets.get? k ∨
    r'.buckets.get? k = (r.buckets.get? k).map (·.refillAt now)

/-- A cost is taken from one bucket; the others are only refilled. -/
def Paid (now : Nat) (k : BudgetKey) (cost : ℚ) (r r' : BudgetRegistry) : Prop :=
  (∃ b, r.buckets.get? k = some b ∧ cost ≤ (b.refillAt now).tokens ∧
    r'.buckets.get? k =
      some { b.refillAt now with tokens := (b.refillAt now).tokens - cost }) ∧
  ∀ a, a ≠ k → r'.buckets.get? a = r.buckets.get? a ∨
    r'.buckets.get? a = (r.buckets.get? a).map (·.refillAt now)

theorem Refilled.refl (now : Nat) (r : BudgetRegistry) : r.Refilled now r := fun _ => .inl rfl

/-- A bucket after two refills at the same time. -/
theorem refilled_bucket {now : Nat} {b b' b'' : Option TokenBucket}
    (h : b' = b ∨ b' = b.map (·.refillAt now)) (h' : b'' = b' ∨ b'' = b'.map (·.refillAt now)) :
    b'' = b ∨ b'' = b.map (·.refillAt now) := by
  rcases h with rfl | rfl
  · exact h'
  · rcases h' with rfl | rfl
    · exact .inr rfl
    · refine .inr ?_
      cases b with
      | none => rfl
      | some b => exact congrArg some (TokenBucket.refillAt_refillAt now b)

theorem Refilled.trans {now : Nat} {r r' r'' : BudgetRegistry} (h : r.Refilled now r')
    (h' : r'.Refilled now r'') : r.Refilled now r'' := fun k => refilled_bucket (h k) (h' k)

theorem Refilled.paid {now : Nat} {k : BudgetKey} {cost : ℚ} {r r' r'' : BudgetRegistry}
    (h : r.Refilled now r') (h' : r'.Paid now k cost r'') : r.Paid now k cost r'' := by
  obtain ⟨⟨b', hb', hle, hget⟩, hother⟩ := h'
  refine ⟨?_, fun a ha => refilled_bucket (h a) (hother a ha)⟩
  rcases h k with hk | hk
  · exact ⟨b', hk.symm.trans hb', hle, hget⟩
  · rw [hb'] at hk
    obtain ⟨b, hb, rfl⟩ := Option.map_eq_some_iff.mp hk.symm
    rw [TokenBucket.refillAt_refillAt] at hle hget
    exact ⟨b, hb, hle, hget⟩

theorem refilled_withBucket (now : Nat) {r : BudgetRegistry} {k : BudgetKey} {b : TokenBucket}
    (hb : r.bucket k = .ok b) : r.Refilled now (r.withBucket k (b.refillAt now)) := by
  intro a
  by_cases ha : a = k
  · subst ha
    right
    rw [(bucket_ok.mp hb).2]
    exact Dict.get?_set_self _ _ _
  · exact .inl (Dict.get?_set_ne _ _ ha)

/-- What `try_acquire_one` leaves of the registry. -/
theorem acquireFirst_spec {cost : ℚ} {now : Nat} {keys seen : List BudgetKey}
    {r r' : BudgetRegistry} {k? : Option BudgetKey}
    (h : acquireFirst (.finite cost) now keys seen r = (.ok k?, r')) :
    (k? = none → r.Refilled now r') ∧ ∀ k, k? = some k → k ∈ keys ∧ r.Paid now k cost r' := by
  induction keys generalizing seen r with
  | nil =>
    cases h
    exact ⟨fun _ => Refilled.refl now _, nofun⟩
  | cons a keys ih =>
    rw [acquireFirst] at h
    by_cases hseen : a ∈ seen
    · rw [if_pos hseen] at h
      obtain ⟨hnone, hsome⟩ := ih h
      refine ⟨hnone, fun k hk => ?_⟩
      exact ⟨List.mem_cons_of_mem _ (hsome k hk).1, (hsome k hk).2⟩
    · rw [if_neg hseen] at h
      cases hb : r.bucket a with
      | error e =>
        rw [hb] at h
        cases h
      | ok b =>
        rw [hb] at h
        dsimp only at h
        cases hacq : b.tryAcquire (.finite cost) (some now) 0 with
        | error e =>
          rw [hacq] at h
          cases h
        | ok result =>
          obtain ⟨acquired, b'⟩ := result
          rw [hacq] at h
          rcases TokenBucket.tryAcquire_spec hacq with ⟨rfl, hle, rfl⟩ | ⟨rfl, rfl⟩
          · cases h
            refine ⟨nofun, fun k hk => ?_⟩
            cases hk
            refine ⟨List.mem_cons_self, ⟨b, (bucket_ok.mp hb).2, hle, Dict.get?_set_self _ _ _⟩,
              fun c hc => .inl (Dict.get?_set_ne _ _ hc)⟩
          · have hrefill := refilled_withBucket now hb
            obtain ⟨hnone, hsome⟩ := ih h
            refine ⟨fun hk => hrefill.trans (hnone hk), fun k hk => ?_⟩
            exact ⟨List.mem_cons_of_mem _ (hsome k hk).1, hrefill.paid (hsome k hk).2⟩

theorem tryAcquireOne_spec {cost : ℚ} {now : Nat} {keys : List BudgetKey} {r r' : BudgetRegistry}
    {k? : Option BudgetKey} (h : r.tryAcquireOne keys (.finite cost) now = (.ok k?, r')) :
    (k? = none → r.Refilled now r') ∧ ∀ k, k? = some k → k ∈ keys ∧ r.Paid now k cost r' := by
  unfold tryAcquireOne at h
  split at h
  · cases h
  · exact acquireFirst_spec h

theorem readyAtNs_refilled {cost : ℚ} {now : Nat} {k : BudgetKey} {r r' : BudgetRegistry}
    {ready : Option Int} (h : r.readyAtNs k (.finite cost) now = (.ok ready, r')) :
    r.Refilled now r' := by
  unfold readyAtNs at h
  cases hb : r.bucket k with
  | error e =>
    rw [hb] at h
    cases h
  | ok b =>
    rw [hb] at h
    dsimp only at h
    cases hc : b.checkCost (.finite cost) with
    | error e =>
      rw [TokenBucket.readyAtNs, hc] at h
      cases h
    | ok q =>
      rw [TokenBucket.readyAtNs, hc, TokenBucket.sampleNs_now] at h
      cases h
      exact refilled_withBucket _ hb

end BudgetRegistry

end CryptoCollector.Network
