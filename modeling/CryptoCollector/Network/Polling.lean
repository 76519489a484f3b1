import CryptoCollector.Network.RateLimit

/-!
# When a bucket is ready

`network/rate_limit.py: TokenBucket.ready_at_ns`. The time that it names is exact: the wait is a
ratio of three decimals, rounded up to a nanosecond, and it is compared with what `_refill` leaves
in the bucket after any number of polls.

* `refillAt_trans`: refilling on the way changes nothing.
* `waitUntil_spec`: the bucket can pay a cost from the named time on.
* `polled_readyAtNs`: so it is for every poll until then. A bucket that can pay already names the
  time of its last refill, which may lie in the future of the caller.
-/

namespace CryptoCollector.Network

namespace TokenBucket

/-! ## Refills -/

theorem capacity_refillAt (now : Nat) (b : TokenBucket) :
    (b.refillAt now).capacity = b.capacity := by
  unfold refillAt
  split <;> rfl

theorem refillPerSecond_refillAt (now : Nat) (b : TokenBucket) :
    (b.refillAt now).refillPerSecond = b.refillPerSecond := by
  unfold refillAt
  split <;> rfl

theorem lastRefillNs_refillAt (now : Nat) (b : TokenBucket) :
    (b.refillAt now).lastRefillNs = max b.lastRefillNs now := by
  unfold refillAt
  split
  · next h => exact (max_eq_left h).symm
  · next h => exact (max_eq_right (not_le.mp h).le).symm

/-- The tokens of a refilled bucket, also when there is nothing to refill. -/
theorem tokens_refillAt {b : TokenBucket} (h : b.Sound) (now : Nat) :
    (b.refillAt now).tokens =
      min b.capacity (b.tokens + b.replenished (now - b.lastRefillNs)) := by
  unfold refillAt
  split
  · next hle =>
    have hzero : b.replenished (now - b.lastRefillNs) = 0 := by
      rw [Nat.sub_eq_zero_of_le hle]
      simp [replenished]
    rw [hzero, add_zero, min_eq_right h.tokens_le]
  · rfl

theorem Sound.refillAt {b : TokenBucket} (h : b.Sound) (now : Nat) : (b.refillAt now).Sound :=
  (moved_refillAt h now).sound

theorem replenished_nonneg {b : TokenBucket} (h : b.Sound) (elapsedNs : Nat) :
    0 ≤ b.replenished elapsedNs := by
  have hrate := h.refill_nonneg
  unfold replenished
  positivity

theorem tokens_le_refillAt {b : TokenBucket} (h : b.Sound) (now : Nat) :
    b.tokens ≤ (b.refillAt now).tokens := by
  rw [tokens_refillAt h]
  exact le_min h.tokens_le (le_add_of_nonneg_right (replenished_nonneg h _))

/-- A bucket that is refilled on the way holds what it holds when it is refilled once. -/
theorem refillAt_trans {b : TokenBucket} (h : b.Sound) {now later : Nat} (hle : now ≤ later) :
    (b.refillAt now).refillAt later = b.refillAt later := by
  by_cases hnow : now ≤ b.lastRefillNs
  · rw [refillAt_of_le hnow]
  have hlast : ¬ later ≤ b.lastRefillNs := by omega
  rcases hle.eq_or_lt with rfl | hlt
  · exact refillAt_refillAt now b
  have hsum : b.replenished (now - b.lastRefillNs) + b.replenished (later - now) =
      b.replenished (later - b.lastRefillNs) := by
    have hcast : ((later - b.lastRefillNs : Nat) : ℚ) =
        (now - b.lastRefillNs : Nat) + (later - now : Nat) := by
      norm_cast
      omega
    unfold replenished
    rw [hcast]
    ring
  have hmore := replenished_nonneg h (later - now)
  have hcap : min b.capacity (min b.capacity (b.tokens + b.replenished (now - b.lastRefillNs)) +
        b.replenished (later - now)) =
      min b.capacity (b.tokens + b.replenished (later - b.lastRefillNs)) := by
    rw [← hsum, ← min_add_add_right, ← min_assoc, ← add_assoc,
      min_eq_left (le_add_of_nonneg_right hmore)]
  have hrefill : b.refillAt now = { b with
      tokens := min b.capacity (b.tokens + b.replenished (now - b.lastRefillNs))
      lastRefillNs := now } := if_neg hnow
  rw [hrefill]
  unfold refillAt
  rw [if_neg hlt.not_ge, if_neg hlast]
  exact congrArg (fun tokens => { b with tokens, lastRefillNs := later }) hcap

/-! ## The named time -/

/-- The division that rounds up is the least bound of the quotient. -/
theorem roundUp_le_iff {n d e : Int} (hd : 0 < d) : (n + d - 1) / d ≤ e ↔ n ≤ e * d := by
  rw [Int.ediv_le_iff_le_mul hd]
  omega

/-- What is missing, over the rate, as the ratio of integers that `ready_at_ns` divides. -/
theorem missing_le_iff (b : TokenBucket) (cost : ℚ) (e : Int) :
    (cost.num * b.tokens.den - b.tokens.num * cost.den) * b.refillPerSecond.den * 1000000000 ≤
        e * (cost.den * b.tokens.den * b.refillPerSecond.num) ↔
      cost - b.tokens ≤ b.refillPerSecond * e / 1000000000 := by
  have hc : (0 : ℚ) < cost.den := by exact_mod_cast cost.den_pos
  have ht : (0 : ℚ) < b.tokens.den := by exact_mod_cast b.tokens.den_pos
  have hr : (0 : ℚ) < b.refillPerSecond.den := by exact_mod_cast b.refillPerSecond.den_pos
  have hcost : cost * cost.den = cost.num := Rat.mul_den_eq_num cost
  have htokens : b.tokens * b.tokens.den = b.tokens.num := Rat.mul_den_eq_num b.tokens
  have hrefill : b.refillPerSecond * b.refillPerSecond.den = b.refillPerSecond.num :=
    Rat.mul_den_eq_num b.refillPerSecond
  have hscale : (0 : ℚ) < cost.den * b.tokens.den * b.refillPerSecond.den := by positivity
  have hleft : (((cost.num * b.tokens.den - b.tokens.num * cost.den) * b.refillPerSecond.den *
      1000000000 : Int) : ℚ) = (cost - b.tokens) * 1000000000 *
        (cost.den * b.tokens.den * b.refillPerSecond.den) := by
    push_cast
    rw [← hcost, ← htokens]
    ring
  have hright : ((e * (cost.den * b.tokens.den * b.refillPerSecond.num) : Int) : ℚ) =
      b.refillPerSecond * e * (cost.den * b.tokens.den * b.refillPerSecond.den) := by
    push_cast
    rw [← hrefill]
    ring
  rw [← @Int.cast_le ℚ, hleft, hright, mul_le_mul_iff_of_pos_right hscale,
    le_div_iff₀ (by norm_num : (0 : ℚ) < 1000000000)]

/-- A bucket that can refill names a time, and it can pay the cost at a later time when that is
the named time or later, or when it could pay all along. -/
theorem waitUntil_spec {b : TokenBucket} (h : b.Sound) (hrate : 0 < b.refillPerSecond) {cost : ℚ}
    (hcost : cost ≤ b.capacity) :
    ∃ ready : Nat, b.waitUntil cost = some (ready : Int) ∧ b.lastRefillNs ≤ ready ∧
      (cost ≤ b.tokens → ready = b.lastRefillNs) ∧
      ∀ later : Nat, cost ≤ (b.refillAt later).tokens ↔ cost ≤ b.tokens ∨ ready ≤ later := by
  by_cases hpay : cost ≤ b.tokens
  · refine ⟨b.lastRefillNs, if_pos hpay, le_rfl, fun _ => rfl, fun later => ?_⟩
    exact iff_of_true (hpay.trans (tokens_le_refillAt h later)) (.inl hpay)
  · have hnum : 0 < b.refillPerSecond.num := Rat.num_pos.2 hrate
    have hden : 0 < (cost.den * b.tokens.den * b.refillPerSecond.num : Int) := by
      have hc : (0 : Int) < cost.den := by exact_mod_cast cost.den_pos
      have ht : (0 : Int) < b.tokens.den := by exact_mod_cast b.tokens.den_pos
      positivity
    have hround : ∀ e : Int, ((cost.num * b.tokens.den - b.tokens.num * cost.den) *
        b.refillPerSecond.den * 1000000000 + cost.den * b.tokens.den * b.refillPerSecond.num - 1) /
          (cost.den * b.tokens.den * b.refillPerSecond.num) ≤ e ↔
        cost - b.tokens ≤ b.refillPerSecond * e / 1000000000 := fun e =>
      (roundUp_le_iff hden).trans (missing_le_iff b cost e)
    have hwait : b.waitUntil cost = some (b.lastRefillNs +
        ((cost.num * b.tokens.den - b.tokens.num * cost.den) * b.refillPerSecond.den * 1000000000 +
          cost.den * b.tokens.den * b.refillPerSecond.num - 1) /
            (cost.den * b.tokens.den * b.refillPerSecond.num) : Int) :=
      (if_neg hpay).trans (if_neg hrate.ne')
    generalize ((cost.num * b.tokens.den - b.tokens.num * cost.den) * b.refillPerSecond.den *
      1000000000 + cost.den * b.tokens.den * b.refillPerSecond.num - 1) /
        (cost.den * b.tokens.den * b.refillPerSecond.num : Int) = wait at hround hwait
    have hpos : 0 < wait := by
      by_contra hneg
      have hle := (hround 0).1 (not_lt.mp hneg)
      simp only [Int.cast_zero, mul_zero, zero_div] at hle
      exact hpay (sub_nonpos.mp hle)
    refine ⟨b.lastRefillNs + wait.toNat, ?_, Nat.le_add_right _ _, fun hp => absurd hp hpay,
      fun later => ?_⟩
    · rw [hwait, Nat.cast_add, Int.toNat_of_nonneg hpos.le]
    · have helapsed := hround (later - b.lastRefillNs : Nat)
      rw [tokens_refillAt h, le_min_iff, and_iff_right hcost, or_iff_right hpay, replenished,
        ← sub_le_iff_le_add', ← Int.cast_natCast, ← helapsed]
      omega

/-! ## Polls -/

/-- A call that neither acquires nor sets anything, and whose sample is not past a time: a
reading of the tokens, a question for the ready time, an acquisition that is refused, and each
call of these that raises. -/
def Op.Polls (time : Nat) (b : TokenBucket) (op : Op) : Prop :=
  (∀ now ∈ (op.exec b).sampled, now ≤ time) ∧
  match op with
  | .tryAcquire cost nowNs clock =>
    (b.tryAcquire cost nowNs clock).toOption.map Prod.fst ≠ some true
  | .readyAtNs _ _ _ => True
  | .tokens _ => True
  | _ => False

instance Op.decidablePolls (time : Nat) (b : TokenBucket) : (op : Op) → Decidable (op.Polls time b)
  | .tryAcquire _ _ _ => inferInstanceAs (Decidable (_ ∧ _ ≠ _))
  | .readyAtNs _ _ _ => inferInstanceAs (Decidable (_ ∧ True))
  | .tokens _ => inferInstanceAs (Decidable (_ ∧ True))
  | .observeAvailable _ _ => inferInstanceAs (Decidable (_ ∧ False))
  | .shrink _ _ _ => inferInstanceAs (Decidable (_ ∧ False))
  | .setRefillMultiplier _ _ _ => inferInstanceAs (Decidable (_ ∧ False))

/-- A run of polls. -/
def PollsUntil (time : Nat) (b : TokenBucket) : List Op → Prop
  | [] => True
  | op :: ops => op.Polls time b ∧ PollsUntil time (op.exec b).bucket ops

instance decidablePollsUntil (time : Nat) :
    (b : TokenBucket) → (ops : List Op) → Decidable (PollsUntil time b ops)
  | _, [] => inferInstanceAs (Decidable True)
  | b, op :: ops =>
    have : Decidable (PollsUntil time (op.exec b).bucket ops) := decidablePollsUntil time _ ops
    inferInstanceAs (Decidable (_ ∧ _))

/-- A poll refills the bucket, if it does anything. -/
theorem bucket_of_polls {time : Nat} {b : TokenBucket} {op : Op} (h : op.Polls time b) :
    ∃ now ≤ time, (op.exec b).bucket = b.refillAt now := by
  obtain ⟨hsampled, hop⟩ := h
  have hraise : b = b.refillAt 0 := (refillAt_of_le (Nat.zero_le _)).symm
  cases op with
  | tryAcquire cost nowNs clock =>
    simp only [Op.exec, tryAcquire] at hsampled hop ⊢
    cases hc : b.checkCost cost with
    | error e => exact ⟨0, Nat.zero_le _, hraise⟩
    | ok q =>
      cases hs : sampleNs clock nowNs with
      | error e => exact ⟨0, Nat.zero_le _, hraise⟩
      | ok now =>
        simp only [hc, hs] at hsampled hop ⊢
        refine ⟨now, hsampled now rfl, ?_⟩
        by_cases hlt : (b.refillAt now).tokens < q
        · simp only [bind, Except.bind, pure, Except.pure, take, if_pos hlt]
        · simp only [bind, Except.bind, pure, Except.pure, take, if_neg hlt] at hop
          exact absurd rfl hop
  | readyAtNs cost nowNs clock =>
    simp only [Op.exec, readyAtNs] at hsampled ⊢
    cases hc : b.checkCost cost with
    | error e => exact ⟨0, Nat.zero_le _, hraise⟩
    | ok q =>
      cases hs : sampleNs clock nowNs with
      | error e => exact ⟨0, Nat.zero_le _, hraise⟩
      | ok now =>
        rw [hc, hs] at hsampled
        exact ⟨now, hsampled now rfl, rfl⟩
  | tokens clock =>
    simp only [Op.exec] at hsampled ⊢
    cases hs : sampleNs clock none with
    | error e => exact ⟨0, Nat.zero_le _, hraise⟩
    | ok now =>
      rw [hs] at hsampled
      exact ⟨now, hsampled now rfl, rfl⟩
  | observeAvailable rawAvailable clock => exact hop.elim
  | shrink multiplier floor clock => exact hop.elim
  | setRefillMultiplier multiplier floor clock => exact hop.elim

/-- However often a bucket is polled until a time, at that time it is the refilled bucket. -/
theorem refillAt_polled {time : Nat} {b : TokenBucket} (hb : b.Sound) {ops : List Op}
    (h : PollsUntil time b ops) : (b.run ops).refillAt time = b.refillAt time := by
  induction ops generalizing b with
  | nil => rfl
  | cons op ops ih =>
    obtain ⟨hop, hops⟩ := h
    obtain ⟨now, hnow, hbucket⟩ := bucket_of_polls hop
    have hrest := ih (moved_exec hb op).sound hops
    rw [run, hrest, hbucket, refillAt_trans hb hnow]

/-- A cost that the bucket can ever hold passes the check. -/
theorem checkCost_of_value? {b : TokenBucket} {cost : DecimalInput} {q : ℚ}
    (hvalue : cost.value? = some q) (h0 : 0 < q) (hle : q ≤ b.hardCapacity) :
    b.checkCost cost = .ok q := by
  have hinput : decimalInput cost "cost" false = .ok q := by
    simp [decimalInput, hvalue, not_lt.mpr h0.le, h0.ne']
  unfold checkCost
  rw [hinput]
  simp only [bind, Except.bind, if_neg (not_lt.mpr hle)]
  rfl

theorem tryAcquire_fst {b : TokenBucket} {cost : DecimalInput} {q : ℚ}
    (hcost : b.checkCost cost = .ok q) (now : Nat) (clock : Int) :
    ∃ b', b.tryAcquire cost (some now) clock = .ok (decide (q ≤ (b.refillAt now).tokens), b') := by
  refine ⟨((b.refillAt now).take q).2, ?_⟩
  have hfst : ((b.refillAt now).take q).1 = decide (q ≤ (b.refillAt now).tokens) := by
    unfold take
    by_cases hlt : (b.refillAt now).tokens < q
    · rw [if_pos hlt, decide_eq_false (not_le.mpr hlt)]
    · rw [if_neg hlt, decide_eq_true (not_lt.mp hlt)]
  unfold tryAcquire
  rw [hcost, sampleNs_now, ← hfst]
  rfl

/-- The time that a bucket names is exact, however it is polled until then: an acquisition at a
later time succeeds from the named time on. Before it there is one that succeeds as well, that of
a bucket that could pay, at a time before its last refill. -/
theorem polled_readyAtNs {capacity refillPerSecond : DecimalInput} {clock : Int} {b : TokenBucket}
    (hnew : new capacity refillPerSecond clock = .ok b) (ops : List Op)
    (hrate : 0 < (b.run ops).refillPerSecond) {cost : DecimalInput} {q : ℚ}
    (hvalue : cost.value? = some q) (hpos : 0 < q) (hle : q ≤ (b.run ops).hardCapacity)
    (now : Nat) (sample : Int) :
    ∃ (ready : Nat) (asked : TokenBucket),
      (b.run ops).readyAtNs cost (some now) sample = .ok (some (ready : Int), asked) ∧
      ∀ (polls : List Op) (time : Nat) (sample : Int), now ≤ time → PollsUntil time asked polls →
        ∃ left, (asked.run polls).tryAcquire cost (some time) sample =
          .ok (decide (ready ≤ time ∨
            time < (b.run ops).lastRefillNs ∧ q ≤ (b.run ops).tokens), left) := by
  have hsound : (b.run ops).Sound := (run_within_quota hnew ops).1
  generalize b.run ops = c at *
  have hcapacity : q ≤ (c.refillAt now).capacity := by
    rw [capacity_refillAt, hsound.capacity_eq]
    exact hle
  obtain ⟨ready, hready, hlast, hpaid, hspec⟩ := waitUntil_spec (hsound.refillAt now)
    (by rwa [refillPerSecond_refillAt]) hcapacity
  refine ⟨ready, c.refillAt now, ?_, fun polls time sample hnow hpolls => ?_⟩
  · unfold readyAtNs
    rw [checkCost_of_value? hvalue hpos hle, sampleNs_now]
    simp only [bind, Except.bind, pure, Except.pure, hready]
  · have hhard : ((c.refillAt now).run polls).hardCapacity = c.hardCapacity :=
      (moved_run (hsound.refillAt now) polls).hardCapacity.trans (hardCapacity_refillAt now c)
    obtain ⟨left, hleft⟩ := tryAcquire_fst
      (checkCost_of_value? hvalue hpos (hle.trans_eq hhard.symm)) time sample
    refine ⟨left, hleft.trans ?_⟩
    have htokens : q ≤ (((c.refillAt now).run polls).refillAt time).tokens ↔
        q ≤ (c.refillAt now).tokens ∨ ready ≤ time := by
      rw [refillAt_polled (hsound.refillAt now) hpolls]
      exact hspec time
    rw [decide_eq_decide.2 (htokens.trans ?_)]
    rw [lastRefillNs_refillAt] at hlast hpaid
    -- a call that lies before the last refill finds the bucket as it is
    by_cases hpast : now < c.lastRefillNs
    · rw [refillAt_of_le hpast.le] at hpaid ⊢
      rw [max_eq_left hpast.le] at hpaid
      constructor
      · rintro (hpay | hlate)
        · have := hpaid hpay
          by_cases hlt : time < c.lastRefillNs
          · exact .inr ⟨hlt, hpay⟩
          · exact .inl (by omega)
        · exact .inl hlate
      · rintro (hlate | ⟨-, hpay⟩)
        · exact .inr hlate
        · exact .inl hpay
    · constructor
      · rintro (hpay | hlate)
        · have := hpaid hpay
          exact .inl (by omega)
        · exact .inl hlate
      · rintro (hlate | ⟨hlt, -⟩)
        · exact .inr hlate
        · omega

/-- Polls of the empty bucket that `ofTenOps` leaves: two readings, a refused acquisition and a
question that raises. -/
def ofTenPolls : List Op :=
  [.tokens 1000000010, .tryAcquire (.int 3) (some 1500000005) 0,
    .readyAtNs (.int 11) (some 1600000005) 0, .readyAtNs (.int 1) none 1000000006]

/-- The wait of a little more than four seconds is rounded up to a nanosecond. -/
theorem ofTen_polled :
    ∃ ready asked left, (ofTen.run ofTenOps).readyAtNs (.finite (20000000003 / 10000000000))
        (some 1000000005) 0 = .ok (some ((ready : Nat) : Int), asked) ∧
      (asked.run ofTenPolls).tryAcquire (.finite (20000000003 / 10000000000)) (some 5000000006) 0 =
        .ok (decide (ready ≤ 5000000006 ∨ 5000000006 < (ofTen.run ofTenOps).lastRefillNs ∧
          20000000003 / 10000000000 ≤ (ofTen.run ofTenOps).tokens), left) := by
  have hnew : new (.int 10) (.int 1) 5 = .ok ofTen := rfl
  have hrate : 0 < (ofTen.run ofTenOps).refillPerSecond := by decide +kernel
  have hvalue : (DecimalInput.finite (20000000003 / 10000000000)).value? =
    some (20000000003 / 10000000000) := rfl
  obtain ⟨ready, asked, hready, hpolls⟩ := polled_readyAtNs hnew ofTenOps hrate hvalue
    (by norm_num) (by decide +kernel) 1000000005 0
  have hasked : asked = ofTen.run ofTenOps := by
    have hsame : ((ofTen.run ofTenOps).readyAtNs (.finite (20000000003 / 10000000000))
        (some (1000000005 : Nat)) 0).toOption.map Prod.snd = some (ofTen.run ofTenOps) := by
      decide +kernel
    rw [hready] at hsame
    exact Option.some.inj hsame
  obtain ⟨left, hleft⟩ := hpolls ofTenPolls 5000000006 0 (by norm_num) (by
    rw [hasked]
    decide +kernel)
  exact ⟨ready, asked, left, hready, hleft⟩

/-- A bucket that can pay names the time of its last refill to a caller whose time is earlier, and
pays this caller all the same. -/
theorem early_caller_served :
    new (.int 10) (.int 1) 5 = .ok ofTen ∧
      ofTen.readyAtNs (.int 1) (some 3) 0 = .ok (some 5, ofTen) ∧
      ofTen.tryAcquire (.int 1) (some 3) 0 = .ok (true, { ofTen with tokens := 9 }) := by
  refine ⟨rfl, ?_, ?_⟩ <;> decide +kernel

end TokenBucket

end CryptoCollector.Network
