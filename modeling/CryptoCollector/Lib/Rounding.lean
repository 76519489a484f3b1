import CryptoCollector.Lib.Numerals
import Mathlib.Algebra.Order.Field.Power
import Mathlib.Data.Int.Log
import Mathlib.Data.Rat.Floor
import Mathlib.Tactic.FieldSimp
import Mathlib.Tactic.Positivity
import Mathlib.Tactic.Ring

/-!
# Rounding to significant digits

Division in a decimal context: the exact quotient is rounded half to even to a number of
significant digits, or to the last place that the exponents of the context allow.

* `roundsHalfEven_roundHalfEven`: the rounded number is nearest, ties to even.
* `Context.roundsTo_of_divide`: a quotient in the range of the context is rounded to its digits.
* `Context.pow_le_value_iff`: which quotients are rounded to a given power of ten or more.
-/

namespace Lib

/-! ## To a natural number -/

/-- A rational number rounded to a natural number, half to even. -/
def roundHalfEven (q : ℚ) : ℕ :=
  if q - ⌊q⌋₊ < 1 / 2 ∨ q - ⌊q⌋₊ = 1 / 2 ∧ ⌊q⌋₊ % 2 = 0 then ⌊q⌋₊ else ⌊q⌋₊ + 1

/-- A natural number is nearest to a rational number, and even when there are two such. -/
def RoundsHalfEven (q : ℚ) (c : ℕ) : Prop := |q - c| ≤ 1 / 2 ∧ (|q - c| = 1 / 2 → c % 2 = 0)

theorem roundsHalfEven_roundHalfEven {q : ℚ} (hq : 0 ≤ q) : RoundsHalfEven q (roundHalfEven q) := by
  have hle := Nat.floor_le hq
  have hlt := Nat.lt_floor_add_one q
  unfold roundHalfEven RoundsHalfEven
  split_ifs with h
  · rw [abs_of_nonneg (by linarith)]
    rcases h with h | ⟨h, heven⟩
    · exact ⟨h.le, fun heq => absurd heq h.ne⟩
    · exact ⟨h.le, fun _ => heven⟩
  · rw [not_or, not_and] at h
    push_cast
    rw [abs_of_nonpos (by linarith)]
    refine ⟨by linarith [not_lt.mp h.1], fun heq => ?_⟩
    have := h.2 (by linarith)
    omega

/-- A natural number is rounded to itself or more exactly from half a place below it on, which
the even ones include. -/
theorem le_of_roundsHalfEven {q : ℚ} {c m : ℕ} (h : RoundsHalfEven q c) (heven : m % 2 = 0) :
    m ≤ c ↔ (m : ℚ) - 1 / 2 ≤ q := by
  obtain ⟨hle, htie⟩ := h
  rw [abs_le] at hle
  constructor
  · intro hmc
    have : (m : ℚ) ≤ c := by exact_mod_cast hmc
    linarith
  · intro hmq
    by_contra hcm
    have hsucc : (c : ℚ) + 1 ≤ m := by exact_mod_cast Nat.succ_le_of_lt (not_le.mp hcm)
    have heq : q - c = 1 / 2 := by linarith
    have hceven := htie (by rw [heq]; exact abs_of_pos (by norm_num))
    have hm : (m : ℚ) ≤ c + 1 := by linarith
    have : m ≤ c + 1 := by exact_mod_cast hm
    omega

theorem le_of_natCast_le {q : ℚ} {c m : ℕ} (h : RoundsHalfEven q c) (hm : (m : ℚ) ≤ q) :
    m ≤ c := by
  obtain ⟨hle, -⟩ := h
  rw [abs_le] at hle
  have : (m : ℚ) < c + 1 := by linarith
  exact Nat.lt_succ_iff.mp (by exact_mod_cast this)

theorem roundsHalfEven_le {q : ℚ} {c m : ℕ} (h : RoundsHalfEven q c) (hq : q < m) : c ≤ m := by
  obtain ⟨hle, -⟩ := h
  rw [abs_le] at hle
  have : (c : ℚ) < m + 1 := by linarith
  exact Nat.lt_succ_iff.mp (by exact_mod_cast this)

/-! ## To significant digits -/

/-- A rational number is rounded half to even to some significant digits. -/
def RoundsTo (digits : ℕ) (q v : ℚ) : Prop :=
  ∃ (c : ℕ) (e : ℤ), v = c * 10 ^ e ∧ (10 : ℚ) ^ (digits - 1 : ℤ) ≤ q / 10 ^ e ∧
    q / 10 ^ e < 10 ^ (digits : ℤ) ∧ RoundsHalfEven (q / 10 ^ e) c

/-- Digits do not round to zero. -/
theorem RoundsTo.ne_zero {digits : ℕ} {q v : ℚ} (hdigits : 0 < digits) (h : RoundsTo digits q v) :
    v ≠ 0 := by
  obtain ⟨c, e, rfl, hlow, -, hround⟩ := h
  have hone : ((1 : ℕ) : ℚ) ≤ q / 10 ^ e := by
    refine le_trans ?_ hlow
    rw [Nat.cast_one]
    exact one_le_zpow₀ (by norm_num) (by omega)
  have hc : 1 ≤ c := le_of_natCast_le hround hone
  exact mul_ne_zero (Nat.cast_ne_zero.mpr (by omega)) (zpow_ne_zero _ (by norm_num))

namespace Decimal

/-- The value of a decimal number. -/
def value (d : Decimal) : ℚ := (if d.negative then -1 else 1) * d.coefficient * 10 ^ d.exponent

/-- Remove zeros at the end of the coefficient, as long as the exponent is negative. -/
def reduce : ℕ → ℕ → ℤ → Decimal
  | 0, c, e => ⟨false, c, e⟩
  | fuel + 1, c, e => if e < 0 ∧ c % 10 = 0 then reduce fuel (c / 10) (e + 1) else ⟨false, c, e⟩

theorem value_reduce (fuel c : ℕ) (e : ℤ) : (reduce fuel c e).value = c * 10 ^ e := by
  induction fuel generalizing c e with
  | zero => simp [reduce, value]
  | succ fuel ih =>
    unfold reduce
    split_ifs with h
    · have hc : (c : ℚ) = (c / 10 : ℕ) * 10 := by
        exact_mod_cast (Nat.div_mul_cancel (Nat.dvd_of_mod_eq_zero h.2)).symm
      rw [ih, hc, zpow_add_one₀ (by norm_num)]
      ring
    · simp [value]

theorem negative_reduce (fuel c : ℕ) (e : ℤ) : (reduce fuel c e).negative = false := by
  induction fuel generalizing c e with
  | zero => rfl
  | succ fuel ih =>
    unfold reduce
    split_ifs
    · exact ih _ _
    · rfl

end Decimal

/-- A decimal context with its precision and its exponents. It rounds half to even and raises an
overflow only. -/
structure Context where
  prec : ℕ
  emin : ℤ
  emax : ℤ

namespace Context

variable (ctx : Context)

/-- The least exponent of a subnormal number. -/
def etiny : ℤ := ctx.emin - (ctx.prec - 1)

/-- The exponent of the last place of a quotient. -/
def place (q : ℚ) : ℤ := max (Int.log 10 q - (ctx.prec - 1)) ctx.etiny

/-- The coefficient and the exponent of a rounded quotient. A coefficient of one digit too many is
a power of ten. -/
def rounded (q : ℚ) : ℕ × ℤ :=
  let c := roundHalfEven (q / 10 ^ ctx.place q)
  if c = 10 ^ ctx.prec then (10 ^ (ctx.prec - 1), ctx.place q + 1) else (c, ctx.place q)

/-- `Context.divide` of two positive integers, or nothing where it overflows. An exact quotient has
the exponent nearest to zero. -/
def divide (n d : ℕ) : Option Decimal :=
  let q : ℚ := n / d
  let r := ctx.rounded q
  if ctx.emax < Int.log 10 (r.1 * 10 ^ r.2 : ℚ) then none
  else if (r.1 : ℚ) * 10 ^ r.2 = q then some (Decimal.reduce ctx.prec r.1 r.2)
  else some ⟨false, r.1, r.2⟩

variable {ctx}

theorem value_rounded (hprec : 0 < ctx.prec) (q : ℚ) :
    ((ctx.rounded q).1 : ℚ) * 10 ^ (ctx.rounded q).2 =
      roundHalfEven (q / 10 ^ ctx.place q) * 10 ^ ctx.place q := by
  unfold rounded
  dsimp only
  split_ifs with h
  · rw [h, zpow_add_one₀ (by norm_num)]
    obtain ⟨p, hp⟩ := Nat.exists_eq_succ_of_ne_zero hprec.ne'
    rw [hp, Nat.succ_sub_one, pow_succ]
    push_cast
    ring
  · rfl

theorem divide_eq_some (hprec : 0 < ctx.prec) {n d : ℕ} {r : Decimal}
    (h : ctx.divide n d = some r) : r.negative = false ∧
      r.value = roundHalfEven ((n / d : ℚ) / 10 ^ ctx.place (n / d)) * 10 ^ ctx.place (n / d) := by
  unfold divide at h
  dsimp only at h
  rw [← value_rounded hprec]
  split_ifs at h
  · cases h
    exact ⟨Decimal.negative_reduce _ _ _, Decimal.value_reduce _ _ _⟩
  · cases h
    exact ⟨rfl, by simp [Decimal.value]⟩

/-- The rounded coefficient of a quotient. -/
theorem roundsHalfEven_place {q : ℚ} (hq : 0 < q) :
    RoundsHalfEven (q / 10 ^ ctx.place q) (roundHalfEven (q / 10 ^ ctx.place q)) :=
  roundsHalfEven_roundHalfEven (by positivity)

/-- A quotient in the range of the context is rounded to its digits. -/
theorem roundsTo_of_divide (hprec : 0 < ctx.prec) {n d : ℕ} {r : Decimal}
    (h : ctx.divide n d = some r) (hq : (0 : ℚ) < n / d)
    (hnormal : ctx.etiny ≤ Int.log 10 (n / d : ℚ) - (ctx.prec - 1)) :
    RoundsTo ctx.prec (n / d) r.value := by
  have hplace : ctx.place (n / d) = Int.log 10 (n / d : ℚ) - (ctx.prec - 1) := max_eq_left hnormal
  have hpos : (0 : ℚ) < 10 ^ ctx.place (n / d) := by positivity
  refine ⟨_, _, (divide_eq_some hprec h).2, ?_, ?_, roundsHalfEven_place hq⟩
  · rw [le_div_iff₀ hpos, ← zpow_add₀ (by norm_num), hplace, add_sub_cancel]
    exact_mod_cast Int.zpow_log_le_self (by norm_num) hq
  · rw [div_lt_iff₀ hpos, ← zpow_add₀ (by norm_num), hplace]
    have hlt := Int.lt_zpow_succ_log_self (b := 10) (by norm_num) (n / d : ℚ)
    refine hlt.trans_eq ?_
    push_cast
    congr 1
    ring

/-- A power of ten in units of a place. -/
theorem exists_pow_mul {e k : ℤ} (h : e ≤ k) :
    ∃ j : ℕ, (k : ℤ) - e = j ∧ ((10 ^ j : ℕ) : ℚ) * 10 ^ e = 10 ^ k := by
  obtain ⟨j, hj⟩ := Int.eq_ofNat_of_zero_le (Int.sub_nonneg.mpr h)
  refine ⟨j, hj, ?_⟩
  rw [Nat.cast_pow, Nat.cast_ofNat, ← zpow_natCast, ← zpow_add₀ (by norm_num)]
  congr 1
  omega

/-- A power of ten is not rounded away. -/
theorem pow_le_rounded (hprec : 0 < ctx.prec) {q : ℚ} (hq : 0 < q) {k : ℤ} (hk : ctx.etiny ≤ k)
    (hkq : 10 ^ k ≤ q) :
    (10 : ℚ) ^ k ≤ roundHalfEven (q / 10 ^ ctx.place q) * 10 ^ ctx.place q := by
  have hround := @roundsHalfEven_place ctx _ hq
  have hpos : (0 : ℚ) < 10 ^ ctx.place q := by positivity
  rcases le_total (ctx.place q) k with hle | hge
  · obtain ⟨j, -, hj⟩ := exists_pow_mul hle
    have hc : 10 ^ j ≤ roundHalfEven (q / 10 ^ ctx.place q) := le_of_natCast_le hround (by
      rwa [le_div_iff₀ hpos, hj])
    rw [← hj]
    exact mul_le_mul_of_nonneg_right (by exact_mod_cast hc) hpos.le
  · -- the place is that of a digit of the quotient
    have hplace : (10 : ℚ) ^ ctx.place q ≤ q := by
      rcases le_total (Int.log 10 q - (ctx.prec - 1)) ctx.etiny with htiny | hlog
      · have : ctx.place q = k := le_antisymm ((max_eq_right htiny).le.trans hk) hge
        rwa [this]
      · have hle : ctx.place q ≤ Int.log 10 q := (max_eq_left hlog).le.trans (by omega)
        exact (zpow_le_zpow_right₀ (by norm_num) hle).trans
          (Int.zpow_log_le_self (b := 10) (by norm_num) hq)
    have hc : 1 ≤ roundHalfEven (q / 10 ^ ctx.place q) := le_of_natCast_le hround (by
      rwa [le_div_iff₀ hpos, Nat.cast_one, one_mul])
    calc (10 : ℚ) ^ k ≤ 10 ^ ctx.place q := zpow_le_zpow_right₀ (by norm_num) hge
      _ ≤ _ := le_mul_of_one_le_left hpos.le (by exact_mod_cast hc)

/-- Below a power of ten a quotient is rounded up to it from half a place below on. -/
theorem pow_le_rounded_iff_of_lt (hprec : 0 < ctx.prec) {q : ℚ} (hq : 0 < q) {k : ℤ}
    (hk : ctx.etiny ≤ k - ctx.prec) (hqk : q < 10 ^ k) :
    (10 : ℚ) ^ k ≤ roundHalfEven (q / 10 ^ ctx.place q) * 10 ^ ctx.place q ↔
      (10 : ℚ) ^ k - 10 ^ (k - ctx.prec) / 2 ≤ q := by
  have hround := @roundsHalfEven_place ctx _ hq
  have hpos : (0 : ℚ) < 10 ^ ctx.place q := by positivity
  have hlog : Int.log 10 q < k := (Int.lt_zpow_iff_log_lt (by norm_num) hq).mp (by
    exact_mod_cast hqk)
  have hplace : ctx.place q ≤ k - ctx.prec := max_le (by omega) hk
  obtain ⟨j, hkj, hj⟩ := exists_pow_mul (e := ctx.place q) (k := k) (by omega)
  have heven : 10 ^ j % 2 = 0 := by
    obtain ⟨i, rfl⟩ : ∃ i, j = i + 1 := ⟨j - 1, by omega⟩
    rw [pow_succ]
    omega
  have hhalf : (10 : ℚ) ^ k ≤ roundHalfEven (q / 10 ^ ctx.place q) * 10 ^ ctx.place q ↔
      (10 : ℚ) ^ k - 10 ^ ctx.place q / 2 ≤ q := by
    rw [← hj, mul_le_mul_iff_left₀ hpos, Nat.cast_le, le_of_roundsHalfEven hround heven,
      le_div_iff₀ hpos]
    constructor <;> intro h <;> linarith
  rw [hhalf]
  constructor
  · intro h
    have : (10 : ℚ) ^ ctx.place q ≤ 10 ^ (k - ctx.prec) := zpow_le_zpow_right₀ (by norm_num) hplace
    linarith
  · intro h
    -- so close to the power of ten, the quotient has its digits up to that place
    have hnear : (10 : ℚ) ^ (k - 1) ≤ q := by
      have hten : (10 : ℚ) ^ k = 10 ^ (k - 1) * 10 := by
        rw [← zpow_add_one₀ (by norm_num), sub_add_cancel]
      have hle : (10 : ℚ) ^ (k - ctx.prec) ≤ 10 ^ (k - 1) :=
        zpow_le_zpow_right₀ (by norm_num) (by omega)
      have : (0 : ℚ) < 10 ^ (k - 1) := by positivity
      linarith
    have hlog' : k - 1 ≤ Int.log 10 q := (Int.zpow_le_iff_le_log (by norm_num) hq).mp (by
      exact_mod_cast hnear)
    have : ctx.place q = k - ctx.prec := le_antisymm hplace (by
      refine le_trans ?_ (le_max_left _ _)
      omega)
    rwa [this]

/-- A quotient is rounded to a power of ten or more from half a place below it on. -/
theorem pow_le_value_iff (hprec : 0 < ctx.prec) {n d : ℕ} {r : Decimal}
    (h : ctx.divide n d = some r) (hq : (0 : ℚ) < n / d) {k : ℤ} (hk : ctx.etiny ≤ k - ctx.prec) :
    (10 : ℚ) ^ k ≤ r.value ↔ (10 : ℚ) ^ k - 10 ^ (k - ctx.prec) / 2 ≤ n / d := by
  rw [(divide_eq_some hprec h).2]
  rcases le_or_gt ((10 : ℚ) ^ k) (n / d) with hle | hlt
  · have : (0 : ℚ) < 10 ^ (k - ctx.prec) := by positivity
    exact iff_of_true (pow_le_rounded hprec hq (by omega) hle) (by linarith)
  · exact pow_le_rounded_iff_of_lt hprec hq hk hlt

/-- Rounding does not pass a power of ten. -/
theorem rounded_le_pow (hprec : 0 < ctx.prec) {q : ℚ} (hq : 0 < q) {k : ℤ} (hk : ctx.etiny ≤ k)
    (hqk : q < 10 ^ k) : (roundHalfEven (q / 10 ^ ctx.place q) : ℚ) * 10 ^ ctx.place q ≤ 10 ^ k := by
  have hpos : (0 : ℚ) < 10 ^ ctx.place q := by positivity
  have hlog : Int.log 10 q < k := (Int.lt_zpow_iff_log_lt (by norm_num) hq).mp (by
    exact_mod_cast hqk)
  obtain ⟨j, -, hj⟩ := exists_pow_mul (e := ctx.place q) (k := k) (max_le (by omega) hk)
  have hc : roundHalfEven (q / 10 ^ ctx.place q) ≤ 10 ^ j :=
    roundsHalfEven_le (@roundsHalfEven_place ctx _ hq) (by rwa [div_lt_iff₀ hpos, hj])
  rw [← hj]
  exact mul_le_mul_of_nonneg_right (by exact_mod_cast hc) hpos.le

/-- A quotient within the exponents of the context does not overflow. -/
theorem exists_divide (hprec : 0 < ctx.prec) {n d : ℕ} (hq : (0 : ℚ) < n / d) {k : ℤ}
    (hk : ctx.etiny ≤ k) (hqk : (n / d : ℚ) < 10 ^ k) (hmax : k ≤ ctx.emax) (hzero : 0 ≤ ctx.emax) :
    ∃ r, ctx.divide n d = some r := by
  have hle := rounded_le_pow hprec hq hk hqk
  rw [← value_rounded hprec] at hle
  have hlog : Int.log 10 (((ctx.rounded (n / d)).1 : ℚ) * 10 ^ (ctx.rounded (n / d)).2) ≤
      ctx.emax := by
    rcases eq_or_ne (((ctx.rounded (n / d)).1 : ℚ) * 10 ^ (ctx.rounded (n / d)).2) 0 with h0 | h0
    · rw [h0, Int.log_zero_right]
      exact hzero
    · have hpos : 0 < ((ctx.rounded (n / d)).1 : ℚ) * 10 ^ (ctx.rounded (n / d)).2 :=
        lt_of_le_of_ne (by positivity) h0.symm
      refine (Int.log_mono_right hpos hle).trans ?_
      rw [show (10 : ℚ) = ((10 : ℕ) : ℚ) by norm_num, Int.log_zpow (by norm_num)]
      exact hmax
  unfold divide
  dsimp only
  rw [if_neg (not_lt.mpr hlog)]
  split_ifs
  · exact ⟨_, rfl⟩
  · exact ⟨_, rfl⟩

end Context

end Lib
