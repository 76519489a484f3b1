import Mathlib.Algebra.BigOperators.Ring.List
import Mathlib.Algebra.Order.BigOperators.Group.List
import Mathlib.Algebra.Order.Ring.Int
import Mathlib.Data.Rat.Defs
import Mathlib.Tactic.Linarith
import Mathlib.Tactic.Ring

/-!
# Least squares over the integers

The numerator and the denominator of the least squares slope of some points, as integers. Each of
them is a sum over the pairs of points (`slopeNumerator_cons`, `slopeDenominator_cons`), so that

* `slopeDenominator_pos`: the denominator is positive when two points differ in their first
  coordinate;
* `slopeNumerator_le`: the slope is bounded by a bound of the differences of the second
  coordinates;
* `slopeNumerator_shift`, `slopeDenominator_shift`: the origin of the first coordinates is
  arbitrary.
-/

namespace Lib

/-- The numerator of the least squares slope. -/
def slopeNumerator (points : List (Int × Int)) : Int :=
  points.length * (points.map fun p => p.1 * p.2).sum -
    (points.map Prod.fst).sum * (points.map Prod.snd).sum

/-- The denominator of the least squares slope. -/
def slopeDenominator (points : List (Int × Int)) : Int :=
  points.length * (points.map fun p => p.1 * p.1).sum - (points.map Prod.fst).sum ^ 2

/-- The least squares slope. -/
def leastSquaresSlope (points : List (Int × Int)) : ℚ :=
  slopeNumerator points / slopeDenominator points

variable {points : List (Int × Int)}

theorem sum_map_sub_mul_sub (p : Int × Int) (points : List (Int × Int)) :
    (points.map fun q => (p.1 - q.1) * (p.2 - q.2)).sum =
      points.length * (p.1 * p.2) - p.1 * (points.map Prod.snd).sum -
        p.2 * (points.map Prod.fst).sum + (points.map fun q => q.1 * q.2).sum := by
  induction points with
  | nil => simp
  | cons q points ih =>
    simp only [List.map_cons, List.sum_cons, ih, List.length_cons]
    push_cast
    ring

theorem slopeNumerator_cons (p : Int × Int) (points : List (Int × Int)) :
    slopeNumerator (p :: points) =
      slopeNumerator points + (points.map fun q => (p.1 - q.1) * (p.2 - q.2)).sum := by
  rw [sum_map_sub_mul_sub]
  simp only [slopeNumerator, List.map_cons, List.sum_cons, List.length_cons]
  push_cast
  ring

theorem slopeDenominator_eq (points : List (Int × Int)) :
    slopeDenominator points = slopeNumerator (points.map fun p => (p.1, p.1)) := by
  simp only [slopeDenominator, slopeNumerator, List.map_map, List.length_map, Function.comp_def]
  ring

theorem slopeDenominator_cons (p : Int × Int) (points : List (Int × Int)) :
    slopeDenominator (p :: points) =
      slopeDenominator points + (points.map fun q => (p.1 - q.1) ^ 2).sum := by
  rw [slopeDenominator_eq, slopeDenominator_eq, List.map_cons, slopeNumerator_cons, List.map_map]
  simp only [Function.comp_def, pow_two]

theorem sum_map_sq_nonneg (p : Int × Int) (points : List (Int × Int)) :
    0 ≤ (points.map fun q => (p.1 - q.1) ^ 2).sum := by
  refine List.sum_nonneg fun x hx => ?_
  obtain ⟨q, -, rfl⟩ := List.mem_map.mp hx
  exact sq_nonneg _

theorem slopeDenominator_nonneg (points : List (Int × Int)) : 0 ≤ slopeDenominator points := by
  induction points with
  | nil => simp [slopeDenominator]
  | cons p points ih =>
    rw [slopeDenominator_cons]
    exact add_nonneg ih (sum_map_sq_nonneg p points)

/-- The denominator is positive when the first coordinates increase and there are two of them. -/
theorem slopeDenominator_pos (hsorted : points.Pairwise fun p q => p.1 < q.1)
    (hlength : 2 ≤ points.length) : 0 < slopeDenominator points := by
  match points, hsorted, hlength with
  | p :: q :: points, hsorted, _ =>
    have hlt : p.1 < q.1 := (List.pairwise_cons.mp hsorted).1 q List.mem_cons_self
    have hsq : 0 < (p.1 - q.1) ^ 2 := sq_pos_of_ne_zero (sub_ne_zero.mpr hlt.ne)
    rw [slopeDenominator_cons, List.map_cons, List.sum_cons]
    have := slopeDenominator_nonneg (q :: points)
    have := sum_map_sq_nonneg p points
    linarith

/-- Over the integers a product of differences is bounded by a multiple of a square. -/
theorem mul_sub_le {a b c d bound : Int} (h : c - d ≤ bound) (h' : d - c ≤ bound) :
    (a - b) * (c - d) ≤ bound * (a - b) ^ 2 := by
  have hbound : 0 ≤ bound := by linarith
  rcases lt_trichotomy a b with hlt | rfl | hgt
  · calc (a - b) * (c - d) = (b - a) * (d - c) := by ring
      _ ≤ (b - a) * bound := mul_le_mul_of_nonneg_left h' (by linarith)
      _ ≤ (b - a) * bound * (b - a) := le_mul_of_one_le_right
          (mul_nonneg (by linarith) hbound) (by omega)
      _ = bound * (a - b) ^ 2 := by ring
  · simp
  · calc (a - b) * (c - d) ≤ (a - b) * bound := mul_le_mul_of_nonneg_left h (by linarith)
      _ ≤ (a - b) * bound * (a - b) := le_mul_of_one_le_right
          (mul_nonneg (by linarith) hbound) (by omega)
      _ = bound * (a - b) ^ 2 := by ring

/-- Where the second coordinates differ by at most `bound`, so much is the slope at most. -/
theorem slopeNumerator_le {bound : Int} (hbound : ∀ p ∈ points, ∀ q ∈ points, p.2 - q.2 ≤ bound) :
    slopeNumerator points ≤ bound * slopeDenominator points := by
  induction points with
  | nil => simp [slopeNumerator, slopeDenominator]
  | cons p points ih =>
    rw [slopeNumerator_cons, slopeDenominator_cons, mul_add]
    refine add_le_add (ih fun q hq r hr =>
      hbound q (List.mem_cons_of_mem _ hq) r (List.mem_cons_of_mem _ hr)) ?_
    rw [← List.sum_map_mul_left]
    refine List.sum_le_sum fun q hq => ?_
    have hpq := hbound p List.mem_cons_self q (List.mem_cons_of_mem _ hq)
    have hqp := hbound q (List.mem_cons_of_mem _ hq) p List.mem_cons_self
    exact mul_sub_le hpq hqp

/-- The origin of the first coordinates is arbitrary. -/
theorem slopeNumerator_shift (origin : Int) (points : List (Int × Int)) :
    slopeNumerator (points.map fun p => (p.1 - origin, p.2)) = slopeNumerator points := by
  induction points with
  | nil => rfl
  | cons p points ih =>
    rw [List.map_cons, slopeNumerator_cons, slopeNumerator_cons, ih, List.map_map]
    simp only [Function.comp_def, sub_sub_sub_cancel_right]

theorem slopeDenominator_shift (origin : Int) (points : List (Int × Int)) :
    slopeDenominator (points.map fun p => (p.1 - origin, p.2)) = slopeDenominator points := by
  induction points with
  | nil => rfl
  | cons p points ih =>
    rw [List.map_cons, slopeDenominator_cons, slopeDenominator_cons, ih, List.map_map]
    simp only [Function.comp_def, sub_sub_sub_cancel_right]

end Lib
