import Mathlib.Algebra.BigOperators.Group.List.Basic
import Mathlib.Algebra.BigOperators.Pi

/-!
# Tallies by key

Weights are charged to keys, and charges add up. A charge may have no key.

* `tally_apply`: what is charged to a key in all.
* `sum_tally`: the tallies of all keys add up to the weights that were charged.
-/

namespace Lib

variable {α κ M : Type} [DecidableEq κ] [AddCommMonoid M]

/-- A weight that is charged to a key, if there is one. -/
def charge (key : Option κ) (weight : M) : κ → M :=
  match key with
  | some k => Pi.single k weight
  | none => 0

/-- The charges of a list. -/
def tally (key : α → Option κ) (weight : α → M) (xs : List α) : κ → M :=
  (xs.map fun x => charge (key x) (weight x)).sum

theorem charge_apply (key : Option κ) (weight : M) (k : κ) :
    charge key weight k = if key = some k then weight else 0 := by
  cases key with
  | none => simp [charge]
  | some k' =>
    rw [charge, Pi.single_apply]
    exact if_congr (by rw [Option.some.injEq, eq_comm]) rfl rfl

variable {key : α → Option κ} {weight : α → M} {xs : List α}

@[simp] theorem tally_nil : tally key weight [] = 0 := rfl

theorem tally_concat (x : α) :
    tally key weight (xs ++ [x]) = tally key weight xs + charge (key x) (weight x) := by
  rw [tally, List.map_append, List.sum_append, List.map_singleton, List.sum_singleton]
  rfl

/-- What is charged to a key in all. -/
theorem tally_apply (k : κ) :
    tally key weight xs k = ((xs.filter (key · = some k)).map weight).sum := by
  induction xs with
  | nil => rfl
  | cons x xs ih =>
    have hcons : tally key weight (x :: xs) k =
        charge (key x) (weight x) k + tally key weight xs k := by
      rw [tally, List.map_cons, List.sum_cons]
      rfl
    rw [hcons, charge_apply, ih]
    by_cases hx : key x = some k
    · rw [if_pos hx, List.filter_cons_of_pos (by simpa using hx), List.map_cons, List.sum_cons]
    · rw [if_neg hx, zero_add, List.filter_cons_of_neg (by simpa using hx)]

/-- A charge to one of some keys is one of their charges. -/
theorem sum_charge {keys : List κ} (hkeys : keys.Nodup) {o : Option κ} (ho : ∀ k ∈ o, k ∈ keys)
    (w : M) : (keys.map fun k => charge o w k).sum = if o.isSome then w else 0 := by
  cases o with
  | none => simp [charge]
  | some k =>
    have hmem : k ∈ keys := ho k rfl
    clear ho
    induction keys with
    | nil => cases hmem
    | cons k' keys ih =>
      obtain ⟨hnew, hkeys⟩ := List.nodup_cons.mp hkeys
      rw [List.map_cons, List.sum_cons, charge_apply]
      by_cases hk : k = k'
      · subst hk
        have hzero : (keys.map fun a => charge (some k) w a).sum = 0 := by
          refine List.sum_eq_zero fun v hv => ?_
          obtain ⟨a, ha, rfl⟩ := List.mem_map.mp hv
          rw [charge_apply, if_neg]
          rintro ⟨⟩
          exact hnew ha
        simp [hzero]
      · rw [if_neg (by simpa using hk), zero_add, ih hkeys ((List.mem_cons.mp hmem).resolve_left hk)]

/-- The tallies of all keys add up to the weights that were charged. -/
theorem sum_tally {keys : List κ} (hkeys : keys.Nodup)
    (hmem : ∀ x ∈ xs, ∀ k ∈ key x, k ∈ keys) :
    (keys.map (tally key weight xs)).sum = ((xs.filter fun x => (key x).isSome).map weight).sum := by
  induction xs with
  | nil =>
    refine List.sum_eq_zero fun w hw => ?_
    obtain ⟨k, -, rfl⟩ := List.mem_map.mp hw
    rfl
  | cons x xs ih =>
    have hcons : tally key weight (x :: xs) =
        fun k => charge (key x) (weight x) k + tally key weight xs k := by
      funext k
      rw [tally, List.map_cons, List.sum_cons]
      rfl
    rw [hcons, List.sum_map_add, sum_charge hkeys (hmem x List.mem_cons_self),
      ih fun y hy => hmem y (List.mem_cons_of_mem _ hy)]
    cases hx : (key x).isSome with
    | true => simp [hx]
    | false => simp [hx]

end Lib
