import Mathlib.Data.List.Sort

/-!
# Sorting by a key and cutting into chunks

A list sorted by a key depends on its elements only when no two of them share a key
(`sortedBy_eq_of_perm`). A list is cut into chunks of one length, the last of which may be shorter.
-/

namespace Lib

variable {α β : Type}

/-! ## Sorting -/

/-- The keys of a list tell its elements apart. -/
def Keyed (key : α → β) (xs : List α) : Prop := ∀ a ∈ xs, ∀ b ∈ xs, key a = key b → a = b

theorem keyed_of_nodup_map {key : α → β} {xs : List α} (h : (xs.map key).Nodup) : Keyed key xs :=
  fun _ ha _ hb hab => List.inj_on_of_nodup_map h ha hb hab

theorem find?_key_of_mem {key : α → β} [DecidableEq β] {xs : List α} (h : (xs.map key).Nodup)
    {a : α} (ha : a ∈ xs) : xs.find? (key · = key a) = some a := by
  cases hfind : xs.find? (key · = key a) with
  | none => exact absurd (List.find?_eq_none.mp hfind a ha) (by simp)
  | some b =>
    have hkey : key b = key a := by simpa using List.find?_some hfind
    rw [keyed_of_nodup_map h b (List.mem_of_find?_eq_some hfind) a ha hkey]

theorem filter_key_of_not_mem {key : α → β} [DecidableEq β] {xs : List α} {k : β}
    (h : k ∉ xs.map key) : xs.filter (key · = k) = [] := by
  rw [List.filter_eq_nil_iff]
  intro a ha hkey
  exact h (of_decide_eq_true hkey ▸ List.mem_map_of_mem ha)

theorem filter_key_of_mem {key : α → β} [DecidableEq β] {xs : List α} (h : (xs.map key).Nodup)
    {a : α} (ha : a ∈ xs) : xs.filter (key · = key a) = [a] := by
  induction xs with
  | nil => cases ha
  | cons b xs ih =>
    rw [List.map_cons, List.nodup_cons] at h
    rcases List.mem_cons.mp ha with rfl | ha
    · rw [List.filter_cons_of_pos (by simp), filter_key_of_not_mem h.1]
    · have hne : key b ≠ key a := fun heq => h.1 (heq ▸ List.mem_map_of_mem ha)
      rw [List.filter_cons_of_neg (by simpa using hne), ih h.2 ha]

section Sorting

variable [LinearOrder β] {key : α → β} {xs ys : List α}

/-- Stable sorting by a key. -/
def sortedBy (key : α → β) (xs : List α) : List α := xs.insertionSort fun a b => key a ≤ key b

theorem sortedBy_perm (key : α → β) (xs : List α) : (sortedBy key xs).Perm xs :=
  List.perm_insertionSort _ xs

@[simp] theorem mem_sortedBy {a : α} : a ∈ sortedBy key xs ↔ a ∈ xs :=
  (sortedBy_perm key xs).mem_iff

@[simp] theorem length_sortedBy : (sortedBy key xs).length = xs.length :=
  (sortedBy_perm key xs).length_eq

theorem nodup_map_sortedBy (h : (xs.map key).Nodup) : ((sortedBy key xs).map key).Nodup :=
  ((sortedBy_perm key xs).map key).nodup_iff.mpr h

theorem pairwise_sortedBy (key : α → β) (xs : List α) :
    (sortedBy key xs).Pairwise fun a b => key a ≤ key b := by
  have : Std.Total fun a b => key a ≤ key b := ⟨fun a b => le_total (key a) (key b)⟩
  have : IsTrans α fun a b => key a ≤ key b := ⟨fun _ _ _ h h' => h.trans h'⟩
  exact List.pairwise_insertionSort _ xs

/-- A sorted list stays as it is. -/
theorem sortedBy_eq_self (h : xs.Pairwise fun a b => key a ≤ key b) : sortedBy key xs = xs :=
  List.Pairwise.insertionSort_eq h

/-- Sorting forgets the order of elements with different keys. -/
theorem sortedBy_eq_of_perm (h : xs.Perm ys) (hkey : Keyed key xs) :
    sortedBy key xs = sortedBy key ys := by
  have hperm : (sortedBy key xs).Perm (sortedBy key ys) :=
    (sortedBy_perm key xs).trans (h.trans (sortedBy_perm key ys).symm)
  refine List.Perm.eq_of_pairwise ?_ (pairwise_sortedBy key xs) (pairwise_sortedBy key ys) hperm
  intro a b ha hb hab hba
  exact hkey a (mem_sortedBy.mp ha) b (h.mem_iff.mpr (mem_sortedBy.mp hb)) (hab.antisymm hba)

theorem sortedBy_map {γ : Type} (key : α → β) (f : γ → α) (zs : List γ) :
    sortedBy key (zs.map f) = (sortedBy (fun z => key (f z)) zs).map f :=
  (List.map_insertionSort (fun a b => key (f a) ≤ key (f b)) (fun a b => key a ≤ key b) f zs
    fun _ _ _ _ => Iff.rfl).symm

/-- Lists that are related and agree in their keys are related when they are sorted. -/
theorem forall₂_sortedBy {γ : Type} {R : α → γ → Prop} {key' : γ → β}
    (hR : ∀ a c, R a c → key a = key' c) {zs : List γ} (h : List.Forall₂ R xs zs) :
    List.Forall₂ R (sortedBy key xs) (sortedBy key' zs) := by
  have hinsert {a : α} {c : γ} (hac : R a c) {xs : List α} {zs : List γ}
      (h : List.Forall₂ R xs zs) : List.Forall₂ R
        (xs.orderedInsert (fun a b => key a ≤ key b) a)
        (zs.orderedInsert (fun a b => key' a ≤ key' b) c) := by
    induction h with
    | nil => exact .cons hac .nil
    | @cons b d xs zs hbd hrest ih =>
      rw [List.orderedInsert, List.orderedInsert, hR a c hac, hR b d hbd]
      split_ifs with hle
      · exact .cons hac (.cons hbd hrest)
      · exact .cons hbd ih
  induction h with
  | nil => exact .nil
  | cons hac _ ih => exact hinsert hac ih

end Sorting

/-! ## Chunks -/

/-- The chunks of a list: its slices from the multiples of the length of a chunk on. -/
def chunks (n : Nat) (xs : List α) : List (List α) :=
  (List.range ((xs.length + n - 1) / n)).map fun i => (xs.drop (i * n)).take n

@[simp] theorem length_chunks (n : Nat) (xs : List α) :
    (chunks n xs).length = (xs.length + n - 1) / n := by
  simp [chunks]

theorem length_le_of_mem_chunks {n : Nat} {xs c : List α} (h : c ∈ chunks n xs) :
    c.length ≤ n := by
  obtain ⟨i, -, rfl⟩ := List.mem_map.mp h
  exact List.length_take_le n _

theorem flatten_slices (n m : Nat) (xs : List α) :
    ((List.range m).map fun i => (xs.drop (i * n)).take n).flatten = xs.take (m * n) := by
  induction m with
  | zero => simp
  | succ m ih =>
    rw [List.range_succ, List.map_append, List.flatten_append, ih, Nat.succ_mul, List.take_add]
    simp

theorem le_ceil_mul {n : Nat} (hn : 0 < n) (a : Nat) : a ≤ (a + n - 1) / n * n := by
  have h := Nat.div_add_mod (a + n - 1) n
  have hmod := Nat.mod_lt (a + n - 1) hn
  rw [Nat.mul_comm] at h
  omega

/-- The chunks make up the list. -/
theorem flatten_chunks {n : Nat} (hn : 0 < n) (xs : List α) : (chunks n xs).flatten = xs := by
  rw [chunks, flatten_slices, List.take_of_length_le (le_ceil_mul hn _)]

theorem ceil_le_iff {n : Nat} (hn : 0 < n) (a m : Nat) : (a + n - 1) / n ≤ m ↔ a ≤ m * n := by
  rw [Nat.div_le_iff_le_mul_add_pred hn, Nat.mul_comm]
  omega

theorem ne_nil_of_mem_chunks {n : Nat} (hn : 0 < n) {xs c : List α} (h : c ∈ chunks n xs) :
    c ≠ [] := by
  obtain ⟨i, hi, rfl⟩ := List.mem_map.mp h
  rw [List.mem_range] at hi
  have hlt : i * n < xs.length := by
    by_contra hle
    have := (ceil_le_iff hn xs.length i).mpr (by omega)
    omega
  rw [ne_eq, List.take_eq_nil_iff, List.drop_eq_nil_iff]
  omega

/-! ## Groups -/

section Groups

variable {γ : Type} [DecidableEq γ] {ks : List γ}

/-- The groups of a list make it up. -/
theorem flatMap_filter_perm (name : α → γ) (hks : ks.Nodup) (xs : List α)
    (h : ∀ x ∈ xs, name x ∈ ks) : (ks.flatMap fun k => xs.filter (name · = k)).Perm xs := by
  induction ks generalizing xs with
  | nil =>
    cases xs with
    | nil => exact .refl _
    | cons x xs => cases h x List.mem_cons_self
  | cons k ks ih =>
    rw [List.nodup_cons] at hks
    have hothers : (ks.flatMap fun a => xs.filter (name · = a)) =
        ks.flatMap fun a => (xs.filter (name · ≠ k)).filter (name · = a) := by
      apply List.flatMap_congr
      intro a ha
      rw [List.filter_filter]
      apply List.filter_congr
      intro x _
      by_cases hx : name x = a
      · have hak : a ≠ k := fun hak => hks.1 (hak ▸ ha)
        simp [hx, hak]
      · simp [hx]
    have hrest := ih hks.2 (xs.filter (name · ≠ k)) fun x hx => by
      rw [List.mem_filter, decide_eq_true_eq] at hx
      exact (List.mem_cons.mp (h x hx.1)).resolve_left hx.2
    rw [List.flatMap_cons, hothers]
    refine (hrest.append_left _).trans ?_
    have := List.filter_append_perm (name · = k) xs
    simpa using this

/-- A name occurs in its own group only. -/
theorem countP_flatMap_le (name : β → γ) (hks : ks.Nodup) (f : γ → List β)
    (h : ∀ k ∈ ks, ∀ b ∈ f k, name b = k) (k : γ) :
    (ks.flatMap f).countP (name · = k) ≤ (f k).length := by
  induction ks with
  | nil => simp
  | cons a ks ih =>
    rw [List.nodup_cons] at hks
    rw [List.flatMap_cons, List.countP_append]
    by_cases hak : a = k
    · subst hak
      have hzero : (ks.flatMap f).countP (name · = a) = 0 := by
        rw [List.countP_eq_zero]
        intro b hb
        obtain ⟨c, hc, hb⟩ := List.mem_flatMap.mp hb
        have hname := h c (List.mem_cons_of_mem _ hc) b hb
        simpa [hname] using fun hca : c = a => hks.1 (hca ▸ hc)
      have := List.countP_le_length (p := (name · = a)) (l := f a)
      omega
    · have hzero : (f a).countP (name · = k) = 0 := by
        rw [List.countP_eq_zero]
        intro b hb
        simpa [h a List.mem_cons_self b hb] using hak
      have := ih hks.2 fun c hc => h c (List.mem_cons_of_mem _ hc)
      omega

end Groups

end Lib
