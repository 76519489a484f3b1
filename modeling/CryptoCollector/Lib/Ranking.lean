import CryptoCollector.Lib.Dict
import CryptoCollector.Lib.Sorting

/-!
# Rankings

Sorting by one key and then stably by another is sorting by both. In a list that is ordered by a
strict relation, the place of an element is the number of elements that come before it.
Dictionaries are built from lists of entries, and their values from marks on keys.
-/

namespace Lib

variable {α β γ κ : Type}

/-! ## Stable sorting -/

section Stable

variable [LinearOrder β] {f : α → β} {r : α → α → Prop}

/-- The first key decides; among equal first keys the old order is kept. -/
def Stably (f : α → β) (r : α → α → Prop) (a b : α) : Prop := f a < f b ∨ f a = f b ∧ r a b

theorem pairwise_orderedInsert {a : α} {xs : List α} (hxs : xs.Pairwise (Stably f r))
    (ha : ∀ x ∈ xs, r a x) :
    (xs.orderedInsert (fun a b => f a ≤ f b) a).Pairwise (Stably f r) := by
  induction xs with
  | nil => simp
  | cons x xs ih =>
    rw [List.pairwise_cons] at hxs
    obtain ⟨hx, hxs⟩ := hxs
    rw [List.orderedInsert]
    split
    · rename_i hle
      refine List.pairwise_cons.mpr ⟨?_, List.pairwise_cons.mpr ⟨hx, hxs⟩⟩
      intro y hy
      have hxy : f x ≤ f y := by
        rcases List.mem_cons.mp hy with rfl | hy
        · exact le_refl _
        · exact (hx y hy).elim le_of_lt fun h => h.1.le
      exact (lt_or_eq_of_le (hle.trans hxy)).imp_right fun h => ⟨h, ha y hy⟩
    · rename_i hlt
      refine List.pairwise_cons.mpr ⟨?_, ih hxs fun y hy => ha y (List.mem_cons_of_mem _ hy)⟩
      intro y hy
      rcases (List.mem_orderedInsert _).mp hy with rfl | hy
      · exact .inl (not_le.mp hlt)
      · exact hx y hy

/-- Stable sorting keeps the old order among equal keys. -/
theorem stably_sortedBy {xs : List α} (hxs : xs.Pairwise r) :
    (sortedBy f xs).Pairwise (Stably f r) := by
  induction xs with
  | nil => exact .nil
  | cons x xs ih =>
    rw [List.pairwise_cons] at hxs
    refine pairwise_orderedInsert (ih hxs.2) ?_
    intro y hy
    exact hxs.1 y ((List.mem_insertionSort _).mp hy)

end Stable

/-! ## Ranks -/

/-- The place of an element is the number of elements that come before it. -/
theorem countP_of_pairwise {r : α → α → Prop} [DecidableRel r] {xs : List α}
    (hxs : xs.Pairwise fun a b => r a b ∧ ¬ r b a) {i : Nat} {a : α} (hi : xs[i]? = some a)
    (ha : ¬ r a a) : xs.countP (r · a) = i := by
  induction xs generalizing i with
  | nil => simp at hi
  | cons x xs ih =>
    rw [List.pairwise_cons] at hxs
    obtain ⟨hx, hxs⟩ := hxs
    cases i with
    | zero =>
      obtain rfl : x = a := by simpa using hi
      rw [List.countP_eq_zero]
      intro y hy
      rcases List.mem_cons.mp hy with rfl | hy
      · simpa using ha
      · simpa using (hx y hy).2
    | succ i =>
      rw [List.getElem?_cons_succ] at hi
      have hmem := List.mem_of_getElem? hi
      rw [List.countP_cons_of_pos (by simpa using (hx a hmem).1), ih hxs hi]

/-- An element is at some place of a prefix exactly when fewer elements come before it. -/
theorem mem_zipIdx_take {r : α → α → Prop} [DecidableRel r] {xs : List α}
    (hxs : xs.Pairwise fun a b => r a b ∧ ¬ r b a) (hirrefl : ∀ a ∈ xs, ¬ r a a) {n i : Nat}
    {a : α} : (a, i) ∈ (xs.take n).zipIdx ↔ a ∈ xs ∧ i = xs.countP (r · a) ∧ i < n := by
  rw [List.mem_zipIdx_iff_getElem?]
  constructor
  · intro h
    have hlt : i < n := by
      have := (List.getElem?_eq_some_iff.mp h).1
      rw [List.length_take] at this
      omega
    rw [List.getElem?_take_of_lt hlt] at h
    have hmem := List.mem_of_getElem? h
    exact ⟨hmem, (countP_of_pairwise hxs h (hirrefl a hmem)).symm, hlt⟩
  · rintro ⟨hmem, rfl, hlt⟩
    obtain ⟨j, hj⟩ := List.mem_iff_getElem?.mp hmem
    have hplace := countP_of_pairwise hxs hj (hirrefl a hmem)
    rw [hplace] at hlt ⊢
    rwa [List.getElem?_take_of_lt hlt]

/-- An element is in a prefix of the sorted list exactly when fewer elements have a smaller key. -/
theorem mem_take_sortedBy [LinearOrder β] {key : α → β} {xs : List α} (h : (xs.map key).Nodup)
    {n : Nat} {a : α} (ha : a ∈ xs) :
    a ∈ (sortedBy key xs).take n ↔ xs.countP (fun b => key b < key a) < n := by
  have hstrict : (sortedBy key xs).Pairwise fun b c => key b < key c ∧ ¬ key c < key b := by
    have hne := List.pairwise_map.mp (nodup_map_sortedBy h)
    refine ((pairwise_sortedBy key xs).and hne).imp ?_
    intro b c hbc
    exact ⟨lt_of_le_of_ne hbc.1 hbc.2, not_lt.mpr hbc.1⟩
  have hplace : ∀ i, (a, i) ∈ ((sortedBy key xs).take n).zipIdx ↔
      a ∈ sortedBy key xs ∧ i = (sortedBy key xs).countP (fun b => key b < key a) ∧ i < n :=
    fun i => mem_zipIdx_take hstrict (fun b _ => lt_irrefl (key b))
  rw [(sortedBy_perm key xs).countP_eq] at hplace
  constructor
  · intro hmem
    obtain ⟨i, hi⟩ := List.mem_iff_getElem?.mp hmem
    obtain ⟨-, rfl, hlt⟩ := (hplace i).mp (List.mk_mem_zipIdx_iff_getElem?.mpr hi)
    exact hlt
  · intro hlt
    have hmem := (hplace _).mpr ⟨mem_sortedBy.mpr ha, rfl, hlt⟩
    exact List.mem_of_getElem? (List.mk_mem_zipIdx_iff_getElem?.mp hmem)

/-- A test that is one of two tests which exclude each other counts what both count. -/
theorem countP_eq_add {p q r : α → Bool} {xs : List α}
    (h : ∀ a ∈ xs, (p a ↔ q a ∨ r a) ∧ ¬ (q a ∧ r a)) :
    xs.countP p = xs.countP q + xs.countP r := by
  induction xs with
  | nil => rfl
  | cons a xs ih =>
    have hrest := ih fun b hb => h b (List.mem_cons_of_mem _ hb)
    obtain ⟨hor, hand⟩ := h a List.mem_cons_self
    rw [List.countP_cons, List.countP_cons, List.countP_cons, hrest]
    cases hq : q a <;> cases hr : r a <;> simp_all <;> omega

/-- What is kept of a list without repetitions is a prefix when it is what the prefix has. -/
theorem filter_eq_take {p : α → Bool} {xs : List α} (hxs : xs.Nodup) {n : Nat}
    (h : ∀ a ∈ xs, p a ↔ a ∈ xs.take n) : xs.filter p = xs.take n := by
  have happend : (xs.take n ++ xs.drop n).filter p = xs.take n := by
    rw [List.filter_append, List.filter_eq_self.mpr, List.filter_eq_nil_iff.mpr, List.append_nil]
    · intro a ha hp
      have hmem := (h a (List.mem_of_mem_drop ha)).mp hp
      exact List.disjoint_take_drop hxs (le_refl n) hmem ha
    · exact fun a ha => (h a (List.mem_of_mem_take ha)).mpr ha
  rwa [List.take_append_drop] at happend

/-- The names of a numbered list. -/
theorem map_fst_numbered (f : α → β) (g : Nat → γ) (xs : List α) :
    (xs.zipIdx.map fun x => (f x.1, g x.2)).map Prod.fst = xs.map f := by
  calc (xs.zipIdx.map fun x => (f x.1, g x.2)).map Prod.fst
      = xs.zipIdx.map (f ∘ Prod.fst) := by rw [List.map_map]; rfl
    _ = (xs.zipIdx.map Prod.fst).map f := List.map_map.symm
    _ = xs.map f := by rw [List.zipIdx_map_fst]

/-! ## Dictionaries -/

namespace Dict

variable [DecidableEq κ]

/-- The dictionary of a list of entries; later entries replace earlier ones. -/
def ofList (es : List (κ × α)) : Dict κ α := es.foldl (fun d e => d.set e.1 e.2) .empty

theorem get?_foldl_set {es : List (κ × α)} (hes : (es.map Prod.fst).Nodup) (d : Dict κ α)
    (k : κ) (v : α) : (es.foldl (fun d e => d.set e.1 e.2) d).get? k = some v ↔
      (k, v) ∈ es ∨ k ∉ es.map Prod.fst ∧ d.get? k = some v := by
  induction es generalizing d with
  | nil => simp
  | cons e es ih =>
    obtain ⟨a, w⟩ := e
    rw [List.map_cons, List.nodup_cons] at hes
    rw [List.foldl_cons, ih hes.2]
    by_cases hka : k = a
    · subst hka
      have hnot : ∀ v, (k, v) ∉ es := fun v hmem =>
        hes.1 (List.mem_map.mpr ⟨(k, v), hmem, rfl⟩)
      simp only [hnot, false_or, hes.1, not_false_eq_true, true_and, get?_set_self,
        Option.some_inj, List.mem_cons, Prod.mk.injEq, or_false, List.map_cons,
        not_true_eq_false, false_and]
      exact eq_comm
    · simp [hka, get?_set_ne _ _ hka]

theorem get?_ofList {es : List (κ × α)} (hes : (es.map Prod.fst).Nodup) {k : κ} {v : α} :
    (ofList es).get? k = some v ↔ (k, v) ∈ es := by
  rw [ofList, get?_foldl_set hes]
  simp [Dict.empty, get?]

/-- Mark the value of a key, from a default when the key is absent. -/
def mark (initial : α) (f : κ → α → α) (d : Dict κ α) (k : κ) : Dict κ α :=
  d.set k (f k ((d.get? k).getD initial))

/-- Marking some keys twice is marking them once. -/
theorem get?_foldl_mark {initial : α} {f : κ → α → α} (hf : ∀ k v, f k (f k v) = f k v)
    (ks : List κ) (d : Dict κ α) (k : κ) : (ks.foldl (mark initial f) d).get? k =
      if k ∈ ks then some (f k ((d.get? k).getD initial)) else d.get? k := by
  induction ks generalizing d with
  | nil => simp
  | cons a ks ih =>
    rw [List.foldl_cons, ih]
    by_cases hka : k = a
    · subst hka
      simp [mark, hf]
    · have hkept : (mark initial f d a).get? k = d.get? k := get?_set_ne _ _ hka
      simp [hkept, hka]

variable [LinearOrder κ]

/-- The dictionary in the order of its keys. -/
def sorted (d : Dict κ α) : Dict κ α :=
  ⟨sortedBy Prod.fst d.entries, nodup_map_sortedBy d.nodup⟩

omit [DecidableEq κ] in
theorem pairwise_keys_sorted (d : Dict κ α) : d.sorted.keys.Pairwise (· ≤ ·) :=
  List.pairwise_map.mpr (pairwise_sortedBy Prod.fst d.entries)

omit [DecidableEq κ] in
/-- A dictionary that is in order stays as it is. -/
theorem sorted_eq_self {d : Dict κ α} (h : d.keys.Pairwise (· ≤ ·)) : d.sorted = d :=
  Dict.ext (sortedBy_eq_self (List.pairwise_map.mp h))

@[simp] theorem get?_sorted (d : Dict κ α) (k : κ) : d.sorted.get? k = d.get? k := by
  ext v
  rw [get?_eq_some, get?_eq_some]
  exact mem_sortedBy

/-- The order of the keys is all that two dictionaries with the same values can differ in. -/
theorem sorted_congr {d d' : Dict κ α} (h : ∀ k, d.get? k = d'.get? k) : d.sorted = d'.sorted := by
  have hmem : ∀ e, e ∈ d.entries ↔ e ∈ d'.entries := fun e => by
    rw [← get?_eq_some, ← get?_eq_some, h]
  have hperm : d.entries.Perm d'.entries :=
    (List.perm_ext_iff_of_nodup (List.Nodup.of_map _ d.nodup) (List.Nodup.of_map _ d'.nodup)).mpr
      hmem
  exact Dict.ext (sortedBy_eq_of_perm hperm (keyed_of_nodup_map d.nodup))

end Dict

end Lib
