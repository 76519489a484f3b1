import CryptoCollector.Lib.Sorting

/-!
# Stable sorting

A list that is sorted by a key is determined by its rows of each key. Merges of sorted lists and
sorts of parts of a list are recognised by that as stable sorts of the whole.

* `eq_sortedBy`: a sorted list with the rows of another list is the stable sort of it.
* `mergeAll_eq_sortedBy`: the merge of sorted lists is the stable sort of them in their order.
* `filter_sortedBy`: a stable sort keeps its order when rows are taken out.
-/

namespace Lib

section StableSort

variable {α β : Type} [LinearOrder β] {key : α → β} {xs ys : List α}

/-- A list that is sorted by a key. -/
def SortedBy (key : α → β) (xs : List α) : Prop := xs.Pairwise fun a b => key a ≤ key b

theorem sortedBy_sortedBy (key : α → β) (xs : List α) : SortedBy key (sortedBy key xs) :=
  pairwise_sortedBy key xs

theorem SortedBy.filter (h : SortedBy key xs) (p : α → Bool) : SortedBy key (xs.filter p) :=
  List.Pairwise.filter p h

theorem filter_key_cons_of_eq {x : α} {k : β} (h : key x = k) :
    (x :: xs).filter (key · = k) = x :: xs.filter (key · = k) :=
  List.filter_cons_of_pos (by simpa using h)

theorem filter_key_cons_of_ne {x : α} {k : β} (h : key x ≠ k) :
    (x :: xs).filter (key · = k) = xs.filter (key · = k) :=
  List.filter_cons_of_neg (by simpa using h)

/-- Rows whose keys are larger do not have the key. -/
theorem filter_key_eq_nil {k : β} (h : ∀ a ∈ xs, k < key a) : xs.filter (key · = k) = [] := by
  rw [List.filter_eq_nil_iff]
  intro a ha hk
  exact (h a ha).ne' (of_decide_eq_true hk)

/-- A sorted list is determined by its rows of each key. -/
theorem eq_of_filter_key (hx : SortedBy key xs) (hy : SortedBy key ys)
    (h : ∀ k, xs.filter (key · = k) = ys.filter (key · = k)) : xs = ys := by
  -- A row of one list has a row of its key in the other one, so that the first rows share a key.
  have hmem {as bs : List α} (heq : ∀ k, as.filter (key · = k) = bs.filter (key · = k)) {a : α}
      (ha : a ∈ as) : ∃ b ∈ bs, key b = key a := by
    have hfilter : a ∈ bs.filter (key · = key a) := by
      rw [← heq]
      exact List.mem_filter.mpr ⟨ha, decide_eq_true rfl⟩
    exact ⟨a, (List.mem_filter.mp hfilter).1, rfl⟩
  induction xs generalizing ys with
  | nil =>
    cases ys with
    | nil => rfl
    | cons y ys =>
      obtain ⟨b, hb, -⟩ := hmem (fun k => (h k).symm) List.mem_cons_self
      cases hb
  | cons x xs ih =>
    cases ys with
    | nil =>
      obtain ⟨b, hb, -⟩ := hmem h List.mem_cons_self
      cases hb
    | cons y ys =>
      obtain ⟨hxs, hx⟩ := List.pairwise_cons.mp hx
      have hys := (List.pairwise_cons.mp hy).1
      have hkey : key x = key y := by
        obtain ⟨b, hb, hbx⟩ := hmem h List.mem_cons_self
        obtain ⟨c, hc, hcy⟩ := hmem (fun k => (h k).symm) List.mem_cons_self
        apply le_antisymm
        · rcases List.mem_cons.mp hc with rfl | hc
          · exact hcy.le
          · exact (hxs c hc).trans hcy.le
        · rcases List.mem_cons.mp hb with rfl | hb
          · exact hbx.le
          · exact (hys b hb).trans hbx.le
      have hhead := h (key x)
      rw [filter_key_cons_of_eq rfl, filter_key_cons_of_eq hkey.symm, List.cons.injEq] at hhead
      obtain ⟨rfl, -⟩ := hhead
      congr 1
      refine ih hx hy.tail fun k => ?_
      have hk := h k
      by_cases hxk : key x = k
      · rw [filter_key_cons_of_eq hxk, filter_key_cons_of_eq hxk, List.cons.injEq] at hk
        exact hk.2
      · rwa [filter_key_cons_of_ne hxk, filter_key_cons_of_ne hxk] at hk

/-- Sorting is stable: the rows of a key stay in their order. -/
theorem filter_key_sortedBy (key : α → β) (xs : List α) (k : β) :
    (sortedBy key xs).filter (key · = k) = xs.filter (key · = k) := by
  have hinsert (x : α) (ys : List α) :
      (ys.orderedInsert (fun a b => key a ≤ key b) x).filter (key · = k) =
        (x :: ys).filter (key · = k) := by
    induction ys with
    | nil => rfl
    | cons y ys ih =>
      rw [List.orderedInsert]
      split_ifs with hle
      · rfl
      · rw [List.filter_cons, ih]
        by_cases hy : key y = k
        · have hx : key x ≠ k := fun hx => hle (hx.trans hy.symm).le
          simp [hx, hy]
        · simp [List.filter_cons, hy]
  induction xs with
  | nil => rfl
  | cons x xs ih =>
    change ((sortedBy key xs).orderedInsert _ x).filter _ = _
    rw [hinsert, List.filter_cons, List.filter_cons, ih]

/-- A sorted list with the rows of another list is the stable sort of it. -/
theorem eq_sortedBy (hx : SortedBy key xs)
    (h : ∀ k, xs.filter (key · = k) = ys.filter (key · = k)) : xs = sortedBy key ys :=
  eq_of_filter_key hx (sortedBy_sortedBy key ys) fun k => (h k).trans (filter_key_sortedBy key ys k).symm

/-- Lists with the same rows of each key have the same stable sort. -/
theorem sortedBy_congr_filter (h : ∀ k, xs.filter (key · = k) = ys.filter (key · = k)) :
    sortedBy key xs = sortedBy key ys :=
  eq_sortedBy (sortedBy_sortedBy key xs) fun k => (filter_key_sortedBy key xs k).trans (h k)

/-- A stable sort keeps its order when rows are taken out. -/
theorem filter_sortedBy (key : α → β) (xs : List α) (p : α → Bool) :
    (sortedBy key xs).filter p = sortedBy key (xs.filter p) := by
  refine eq_sortedBy ((sortedBy_sortedBy key xs).filter p) fun k => ?_
  rw [List.filter_comm, filter_key_sortedBy, List.filter_comm]

/-- Two keys that order the rows in the same way sort them in the same way. -/
theorem sortedBy_congr {γ : Type} [LinearOrder γ] {key' : α → γ}
    (h : ∀ a ∈ xs, ∀ b ∈ xs, key a ≤ key b ↔ key' a ≤ key' b) :
    sortedBy key xs = sortedBy key' xs := by
  refine (eq_sortedBy ?_ fun k => ?_).symm
  · exact List.Pairwise.imp_of_mem (fun ha hb hle => (h _ (mem_sortedBy.mp ha) _
      (mem_sortedBy.mp hb)).mpr hle) (pairwise_sortedBy key' xs)
  · by_cases hk : ∃ a ∈ xs, key a = k
    · obtain ⟨a, ha, rfl⟩ := hk
      have heq {b : α} (hb : b ∈ xs) : key b = key a ↔ key' b = key' a := by
        rw [le_antisymm_iff, h b hb a ha, h a ha b hb, ← le_antisymm_iff]
      have hfilter {ys : List α} (hys : ∀ b ∈ ys, b ∈ xs) :
          ys.filter (key · = key a) = ys.filter (key' · = key' a) :=
        List.filter_congr fun b hb => decide_eq_decide.mpr (heq (hys b hb))
      rw [hfilter fun b => mem_sortedBy.mp, hfilter fun b hb => hb, filter_key_sortedBy]
    · have hnone {ys : List α} (hys : ∀ b ∈ ys, b ∈ xs) : ys.filter (key · = k) = [] :=
        List.filter_eq_nil_iff.mpr fun b hb hbk => hk ⟨b, hys b hb, of_decide_eq_true hbk⟩
      rw [hnone fun b => mem_sortedBy.mp, hnone fun b hb => hb]

/-- Rows that come before others are sorted before them. -/
theorem sortedBy_append (h : ∀ a ∈ xs, ∀ b ∈ ys, key a ≤ key b) :
    sortedBy key xs ++ sortedBy key ys = sortedBy key (xs ++ ys) := by
  refine eq_sortedBy (List.pairwise_append.mpr ⟨pairwise_sortedBy key xs, pairwise_sortedBy key ys,
    fun a ha b hb => h a (mem_sortedBy.mp ha) b (mem_sortedBy.mp hb)⟩) fun k => ?_
  rw [List.filter_append, List.filter_append, filter_key_sortedBy, filter_key_sortedBy]

/-- Rows are taken out of groups whose rows are alike by taking out the groups. -/
theorem filter_flatMap_eq {γ : Type} {f : γ → List α} {p : α → Bool} {q : γ → Bool} {cs : List γ}
    (h : ∀ c ∈ cs, ∀ a ∈ f c, p a = q c) : (cs.flatMap f).filter p = (cs.filter q).flatMap f := by
  induction cs with
  | nil => rfl
  | cons c cs ih =>
    obtain ⟨hc, hcs⟩ := List.forall_mem_cons.mp h
    rw [List.flatMap_cons, List.filter_append, ih hcs]
    cases hq : q c with
    | true =>
      rw [List.filter_cons_of_pos hq, List.flatMap_cons,
        List.filter_eq_self.mpr fun a ha => (hc a ha).trans hq]
    | false =>
      rw [List.filter_cons_of_neg (by simp [hq]),
        List.filter_eq_nil_iff.mpr fun a ha => by simp [hc a ha, hq], List.nil_append]

/-! ## Merging -/

/-- A merge of sorted lists is sorted. -/
theorem SortedBy.merge (hx : SortedBy key xs) (hy : SortedBy key ys) :
    SortedBy key (xs.merge ys fun a b => key a ≤ key b) := by
  have hdecide {zs : List α} (h : SortedBy key zs) :
      zs.Pairwise fun a b => decide (key a ≤ key b) = true :=
    List.Pairwise.imp decide_eq_true h
  refine List.Pairwise.imp of_decide_eq_true
    (List.pairwise_merge (fun a b c hab hbc => ?_) (fun a b => ?_) _ _ (hdecide hx) (hdecide hy))
  · exact decide_eq_true ((of_decide_eq_true hab).trans (of_decide_eq_true hbc))
  · rw [Bool.or_eq_true, decide_eq_true_eq, decide_eq_true_eq]
    exact le_total _ _

/-- A merge is stable: of each key, the rows of the first list come first. -/
theorem filter_key_merge (hx : SortedBy key xs) (k : β) :
    (xs.merge ys fun a b => key a ≤ key b).filter (key · = k) =
      xs.filter (key · = k) ++ ys.filter (key · = k) := by
  induction xs generalizing ys with
  | nil => simp
  | cons x xs ihx =>
    induction ys with
    | nil => simp
    | cons y ys ihy =>
      by_cases hle : key x ≤ key y
      · rw [List.cons_merge_cons_pos _ _ _ (decide_eq_true hle), List.filter_cons, ihx hx.tail,
          List.filter_cons (x := x)]
        split <;> rfl
      · rw [List.cons_merge_cons_neg _ _ _ (by simpa using hle), List.filter_cons, ihy]
        by_cases hy : key y = k
        · have hnone : (x :: xs).filter (key · = k) = [] := by
            refine filter_key_eq_nil fun a ha => hy ▸ (not_le.mp hle).trans_le ?_
            rcases List.mem_cons.mp ha with rfl | ha
            · exact le_rfl
            · exact List.rel_of_pairwise_cons hx ha
          simp [hnone, hy]
        · simp [List.filter_cons (x := y), hy]

/-- The merge of sorted lists, the first one first among equal keys. -/
def mergeAll (before : α → α → Bool) (iterables : List (List α)) : List α :=
  iterables.foldr (fun items merged => items.merge merged before) []

/-- The merge of sorted lists is the stable sort of them in their order. -/
theorem mergeAll_eq_sortedBy {iterables : List (List α)} (h : ∀ items ∈ iterables, SortedBy key items) :
    mergeAll (fun a b => key a ≤ key b) iterables = sortedBy key iterables.flatten := by
  induction iterables with
  | nil => rfl
  | cons items iterables ih =>
    obtain ⟨hitems, hrest⟩ := List.forall_mem_cons.mp h
    have hmerged := ih hrest
    refine eq_sortedBy ?_ fun k => ?_
    · change SortedBy key (items.merge (mergeAll _ iterables) _)
      rw [hmerged]
      exact hitems.merge (sortedBy_sortedBy key _)
    · change (items.merge (mergeAll _ iterables) _).filter _ = _
      rw [filter_key_merge hitems, hmerged, filter_key_sortedBy, List.flatten_cons,
        List.filter_append]

/-- Sorting the parts of a list does not change its stable sort. -/
theorem sortedBy_flatten_map (parts : List (List α)) :
    sortedBy key (parts.map (sortedBy key)).flatten = sortedBy key parts.flatten := by
  refine sortedBy_congr_filter fun k => ?_
  rw [List.filter_flatten, List.filter_flatten, List.map_map]
  congr 1
  exact List.map_congr_left fun part _ => filter_key_sortedBy key part k

end StableSort

end Lib
