import CryptoCollector.Lib.Except
import Mathlib.Data.List.Nodup
import Mathlib.Algebra.BigOperators.Group.List.Basic
import Mathlib.Algebra.GroupWithZero.Nat

/-!
# Insertion-ordered dictionaries

A dictionary is the list of its entries in insertion order, with pairwise distinct keys.
Assigning to a present key keeps its position, assigning to a new key appends, and deletion
keeps the order of the rest. Iteration order therefore matters and is part of the value.
-/

namespace Lib

/-- A finite map that remembers the order in which its keys were inserted. -/
structure Dict (κ α : Type) where
  entries : List (κ × α)
  nodup : (entries.map Prod.fst).Nodup

namespace Dict

variable {κ α β : Type}

/-- The empty dictionary. -/
def empty : Dict κ α := ⟨[], by simp⟩

instance : Inhabited (Dict κ α) := ⟨empty⟩

/-- The keys in insertion order. -/
def keys (d : Dict κ α) : List κ := d.entries.map Prod.fst

/-- The values in insertion order. -/
def values (d : Dict κ α) : List α := d.entries.map Prod.snd

/-- Apply a function to every value, keeping keys and order. -/
def mapValues (f : κ → α → β) (d : Dict κ α) : Dict κ β :=
  ⟨d.entries.map fun e => (e.1, f e.1 e.2), by
    simpa [Function.comp_def] using d.nodup⟩

@[simp] theorem keys_mapValues (f : κ → α → β) (d : Dict κ α) :
    (d.mapValues f).keys = d.keys := by
  simp [keys, mapValues, Function.comp_def]

@[ext] theorem ext {d d' : Dict κ α} (h : d.entries = d'.entries) : d = d' := by
  cases d; cases d'; cases h; rfl

@[simp] theorem entries_empty : (empty : Dict κ α).entries = [] := rfl

/-- Keep the entries whose key satisfies a predicate. -/
def filter (p : κ → Bool) (d : Dict κ α) : Dict κ α :=
  ⟨d.entries.filter fun e => p e.1, d.nodup.sublist (List.filter_sublist.map _)⟩

theorem mem_keys_of_mem {d : Dict κ α} {k : κ} {v : α} (h : (k, v) ∈ d.entries) :
    k ∈ d.keys := List.mem_map.mpr ⟨(k, v), h, rfl⟩

section Traversal

variable {ε : Type} {f : κ → α → Except ε β} {d : Dict κ α} {d' : Dict κ β}

theorem keys_of_forall₂ {xs : List (κ × α)} {ys : List (κ × β)}
    (h : List.Forall₂ (fun x y => (f x.1 x.2).map (x.1, ·) = .ok y) xs ys) :
    ys.map Prod.fst = xs.map Prod.fst := by
  induction h with
  | nil => rfl
  | @cons x y xs ys hxy _ ih =>
    have hkey : y.1 = x.1 := by
      cases hfx : f x.1 x.2 with
      | error e => simp [hfx, Except.map] at hxy
      | ok b =>
        simp only [hfx, Except.map, Except.ok.injEq] at hxy
        rw [← hxy]
    rw [List.map_cons, List.map_cons, hkey, ih]

/-- Apply a function that may raise to every value, keeping keys and order. -/
def mapValuesM (f : κ → α → Except ε β) (d : Dict κ α) : Except ε (Dict κ β) :=
  match h : d.entries.mapM fun e => (f e.1 e.2).map (e.1, ·) with
  | .ok entries => .ok ⟨entries, (keys_of_forall₂ (forall₂_of_mapM h)).symm ▸ d.nodup⟩
  | .error e => .error e

theorem entries_of_mapValuesM (h : d.mapValuesM f = .ok d') :
    d.entries.mapM (fun e => (f e.1 e.2).map (e.1, ·)) = .ok d'.entries := by
  unfold mapValuesM at h
  split at h
  · rename_i entries hentries
    cases h
    exact hentries
  · cases h

theorem mapValuesM_eq_ok {g : κ → α → β} (h : ∀ e ∈ d.entries, f e.1 e.2 = .ok (g e.1 e.2)) :
    d.mapValuesM f = .ok (d.mapValues g) := by
  have hmap : d.entries.mapM (fun e => (f e.1 e.2).map (e.1, ·)) =
      .ok (d.mapValues g).entries :=
    mapM_eq_ok fun e he => by simp [h e he, Except.map]
  unfold mapValuesM
  split
  · rename_i entries hentries
    congr 1
    exact Dict.ext (Except.ok.inj (hentries.symm.trans hmap))
  · rename_i e he
    rw [hmap] at he
    cases he

theorem mapValuesM_total (h : ∀ e ∈ d.entries, ∃ v, f e.1 e.2 = .ok v) :
    ∃ d' : Dict κ β, d.mapValuesM f = .ok d' := by
  obtain ⟨entries, hentries⟩ := mapM_total
    (f := fun e : κ × α => (f e.1 e.2).map (e.1, ·)) fun e (he : e ∈ d.entries) => by
      obtain ⟨v, hv⟩ := h e he
      exact ⟨(e.1, v), by rw [hv]; rfl⟩
  unfold mapValuesM
  split
  · exact ⟨_, rfl⟩
  · rename_i e he
    rw [hentries] at he
    cases he

theorem keys_of_mapValuesM (h : d.mapValuesM f = .ok d') : d'.keys = d.keys :=
  keys_of_forall₂ (forall₂_of_mapM (entries_of_mapValuesM h))

end Traversal

variable [DecidableEq κ]

instance [DecidableEq α] : DecidableEq (Dict κ α) := fun d d' =>
  decidable_of_iff (d.entries = d'.entries) ⟨Dict.ext, fun h => h ▸ rfl⟩

/-- The value stored at a key. -/
def get? (d : Dict κ α) (k : κ) : Option α :=
  (d.entries.find? fun e => e.1 = k).map Prod.snd

/-- Whether a key is present. -/
def contains (d : Dict κ α) (k : κ) : Bool := d.entries.any fun e => e.1 = k

/-- Deletion of a key, a no-op when it is absent. -/
def erase (d : Dict κ α) (k : κ) : Dict κ α := d.filter fun a => a ≠ k

/-- Replace the value of a present key in place. -/
def update (d : Dict κ α) (k : κ) (f : α → α) : Dict κ α :=
  d.mapValues fun a v => if a = k then f v else v

/-- Assignment: in place when the key is present, else at the end. -/
def set (d : Dict κ α) (k : κ) (v : α) : Dict κ α :=
  if h : k ∈ d.keys then d.update k fun _ => v
  else ⟨d.entries ++ [(k, v)], by
    simpa [List.nodup_append, keys] using
      ⟨d.nodup, fun a b hab hak => h (by
        subst hak; exact List.mem_map.mpr ⟨(a, b), hab, rfl⟩)⟩⟩

/-! ## Membership and lookup -/

@[simp] theorem contains_iff {d : Dict κ α} {k : κ} : d.contains k = true ↔ k ∈ d.keys := by
  simp [contains, keys]

theorem get?_eq_some {d : Dict κ α} {k : κ} {v : α} :
    d.get? k = some v ↔ (k, v) ∈ d.entries := by
  unfold get?
  constructor
  · intro h
    obtain ⟨e, he, rfl⟩ := Option.map_eq_some_iff.mp h
    have hk : e.1 = k := by simpa using List.find?_some he
    have hm := List.mem_of_find?_eq_some he
    rw [← hk]
    exact hm
  · intro h
    obtain ⟨e, he⟩ : ∃ e, d.entries.find? (fun e => e.1 = k) = some e := by
      cases hf : d.entries.find? (fun e => e.1 = k) with
      | some e => exact ⟨e, rfl⟩
      | none => exact absurd (List.find?_eq_none.mp hf _ h) (by simp)
    have hk : e.1 = k := by simpa using List.find?_some he
    have hm := List.mem_of_find?_eq_some he
    have : e = (k, v) := by
      refine List.inj_on_of_nodup_map d.nodup hm h ?_
      simpa using hk
    simp [he, this]

theorem get?_eq_none {d : Dict κ α} {k : κ} : d.get? k = none ↔ k ∉ d.keys := by
  rw [Option.eq_none_iff_forall_ne_some]
  constructor
  · intro h hk
    obtain ⟨e, he, rfl⟩ := List.mem_map.mp hk
    exact h e.2 (get?_eq_some.mpr he)
  · intro h v hv
    exact h (mem_keys_of_mem (get?_eq_some.mp hv))

theorem get?_isSome {d : Dict κ α} {k : κ} : (d.get? k).isSome ↔ k ∈ d.keys := by
  rw [Option.isSome_iff_ne_none, ne_eq, get?_eq_none, not_not]

theorem mem_keys_of_get? {d : Dict κ α} {k : κ} {v : α} (h : d.get? k = some v) :
    k ∈ d.keys := mem_keys_of_mem (get?_eq_some.mp h)

theorem exists_of_mem_keys {d : Dict κ α} {k : κ} (h : k ∈ d.keys) : ∃ v, d.get? k = some v :=
  Option.isSome_iff_exists.mp (get?_isSome.mpr h)

/-! ## Deletion -/

@[simp] theorem entries_erase (d : Dict κ α) (k : κ) :
    (d.erase k).entries = d.entries.filter fun e => e.1 ≠ k := rfl

@[simp] theorem mem_keys_erase {d : Dict κ α} {k a : κ} :
    a ∈ (d.erase k).keys ↔ a ∈ d.keys ∧ a ≠ k := by
  simp [keys]

theorem get?_erase (d : Dict κ α) (k a : κ) :
    (d.erase k).get? a = if a = k then none else d.get? a := by
  split
  · rename_i h
    rw [get?_eq_none]
    simp [h]
  · rename_i h
    apply Option.ext
    intro v
    rw [get?_eq_some, get?_eq_some]
    simp [h]

theorem erase_of_not_mem {d : Dict κ α} {k : κ} (h : k ∉ d.keys) : d.erase k = d := by
  apply ext
  rw [entries_erase, List.filter_eq_self]
  intro e he
  have : e.1 ≠ k := fun hk => h (hk ▸ List.mem_map.mpr ⟨e, he, rfl⟩)
  simpa using this

/-! ## Assignment -/

theorem keys_update (d : Dict κ α) (k : κ) (f : α → α) : (d.update k f).keys = d.keys :=
  keys_mapValues _ d

theorem get?_mapValues (f : κ → α → β) (d : Dict κ α) (k : κ) :
    (d.mapValues f).get? k = (d.get? k).map (f k) := by
  apply Option.ext
  intro v
  rw [get?_eq_some, Option.map_eq_some_iff]
  constructor
  · intro h
    obtain ⟨e, he, heq⟩ := List.mem_map.mp h
    cases heq
    exact ⟨e.2, get?_eq_some.mpr he, rfl⟩
  · rintro ⟨a, ha, rfl⟩
    exact List.mem_map.mpr ⟨(k, a), get?_eq_some.mp ha, rfl⟩

theorem get?_update (d : Dict κ α) (k a : κ) (f : α → α) :
    (d.update k f).get? a = if a = k then (d.get? a).map f else d.get? a := by
  rw [update, get?_mapValues]
  split <;> rename_i h <;> cases d.get? a <;> simp

theorem entries_set_of_not_mem {d : Dict κ α} {k : κ} (h : k ∉ d.keys) (v : α) :
    (d.set k v).entries = d.entries ++ [(k, v)] := by
  simp [set, h]

theorem set_of_mem {d : Dict κ α} {k : κ} (h : k ∈ d.keys) (v : α) :
    d.set k v = d.update k fun _ => v := by
  simp [set, h]

@[simp] theorem mem_keys_set {d : Dict κ α} {k a : κ} {v : α} :
    a ∈ (d.set k v).keys ↔ a ∈ d.keys ∨ a = k := by
  by_cases h : k ∈ d.keys
  · rw [set_of_mem h, keys_update]
    constructor
    · exact Or.inl
    · rintro (h' | rfl) <;> assumption
  · simp [keys, entries_set_of_not_mem h]

theorem get?_set (d : Dict κ α) (k a : κ) (v : α) :
    (d.set k v).get? a = if a = k then some v else d.get? a := by
  by_cases h : k ∈ d.keys
  · rw [set_of_mem h, get?_update]
    split
    · rename_i ha
      obtain ⟨w, hw⟩ := exists_of_mem_keys h
      simp [ha, hw]
    · rfl
  · apply Option.ext
    intro w
    rw [get?_eq_some, entries_set_of_not_mem h]
    split
    · rename_i ha
      subst ha
      constructor
      · intro hm
        rcases List.mem_append.mp hm with hm | hm
        · exact absurd (mem_keys_of_mem hm) h
        · simp at hm; simp [hm]
      · intro hw
        simp at hw
        simp [hw]
    · rename_i ha
      rw [get?_eq_some]
      simp [ha]

@[simp] theorem get?_set_self (d : Dict κ α) (k : κ) (v : α) : (d.set k v).get? k = some v := by
  simp [get?_set]

theorem get?_set_ne (d : Dict κ α) {k a : κ} (v : α) (h : a ≠ k) :
    (d.set k v).get? a = d.get? a := by
  simp [get?_set, h]

@[simp] theorem get?_erase_self (d : Dict κ α) (k : κ) : (d.erase k).get? k = none := by
  simp [get?_erase]

theorem get?_erase_ne (d : Dict κ α) {k a : κ} (h : a ≠ k) : (d.erase k).get? a = d.get? a := by
  simp [get?_erase, h]

@[simp] theorem get?_empty (k : κ) : (empty : Dict κ α).get? k = none := rfl

/-! ## Splitting at a key -/

theorem get?_eq_some_split {d : Dict κ α} {k : κ} {v : α} (h : d.get? k = some v) :
    ∃ l l', d.entries = l ++ (k, v) :: l' ∧ (∀ e ∈ l, e.1 ≠ k) ∧ ∀ e ∈ l', e.1 ≠ k := by
  obtain ⟨l, l', hl⟩ := List.append_of_mem (get?_eq_some.mp h)
  refine ⟨l, l', hl, ?_, ?_⟩
  · intro e he hk
    have := d.nodup
    rw [hl, List.map_append, List.map_cons] at this
    refine (List.nodup_append.mp this).2.2 e.1 (List.mem_map.mpr ⟨e, he, rfl⟩) k ?_ hk
    exact List.mem_cons_self
  · intro e he hk
    have := d.nodup
    rw [hl, List.map_append, List.map_cons] at this
    have h2 := (List.nodup_append.mp this).2.1
    exact (List.nodup_cons.mp h2).1 (hk ▸ List.mem_map.mpr ⟨e, he, rfl⟩)

theorem entries_erase_split {d : Dict κ α} {k : κ} {v : α} {l l' : List (κ × α)}
    (h : d.entries = l ++ (k, v) :: l') (hl : ∀ e ∈ l, e.1 ≠ k) (hl' : ∀ e ∈ l', e.1 ≠ k) :
    (d.erase k).entries = l ++ l' := by
  rw [entries_erase, h, List.filter_append, List.filter_cons]
  simp only [ne_eq, not_true_eq_false, decide_false, Bool.false_eq_true, ↓reduceIte]
  rw [List.filter_eq_self.mpr (by simpa using hl), List.filter_eq_self.mpr (by simpa using hl')]

theorem entries_update_split {d : Dict κ α} {k : κ} {v : α} {l l' : List (κ × α)} (f : α → α)
    (h : d.entries = l ++ (k, v) :: l') (hl : ∀ e ∈ l, e.1 ≠ k) (hl' : ∀ e ∈ l', e.1 ≠ k) :
    (d.update k f).entries = l ++ (k, f v) :: l' := by
  have hid (m : List (κ × α)) (hm : ∀ e ∈ m, e.1 ≠ k) :
      m.map (fun e => (e.1, if e.1 = k then f e.2 else e.2)) = m := by
    conv_rhs => rw [← List.map_id m]
    apply List.map_congr_left
    intro e he
    simp [hm e he]
  simp only [update, mapValues, h, List.map_append, List.map_cons, if_true, hid l hl, hid l' hl']

/-! ## Sums over the entries -/

theorem sum_erase (d : Dict κ α) (f : κ × α → Nat) {k : κ} {v : α} (h : d.get? k = some v) :
    ((d.erase k).entries.map f).sum + f (k, v) = (d.entries.map f).sum := by
  obtain ⟨l, l', hd, hl, hl'⟩ := get?_eq_some_split h
  rw [entries_erase_split hd hl hl', hd]
  simp
  omega

theorem sum_update (d : Dict κ α) (f : κ × α → Nat) (g : α → α) {k : κ} {v : α}
    (h : d.get? k = some v) :
    ((d.update k g).entries.map f).sum + f (k, v) = (d.entries.map f).sum + f (k, g v) := by
  obtain ⟨l, l', hd, hl, hl'⟩ := get?_eq_some_split h
  rw [entries_update_split g hd hl hl', hd]
  simp
  omega

theorem sum_set_of_not_mem (d : Dict κ α) (f : κ × α → Nat) {k : κ} (v : α) (h : k ∉ d.keys) :
    ((d.set k v).entries.map f).sum = (d.entries.map f).sum + f (k, v) := by
  rw [entries_set_of_not_mem h]
  simp

theorem length_erase (d : Dict κ α) {k : κ} {v : α} (h : d.get? k = some v) :
    (d.erase k).entries.length + 1 = d.entries.length := by
  obtain ⟨l, l', hd, hl, hl'⟩ := get?_eq_some_split h
  rw [entries_erase_split hd hl hl', hd]
  simp
  omega

theorem length_update (d : Dict κ α) (k : κ) (f : α → α) :
    (d.update k f).entries.length = d.entries.length := by
  simp [update, mapValues]

/-! ## Dictionaries with the same keys -/

theorem mapValues_erase (f : κ → α → β) (d : Dict κ α) (k : κ) :
    (d.erase k).mapValues f = (d.mapValues f).erase k := by
  apply ext
  simp only [mapValues, entries_erase, List.filter_map]
  rfl

theorem mapValues_update (f : κ → α → β) (g : α → α) (d : Dict κ α) (k : κ) (v : β)
    (h : ∀ a, f k (g a) = v) : (d.update k g).mapValues f = (d.mapValues f).update k fun _ => v := by
  apply ext
  simp only [mapValues, update, List.map_map]
  apply List.map_congr_left
  intro e _
  by_cases hk : e.1 = k
  · subst hk
    simp [h]
  · simp [hk]

theorem mapValues_set_of_not_mem (f : κ → α → β) (d : Dict κ α) {k : κ} (v : α) (h : k ∉ d.keys) :
    (d.set k v).mapValues f = (d.mapValues f).set k (f k v) := by
  apply ext
  rw [entries_set_of_not_mem (by simpa using h)]
  simp only [mapValues, entries_set_of_not_mem h, List.map_append]
  rfl

theorem entries_foldl_erase (d : Dict κ α) (ks : List κ) :
    (ks.foldl erase d).entries = d.entries.filter fun e => e.1 ∉ ks := by
  induction ks generalizing d with
  | nil => simp
  | cons k ks ih =>
    rw [List.foldl_cons, ih, entries_erase, List.filter_filter]
    apply List.filter_congr
    intro e _
    by_cases hk : e.1 = k <;> simp [hk]

theorem keys_erase (d : Dict κ α) (k : κ) : (d.erase k).keys = d.keys.filter (· ≠ k) := by
  simp only [keys, entries_erase, List.filter_map]
  rfl

theorem keys_set_of_not_mem (d : Dict κ α) {k : κ} (v : α) (h : k ∉ d.keys) :
    (d.set k v).keys = d.keys ++ [k] := by
  simp [keys, entries_set_of_not_mem h]

/-! ## Grouping -/

/-- Append an element to the list at its key, if it has one. -/
def push (key : β → Option κ) (d : Dict κ (List β)) (x : β) : Dict κ (List β) :=
  match key x with
  | some k => d.set k ((d.get? k).getD [] ++ [x])
  | none => d

theorem getD_push (key : β → Option κ) (d : Dict κ (List β)) (x : β) (k : κ) :
    ((d.push key x).get? k).getD [] =
      (d.get? k).getD [] ++ if key x = some k then [x] else [] := by
  unfold push
  cases h : key x with
  | none => simp
  | some a =>
    by_cases ha : a = k
    · simp [ha]
    · have hne : k ≠ a := fun h => ha h.symm
      simp [get?_set_ne _ _ hne, ha]

/-- The elements are grouped by their keys, in order. -/
theorem getD_foldl_push (key : β → Option κ) (d : Dict κ (List β)) (xs : List β) (k : κ) :
    ((xs.foldl (push key) d).get? k).getD [] =
      (d.get? k).getD [] ++ xs.filter (key · = some k) := by
  induction xs generalizing d with
  | nil => simp
  | cons x xs ih =>
    rw [List.foldl_cons, ih, getD_push, List.append_assoc]
    by_cases h : key x = some k <;> simp [h]

theorem mem_keys_foldl_push (key : β → Option κ) (d : Dict κ (List β)) (xs : List β) (k : κ) :
    k ∈ (xs.foldl (push key) d).keys ↔ k ∈ d.keys ∨ ∃ x ∈ xs, key x = some k := by
  induction xs generalizing d with
  | nil => simp
  | cons x xs ih =>
    rw [List.foldl_cons, ih]
    unfold push
    cases h : key x with
    | none => simp [h]
    | some a =>
      simp only [mem_keys_set, List.mem_cons, exists_eq_or_imp, h, Option.some.injEq]
      rw [or_assoc, eq_comm (a := k)]

/-! ## Traversal -/

theorem exists_of_mapValuesM {ε : Type} {f : κ → α → Except ε β} {d : Dict κ α}
    {d' : Dict κ β} (h : d.mapValuesM f = .ok d') {k : κ} {v : β}
    (hk : d'.get? k = some v) : ∃ a, d.get? k = some a ∧ f k a = .ok v := by
  have hall := forall₂_of_mapM (entries_of_mapValuesM h)
  rw [get?_eq_some] at hk
  obtain ⟨i, hi, hget⟩ := List.getElem_of_mem hk
  have hlength := hall.length_eq
  have hi' : i < d.entries.length := by omega
  have hpair := hall.get hi' hi
  simp only [List.get_eq_getElem, hget] at hpair
  cases hfi : f (d.entries[i]).1 (d.entries[i]).2 with
  | error e => simp [hfi, Except.map] at hpair
  | ok b =>
    simp only [hfi, Except.map, Except.ok.injEq, Prod.mk.injEq] at hpair
    obtain ⟨hkey, rfl⟩ := hpair
    refine ⟨(d.entries[i]).2, ?_, hkey ▸ hfi⟩
    rw [get?_eq_some, ← hkey]
    exact List.getElem_mem hi'

end Dict

end Lib
