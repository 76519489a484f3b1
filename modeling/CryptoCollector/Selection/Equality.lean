import CryptoCollector.Selection.Fixpoint
import Mathlib.Data.List.Perm.Subperm

/-!
# Equality of entries

`==` of frozen JSON compares numbers by their values. It is the equality of what a value measures,
so that it is symmetric and transitive, and with it the equality of entries.

* `Json.equal_iff`: ordered values are equal when they measure the same.
* `equalEntry_symm`, `equalEntry_trans`.
-/

namespace CryptoCollector.Storage.Json

open Storage

mutual

/-- What a value measures: booleans are numbers. -/
def measure : Json → JsonValue
  | .null => .null
  | .bool b => .number (if b then 1 else 0)
  | .int n => .number (rational (n, 0))
  | .decimal negative coefficient exponent =>
    .number (rational (if negative then -(coefficient : Int) else coefficient, exponent))
  | .str s => .str s
  | .list items => .list (measureItems items)
  | .object fields => .object (measureFields fields)

/-- What the items measure. -/
def measureItems : List Json → List JsonValue
  | [] => []
  | item :: items => measure item :: measureItems items

/-- What the values of the fields measure. -/
def measureFields : List (String × Json) → List (String × JsonValue)
  | [] => []
  | (name, field) :: fields => (name, measure field) :: measureFields fields

end

/-! ## Numbers -/

theorem sameNumber_iff {x y : Int × Int} : sameNumber x y = true ↔ rational x = rational y := by
  refine ⟨fun h => ?_, fun h => sameNumber_of_rational h.symm⟩
  have hten : (10 : ℚ) ≠ 0 := by norm_num
  have hscale : ∀ {low e : Int}, low ≤ e → (10 : ℚ) ^ e = 10 ^ (e - low).toNat * 10 ^ low := by
    intro low e hle
    rw [← zpow_natCast, ← zpow_add₀ hten, Int.toNat_of_nonneg (by omega)]
    congr 1
    omega
  have hsame : (x.1 : ℚ) * 10 ^ (x.2 - min x.2 y.2).toNat =
      y.1 * 10 ^ (y.2 - min x.2 y.2).toNat := by
    rw [sameNumber, decide_eq_true_iff] at h
    exact_mod_cast h
  rw [rational, rational, hscale (min_le_left x.2 y.2), hscale (min_le_right x.2 y.2), ← mul_assoc,
    ← mul_assoc, hsame]

theorem measure_of_number {a : Json} {x : Int × Int} (h : a.number = some x) :
    a.measure = .number (rational x) := by
  cases a with
  | bool b =>
    cases h
    cases b <;> simp [measure, rational]
  | int n =>
    cases h
    rfl
  | decimal negative coefficient exponent =>
    cases h
    rfl
  | _ => cases h

theorem number_of_measure {a : Json} {q : ℚ} (h : a.measure = .number q) :
    ∃ x, a.number = some x ∧ rational x = q := by
  cases hnumber : a.number with
  | none => cases a <;> simp [measure, number] at h hnumber
  | some x =>
    rw [measure_of_number hnumber, JsonValue.number.injEq] at h
    exact ⟨x, rfl, h⟩

/-- A number is equal to what measures the same. -/
theorem equal_iff_of_number {a b : Json} {x : Int × Int} (ha : a.number = some x) :
    a.equal b = true ↔ a.measure = b.measure := by
  have hatom : a.equal b = sameAtom a b := by
    cases a with
    | null => cases ha
    | str s => cases ha
    | list items => cases ha
    | object fields => cases ha
    | _ => rw [equal.eq_def]
  rw [hatom, measure_of_number ha]
  cases hb : b.number with
  | some y => rw [sameAtom_of_number ha hb, sameNumber_iff, measure_of_number hb,
      JsonValue.number.injEq]
  | none =>
    have hsame : sameAtom a b = false := by
      cases a with
      | null => cases ha
      | str s => cases ha
      | list items => cases ha
      | object fields => cases ha
      | _ => simp only [sameAtom, ha, hb]
    rw [hsame]
    refine ⟨nofun, fun h => ?_⟩
    obtain ⟨y, hy, -⟩ := number_of_measure h.symm
    rw [hb] at hy
    cases hy

/-! ## Objects -/

theorem map_fst_measureFields (fields : List (String × Json)) :
    (measureFields fields).map Prod.fst = fields.map Prod.fst := by
  induction fields with
  | nil => rfl
  | cons field fields ih => rw [measureFields, List.map_cons, List.map_cons, ih]

/-- The names of an object are among those of an equal one. -/
theorem names_of_equalFields {fields others : List (String × Json)}
    (h : equalFields fields others = true) : fields.map Prod.fst ⊆ others.map Prod.fst := by
  induction fields with
  | nil => exact List.nil_subset _
  | cons field fields ih =>
    rw [equalFields, Bool.and_eq_true] at h
    cases hlookup : others.lookup field.1 with
    | none => rw [hlookup] at h; exact absurd h.1 Bool.false_ne_true
    | some other =>
      rw [List.map_cons, List.cons_subset]
      obtain ⟨before, rest, rfl, -⟩ := List.lookup_eq_some_iff.1 hlookup
      exact ⟨by simp, ih h.2⟩

/-- Two lists in strict order are the same when one has the elements of the other and they have
the same length. -/
theorem eq_of_subset_of_length {xs ys : List String} (hxs : xs.Pairwise (· < ·))
    (hys : ys.Pairwise (· < ·)) (hsub : xs ⊆ ys) (hlength : xs.length = ys.length) : xs = ys := by
  have hnodup : xs.Nodup := hxs.imp ne_of_lt
  have hperm := (List.subperm_of_subset hnodup hsub).perm_of_length_le hlength.ge
  exact hperm.eq_of_pairwise (fun a b _ _ hab hba => absurd (hab.trans hba) (lt_irrefl a)) hxs hys

mutual

/-- Ordered values are equal when they measure the same. -/
theorem equal_iff : (a : Json) → a.Ordered → (b : Json) → b.Ordered →
    (a.equal b = true ↔ a.measure = b.measure)
  | .list items, ha, b, hb => by
    cases b with
    | list others =>
      rw [equal, measure, measure, JsonValue.list.injEq]
      exact equalItems_iff items ha others hb
    | _ => simp [equal, sameAtom, number, measure]
  | .object fields, ha, b, hb => by
    cases b with
    | object others =>
      rw [equal, measure, measure, JsonValue.object.injEq, Bool.and_eq_true, decide_eq_true_iff]
      have hlookup : ∀ other ∈ others, others.lookup other.1 = some other.2 :=
        fun other hother => lookup_of_mem (hb.1.imp ne_of_lt) hother
      constructor
      · rintro ⟨hlength, h⟩
        have hnames := eq_of_subset_of_length ha.1 hb.1 (names_of_equalFields h) (by simpa using hlength)
        exact (equalFields_iff fields ha.2 others hb.2 hnames hlookup).1 h
      · intro h
        have hnames : fields.map Prod.fst = others.map Prod.fst := by
          rw [← map_fst_measureFields fields, h, map_fst_measureFields]
        exact ⟨by simpa using congrArg List.length hnames,
          (equalFields_iff fields ha.2 others hb.2 hnames hlookup).2 h⟩
    | _ => simp [equal, sameAtom, number, measure]
  | .null, _, b, _ => by
    cases b <;> simp [equal, sameAtom, number, measure]
  | .str s, _, b, _ => by
    cases b <;> simp [equal, sameAtom, number, measure]
  | .bool _, _, _, _ => equal_iff_of_number rfl
  | .int _, _, _, _ => equal_iff_of_number rfl
  | .decimal _ _ _, _, _, _ => equal_iff_of_number rfl

theorem equalItems_iff : (items : List Json) → OrderedItems items → (others : List Json) →
    OrderedItems others →
    (equalItems items others = true ↔ measureItems items = measureItems others)
  | [], _, others, _ => by
    cases others <;> simp [equalItems, measureItems]
  | item :: items, ha, others, hb => by
    cases others with
    | nil => simp [equalItems, measureItems]
    | cons other others =>
      rw [equalItems, Bool.and_eq_true, equal_iff item ha.1 other hb.1,
        equalItems_iff items ha.2 others hb.2, measureItems, measureItems, List.cons.injEq]

theorem equalFields_iff : (fields : List (String × Json)) → OrderedFields fields →
    (others : List (String × Json)) → OrderedFields others →
    fields.map Prod.fst = others.map Prod.fst → {all : List (String × Json)} →
    (∀ other ∈ others, all.lookup other.1 = some other.2) →
    (equalFields fields all = true ↔ measureFields fields = measureFields others)
  | [], _, others, _, hnames, _, _ => by
    cases others with
    | nil => simp [equalFields]
    | cons other others => simp at hnames
  | (name, field) :: fields, ha, others, hb, hnames, all, hlookup => by
    cases others with
    | nil => simp at hnames
    | cons other others =>
      obtain ⟨otherName, value⟩ := other
      rw [List.map_cons, List.map_cons, List.cons.injEq] at hnames
      obtain ⟨rfl, hnames⟩ := hnames
      have hhead := hlookup _ List.mem_cons_self
      have hrest := equalFields_iff fields ha.2 others hb.2 hnames
        fun other hother => hlookup other (List.mem_cons_of_mem _ hother)
      dsimp only at hhead
      rw [equalFields, hhead, Bool.and_eq_true, hrest, equal_iff field ha.1 value hb.1,
        measureFields, measureFields, List.cons.injEq, Prod.mk.injEq]
      simp only [true_and]

end

end CryptoCollector.Storage.Json

namespace CryptoCollector.Selection

open Lib
open Storage (Json)

/-! ## Instruments and entries -/

/-- Equality of what values measure. -/
theorem equal_symm {a b : FrozenJson} (h : a.1.equal b.1 = true) : b.1.equal a.1 = true :=
  (Json.equal_iff b.1 b.2 a.1 a.2).2 ((Json.equal_iff a.1 a.2 b.1 b.2).1 h).symm

theorem equal_trans {a b c : FrozenJson} (h : a.1.equal b.1 = true) (h' : b.1.equal c.1 = true) :
    a.1.equal c.1 = true :=
  (Json.equal_iff a.1 a.2 c.1 c.2).2
    (((Json.equal_iff a.1 a.2 b.1 b.2).1 h).trans ((Json.equal_iff b.1 b.2 c.1 c.2).1 h'))

theorem equalTurnover_symm {a b : Option Turnover} (h : equalTurnover a b = true) :
    equalTurnover b a = true := by
  cases a <;> cases b <;>
    simp only [equalTurnover, TurnoverFields.equal, Bool.and_eq_true, decide_eq_true_eq] at h ⊢
  · cases h
  · cases h
  · exact ⟨h.1.symm, h.2.symm⟩

theorem equalTurnover_trans {a b c : Option Turnover} (h : equalTurnover a b = true)
    (h' : equalTurnover b c = true) : equalTurnover a c = true := by
  cases b with
  | none =>
    cases a with
    | none => exact h'
    | some a => cases h
  | some b =>
    cases a with
    | none => cases h
    | some a =>
      cases c with
      | none => cases h'
      | some c =>
        simp only [equalTurnover, TurnoverFields.equal, Bool.and_eq_true, decide_eq_true_eq]
          at h h' ⊢
        exact ⟨h.1.trans h'.1, h.2.trans h'.2⟩

theorem CatalogFields.equal_symm {a b : CatalogFields} (h : a.equal b = true) :
    b.equal a = true := by
  simp only [CatalogFields.equal, Bool.and_eq_true, decide_eq_true_eq] at h ⊢
  exact ⟨⟨h.1.1.symm, Selection.equal_symm h.1.2⟩, equalTurnover_symm h.2⟩

theorem CatalogFields.equal_trans {a b c : CatalogFields} (h : a.equal b = true)
    (h' : b.equal c = true) : a.equal c = true := by
  simp only [CatalogFields.equal, Bool.and_eq_true, decide_eq_true_eq] at h h' ⊢
  exact ⟨⟨h.1.1.trans h'.1.1, Selection.equal_trans h.1.2 h'.1.2⟩, equalTurnover_trans h.2 h'.2⟩

/-- `==` of entries is symmetric. -/
theorem equalEntry_symm {a b : Option SelectionEntry} (h : equalEntry a b = true) :
    equalEntry b a = true := by
  cases a <;> cases b <;>
    simp only [equalEntry, EntryFields.equal, Bool.and_eq_true, decide_eq_true_eq] at h ⊢
  · cases h
  · cases h
  · exact ⟨CatalogFields.equal_symm h.1, h.2.symm⟩

/-- `==` of entries is transitive. -/
theorem equalEntry_trans {a b c : Option SelectionEntry} (h : equalEntry a b = true)
    (h' : equalEntry b c = true) : equalEntry a c = true := by
  cases b with
  | none =>
    cases a with
    | none => exact h'
    | some a => cases h
  | some b =>
    cases a with
    | none => cases h
    | some a =>
      cases c with
      | none => cases h'
      | some c =>
        simp only [equalEntry, EntryFields.equal, Bool.and_eq_true, decide_eq_true_eq] at h h' ⊢
        exact ⟨CatalogFields.equal_trans h.1 h'.1, h.2.trans h'.2⟩

/-- Equal selections have equal entries. -/
theorem equalEntry_of_equalEntries {a b : Dict String SelectionEntry}
    (h : equalEntries a b = true) (key : String) : equalEntry (a.get? key) (b.get? key) = true := by
  rw [equalEntries, Bool.and_eq_true, decide_eq_true_iff, List.all_eq_true] at h
  obtain ⟨hlength, hall⟩ := h
  have hsub : a.keys ⊆ b.keys := by
    intro key hkey
    obtain ⟨e, he⟩ := Dict.exists_of_mem_keys hkey
    have hequal := hall _ (Dict.get?_eq_some.1 he)
    rw [← Dict.get?_isSome]
    cases hb : b.get? key with
    | none => simp [hb, equalEntry] at hequal
    | some e' => rfl
  have hperm := (List.subperm_of_subset a.nodup hsub).perm_of_length_le
    (by simpa [Dict.keys] using hlength.ge)
  cases ha : a.get? key with
  | some e => exact hall _ (Dict.get?_eq_some.1 ha)
  | none =>
    have hout : key ∉ b.keys := fun hmem => Dict.get?_eq_none.1 ha (hperm.symm.subset hmem)
    rw [Dict.get?_eq_none.2 hout]
    rfl

end CryptoCollector.Selection
