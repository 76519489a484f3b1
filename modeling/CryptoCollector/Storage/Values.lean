import CryptoCollector.Storage.Json
import Mathlib.Algebra.Field.Rat
import Mathlib.Algebra.GroupWithZero.Basic
import Mathlib.Algebra.Order.Field.Rat
import Mathlib.Data.List.Forall2
import Mathlib.Tactic.NormNum

/-!
# What JSON denotes

The value of a JSON payload, in which a number is a rational number, and what a reader makes of a
written payload: a decimal may come back as an integer or as another decimal of the same value, and
nothing else changes.

* `equal_of_value`: payloads of one value are equal.
* `value_of_reads`: what is read has the value of what was written.
* `equal_self`: a payload is equal to itself.
-/

namespace CryptoCollector.Storage

/-- The value of a payload. -/
inductive JsonValue where
  | null
  | bool (b : Bool)
  | number (q : ℚ)
  | str (s : String)
  | list (items : List JsonValue)
  | object (fields : List (String × JsonValue))

namespace Json

/-- The rational number of a coefficient and an exponent of ten. -/
def rational (x : Int × Int) : ℚ := x.1 * 10 ^ x.2

mutual

/-- The value of a payload. -/
def value : Json → JsonValue
  | .null => .null
  | .bool b => .bool b
  | .int n => .number (rational (n, 0))
  | .decimal negative coefficient exponent =>
    .number (rational (if negative then -(coefficient : Int) else coefficient, exponent))
  | .str s => .str s
  | .list items => .list (valueItems items)
  | .object fields => .object (valueFields fields)

/-- The values of the items. -/
def valueItems : List Json → List JsonValue
  | [] => []
  | item :: items => value item :: valueItems items

/-- The values of the fields. -/
def valueFields : List (String × Json) → List (String × JsonValue)
  | [] => []
  | (name, field) :: fields => (name, value field) :: valueFields fields

end

mutual

/-- What a reader may make of a written payload. -/
def Reads : Json → Json → Prop
  | .list items, .list others => ReadsItems items others
  | .object fields, .object others => ReadsFields fields others
  | .decimal negative coefficient exponent, other =>
    other.value = (Json.decimal negative coefficient exponent).value
  | written, other => other = written

/-- What a reader may make of written items. -/
def ReadsItems : List Json → List Json → Prop
  | [], others => others = []
  | _ :: _, [] => False
  | item :: items, other :: others => Reads item other ∧ ReadsItems items others

/-- What a reader may make of written fields: the names and their order stay. -/
def ReadsFields : List (String × Json) → List (String × Json) → Prop
  | [], others => others = []
  | _ :: _, [] => False
  | (name, field) :: fields, (otherName, other) :: others =>
    otherName = name ∧ Reads field other ∧ ReadsFields fields others

end

/-! ## Numbers -/

/-- Numbers of one value are the same number. -/
theorem sameNumber_of_rational {x y : Int × Int} (h : rational y = rational x) :
    sameNumber x y = true := by
  have hten : (10 : ℚ) ≠ 0 := by norm_num
  have hscale : ∀ {low e : Int}, low ≤ e → (10 : ℚ) ^ e = 10 ^ (e - low).toNat * 10 ^ low := by
    intro low e hle
    rw [← zpow_natCast, ← zpow_add₀ hten, Int.toNat_of_nonneg (by omega)]
    congr 1
    omega
  have hx := hscale (min_le_left x.2 y.2)
  have hy := hscale (min_le_right x.2 y.2)
  have hlow : (10 : ℚ) ^ min x.2 y.2 ≠ 0 := zpow_ne_zero _ hten
  rw [rational, rational, hx, hy, ← mul_assoc, ← mul_assoc] at h
  have hcancel := mul_right_cancel₀ hlow h
  rw [sameNumber, decide_eq_true_iff]
  exact_mod_cast hcancel.symm

theorem number_of_value {j : Json} {q : ℚ} (h : j.value = .number q) :
    ∃ x, j.number = some x ∧ rational x = q := by
  cases j with
  | int n => exact ⟨(n, 0), rfl, by simpa [value] using h⟩
  | decimal negative coefficient exponent => exact ⟨_, rfl, by simpa [value] using h⟩
  | _ => simp [value] at h

/-! ## Equality -/

theorem map_fst_of_value {fields others : List (String × Json)}
    (h : valueFields others = valueFields fields) :
    others.map Prod.fst = fields.map Prod.fst := by
  induction fields generalizing others with
  | nil =>
    cases others with
    | nil => rfl
    | cons other others => simp [valueFields] at h
  | cons field fields ih =>
    cases others with
    | nil => simp [valueFields] at h
    | cons other others =>
      rw [valueFields, valueFields, List.cons.injEq, Prod.mk.injEq] at h
      rw [List.map_cons, List.map_cons, h.1.1, ih h.2]

theorem exists_field_of_value {fields others : List (String × Json)}
    (h : valueFields others = valueFields fields) {field : String × Json} (hmem : field ∈ fields) :
    ∃ other, (field.1, other) ∈ others ∧ other.value = field.2.value := by
  induction fields generalizing others with
  | nil => simp at hmem
  | cons first fields ih =>
    cases others with
    | nil => simp [valueFields] at h
    | cons other others =>
      rw [valueFields, valueFields, List.cons.injEq, Prod.mk.injEq] at h
      obtain rfl | hmem := List.mem_cons.mp hmem
      · exact ⟨other.2, by rw [← h.1.1]; exact List.mem_cons_self, h.1.2⟩
      · obtain ⟨value, hvalue, heq⟩ := ih h.2 hmem
        exact ⟨value, List.mem_cons_of_mem _ hvalue, heq⟩

theorem sameAtom_of_number {a b : Json} {x y : Int × Int} (ha : a.number = some x)
    (hb : b.number = some y) : sameAtom a b = sameNumber x y := by
  cases a with
  | null => cases ha
  | str s => cases ha
  | list items => cases ha
  | object fields => cases ha
  | _ => simp only [sameAtom, ha, hb]

/-- Payloads that are one number are equal. -/
theorem equal_of_number {a b : Json} {q : ℚ} (ha : a.value = .number q) (hb : b.value = .number q) :
    a.equal b = true := by
  obtain ⟨x, hx, hxq⟩ := number_of_value ha
  obtain ⟨y, hy, hyq⟩ := number_of_value hb
  have hatom : sameAtom a b = true := by
    rw [sameAtom_of_number hx hy]
    exact sameNumber_of_rational (hyq.trans hxq.symm)
  cases a with
  | int n => rwa [equal.eq_def]
  | decimal negative coefficient exponent => rwa [equal.eq_def]
  | _ => simp [value] at ha

mutual

/-- Payloads of one value are equal. -/
theorem equal_of_value : (a : Json) → a.Distinct → (b : Json) → b.value = a.value →
    a.equal b = true
  | .list items, ha, b, h => by
    cases b with
    | list others =>
      rw [value, value, JsonValue.list.injEq] at h
      exact equalItems_of_value items ha others h
    | _ => simp [value] at h
  | .object fields, ha, b, h => by
    cases b with
    | object others =>
      rw [value, value, JsonValue.object.injEq] at h
      have hnames := map_fst_of_value h
      have hlength : fields.length = others.length := by
        simpa using (congrArg List.length hnames).symm
      rw [equal, decide_eq_true hlength, Bool.true_and]
      refine equalFields_of_value fields ha.2 others fun field hfield => ?_
      obtain ⟨other, hother, hvalue⟩ := exists_field_of_value h hfield
      exact ⟨other, lookup_of_mem (hnames ▸ ha.1) hother, hvalue⟩
    | _ => simp [value] at h
  | .null, _, b, h => by
    cases b <;> simp [value] at h
    rfl
  | .bool x, _, b, h => by
    cases b <;> simp [value] at h
    subst h
    simp [equal, sameAtom, number, sameNumber]
  | .str s, _, b, h => by
    cases b <;> simp [value] at h
    subst h
    simp [equal, sameAtom]
  | .int n, _, _, h => equal_of_number rfl h
  | .decimal _ _ _, _, _, h => equal_of_number rfl h

theorem equalItems_of_value : (items : List Json) → DistinctItems items → (others : List Json) →
    valueItems others = valueItems items → equalItems items others = true
  | [], _, others, h => by
    cases others with
    | nil => rfl
    | cons other others => simp [valueItems] at h
  | item :: items, ha, others, h => by
    cases others with
    | nil => simp [valueItems] at h
    | cons other others =>
      rw [valueItems, valueItems, List.cons.injEq] at h
      rw [equalItems, equal_of_value item ha.1 other h.1, equalItems_of_value items ha.2 others h.2]
      rfl

theorem equalFields_of_value : (fields : List (String × Json)) → DistinctFields fields →
    (others : List (String × Json)) → (∀ field ∈ fields, ∃ other,
      others.lookup field.1 = some other ∧ other.value = field.2.value) →
    equalFields fields others = true
  | [], _, _, _ => rfl
  | (name, field) :: fields, ha, others, h => by
    obtain ⟨other, hlookup, hvalue⟩ := h (name, field) List.mem_cons_self
    dsimp only at hlookup hvalue
    rw [equalFields, hlookup]
    dsimp only
    rw [equal_of_value field ha.1 other hvalue, equalFields_of_value fields ha.2 others
      fun field hfield => h field (List.mem_cons_of_mem _ hfield)]
    rfl

end

/-- A payload is equal to itself. -/
theorem equal_self (j : Json) (h : j.Distinct) : j.equal j = true := equal_of_value j h j rfl

/-! ## Reading what was written -/

theorem readsFields_iff {fields others : List (String × Json)} :
    ReadsFields fields others ↔
      List.Forall₂ (fun x y => y.1 = x.1 ∧ Reads x.2 y.2) fields others := by
  induction fields generalizing others with
  | nil => simp [ReadsFields]
  | cons field fields ih =>
    cases others with
    | nil => simp [ReadsFields]
    | cons other others => simp [ReadsFields, ih, and_assoc]

/-- An object is read as an object. -/
theorem exists_fields_of_reads {fields : List (String × Json)} {b : Json}
    (h : Reads (.object fields) b) : ∃ others, b = .object others ∧ ReadsFields fields others := by
  cases b with
  | object others => exact ⟨others, rfl, h⟩
  | _ => simp [Reads] at h

/-- A value without parts that is no decimal. -/
def Atom : Json → Prop
  | .list _ | .object _ | .decimal _ _ _ => False
  | _ => True

theorem distinct_of_atom {a : Json} (h : a.Atom) : a.Distinct := by
  cases a with
  | list items => exact h.elim
  | object fields => exact h.elim
  | _ => trivial

/-- Null, booleans, integers and strings come back as they are. -/
theorem eq_of_reads {a b : Json} (ha : a.Atom) (h : Reads a b) : b = a := by
  cases a with
  | list items => exact ha.elim
  | object fields => exact ha.elim
  | decimal negative coefficient exponent => exact ha.elim
  | _ => rwa [Reads.eq_def] at h

mutual

/-- A reader may take what was written as it is. -/
theorem reads_self : (j : Json) → Reads j j
  | .list items => readsItems_self items
  | .object fields => readsFields_self fields
  | .decimal _ _ _ => rfl
  | .null => rfl
  | .bool _ => rfl
  | .int _ => rfl
  | .str _ => rfl

theorem readsItems_self : (items : List Json) → ReadsItems items items
  | [] => rfl
  | item :: items => ⟨reads_self item, readsItems_self items⟩

theorem readsFields_self : (fields : List (String × Json)) → ReadsFields fields fields
  | [] => rfl
  | (_, field) :: fields => ⟨rfl, reads_self field, readsFields_self fields⟩

end

mutual

/-- What is read has the value of what was written. -/
theorem value_of_reads : (a b : Json) → Reads a b → b.value = a.value
  | .list items, b, h => by
    cases b with
    | list others => rw [value, value, valueItems_of_reads items others h]
    | _ => simp [Reads] at h
  | .object fields, b, h => by
    cases b with
    | object others => rw [value, value, valueFields_of_reads fields others h]
    | _ => simp [Reads] at h
  | .decimal _ _ _, b, h => by
    rwa [Reads.eq_def] at h
  | .null, _, h => congrArg value (eq_of_reads (a := .null) trivial h)
  | .bool _, _, h => congrArg value (eq_of_reads (a := .bool _) trivial h)
  | .int _, _, h => congrArg value (eq_of_reads (a := .int _) trivial h)
  | .str _, _, h => congrArg value (eq_of_reads (a := .str _) trivial h)

theorem valueItems_of_reads : (items others : List Json) → ReadsItems items others →
    valueItems others = valueItems items
  | [], _, h => by
    rw [ReadsItems] at h
    rw [h]
  | _ :: _, [], h => h.elim
  | item :: items, other :: others, h => by
    rw [valueItems, valueItems, value_of_reads item other h.1, valueItems_of_reads items others h.2]

theorem valueFields_of_reads : (fields others : List (String × Json)) →
    ReadsFields fields others → valueFields others = valueFields fields
  | [], _, h => by
    rw [ReadsFields] at h
    rw [h]
  | _ :: _, [], h => h.elim
  | (name, field) :: fields, (otherName, other) :: others, h => by
    rw [valueFields, valueFields, h.1, value_of_reads field other h.2.1,
      valueFields_of_reads fields others h.2.2]

end

/-- A payload without parts has no names. -/
theorem distinct_of_value_ne {b : Json} (hlist : ∀ items, b.value ≠ .list items)
    (hobject : ∀ fields, b.value ≠ .object fields) : b.Distinct := by
  cases b with
  | list items => exact absurd rfl (hlist (valueItems items))
  | object fields => exact absurd rfl (hobject (valueFields fields))
  | _ => trivial

mutual

/-- Payloads of one value have distinct names together. -/
theorem distinct_of_value : (a b : Json) → b.value = a.value → a.Distinct → b.Distinct
  | .list items, b, h, ha => by
    cases b with
    | list others =>
      rw [value, value, JsonValue.list.injEq] at h
      exact distinctItems_of_value items others h ha
    | _ => simp [value] at h
  | .object fields, b, h, ha => by
    cases b with
    | object others =>
      rw [value, value, JsonValue.object.injEq] at h
      exact ⟨map_fst_of_value h ▸ ha.1, distinctFields_of_value fields others h ha.2⟩
    | _ => simp [value] at h
  | .decimal _ _ _, _, h, _ => distinct_of_value_ne (by simp [h, value]) (by simp [h, value])
  | .null, _, h, _ => distinct_of_value_ne (by simp [h, value]) (by simp [h, value])
  | .bool _, _, h, _ => distinct_of_value_ne (by simp [h, value]) (by simp [h, value])
  | .int _, _, h, _ => distinct_of_value_ne (by simp [h, value]) (by simp [h, value])
  | .str _, _, h, _ => distinct_of_value_ne (by simp [h, value]) (by simp [h, value])

theorem distinctItems_of_value : (items others : List Json) → valueItems others = valueItems items →
    DistinctItems items → DistinctItems others
  | _, [], _, _ => trivial
  | [], _ :: _, h, _ => by simp [valueItems] at h
  | item :: items, other :: others, h, ha => by
    rw [valueItems, valueItems, List.cons.injEq] at h
    exact ⟨distinct_of_value item other h.1 ha.1, distinctItems_of_value items others h.2 ha.2⟩

theorem distinctFields_of_value : (fields others : List (String × Json)) →
    valueFields others = valueFields fields → DistinctFields fields → DistinctFields others
  | _, [], _, _ => trivial
  | [], _ :: _, h, _ => by simp [valueFields] at h
  | (_, field) :: fields, (_, other) :: others, h, ha => by
    rw [valueFields, valueFields, List.cons.injEq, Prod.mk.injEq] at h
    exact ⟨distinct_of_value field other h.1.2 ha.1,
      distinctFields_of_value fields others h.2 ha.2⟩

end

end Json

end CryptoCollector.Storage
