import CryptoCollector.Storage.Compact
import CryptoCollector.Storage.Decode

/-!
# Documents without nested parts

What the JSON libraries promise of a document whose values have no parts: it is parsed from the
line that is written, unless an integer in it has too many digits.

* `compactLibraries_documented`: a writer and a reader of compact JSON keep the promise.
-/

namespace CryptoCollector.Benchmarks

open Lib Storage

/-- `sys.int_info.default_max_str_digits`: longer integers are not converted to text. -/
@[irreducible]
def maxStrDigits : Nat := 4300

theorem maxStrDigits_eq : maxStrDigits = 4300 := by rw [maxStrDigits]

/-- The least integer that has too many digits for a text. -/
def textLimit : Nat := 10 ^ maxStrDigits

/-- A value without parts that a document may hold. -/
def Plain : Json → Prop
  | .null | .bool _ | .str _ => True
  | .int n => n.natAbs < textLimit
  | _ => False

/-- What `simplejson.dumps` and the parser of `model_validate_json` promise of a document without
nested parts: it is parsed from the line that is written, unless an integer in it is too long. -/
structure Documented (L : JsonLibraries) (parse : Bytes → Option Json) : Prop where
  parses : ∀ fields : List (String × Json), (fields.map Prod.fst).Nodup →
    (∀ field ∈ fields, Plain field.2) → ∃ text, L.simplejsonDumps (.object fields) = some text ∧
      parse (text ++ [10]) = some (.object fields)
  limited : ∀ (fields : List (String × Json)) (name : String) (n : Int), (name, .int n) ∈ fields →
    textLimit ≤ n.natAbs → L.simplejsonDumps (.object fields) = none

/-- What `simplejson.dumps` promises of two documents without decimal numbers: their texts are
different unless the documents are the same. -/
def Distinguishes (L : JsonLibraries) : Prop :=
  ∀ a b text, Json.Exact a → Json.Exact b → L.simplejsonDumps a = some text →
    L.simplejsonDumps b = some text → a = b

theorem pow_le_textLimit {k : Nat} (hk : k ≤ 4300) : 10 ^ k ≤ textLimit :=
  Nat.pow_le_pow_right (by decide) (maxStrDigits_eq ▸ hk)

theorem ten_le_textLimit : 10 ≤ textLimit := pow_le_textLimit (k := 1) (by decide)

theorem plain_ofNat {n : Nat} : Plain (.ofNat n) ↔ n < textLimit := by
  rw [Json.ofNat, Plain, Int.natAbs_natCast]

theorem plain_ofOption {o : Option Nat} (h : ∀ n ∈ o, n < textLimit) :
    Plain (.ofOption .ofNat o) := by
  cases o with
  | none => trivial
  | some n => exact plain_ofNat.mpr (h n rfl)

/-! ## A library of compact texts -/

/-- Whether an integer is too long for a text. -/
def tooLong : Json → Bool
  | .int n => textLimit ≤ n.natAbs
  | _ => false

/-- A writer and a reader of compact JSON. -/
def compactLibraries : JsonLibraries where
  orjsonDumps := fun _ => none
  simplejsonDumps := fun j =>
    match j with
    | .object fields => if fields.any fun field => tooLong field.2 then none else some (compact j)
    | j => if tooLong j then none else some (compact j)
  simplejsonLoads := parseCompact

theorem exactFields_of_plain {fields : List (String × Json)}
    (h : ∀ field ∈ fields, Plain field.2) : Json.ExactFields fields := by
  induction fields with
  | nil => trivial
  | cons field fields ih =>
    refine ⟨?_, ih fun f hf => h f (List.mem_cons_of_mem _ hf)⟩
    have hplain := h field List.mem_cons_self
    cases hvalue : field.2 <;> rw [hvalue] at hplain <;> trivial

theorem tooLong_of_plain {j : Json} (h : Plain j) : tooLong j = false := by
  cases j with
  | int n => exact decide_eq_false (not_le.mpr h)
  | _ => rfl

theorem compactLibraries_documented : Documented compactLibraries parseCompact := by
  constructor
  · intro fields _ hplain
    have hshort : (fields.any fun field => tooLong field.2) = false := by
      rw [List.any_eq_false]
      intro field hfield
      rw [tooLong_of_plain (hplain field hfield)]
      decide
    refine ⟨compact (.object fields), ?_, ?_⟩
    · change (if fields.any fun field => tooLong field.2 then none
        else some (compact (.object fields))) = _
      rw [hshort]
      rfl
    · have hexact : (Json.object fields).Exact := exactFields_of_plain hplain
      have hspaces : ['\n'].all isJsonSpace = true := by decide
      exact parseCompact_append hexact hspaces
  · intro fields name n hmem hlong
    have hany : (fields.any fun field => tooLong field.2) = true :=
      List.any_eq_true.mpr ⟨_, hmem, decide_eq_true hlong⟩
    change (if fields.any fun field => tooLong field.2 then none
      else some (compact (.object fields))) = none
    rw [if_pos hany]

theorem eq_compact_of_dumps {j : Json} {text : Bytes}
    (h : compactLibraries.simplejsonDumps j = some text) : text = compact j := by
  unfold compactLibraries at h
  dsimp only at h
  split at h <;> split_ifs at h <;> exact (Option.some.inj h).symm

theorem compactLibraries_distinguishes : Distinguishes compactLibraries := by
  intro a b text ha hb hwrite hwrite'
  have heq : compact a = compact b :=
    (eq_compact_of_dumps hwrite).symm.trans (eq_compact_of_dumps hwrite')
  have hspaces : ([] : List Char).all isJsonSpace = true := by decide
  have hread := parseCompact_append ha hspaces
  rw [heq, parseCompact_append hb hspaces] at hread
  exact (Option.some.inj hread).symm

end CryptoCollector.Benchmarks
