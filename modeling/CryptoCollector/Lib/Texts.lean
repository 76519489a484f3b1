import Mathlib.Data.List.Basic
import Mathlib.Data.UInt

/-!
# Joined texts and the texts of JSON

A text of JSON without white space between its tokens, as a list of bytes. A string holds no control
character: each is written as an escape.

* `JsonText.ge_space`: no such text holds a control character.
-/

namespace Lib

/-- What a joined text holds comes from the separator or from one of its parts. -/
theorem mem_intercalate {α : Type} {c d : α} {ls : List (List α)} (h : c ∈ [d].intercalate ls) :
    c = d ∨ ∃ l ∈ ls, c ∈ l := by
  induction ls with
  | nil => simp at h
  | cons l ls ih =>
    cases ls with
    | nil =>
      rw [List.intercalate_singleton] at h
      exact .inr ⟨l, List.mem_cons_self, h⟩
    | cons m ls =>
      rw [List.intercalate_cons_cons] at h
      simp only [List.mem_append, List.mem_singleton] at h
      obtain (h | rfl) | h := h
      · exact .inr ⟨l, List.mem_cons_self, h⟩
      · exact .inl rfl
      · obtain rfl | ⟨k, hk, hck⟩ := ih h
        · exact .inl rfl
        · exact .inr ⟨k, List.mem_cons_of_mem _ hk, hck⟩

/-- The bytes of `null`, `true`, `false` and numbers: letters, digits, `+`, `-` and `.`. -/
def isWordByte (b : UInt8) : Bool :=
  (48 ≤ b && b ≤ 57) || (97 ≤ b && b ≤ 122) || b == 43 || b == 45 || b == 46 || b == 69

/-- A text of JSON without white space between its tokens. -/
inductive JsonText : List UInt8 → Prop where
  | word (text : List UInt8) (hword : ∀ b ∈ text, isWordByte b = true) : JsonText text
  | str (body : List UInt8) (printable : ∀ b ∈ body, 32 ≤ b) : JsonText ([34] ++ body ++ [34])
  | list (items : List (List UInt8)) (hitems : ∀ text ∈ items, JsonText text) :
    JsonText ([91] ++ [44].intercalate items ++ [93])
  | object (fields : List (List UInt8 × List UInt8)) (hnames : ∀ field ∈ fields, JsonText field.1)
    (hvalues : ∀ field ∈ fields, JsonText field.2) :
    JsonText ([123] ++ [44].intercalate (fields.map fun field => field.1 ++ [58] ++ field.2) ++
      [125])

theorem ge_space_of_isWordByte {b : UInt8} (h : isWordByte b = true) : 32 ≤ b := by
  simp only [isWordByte, Bool.or_eq_true, Bool.and_eq_true, decide_eq_true_eq, beq_iff_eq,
    UInt8.le_iff_toNat_le, ← UInt8.toNat_inj] at h ⊢
  simp at h ⊢
  omega

/-- A text between two brackets. -/
theorem ge_space_bracketed {opening closing : UInt8} {body : List UInt8} (hopening : 32 ≤ opening)
    (hclosing : 32 ≤ closing) (hbody : ∀ b ∈ body, 32 ≤ b) :
    ∀ b ∈ [opening] ++ body ++ [closing], 32 ≤ b := by
  intro b hb
  simp only [List.mem_append, List.mem_singleton] at hb
  obtain (rfl | hb) | rfl := hb
  · exact hopening
  · exact hbody b hb
  · exact hclosing

/-- Texts joined by commas. -/
theorem ge_space_joined {texts : List (List UInt8)} (h : ∀ text ∈ texts, ∀ b ∈ text, 32 ≤ b) :
    ∀ b ∈ [44].intercalate texts, 32 ≤ b := by
  intro b hb
  obtain rfl | ⟨text, htext, hb⟩ := mem_intercalate hb
  · decide
  · exact h text htext b hb

/-- No text of JSON holds a control character. -/
theorem JsonText.ge_space {text : List UInt8} (h : JsonText text) : ∀ b ∈ text, 32 ≤ b := by
  induction h with
  | word text hword => exact fun b hb => ge_space_of_isWordByte (hword b hb)
  | str body printable => exact ge_space_bracketed (by decide) (by decide) printable
  | list items _ ih => exact ge_space_bracketed (by decide) (by decide) (ge_space_joined ih)
  | object fields _ _ hnames hvalues =>
    refine ge_space_bracketed (by decide) (by decide) (ge_space_joined ?_)
    intro text htext b hb
    obtain ⟨field, hfield, rfl⟩ := List.mem_map.mp htext
    simp only [List.mem_append, List.mem_singleton] at hb
    obtain (hb | rfl) | hb := hb
    · exact hnames field hfield b hb
    · decide
    · exact hvalues field hfield b hb

end Lib
