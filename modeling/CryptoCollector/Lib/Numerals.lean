import Mathlib.Data.List.TakeWhile
import Mathlib.Tactic.Linarith

/-!
# Decimal numerals

The texts of integers and of finite decimal numbers. A decimal number is a sign, a coefficient and
an exponent of ten; its text keeps all three, in scientific notation when the exponent is positive
or the number is small. Reading takes a sign, digits with at most one point, and an exponent.

* `readInt_intText`, `Decimal.ofText_text`: reading inverts writing.
-/

namespace Lib

/-- The value of a list of digits. -/
def readNat (digits : List Char) : Option Nat :=
  if digits ≠ [] ∧ digits.all Char.isDigit then some (Nat.ofDigitChars 10 digits 0) else none

/-- A sign, `+` or `-`, before a text. -/
def readSign : List Char → Bool × List Char
  | '-' :: cs => (true, cs)
  | '+' :: cs => (false, cs)
  | cs => (false, cs)

/-- A sign and digits. -/
def readInt (text : List Char) : Option Int :=
  (readNat (readSign text).2).map fun n => if (readSign text).1 then -(n : Int) else n

/-- The digits of an integer after its sign, if it is negative. -/
def intText (n : Int) : List Char :=
  (if n < 0 then ['-'] else []) ++ Nat.toDigits 10 n.natAbs

theorem isDigit_of_mem_toDigits {c : Char} {n : Nat} (h : c ∈ Nat.toDigits 10 n) :
    c.isDigit = true :=
  Nat.isDigit_of_mem_toDigits (by decide) (by decide) h

theorem readNat_toDigits (n : Nat) : readNat (Nat.toDigits 10 n) = some n := by
  have hall : (Nat.toDigits 10 n).all Char.isDigit = true :=
    List.all_eq_true.2 fun c hc => isDigit_of_mem_toDigits hc
  rw [readNat, if_pos ⟨Nat.toDigits_ne_nil, hall⟩, Nat.ofDigitChars_ten_toDigits]

/-- Digits carry no sign. -/
theorem readSign_of_digits {cs : List Char} (h : ∀ c ∈ cs.head?, c ≠ '-' ∧ c ≠ '+') :
    readSign cs = (false, cs) := by
  unfold readSign
  split
  · exact absurd rfl (h '-' rfl).1
  · exact absurd rfl (h '+' rfl).2
  · rfl

theorem ne_sign_of_isDigit {c : Char} (h : c.isDigit = true) : c ≠ '-' ∧ c ≠ '+' := by
  constructor <;> rintro rfl <;> exact absurd h (by decide)

theorem head_toDigits (n : Nat) : ∀ c ∈ (Nat.toDigits 10 n).head?, c ≠ '-' ∧ c ≠ '+' :=
  fun _ hc => ne_sign_of_isDigit (isDigit_of_mem_toDigits (List.mem_of_mem_head? hc))

theorem readInt_intText (n : Int) : readInt (intText n) = some n := by
  unfold readInt intText
  by_cases hn : n < 0
  · have habs : -(n.natAbs : Int) = n := by omega
    simp only [hn, if_true, List.cons_append, List.nil_append, readSign, readNat_toDigits]
    exact congrArg some habs
  · have habs : (n.natAbs : Int) = n := by omega
    simp only [hn, if_false, List.nil_append, readSign_of_digits (head_toDigits _),
      readNat_toDigits]
    exact congrArg some habs

/-- A finite decimal number. -/
structure Decimal where
  negative : Bool
  coefficient : Nat
  exponent : Int
  deriving DecidableEq

namespace Decimal

/-- The digits before the point, those after it, and the exponent that is written. -/
def parts (d : Decimal) : List Char × List Char × Int :=
  let digits := Nat.toDigits 10 d.coefficient
  let leftdigits : Int := d.exponent + digits.length
  let dotplace : Int := if d.exponent ≤ 0 ∧ -6 < leftdigits then leftdigits else 1
  if dotplace ≤ 0 then
    (['0'], List.replicate (-dotplace).toNat '0' ++ digits, leftdigits - dotplace)
  else if (digits.length : Int) ≤ dotplace then
    (digits ++ List.replicate (dotplace - digits.length).toNat '0', [], leftdigits - dotplace)
  else (digits.take dotplace.toNat, digits.drop dotplace.toNat, leftdigits - dotplace)

/-- An exponent with its sign. -/
def exponentText (n : Int) : List Char :=
  if n = 0 then [] else 'E' :: (if 0 < n then ['+'] else []) ++ intText n

/-- The text of a decimal number. -/
def text (d : Decimal) : List Char :=
  (if d.negative then ['-'] else []) ++ d.parts.1 ++
    (if d.parts.2.1 = [] then [] else '.' :: d.parts.2.1) ++ exponentText d.parts.2.2

/-- The exponent after an `E`. -/
def readExponent : List Char → Option Int
  | [] => some 0
  | _ :: cs => readInt cs

/-- The decimal number that a text denotes. -/
def ofText (text : List Char) : Option Decimal :=
  let body := (readSign text).2
  let mantissa := body.takeWhile (· ≠ 'E')
  let whole := mantissa.takeWhile (· ≠ '.')
  let fraction := (mantissa.dropWhile (· ≠ '.')).drop 1
  match readNat (whole ++ fraction), readExponent (body.dropWhile (· ≠ 'E')) with
  | some coefficient, some exponent =>
    some ⟨(readSign text).1, coefficient, exponent - fraction.length⟩
  | _, _ => none

/-- What the parts of a decimal number say about it. -/
structure PartsOf (d : Decimal) (whole fraction : List Char) (written : Int) : Prop where
  ne_nil : whole ≠ []
  digits : ∀ c ∈ whole ++ fraction, c.isDigit = true
  coefficient : Nat.ofDigitChars 10 (whole ++ fraction) 0 = d.coefficient
  exponent : written - fraction.length = d.exponent

theorem ofDigitChars_zeros (n : Nat) (cs : List Char) :
    Nat.ofDigitChars 10 (List.replicate n '0' ++ cs) 0 = Nat.ofDigitChars 10 cs 0 := by
  rw [Nat.ofDigitChars_append, Nat.ofDigitChars_replicate_zero, Nat.mul_zero]

theorem partsOf_parts (d : Decimal) : PartsOf d d.parts.1 d.parts.2.1 d.parts.2.2 := by
  have hvalue : Nat.ofDigitChars 10 (Nat.toDigits 10 d.coefficient) 0 = d.coefficient :=
    Nat.ofDigitChars_ten_toDigits
  have hdigit : ∀ c ∈ Nat.toDigits 10 d.coefficient, c.isDigit = true :=
    fun _ => isDigit_of_mem_toDigits
  have hne : Nat.toDigits 10 d.coefficient ≠ [] := Nat.toDigits_ne_nil
  have hpos : 0 < (Nat.toDigits 10 d.coefficient).length := List.length_pos_iff.2 hne
  unfold parts
  extract_lets digits leftdigits dotplace
  -- The point is after the last digit in the second case, so that no zeros are added.
  have hdot : dotplace = leftdigits ∧ d.exponent ≤ 0 ∨ dotplace = 1 := by
    by_cases h : d.exponent ≤ 0 ∧ -6 < leftdigits
    · exact .inl ⟨if_pos h, h.1⟩
    · exact .inr (if_neg h)
  have hleft : leftdigits = d.exponent + digits.length := rfl
  clear_value dotplace leftdigits
  change Nat.ofDigitChars 10 digits 0 = d.coefficient at hvalue
  change 0 < digits.length at hpos
  split_ifs with hsmall hlong
  · obtain ⟨hdot, -⟩ : dotplace = leftdigits ∧ d.exponent ≤ 0 := by
      rcases hdot with h | h
      · exact h
      · omega
    refine ⟨by simp, ?_, ?_, ?_⟩
    · intro c hc
      simp only [List.cons_append, List.nil_append, List.mem_cons, List.mem_append] at hc
      rcases hc with rfl | hc | hc
      · decide
      · obtain rfl := List.eq_of_mem_replicate hc
        decide
      · exact hdigit c hc
    · have hzeros : ['0'] ++ (List.replicate (-dotplace).toNat '0' ++ digits) =
          List.replicate ((-dotplace).toNat + 1) '0' ++ digits := by
        simp [List.replicate_succ]
      dsimp only
      rw [hzeros, ofDigitChars_zeros]
      exact hvalue
    · simp only [List.length_append, List.length_replicate]
      omega
  · have hlast : dotplace = digits.length := by
      rcases hdot with ⟨h, hexp⟩ | h
      · omega
      · omega
    have hzeros : (dotplace - digits.length).toNat = 0 := by omega
    refine ⟨by simp [digits, hne], ?_, ?_, ?_⟩
    · simpa [hzeros] using hdigit
    · rw [hzeros, List.replicate_zero, List.append_nil, List.append_nil, hvalue]
    · simp only [List.length_nil]
      omega
  · refine ⟨?_, ?_, ?_, ?_⟩
    · intro h
      have hlength := congrArg List.length h
      simp only [List.length_take, List.length_nil] at hlength
      omega
    · simpa [List.take_append_drop] using hdigit
    · rw [List.take_append_drop, hvalue]
    · simp only [List.length_drop]
      omega

theorem readExponent_exponentText (n : Int) : readExponent (exponentText n) = some n := by
  unfold exponentText
  by_cases hn : n = 0
  · simp [hn, readExponent]
  by_cases hpos : 0 < n
  · have htext : intText n = Nat.toDigits 10 n.natAbs := by
      simp [intText, not_lt.2 hpos.le]
    have hplus : readInt ('+' :: intText n) = readInt (intText n) := by
      rw [htext, readInt, readInt, readSign_of_digits (head_toDigits _)]
      rfl
    simp only [hn, hpos, if_false, if_true]
    exact hplus.trans (readInt_intText n)
  · simp only [hn, hpos, if_false]
    exact readInt_intText n

/-- The mantissa ends where the exponent begins. -/
theorem span_exponentText {mantissa : List Char} (h : ∀ c ∈ mantissa, c ≠ 'E') (n : Int) :
    (mantissa ++ exponentText n).takeWhile (· ≠ 'E') = mantissa ∧
      (mantissa ++ exponentText n).dropWhile (· ≠ 'E') = exponentText n := by
  have hall : ∀ c ∈ mantissa, decide (c ≠ 'E') = true := by simpa using h
  rw [List.takeWhile_append_of_pos hall, List.dropWhile_append_of_pos hall]
  unfold exponentText
  split_ifs <;> simp

theorem span_point {whole fraction : List Char} (h : ∀ c ∈ whole, c ≠ '.') :
    (whole ++ if fraction = [] then [] else '.' :: fraction).takeWhile (· ≠ '.') = whole ∧
      ((whole ++ if fraction = [] then [] else '.' :: fraction).dropWhile (· ≠ '.')).drop 1 =
        fraction := by
  have hall : ∀ c ∈ whole, decide (c ≠ '.') = true := by simpa using h
  rw [List.takeWhile_append_of_pos hall, List.dropWhile_append_of_pos hall]
  split_ifs with hf <;> simp [hf]

theorem ofText_text (d : Decimal) : ofText d.text = some d := by
  have hparts := partsOf_parts d
  generalize hwhole : d.parts.1 = whole at hparts
  generalize hfraction : d.parts.2.1 = fraction at hparts
  generalize hwritten : d.parts.2.2 = written at hparts
  have hne : ∀ c ∈ whole ++ fraction, c ≠ '.' ∧ c ≠ 'E' := fun c hc => by
    have := hparts.digits c hc
    constructor <;> rintro rfl <;> exact absurd this (by decide)
  let mantissa := whole ++ if fraction = [] then [] else '.' :: fraction
  have hmantissa : ∀ c ∈ mantissa, c ≠ 'E' := by
    intro c hc
    rcases List.mem_append.1 hc with hc | hc
    · exact (hne c (List.mem_append_left _ hc)).2
    · split_ifs at hc with hf
      · simp at hc
      · rcases List.mem_cons.1 hc with rfl | hc
        · decide
        · exact (hne c (List.mem_append_right _ hc)).2
  have htext : d.text = (if d.negative then ['-'] else []) ++ (mantissa ++ exponentText written) := by
    simp [text, hwhole, hfraction, hwritten, mantissa]
  have hsign : readSign d.text = (d.negative, mantissa ++ exponentText written) := by
    rw [htext]
    cases d.negative
    · refine readSign_of_digits fun c hc => ?_
      obtain ⟨w, ws, rfl⟩ := List.exists_cons_of_ne_nil hparts.ne_nil
      obtain rfl : w = c := by simpa [mantissa] using hc
      exact ne_sign_of_isDigit (hparts.digits w (by simp))
    · rfl
  have hnat : readNat (whole ++ fraction) = some d.coefficient := by
    rw [readNat, if_pos ⟨by simp [hparts.ne_nil], List.all_eq_true.2 hparts.digits⟩,
      hparts.coefficient]
  unfold ofText
  rw [hsign]
  dsimp only
  rw [(span_exponentText hmantissa written).1, (span_exponentText hmantissa written).2,
    (span_point fun c hc => (hne c (List.mem_append_left _ hc)).1).1,
    (span_point fun c hc => (hne c (List.mem_append_left _ hc)).1).2, hnat,
    readExponent_exponentText]
  simp only [hparts.exponent]

example : Decimal.text ⟨false, 1500, -2⟩ = ['1', '5', '.', '0', '0'] := by decide +kernel

example : Decimal.text ⟨true, 12, -9⟩ = ['-', '1', '.', '2', 'E', '-', '8'] := by decide +kernel

end Decimal

end Lib
