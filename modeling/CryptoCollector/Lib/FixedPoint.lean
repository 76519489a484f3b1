import CryptoCollector.Lib.Rounding
import Mathlib.Data.List.DropRight

/-!
# Decimal numerals in fixed-point notation

The text of a decimal number without an exponent, the numerals that have no leading zeros and no
zeros after their last decimal, and the normalization of a number to such a numeral.

* `Decimal.exists_ofText_normalText`: a number is normalized to the same value.
* `Decimal.Normal.canonicalNumeral_text_iff`: the text of a normalized number is a canonical numeral
  exactly when the number is zero or at least a millionth.
-/

namespace Lib

/-- A fraction with its point, if there is one. -/
def point (fraction : List Char) : List Char := if fraction = [] then [] else '.' :: fraction

/-- `0` or a number without a leading zero. -/
def canonicalWhole : List Char → Bool
  | [] => false
  | c :: cs => (c :: cs).all Char.isDigit && (c ≠ '0' || cs = [])

/-- A point and decimals of which the last is not zero. -/
def canonicalFraction : List Char → Bool
  | [] => true
  | _ :: decimals => decimals.all Char.isDigit && decimals.getLast?.any (· ≠ '0')

/-- The whole text matches `(?:0|[1-9][0-9]*)(?:\.[0-9]*[1-9])?`. -/
def canonicalNumeral (text : List Char) : Bool :=
  canonicalWhole (text.takeWhile (· ≠ '.')) && canonicalFraction (text.dropWhile (· ≠ '.'))

/-- A whole number and decimals that make up a canonical numeral. -/
structure CanonicalParts (whole fraction : List Char) : Prop where
  digits : ∀ c ∈ whole ++ fraction, c.isDigit = true
  whole : canonicalWhole whole = true
  last : fraction.getLast? ≠ some '0'

theorem ne_point_of_isDigit {c : Char} (h : c.isDigit = true) : c ≠ '.' := by
  rintro rfl
  exact absurd h (by decide)

theorem span_of_digits {whole fraction : List Char} (h : ∀ c ∈ whole ++ fraction, c.isDigit = true) :
    (whole ++ point fraction).takeWhile (· ≠ '.') = whole ∧
      (whole ++ point fraction).dropWhile (· ≠ '.') = point fraction := by
  have hall : ∀ c ∈ whole, decide (c ≠ '.') = true := fun c hc =>
    decide_eq_true (ne_point_of_isDigit (h c (List.mem_append_left _ hc)))
  rw [List.takeWhile_append_of_pos hall, List.dropWhile_append_of_pos hall]
  unfold point
  split_ifs <;> simp

theorem CanonicalParts.canonicalNumeral {whole fraction : List Char}
    (h : CanonicalParts whole fraction) : canonicalNumeral (whole ++ point fraction) = true := by
  obtain ⟨htake, hdrop⟩ := span_of_digits h.digits
  rw [Lib.canonicalNumeral, htake, hdrop, h.whole, Bool.true_and]
  unfold point
  split_ifs with hnil
  · rfl
  · obtain ⟨c, hc⟩ := Option.isSome_iff_exists.mp (List.getLast?_isSome.mpr hnil)
    have hlast := h.last
    rw [hc] at hlast
    have hall : fraction.all Char.isDigit = true :=
      List.all_eq_true.mpr fun c hc => h.digits c (List.mem_append_right _ hc)
    rw [canonicalFraction, hall, hc]
    simpa using hlast

theorem isDigit_of_canonicalWhole {text : List Char} (h : canonicalWhole text = true) :
    ∀ c ∈ text, c.isDigit = true := by
  cases text with
  | nil => cases h
  | cons c cs =>
    rw [canonicalWhole, Bool.and_eq_true, List.all_eq_true] at h
    exact h.1

/-- A canonical numeral has digits and points only. -/
theorem digit_or_point_of_canonical {text : List Char} (h : canonicalNumeral text = true) :
    ∀ c ∈ text, c.isDigit = true ∨ c = '.' := by
  rw [canonicalNumeral, Bool.and_eq_true] at h
  obtain ⟨hwhole, hfraction⟩ := h
  intro c hc
  rw [← List.takeWhile_append_dropWhile (p := (· ≠ '.')) (l := text), List.mem_append] at hc
  rcases hc with hc | hc
  · exact .inl (isDigit_of_canonicalWhole hwhole c hc)
  · generalize hdrop : text.dropWhile (· ≠ '.') = rest at hc hfraction
    cases rest with
    | nil => cases hc
    | cons d decimals =>
      rw [canonicalFraction, Bool.and_eq_true, List.all_eq_true] at hfraction
      rcases List.mem_cons.mp hc with rfl | hc
      · have hne : text.dropWhile (· ≠ '.') ≠ [] := hdrop ▸ List.cons_ne_nil _ _
        have hhead := List.head_dropWhile_not (fun c => decide (c ≠ '.')) hne
        simp only [hdrop, List.head_cons] at hhead
        exact .inr (by simpa using hhead)
      · exact .inl (hfraction.1 c hc)

/-! ## Digits -/

theorem getLast?_toDigits (n : ℕ) :
    (Nat.toDigits 10 n).getLast? = some (Nat.digitChar (n % 10)) := by
  rcases Nat.lt_or_ge n 10 with h | h
  · rw [Nat.toDigits_of_lt_base h, Nat.mod_eq_of_lt h]
    rfl
  · rw [Nat.toDigits_of_base_le (by decide) h]
    simp

theorem digitChar_eq_zero_iff {n : ℕ} (h : n < 10) : Nat.digitChar n = '0' ↔ n = 0 := by
  have : ∀ n < 10, Nat.digitChar n = '0' ↔ n = 0 := by decide
  exact this n h

theorem toDigits_ne_zero {n : ℕ} (h : n ≠ 0) : Nat.toDigits 10 n ≠ ['0'] := by
  intro heq
  have hvalue := congrArg (fun cs => Nat.ofDigitChars 10 cs 0) heq
  have hzero : Nat.ofDigitChars 10 ['0'] 0 = 0 := by decide
  simp only [Nat.ofDigitChars_ten_toDigits, hzero] at hvalue
  exact h hvalue

theorem canonicalWhole_of_head {cs : List Char} (hdigits : ∀ c ∈ cs, c.isDigit = true)
    (hne : cs ≠ []) (hhead : cs.head? ≠ some '0') : canonicalWhole cs = true := by
  cases cs with
  | nil => exact absurd rfl hne
  | cons c cs =>
    have hc : c ≠ '0' := fun heq => hhead (by rw [heq]; rfl)
    simpa [canonicalWhole, hc] using hdigits

/-- A canonical number other than zero has no leading zero. -/
theorem head?_of_canonicalWhole {cs : List Char} (h : canonicalWhole cs = true)
    (hne : cs ≠ ['0']) : cs.head? ≠ some '0' := by
  cases cs with
  | nil => cases h
  | cons c cs =>
    rw [canonicalWhole, Bool.and_eq_true, Bool.or_eq_true, decide_eq_true_eq, decide_eq_true_eq] at h
    rw [List.head?_cons, Ne, Option.some.injEq]
    rintro rfl
    rcases h.2 with hc | rfl
    · exact hc rfl
    · exact hne rfl

theorem canonicalWhole_append {cs ds : List Char} (h : canonicalWhole cs = true)
    (hne : cs ≠ ['0']) (hds : ∀ c ∈ ds, c.isDigit = true) : canonicalWhole (cs ++ ds) = true := by
  have hnil : cs ≠ [] := by
    rintro rfl
    cases h
  refine canonicalWhole_of_head (fun c hc => ?_) (by simp [hnil]) ?_
  · rcases List.mem_append.mp hc with hc | hc
    · exact isDigit_of_canonicalWhole h c hc
    · exact hds c hc
  · rw [List.head?_append_of_ne_nil _ hnil]
    exact head?_of_canonicalWhole h hne

theorem canonicalWhole_toDigits (n : ℕ) : canonicalWhole (Nat.toDigits 10 n) = true := by
  induction n using Nat.strong_induction_on with
  | _ n ih =>
    rcases Nat.lt_or_ge n 10 with h | h
    · rw [Nat.toDigits_of_lt_base h]
      have : ∀ n < 10, canonicalWhole [Nat.digitChar n] = true := by decide
      exact this n h
    · rw [Nat.toDigits_of_base_le (by decide) h]
      have hpos : 0 < n / 10 := Nat.div_pos h (by decide)
      refine canonicalWhole_append (ih (n / 10) (Nat.div_lt_self (by omega) (by decide)))
        (toDigits_ne_zero hpos.ne') ?_
      intro c hc
      rw [List.mem_singleton.mp hc]
      have : ∀ n < 10, (Nat.digitChar n).isDigit = true := by decide
      exact this _ (Nat.mod_lt n (by decide))

theorem canonicalWhole_zeros (n k : ℕ) (hn : n ≠ 0) :
    canonicalWhole (Nat.toDigits 10 n ++ List.replicate k '0') = true := by
  refine canonicalWhole_append (canonicalWhole_toDigits n) (toDigits_ne_zero hn) ?_
  intro c hc
  obtain rfl := List.eq_of_mem_replicate hc
  decide

/-! ## Zeros at the end -/

/-- Remove the zeros at the end of a text with a point, and the point before them. -/
def stripZeros (text : List Char) : List Char :=
  if '.' ∈ text then (text.rdropWhile (· = '0')).rdropWhile (· = '.') else text

/-- Decimals without the zeros at their end. -/
def significant (fraction : List Char) : List Char := fraction.rdropWhile (· = '0')

theorem exists_zeros (cs : List Char) :
    ∃ k, cs = significant cs ++ List.replicate k '0' := by
  refine ⟨(cs.rtakeWhile (· = '0')).length, ?_⟩
  have hzeros : cs.rtakeWhile (· = '0') =
      List.replicate (cs.rtakeWhile (· = '0')).length '0' :=
    List.eq_replicate_of_mem fun c hc => by simpa using List.mem_rtakeWhile_imp hc
  rw [← hzeros]
  exact List.rdropWhile_append_rtakeWhile.symm

theorem getLast?_significant (cs : List Char) : (significant cs).getLast? ≠ some '0' := by
  intro h
  have hne : significant cs ≠ [] := by
    intro hnil
    rw [hnil] at h
    cases h
  rw [List.getLast?_eq_some_getLast hne, Option.some.injEq] at h
  exact List.rdropWhile_last_not _ _ hne (decide_eq_true h)

theorem rdropWhile_zeros (cs : List Char) (k : ℕ) :
    (cs ++ List.replicate k '0').rdropWhile (· = '0') = cs.rdropWhile (· = '0') := by
  induction k with
  | zero => rw [List.replicate_zero, List.append_nil]
  | succ k ih =>
    rw [List.replicate_succ', ← List.append_assoc, List.rdropWhile_concat_pos _ _ _ (by decide), ih]

/-- A text whose last character is another one keeps it. -/
theorem rdropWhile_of_getLast? {cs : List Char} {c : Char} (h : cs.getLast? ≠ some c) :
    cs.rdropWhile (· = c) = cs := by
  rw [List.rdropWhile_eq_self_iff]
  intro hne heq
  exact h (by rw [List.getLast?_eq_some_getLast hne, of_decide_eq_true heq])

theorem getLast?_of_digits {cs : List Char} (h : ∀ c ∈ cs, c.isDigit = true) :
    cs.getLast? ≠ some '.' := fun hlast =>
  ne_point_of_isDigit (h '.' (List.mem_of_getLast? hlast)) rfl

theorem stripZeros_point {whole fraction : List Char}
    (h : ∀ c ∈ whole ++ fraction, c.isDigit = true) :
    stripZeros (whole ++ point fraction) = whole ++ point (significant fraction) := by
  have hwhole := getLast?_of_digits fun c hc => h c (List.mem_append_left _ hc)
  have hfraction : ∀ c ∈ fraction, c.isDigit = true := fun c hc => h c (List.mem_append_right _ hc)
  by_cases hnil : fraction = []
  · have hpoint : '.' ∉ whole := fun hc =>
      ne_point_of_isDigit (h '.' (List.mem_append_left _ hc)) rfl
    simp [hnil, stripZeros, significant, point, hpoint]
  obtain ⟨k, hk⟩ := exists_zeros fraction
  have htext : whole ++ point fraction =
      (whole ++ '.' :: significant fraction) ++ List.replicate k '0' := by
    rw [point, if_neg hnil, List.append_assoc, List.cons_append, ← hk]
  have hlast := getLast?_significant fraction
  rw [stripZeros, if_pos (by simp [point, hnil]), htext, rdropWhile_zeros]
  by_cases hkept : significant fraction = []
  · -- only the point is left
    have hstop : (whole ++ ['.']).rdropWhile (· = '0') = whole ++ ['.'] :=
      rdropWhile_of_getLast? (by simp)
    rw [hkept, hstop, List.rdropWhile_concat_pos _ _ _ (by decide), rdropWhile_of_getLast? hwhole,
      point, if_pos rfl, List.append_nil]
  · have hlast' : (whole ++ '.' :: significant fraction).getLast? =
        (significant fraction).getLast? := by
      obtain ⟨c, hc⟩ := Option.isSome_iff_exists.mp (List.getLast?_isSome.mpr hkept)
      simp [hc, List.getLast?_cons]
    have hdigits : (significant fraction).getLast? ≠ some '.' :=
      getLast?_of_digits fun c hc => hfraction c ((List.rdropWhile_prefix _ _).mem hc)
    rw [← hlast'] at hlast hdigits
    rw [rdropWhile_of_getLast? hlast, rdropWhile_of_getLast? hdigits, point, if_neg hkept]

/-! ## Fixed-point notation -/

namespace Decimal

/-- The digits before and after the point in fixed-point notation. A zero has no exponent above
zero there. -/
def fixedParts (d : Decimal) : List Char × List Char :=
  let digits := Nat.toDigits 10 d.coefficient
  let exponent := if d.coefficient = 0 then min d.exponent 0 else d.exponent
  let dotplace : Int := exponent + digits.length
  if dotplace ≤ 0 then (['0'], List.replicate (-dotplace).toNat '0' ++ digits)
  else if (digits.length : Int) ≤ dotplace then
    (digits ++ List.replicate (dotplace - digits.length).toNat '0', [])
  else (digits.take dotplace.toNat, digits.drop dotplace.toNat)

/-- `format` with the type `f`. -/
def fixedText (d : Decimal) : List Char :=
  (if d.negative then ['-'] else []) ++ d.fixedParts.1 ++ point d.fixedParts.2

/-- What the parts of a positive number say about it. -/
structure FixedOf (d : Decimal) (whole fraction : List Char) : Prop where
  digits : ∀ c ∈ whole ++ fraction, c.isDigit = true
  canonical : canonicalWhole whole = true
  value : (Nat.ofDigitChars 10 (whole ++ fraction) 0 : ℚ) * 10 ^ (-(fraction.length : ℤ)) =
    d.coefficient * 10 ^ d.exponent

theorem canonicalWhole_take {n k : ℕ} (hn : n ≠ 0) (hk : 0 < k) :
    canonicalWhole ((Nat.toDigits 10 n).take k) = true := by
  obtain ⟨k, rfl⟩ := Nat.exists_eq_succ_of_ne_zero hk.ne'
  refine canonicalWhole_of_head (fun c hc => isDigit_of_mem_toDigits (List.mem_of_mem_take hc))
    (by simp) ?_
  rw [List.head?_take, if_neg (by omega)]
  exact head?_of_canonicalWhole (canonicalWhole_toDigits n) (toDigits_ne_zero hn)

theorem fixedOf_fixedParts {d : Decimal} (hd : d.coefficient ≠ 0) :
    FixedOf d d.fixedParts.1 d.fixedParts.2 := by
  have hvalue : Nat.ofDigitChars 10 (Nat.toDigits 10 d.coefficient) 0 = d.coefficient :=
    Nat.ofDigitChars_ten_toDigits
  have hdigit : ∀ c ∈ Nat.toDigits 10 d.coefficient, c.isDigit = true :=
    fun _ => isDigit_of_mem_toDigits
  have hpos : 0 < (Nat.toDigits 10 d.coefficient).length :=
    List.length_pos_iff.2 Nat.toDigits_ne_nil
  unfold fixedParts
  rw [if_neg hd]
  extract_lets digits exponent dotplace
  have hdot : dotplace = d.exponent + digits.length := rfl
  clear_value dotplace
  split_ifs with hsmall hlong
  · refine ⟨?_, rfl, ?_⟩
    · intro c hc
      simp only [List.cons_append, List.nil_append, List.mem_cons, List.mem_append] at hc
      rcases hc with rfl | hc | hc
      · decide
      · obtain rfl := List.eq_of_mem_replicate hc
        decide
      · exact hdigit c hc
    · have hzeros : ['0'] ++ (List.replicate (-dotplace).toNat '0' ++ digits) =
          List.replicate ((-dotplace).toNat + 1) '0' ++ digits := by
        simp [List.replicate_succ]
      have hlength : -(((List.replicate (-dotplace).toNat '0' ++ digits).length : ℕ) : ℤ) =
          d.exponent := by
        rw [List.length_append, List.length_replicate]
        omega
      dsimp only
      rw [hzeros, ofDigitChars_zeros, hvalue, hlength]
  · refine ⟨?_, canonicalWhole_zeros _ _ hd, ?_⟩
    · intro c hc
      simp only [List.append_nil, List.mem_append] at hc
      rcases hc with hc | hc
      · exact hdigit c hc
      · obtain rfl := List.eq_of_mem_replicate hc
        decide
    · obtain ⟨k, hk⟩ := Int.eq_ofNat_of_zero_le (a := d.exponent) (by omega)
      have hzeros : (dotplace - digits.length).toNat = k := by omega
      dsimp only
      rw [List.append_nil, Nat.ofDigitChars_append, hvalue, hzeros,
        Nat.ofDigitChars_replicate_zero, hk]
      push_cast
      simp [mul_comm]
  · refine ⟨?_, canonicalWhole_take hd (by omega), ?_⟩
    · simpa [List.take_append_drop] using hdigit
    · have hlength : -((digits.drop dotplace.toNat).length : ℤ) = d.exponent := by
        rw [List.length_drop]
        omega
      dsimp only
      rw [List.take_append_drop, hvalue, hlength]

/-- The text of a non-negative number in fixed-point notation, without zeros at its end. -/
def normalText (d : Decimal) : List Char :=
  if d.coefficient = 0 then ['0'] else stripZeros d.fixedText

/-- A non-negative number whose text in fixed-point notation has no zeros at its end. -/
structure Normal (d : Decimal) : Prop where
  nonnegative : d.negative = false
  exponent_le : d.exponent ≤ 0
  last : d.exponent < 0 → d.coefficient % 10 ≠ 0

/-- Reading a numeral without an exponent. -/
theorem ofText_point {whole fraction : List Char} (hne : whole ≠ [])
    (h : ∀ c ∈ whole ++ fraction, c.isDigit = true) :
    ofText (whole ++ point fraction) =
      some ⟨false, Nat.ofDigitChars 10 (whole ++ fraction) 0, -fraction.length⟩ := by
  have hE : ∀ c ∈ whole ++ point fraction, decide (c ≠ 'E') = true := by
    intro c hc
    refine decide_eq_true fun heq => ?_
    subst heq
    rcases List.mem_append.mp hc with hc | hc
    · exact absurd (h 'E' (List.mem_append_left _ hc)) (by decide)
    · unfold point at hc
      split_ifs at hc
      · cases hc
      · rcases List.mem_cons.mp hc with hc | hc
        · exact absurd hc (by decide)
        · exact absurd (h 'E' (List.mem_append_right _ hc)) (by decide)
  have hsign : readSign (whole ++ point fraction) = (false, whole ++ point fraction) := by
    refine readSign_of_digits fun c hc => ?_
    obtain ⟨w, ws, rfl⟩ := List.exists_cons_of_ne_nil hne
    obtain rfl : w = c := by simpa using hc
    exact ne_sign_of_isDigit (h w (by simp))
  have hnat : readNat (whole ++ fraction) = some (Nat.ofDigitChars 10 (whole ++ fraction) 0) := by
    rw [readNat, if_pos ⟨by simp [hne], List.all_eq_true.2 h⟩]
  have htake : (whole ++ point fraction).takeWhile (· ≠ 'E') = whole ++ point fraction :=
    List.takeWhile_eq_self_iff.mpr hE
  have hdrop : (whole ++ point fraction).dropWhile (· ≠ 'E') = [] :=
    List.dropWhile_eq_nil_iff.mpr hE
  have hfraction : (point fraction).drop 1 = fraction := by
    unfold point
    split_ifs with hnil
    · exact hnil.symm
    · rfl
  unfold ofText
  rw [hsign]
  dsimp only
  rw [htake, hdrop, (span_of_digits h).1, (span_of_digits h).2, hfraction, hnat]
  simp only [readExponent, zero_sub]

theorem ofDigitChars_significant (whole fraction : List Char) :
    (Nat.ofDigitChars 10 (whole ++ significant fraction) 0 : ℚ) *
        10 ^ (-((significant fraction).length : ℤ)) =
      Nat.ofDigitChars 10 (whole ++ fraction) 0 * 10 ^ (-(fraction.length : ℤ)) := by
  obtain ⟨k, hk⟩ := exists_zeros fraction
  generalize significant fraction = kept at hk ⊢
  subst hk
  rw [← List.append_assoc, Nat.ofDigitChars_append (l := whole ++ kept),
    Nat.ofDigitChars_replicate_zero, List.length_append, List.length_replicate]
  have hten : (10 : ℚ) ≠ 0 := by norm_num
  have hsplit : (10 : ℚ) ^ (-((kept.length : ℤ))) = 10 ^ k * 10 ^ (-((kept.length + k : ℕ) : ℤ)) := by
    rw [← zpow_natCast, ← zpow_add₀ hten]
    congr 1
    push_cast
    ring
  rw [hsplit]
  push_cast
  ring

theorem ofDigitChars_mod (cs : List Char) (h : ∀ c ∈ cs, c.isDigit = true)
    (hlast : cs.getLast? ≠ some '0') (hne : cs ≠ []) : Nat.ofDigitChars 10 cs 0 % 10 ≠ 0 := by
  obtain ⟨c, hc⟩ := Option.isSome_iff_exists.mp (List.getLast?_isSome.mpr hne)
  obtain ⟨init, rfl⟩ := List.getLast?_eq_some_iff.mp hc
  rw [Nat.ofDigitChars_append, Nat.ofDigitChars_cons, Nat.ofDigitChars_nil]
  obtain ⟨hlo, hhi⟩ := Char.isDigit_iff_toNat.mp (h c (by simp))
  have hzero : c.toNat ≠ '0'.toNat := fun heq => hlast (by rw [hc, Char.toNat_inj.mp heq])
  have hnine : '9'.toNat = '0'.toNat + 9 := rfl
  omega

/-- A number is normalized to the same value. -/
theorem exists_ofText_normalText {d : Decimal} (hneg : d.negative = false) :
    ∃ r, canonicalNumeral d.normalText = true ∧ ofText d.normalText = some r ∧ r.Normal ∧
      r.value = d.value := by
  by_cases hd : d.coefficient = 0
  · rw [normalText, if_pos hd]
    refine ⟨⟨false, 0, 0⟩, by decide, by decide, ⟨rfl, le_refl 0, fun h => ?_⟩, ?_⟩
    · exact absurd h (lt_irrefl 0)
    · simp [value, hd]
  have hparts := fixedOf_fixedParts hd
  generalize hwhole : d.fixedParts.1 = whole at hparts
  generalize hfraction : d.fixedParts.2 = fraction at hparts
  have hne : whole ≠ [] := by
    rintro rfl
    exact absurd hparts.canonical (by decide)
  have htext : d.normalText = whole ++ point (significant fraction) := by
    rw [normalText, if_neg hd, fixedText, hneg, hwhole, hfraction]
    exact stripZeros_point hparts.digits
  have hdigits : ∀ c ∈ whole ++ significant fraction, c.isDigit = true := by
    intro c hc
    rcases List.mem_append.mp hc with hc | hc
    · exact hparts.digits c (List.mem_append_left _ hc)
    · exact hparts.digits c (List.mem_append_right _ ((List.rdropWhile_prefix _ _).mem hc))
  have hlast := getLast?_significant fraction
  refine ⟨_, ?_, htext ▸ ofText_point hne hdigits, ⟨rfl, ?_, fun hexp => ?_⟩, ?_⟩
  · rw [htext]
    exact CanonicalParts.canonicalNumeral ⟨hdigits, hparts.canonical, hlast⟩
  · simp
  · have hkept : significant fraction ≠ [] := by
      intro hnil
      simp [hnil] at hexp
    refine ofDigitChars_mod _ hdigits ?_ (by simp [hne])
    rwa [List.getLast?_append_of_ne_nil _ hkept]
  · rw [value, value, hneg]
    simp only [Bool.false_eq_true, if_false, one_mul]
    rw [ofDigitChars_significant, hparts.value]

theorem Normal.eq_zero {d : Decimal} (h : d.Normal) (hd : d.coefficient = 0) : d = ⟨false, 0, 0⟩ := by
  have hexp : d.exponent = 0 := by
    refine le_antisymm h.exponent_le (not_lt.mp fun hlt => h.last hlt ?_)
    rw [hd]
  rw [← h.nonnegative, ← hd, ← hexp]

/-! ## Scientific notation -/

/-- Decimals end with the last digit of the coefficient. -/
theorem getLast?_fixedParts {d : Decimal} (h : d.fixedParts.2 ≠ []) :
    d.exponent < 0 ∧
      d.fixedParts.2.getLast? = (Nat.toDigits 10 d.coefficient).getLast? := by
  have hpos : 0 < (Nat.toDigits 10 d.coefficient).length :=
    List.length_pos_iff.2 Nat.toDigits_ne_nil
  revert h
  unfold fixedParts
  extract_lets digits exponent dotplace
  intro h
  have hexp : exponent < 0 → d.exponent < 0 := by
    intro hlt
    simp only [exponent] at hlt
    split_ifs at hlt <;> omega
  have hdot : dotplace = exponent + digits.length := rfl
  clear_value dotplace exponent
  change 0 < digits.length at hpos
  split_ifs at h ⊢ with hsmall hlong
  · refine ⟨hexp (by omega), ?_⟩
    exact List.getLast?_append_of_ne_nil _ (List.length_pos_iff.mp hpos)
  · exact absurd rfl h
  · refine ⟨hexp (by omega), ?_⟩
    dsimp only
    rw [List.getLast?_drop, if_neg (by omega)]

/-- A normalized number with the point close to its digits is written in fixed-point notation. -/
theorem Normal.text_eq {d : Decimal} (h : d.Normal)
    (hleft : -6 < d.exponent + (Nat.toDigits 10 d.coefficient).length) :
    d.text = d.fixedParts.1 ++ point d.fixedParts.2 := by
  have hexp : (if d.coefficient = 0 then min d.exponent 0 else d.exponent) = d.exponent := by
    split_ifs
    · exact min_eq_left h.exponent_le
    · rfl
  have hparts : d.parts = (d.fixedParts.1, d.fixedParts.2, 0) := by
    unfold parts fixedParts
    simp only [hexp, if_pos (And.intro h.exponent_le hleft), sub_self]
    split_ifs <;> rfl
  rw [text, hparts, h.nonnegative]
  simp [exponentText, point]

theorem Normal.canonicalWhole_fixedParts {d : Decimal} (h : d.Normal) :
    (∀ c ∈ d.fixedParts.1 ++ d.fixedParts.2, c.isDigit = true) ∧
      canonicalWhole d.fixedParts.1 = true := by
  by_cases hd : d.coefficient = 0
  · rw [h.eq_zero hd]
    exact ⟨List.all_eq_true.mp (by decide), by decide⟩
  · exact ⟨(fixedOf_fixedParts hd).digits, (fixedOf_fixedParts hd).canonical⟩

/-- The text of a normalized number has no exponent when the point is close to the digits. -/
theorem Normal.canonical_text_iff {d : Decimal} (h : d.Normal) :
    canonicalNumeral d.text = true ↔
      -6 < d.exponent + (Nat.toDigits 10 d.coefficient).length := by
  constructor
  · intro hcanonical
    by_contra hleft
    have hE : 'E' ∈ d.text := by
      have hwritten : d.parts.2.2 ≠ 0 := by
        have hdot : ¬(d.exponent ≤ 0 ∧ -6 < d.exponent + (Nat.toDigits 10 d.coefficient).length) :=
          fun h => hleft h.2
        unfold parts
        simp only [hdot, if_false]
        split_ifs <;> dsimp only <;> omega
      rw [text, exponentText, if_neg hwritten]
      simp
    rcases digit_or_point_of_canonical hcanonical 'E' hE with hdigit | hpoint
    · exact absurd hdigit (by decide)
    · exact absurd hpoint (by decide)
  · intro hleft
    rw [h.text_eq hleft]
    obtain ⟨hdigits, hwhole⟩ := h.canonicalWhole_fixedParts
    refine CanonicalParts.canonicalNumeral ⟨hdigits, hwhole, fun hzero => ?_⟩
    have hne : d.fixedParts.2 ≠ [] := by
      intro hnil
      rw [hnil] at hzero
      cases hzero
    obtain ⟨hexp, hlast⟩ := getLast?_fixedParts hne
    rw [hlast, getLast?_toDigits, Option.some.injEq,
      digitChar_eq_zero_iff (Nat.mod_lt _ (by decide))] at hzero
    exact h.last hexp hzero

/-- The number of digits of a coefficient and the powers of ten. -/
theorem pow_le_iff_lt_length {n : ℕ} (hn : n ≠ 0) (e k : ℤ) :
    (10 : ℚ) ^ k ≤ n * 10 ^ e ↔ k < e + (Nat.toDigits 10 n).length := by
  have hpos : 0 < (Nat.toDigits 10 n).length := List.length_pos_iff.2 Nat.toDigits_ne_nil
  have hone : (1 : ℚ) ≤ n := by exact_mod_cast Nat.one_le_iff_ne_zero.mpr hn
  have hshift : (10 : ℚ) ^ k ≤ n * 10 ^ e ↔ (10 : ℚ) ^ (k - e) ≤ n := by
    rw [zpow_sub₀ (by norm_num), div_le_iff₀ (by positivity)]
  rw [hshift]
  rcases le_or_gt (k - e) 0 with hle | hgt
  · refine iff_of_true ?_ (by omega)
    exact (zpow_le_one_of_nonpos₀ (by norm_num) hle).trans hone
  · obtain ⟨m, hm⟩ := Int.eq_ofNat_of_zero_le hgt.le
    have hlength := Nat.length_toDigits_le_iff (n := n) (b := 10) (k := m) (by decide) (by omega)
    rw [hm, zpow_natCast, show (10 : ℚ) ^ m = ((10 ^ m : ℕ) : ℚ) by push_cast; rfl, Nat.cast_le]
    omega

/-- The text of a normalized number is a canonical numeral exactly when the number is zero or at
least a millionth. -/
theorem Normal.canonicalNumeral_text_iff {d : Decimal} (h : d.Normal) :
    canonicalNumeral d.text = true ↔ d.value = 0 ∨ (10 : ℚ) ^ (-6 : ℤ) ≤ d.value := by
  have hvalue : d.value = d.coefficient * 10 ^ d.exponent := by
    simp [value, h.nonnegative]
  rw [h.canonical_text_iff, hvalue]
  by_cases hd : d.coefficient = 0
  · rw [h.eq_zero hd]
    exact iff_of_true (by decide) (.inl (by simp))
  · have hne : (d.coefficient : ℚ) * 10 ^ d.exponent ≠ 0 :=
      mul_ne_zero (Nat.cast_ne_zero.mpr hd) (zpow_ne_zero _ (by norm_num))
    rw [pow_le_iff_lt_length hd, or_iff_right hne]

end Decimal

end Lib
