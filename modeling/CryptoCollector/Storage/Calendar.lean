import CryptoCollector.Storage.Layout
import Mathlib.Order.Monotone.Basic

/-!
# The calendar of the layout

The directory names of an hour name it: `UtcHour.ofSeconds` is undone by `UtcHour.timestamp`, and
padded numbers by their value.
-/

namespace CryptoCollector.Storage

namespace UtcHour

/-! ## Days -/

/-- The days of an era before a year of it. -/
def yearStart (yearOfEra : Nat) : Nat := 365 * yearOfEra + yearOfEra / 4 - yearOfEra / 100

/-- The days of an era before a day of it, less the leap days. -/
def commonDays (dayOfEra : Nat) : Nat :=
  dayOfEra - dayOfEra / 1460 + dayOfEra / 36524 - dayOfEra / 146096

theorem commonDays_mono : Monotone commonDays := by
  refine monotone_nat_of_le_succ fun day => ?_
  have hcentury : day / 146096 = day / 36524 / 4 := by omega
  have hcentury' : (day + 1) / 146096 = (day + 1) / 36524 / 4 := by omega
  have hleap : (day + 1) / 1460 ≤ day / 1460 + 1 := by omega
  have hle : day / 1460 ≤ day := Nat.div_le_self _ _
  have hnext : day / 36524 ≤ (day + 1) / 36524 := Nat.div_le_div_right (Nat.le_succ _)
  unfold commonDays
  rw [hcentury, hcentury']
  generalize day / 1460 = leap at *
  generalize (day + 1) / 1460 = leap' at *
  generalize day / 36524 = century at *
  generalize (day + 1) / 36524 = century' at *
  omega

/-- A year starts after the common days of the years before it, and not earlier. -/
theorem commonDays_yearStart : ∀ year < 400, 365 * year ≤ commonDays (yearStart year) ∧
    (0 < year → commonDays (yearStart year - 1) < 365 * year) := by
  decide +kernel

/-- The year of a day of the era is the one that has the day. -/
theorem yearStart_commonDays {day : Nat} (h : day < 146097) :
    commonDays day / 365 < 400 ∧ yearStart (commonDays day / 365) ≤ day ∧
      day ≤ yearStart (commonDays day / 365) + 365 := by
  have hyear : commonDays day / 365 < 400 := by
    have hlast : commonDays day ≤ commonDays 146096 := commonDays_mono (by omega)
    have : commonDays 146096 = 145999 := by decide +kernel
    omega
  refine ⟨hyear, ?_, ?_⟩
  · by_contra hlt
    have hpos : 0 < commonDays day / 365 := by
      rcases Nat.eq_zero_or_pos (commonDays day / 365) with hzero | hpos
      · rw [hzero] at hlt
        exact absurd (Nat.zero_le _) hlt
      · exact hpos
    have hmono : commonDays day ≤ commonDays (yearStart (commonDays day / 365) - 1) :=
      commonDays_mono (by omega)
    have := (commonDays_yearStart _ hyear).2 hpos
    omega
  · by_contra hlt
    by_cases hnext : commonDays day / 365 + 1 < 400
    · have hstep : yearStart (commonDays day / 365 + 1) ≤ yearStart (commonDays day / 365) + 366 := by
        unfold yearStart
        omega
      have hmono : commonDays (yearStart (commonDays day / 365 + 1)) ≤ commonDays day :=
        commonDays_mono (by omega)
      have := (commonDays_yearStart _ hnext).1
      omega
    · have hlast : commonDays day / 365 = 399 := by omega
      rw [hlast] at hlt
      have : yearStart 399 = 145731 := by decide
      omega

/-- The civil date of a day determines the day. -/
theorem timestamp_civil {year era month dayOfYear hour : Nat} (hyear : year < 400)
    (hmonth : month ≤ 11) (hday : (153 * month + 2) / 5 ≤ dayOfYear) :
    let civil := if month < 10 then month + 3 else month - 9
    timestamp {
      year := year + era * 400 + (if civil ≤ 2 then 1 else 0)
      month := civil
      day := dayOfYear - (153 * month + 2) / 5 + 1
      hour } =
    ((era * 146097 + (year * 365 + year / 4 - year / 100 + dayOfYear) : Nat) - 719468) * 86400 +
      hour * 3600 := by
  have hmod : (year + era * 400) % 400 = year := by omega
  have hdiv : (year + era * 400) / 400 = era := by omega
  have hback : (153 * month + 2) / 5 + (dayOfYear - (153 * month + 2) / 5 + 1) - 1 =
      dayOfYear := by omega
  unfold timestamp
  by_cases hlate : month < 10
  · have hcivil : ¬ month + 3 ≤ 2 := by omega
    simp only [hlate, if_true, hcivil, if_false, Nat.add_zero, hmod, hdiv, Nat.add_sub_cancel,
      hback]
  · have hcivil : month - 9 ≤ 2 := by omega
    have hmarch : month - 9 + 9 = month := by omega
    simp only [hlate, if_false, hcivil, if_true, Nat.add_sub_cancel, hmod, hdiv, hmarch, hback]

/-- The hour of a day, counted from the first of March of year 0. -/
def ofDay (day hour : Nat) : UtcHour :=
  let era := day / 146097
  let dayOfEra := day % 146097
  let yearOfEra := commonDays dayOfEra / 365
  let dayOfYear := dayOfEra - (365 * yearOfEra + yearOfEra / 4 - yearOfEra / 100)
  let monthFromMarch := (5 * dayOfYear + 2) / 153
  let month := if monthFromMarch < 10 then monthFromMarch + 3 else monthFromMarch - 9
  { year := yearOfEra + era * 400 + (if month ≤ 2 then 1 else 0)
    month
    day := dayOfYear - (153 * monthFromMarch + 2) / 5 + 1
    hour }

theorem ofSeconds_eq (seconds : Nat) :
    ofSeconds seconds = ofDay (seconds / 86400 + 719468) (seconds % 86400 / 3600) := rfl

theorem timestamp_ofDay (day hour : Nat) :
    (ofDay day hour).timestamp = (day - 719468 : Int) * 86400 + hour * 3600 := by
  obtain ⟨hyear, hstart, hend⟩ := yearStart_commonDays (Nat.mod_lt day (show 0 < 146097 by decide))
  have hera := Nat.div_add_mod day 146097
  simp only [ofDay]
  generalize day / 146097 = era at hera ⊢
  generalize day % 146097 = dayOfEra at hera hyear hstart hend ⊢
  generalize commonDays dayOfEra / 365 = year at hyear hstart hend ⊢
  unfold yearStart at hstart hend
  generalize hdoy : dayOfEra - (365 * year + year / 4 - year / 100) = dayOfYear
  rw [timestamp_civil hyear (by omega) (by omega)]
  have hsum : era * 146097 + (year * 365 + year / 4 - year / 100 + dayOfYear) = day := by omega
  rw [hsum]

/-- The hour of a time starts at the time of its last full hour. -/
theorem timestamp_ofSeconds (seconds : Nat) :
    (ofSeconds seconds).timestamp = (seconds / 3600 * 3600 : Nat) := by
  rw [ofSeconds_eq, timestamp_ofDay]
  omega

/-! ## Names -/

theorem padded_injective (width : Nat) : Function.Injective (padded width) := by
  intro n m h
  have hvalue (k : Nat) : Nat.ofDigitChars 10 (padded width k).toList 0 = k := by
    rw [padded, String.toList_ofList, Nat.ofDigitChars_append, Nat.ofDigitChars_replicate_zero,
      Nat.mul_zero, Nat.ofDigitChars_ten_toDigits]
  rw [← hvalue n, h, hvalue]

theorem names_injective : Function.Injective names := by
  intro h h' heq
  simp only [names, List.cons.injEq, and_true] at heq
  obtain ⟨hyear, hmonth, hday, hhour⟩ := heq
  obtain ⟨year, month, day, hour⟩ := h
  congr
  · exact padded_injective 4 hyear
  · exact padded_injective 2 hmonth
  · exact padded_injective 2 hday
  · exact padded_injective 2 hhour

end UtcHour

/-- Times of one hour are in one directory. -/
theorem utcStorageHour_congr {ns ns' : Nat} (h : ns / hourNs = ns' / hourNs) :
    utcStorageHour ns = utcStorageHour ns' := by
  unfold hourNs at h
  have hday : ns / 1000000000 / 86400 = ns' / 1000000000 / 86400 := by omega
  have hhour : ns / 1000000000 % 86400 / 3600 = ns' / 1000000000 % 86400 / 3600 := by omega
  have hrange : maxUtcSecond < ns / 1000000000 ↔ maxUtcSecond < ns' / 1000000000 := by
    unfold maxUtcSecond
    omega
  unfold utcStorageHour
  dsimp only
  rw [UtcHour.ofSeconds_eq, UtcHour.ofSeconds_eq, hday, hhour]
  by_cases hout : maxUtcSecond < ns / 1000000000
  · rw [if_pos hout, if_pos (hrange.mp hout)]
  · rw [if_neg hout, if_neg fun h => hout (hrange.mpr h)]

/-- Times in one directory are of one hour. -/
theorem hour_eq_of_utcStorageHour {ns ns' : Nat} {hour : List String}
    (h : utcStorageHour ns = .ok hour) (h' : utcStorageHour ns' = .ok hour) :
    ns / hourNs = ns' / hourNs := by
  unfold utcStorageHour at h h'
  dsimp only at h h'
  split_ifs at h h'
  obtain rfl := Except.ok.inj h
  have hsame := UtcHour.names_injective (Except.ok.inj h')
  have htime := congrArg UtcHour.timestamp hsame
  rw [UtcHour.timestamp_ofSeconds, UtcHour.timestamp_ofSeconds] at htime
  unfold hourNs
  omega

end CryptoCollector.Storage
