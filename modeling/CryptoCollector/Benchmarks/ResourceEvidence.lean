import CryptoCollector.Benchmarks.ResourceSummary
import CryptoCollector.Lib.Ranks

/-!
# Evidence of resources

Which summaries of resource rounds can be written and read back.

* `summaryOf_valid`: the fields that are computed from totals pass the validation.
-/

namespace CryptoCollector.Benchmarks

open Lib Storage

/-! ## Maxima -/

theorem le_maximumOf {xs : List Nat} {x : Nat} (hx : x ∈ xs) : x ≤ maximumOf xs :=
  List.le_max?_getD_of_mem hx

theorem maximumOf_lt {xs : List Nat} {bound : Nat} (hbound : 0 < bound)
    (h : ∀ x ∈ xs, x < bound) : maximumOf xs < bound := by
  cases xs with
  | nil => exact hbound
  | cons x rest =>
    have hhead : x ∈ x :: rest := List.mem_cons_self
    obtain ⟨m, hmax, hmem, -⟩ := max?_eq_some_of_mem hhead
    rw [maximumOf, hmax]
    exact h m hmem

/-- A sequence that increases has a gap when it has two elements. -/
theorem maximumOf_gaps {times : List Nat} (hne : times ≠ []) (h : times.Pairwise (· < ·)) :
    times.length = 1 ↔ maximumOf (gaps times) = 0 := by
  match times, hne, h with
  | [t], _, _ => simp [gaps, maximumOf]
  | t :: u :: rest, _, h =>
    have hlt : t < u := (List.pairwise_cons.mp h).1 u List.mem_cons_self
    have hle : u - t ≤ maximumOf (gaps (t :: u :: rest)) := le_maximumOf (by simp [gaps])
    simp only [List.length_cons]
    omega

/-! ## The validation -/

variable {warmupEnded firstRequest finalCompletion : Nat} {totals : List (Nat × Nat × Nat)}
  {slope : Option Decimal}

/-- Facts that are computed from the sums of descriptors pass the checks on the trend. -/
theorem trendChecks_of_fds {f : SummaryFields} {fds : List Nat}
    (hpost : f.postWarmupRoundCount = fds.length) (hfirst : f.firstOpenFdsAfterWarmup = fds.head?)
    (hmax : f.maxOpenFdsAfterWarmup = fds.max?) (hfinal : f.finalOpenFdsAfterWarmup = fds.getLast?)
    (hgrowth : f.fdGrowthAfterWarmup = fds.max?.map fun maximum => maximum - fds.head?.getD 0)
    (hpeak : ∀ x ∈ fds, x ≤ f.openFdsPeak)
    (hslope : f.rssSlopeBytesPerMinute.isSome = decide (2 ≤ fds.length)) :
    ∀ c ∈ f.trendChecks, c.1 = true := by
  unfold SummaryFields.trendChecks
  rw [hpost, hfirst, hmax, hfinal, hgrowth]
  cases fds with
  | nil => simpa using hslope
  | cons first rest =>
    have hhead : first ∈ first :: rest := List.mem_cons_self
    obtain ⟨m, hm, hmem, hle⟩ := max?_eq_some_of_mem hhead
    obtain ⟨last, hlast⟩ := Option.isSome_iff_exists.mp
      (List.getLast?_isSome.mpr (List.cons_ne_nil first rest))
    have hfirstle : first ≤ m := hle first hhead
    have hlastle : last ≤ m := hle last (List.mem_of_getLast? hlast)
    rw [if_neg (by simp), hm, hlast]
    simp only [List.head?_cons, Option.map_some, Option.getD_some, List.forall_mem_cons,
      decide_eq_true_eq, Bool.or_eq_true, Bool.and_eq_true, max_le_iff, List.not_mem_nil,
      false_imp_iff, implies_true, and_true, true_and, hfirstle, hlastle, hpeak m hmem]
    cases rest with
    | nil =>
      -- one round: its value is the first, the last and the greatest
      have hmeq : m = first := List.mem_singleton.mp hmem
      have hleq : last = first := by simpa using hlast.symm
      simpa [hmeq, hleq] using hslope
    | cons second rest =>
      have hsome : f.rssSlopeBytesPerMinute.isSome = true := by simpa using hslope
      simp [hsome]

theorem summaryOf_valid (hne : totals ≠ []) (hincreasing : (totals.map Prod.fst).Pairwise (· < ·))
    (hle : firstRequest ≤ finalCompletion)
    (hslope : slope.isSome = decide (2 ≤ (postWarmup warmupEnded totals).length)) :
    (summaryOf warmupEnded firstRequest finalCompletion totals slope).checks.run = .ok () := by
  have hpeak : ∀ x ∈ (postWarmup warmupEnded totals).map fun row => row.2.2,
      x ≤ maximumOf (totals.map fun row => row.2.2) := by
    intro x hx
    obtain ⟨row, hrow, rfl⟩ := List.mem_map.mp hx
    exact le_maximumOf (List.mem_map_of_mem (List.mem_of_mem_filter hrow))
  rw [Checks.run_eq_ok, SummaryFields.checks, List.forall_mem_append]
  have hlength' : ((postWarmup warmupEnded totals).map fun row => row.2.2).length =
      (postWarmup warmupEnded totals).length := List.length_map _
  refine ⟨?_, trendChecks_of_fds hlength'.symm rfl rfl rfl rfl hpeak (by rwa [hlength'])⟩
  have hgaps := maximumOf_gaps (by simpa using hne) hincreasing
  have hlength : (postWarmup warmupEnded totals).length ≤ totals.length :=
    List.length_filter_le _ _
  rw [List.length_map] at hgaps
  simp [summaryOf, hle, hgaps, hlength, List.length_pos_iff, hne]

/-! ## The slope -/

/-- The exact slope of some points, per minute. -/
def exactSlopePerMinute (points : List (Nat × Nat)) : ℚ :=
  leastSquaresSlope (integerPoints points) * nsPerMinute

/-- The points of the regression. -/
def trendPoints (warmupEnded : Nat) (rounds : List ResourceRound) : List (Nat × Nat) :=
  (rounds.filter fun r => warmupEnded ≤ r.scheduledMonotonicNs).map fun r =>
    (r.scheduledMonotonicNs, r.totalRss)

variable {points : List (Nat × Nat)}

/-- The denominator of the regression is positive. -/
theorem denominator_pos (hincreasing : points.Pairwise fun p q => p.1 < q.1)
    (hlength : 2 ≤ points.length) : 0 < slopeDenominator (integerPoints points) := by
  refine slopeDenominator_pos ?_ (by rwa [integerPoints, List.length_map])
  rw [integerPoints, List.pairwise_map]
  exact hincreasing.imp fun h => Int.ofNat_lt.mpr h

/-- What the regression of at least two points computes. -/
theorem rssOls_of_two (hincreasing : points.Pairwise fun p q => p.1 < q.1)
    (hlength : 2 ≤ points.length) :
    (exactSlopePerMinute points ≤ 0 →
      rssOlsBytesPerMinute points = .ok (some ⟨false, 0, 0⟩)) ∧
    (0 < exactSlopePerMinute points → ∃ n d : Nat, (n : ℚ) / d = exactSlopePerMinute points ∧
      rssOlsBytesPerMinute points = (olsContext.divide n d).elim
        (.error (.runtimeError "decimal.Overflow")) (fun slope => .ok (some slope))) := by
  have hpos := denominator_pos hincreasing hlength
  have hposq : (0 : ℚ) < slopeDenominator (integerPoints points) := by exact_mod_cast hpos
  have hminute : (0 : ℚ) < (nsPerMinute : ℚ) := by
    norm_num [nsPerMinute]
  have hslope : exactSlopePerMinute points =
      slopeNumerator (integerPoints points) * nsPerMinute / slopeDenominator (integerPoints points) := by
    rw [exactSlopePerMinute, leastSquaresSlope]
    ring
  have hsign : exactSlopePerMinute points ≤ 0 ↔ slopeNumerator (integerPoints points) ≤ 0 := by
    rw [hslope, div_le_iff₀ hposq, zero_mul, ← zero_mul (nsPerMinute : ℚ),
      mul_le_mul_iff_left₀ hminute]
    exact_mod_cast Iff.rfl
  have hols : rssOlsBytesPerMinute points =
      if slopeNumerator (integerPoints points) ≤ 0 then .ok (some ⟨false, 0, 0⟩)
      else (olsContext.divide (slopeNumerator (integerPoints points) * nsPerMinute).toNat
          (slopeDenominator (integerPoints points)).toNat).elim
        (.error (.runtimeError "decimal.Overflow")) (fun slope => .ok (some slope)) := by
    unfold rssOlsBytesPerMinute
    rw [if_neg (by omega)]
    dsimp only
    rw [slopeNumerator_shift, slopeDenominator_shift, if_neg (not_le.mpr hpos)]
    cases olsContext.divide (slopeNumerator (integerPoints points) * nsPerMinute).toNat
      (slopeDenominator (integerPoints points)).toNat <;> rfl
  refine ⟨fun hle => ?_, fun hgt => ?_⟩
  · rw [hols, if_pos (hsign.mp hle)]
  · have hnum : 0 < slopeNumerator (integerPoints points) :=
      not_le.mp fun hle => absurd (hsign.mpr hle) (not_le.mpr hgt)
    refine ⟨_, _, ?_, by rw [hols, if_neg (not_le.mpr hnum)]⟩
    have hn : (((slopeNumerator (integerPoints points) * nsPerMinute).toNat : ℕ) : ℤ) =
        slopeNumerator (integerPoints points) * nsPerMinute :=
      Int.toNat_of_nonneg (mul_nonneg hnum.le (Int.natCast_nonneg _))
    have hd : (((slopeDenominator (integerPoints points)).toNat : ℕ) : ℤ) =
        slopeDenominator (integerPoints points) := Int.toNat_of_nonneg hpos.le
    rw [hslope, ← Int.cast_natCast, hn, ← Int.cast_natCast (R := ℚ) (Int.toNat _), hd]
    push_cast
    rfl

theorem integerPoints_snd_lt {bound : Nat} (h : ∀ p ∈ points, p.2 < bound) :
    ∀ p ∈ integerPoints points, ∀ q ∈ integerPoints points, p.2 - q.2 ≤ (bound : Int) := by
  intro p hp q hq
  obtain ⟨a, ha, rfl⟩ := List.mem_map.mp hp
  obtain ⟨b, -, rfl⟩ := List.mem_map.mp hq
  have := h a ha
  dsimp only
  omega

/-- The regression of points that can be written does not overflow. -/
theorem exists_rssOls (hincreasing : points.Pairwise fun p q => p.1 < q.1)
    (hlength : 2 ≤ points.length) (hbound : ∀ p ∈ points, p.2 < textLimit) :
    ∃ d, rssOlsBytesPerMinute points = .ok (some d) := by
  obtain ⟨hzero, hdivide⟩ := rssOls_of_two hincreasing hlength
  rcases le_or_gt (exactSlopePerMinute points) 0 with hle | hgt
  · exact ⟨_, hzero hle⟩
  obtain ⟨n, d, hq, hols⟩ := hdivide hgt
  have hpos := denominator_pos hincreasing hlength
  have hposq : (0 : ℚ) < slopeDenominator (integerPoints points) := by exact_mod_cast hpos
  have hnumerator := slopeNumerator_le (integerPoints_snd_lt hbound)
  have hslope : leastSquaresSlope (integerPoints points) ≤ 10 ^ (maxStrDigits : ℤ) := by
    rw [leastSquaresSlope, div_le_iff₀ hposq]
    have : (slopeNumerator (integerPoints points) : ℚ) ≤
        (textLimit : ℕ) * slopeDenominator (integerPoints points) := by exact_mod_cast hnumerator
    rwa [textLimit, Nat.cast_pow] at this
  have hlt : (n / d : ℚ) < 10 ^ (maxStrDigits + 11 : ℤ) := by
    rw [hq, exactSlopePerMinute, zpow_add₀ (by norm_num)]
    calc leastSquaresSlope (integerPoints points) * nsPerMinute
        ≤ 10 ^ (maxStrDigits : ℤ) * nsPerMinute :=
          mul_le_mul_of_nonneg_right hslope (Nat.cast_nonneg _)
      _ < 10 ^ (maxStrDigits : ℤ) * 10 ^ (11 : ℤ) :=
          mul_lt_mul_of_pos_left (by norm_num [nsPerMinute]) (by positivity)
  have hetiny : olsContext.etiny ≤ (maxStrDigits + 11 : ℤ) := by
    rw [maxStrDigits_eq]
    decide
  have hmax : (maxStrDigits + 11 : ℤ) ≤ olsContext.emax := by
    rw [maxStrDigits_eq]
    decide
  obtain ⟨r, hr⟩ := @Context.exists_divide olsContext (by decide) n d (hq ▸ hgt) _ hetiny hlt hmax
    (by decide)
  exact ⟨r, by rw [hols, hr, Option.elim_some]⟩

/-- The regression of at least two points gives a number without a sign. -/
theorem exists_of_rssOls (hincreasing : points.Pairwise fun p q => p.1 < q.1)
    (hlength : 2 ≤ points.length) (h : rssOlsBytesPerMinute points = .ok slope) :
    ∃ d, slope = some d ∧ d.negative = false := by
  obtain ⟨hzero, hdivide⟩ := rssOls_of_two hincreasing hlength
  rcases le_or_gt (exactSlopePerMinute points) 0 with hle | hgt
  · rw [hzero hle] at h
    cases h
    exact ⟨_, rfl, rfl⟩
  · obtain ⟨n, m, -, hols⟩ := hdivide hgt
    rw [hols] at h
    cases hq : olsContext.divide n m with
    | none =>
      rw [hq] at h
      cases h
    | some d =>
      rw [hq] at h
      cases h
      exact ⟨d, rfl, (Context.divide_eq_some (by decide) hq).1⟩

/-- What the slope in a summary is: nothing, or the normalized result of the regression. -/
structure SlopeOf (points : List (Nat × Nat)) (slope : Option Decimal) : Prop where
  isSome : slope.isSome = decide (2 ≤ points.length)
  computed : ∀ r ∈ slope, r.Normal ∧ ∃ d, rssOlsBytesPerMinute points = .ok (some d) ∧
    r.value = d.value

/-! ## The summary -/

variable {rounds : List ResourceRound} {expected processes : List ProcessKey} {scan : Scan}

theorem length_trendPoints : (trendPoints warmupEnded rounds).length =
    (postWarmup warmupEnded (rounds.map ResourceRound.totals)).length := by
  rw [trendPoints, postWarmup, List.filter_map, List.length_map, List.length_map]
  rfl

theorem trendPoints_eq : (postWarmup warmupEnded (rounds.map ResourceRound.totals)).map
    (fun row => (row.1, row.2.1)) = trendPoints warmupEnded rounds := by
  rw [trendPoints, postWarmup, List.filter_map, List.map_map]
  rfl

theorem trendPoints_increasing (warmupEnded : Nat) (h : Scanned rounds scan) :
    (trendPoints warmupEnded rounds).Pairwise fun p q => p.1 < q.1 := by
  rw [trendPoints, List.pairwise_map]
  exact h.increasing.filter _

/-- The boundaries of some rounds. -/
structure Bounds (rounds : List ResourceRound) (firstRequest finalCompletion : Nat) : Prop where
  first_le : firstRequest ≤ finalCompletion
  le_final : ∀ r ∈ rounds, r.scheduledMonotonicNs ≤ finalCompletion ∧
    ∀ s ∈ r.samples, s.requestCompletedMonotonicNs ≤ finalCompletion
  final_mem : ∃ r ∈ rounds, ∃ s ∈ r.samples, finalCompletion = s.requestCompletedMonotonicNs

theorem Scanned.exists_bounds (h : Scanned rounds scan) (hne : rounds ≠ []) :
    ∃ first final, scan.firstRequest = some first ∧ scan.finalCompletion = some final ∧
      Bounds rounds first final := by
  obtain ⟨first, hfirst⟩ := Option.isSome_iff_exists.mp (h.first hne)
  obtain ⟨final, hfinal, hle⟩ := h.first_le first hfirst
  refine ⟨first, final, hfirst, hfinal, hle, fun r hr => ?_, h.final_mem final hfinal⟩
  obtain ⟨final', hfinal', hbound⟩ := h.le_final r hr
  obtain rfl : final = final' := Option.some.inj (hfinal.symm.trans hfinal')
  exact hbound

/-- The function, after its loop. -/
theorem summarizeResources_eq (warmupEnded : Nat)
    (hexpected : validateExpectedProcesses expected = .ok processes) (hne : rounds ≠ []) (hscan : scanRounds processes true rounds = .ok scan) :
    ∃ first final, Bounds rounds first final ∧
      summarizeResources rounds expected warmupEnded true =
        rssOlsBytesPerMinute (trendPoints warmupEnded rounds) >>= fun slope =>
          SummaryFields.modelValidate
            (summaryOf warmupEnded first final (rounds.map ResourceRound.totals) slope).arguments := by
  have h := scanned_scanRounds hscan
  obtain ⟨first, final, hfirst, hfinal, hbounds⟩ := h.exists_bounds hne
  refine ⟨first, final, hbounds, ?_⟩
  unfold summarizeResources
  rw [hexpected, ok_bind, if_neg (by simpa using hne), hscan, ok_bind, hfirst, hfinal]
  dsimp only
  rw [h.totals, trendPoints_eq]

/-- The fields of a summary are valid whatever its slope is. -/
theorem valid_of_scanned (h : Scanned rounds scan) (hne : rounds ≠ [])
    (hle : firstRequest ≤ finalCompletion)
    (hslope : slope.isSome = decide (2 ≤ (trendPoints warmupEnded rounds).length)) :
    (summaryOf warmupEnded firstRequest finalCompletion (rounds.map ResourceRound.totals)
      slope).checks.run = .ok () := by
  refine summaryOf_valid (by simpa using hne) ?_ hle (by rwa [← length_trendPoints])
  rw [List.map_map, List.pairwise_map]
  exact h.increasing

/-- The constructor normalizes the slope and accepts the fields. -/
theorem exists_modelValidate (h : Scanned rounds scan) (hne : rounds ≠ [])
    (hle : firstRequest ≤ finalCompletion)
    (hols : rssOlsBytesPerMinute (trendPoints warmupEnded rounds) = .ok slope) :
    ∃ s r, SummaryFields.modelValidate (summaryOf warmupEnded firstRequest finalCompletion
        (rounds.map ResourceRound.totals) slope).arguments = .ok s ∧
      SlopeOf (trendPoints warmupEnded rounds) r ∧
      s.1 = summaryOf warmupEnded firstRequest finalCompletion
        (rounds.map ResourceRound.totals) r := by
  have hvalid : ∀ r : Option Decimal, r.isSome = decide (2 ≤ (trendPoints warmupEnded rounds).length) →
      ∃ s : ResourceSummary, s.1 = summaryOf warmupEnded firstRequest finalCompletion
        (rounds.map ResourceRound.totals) r := fun r hr => ⟨⟨_, valid_of_scanned h hne hle hr⟩, rfl⟩
  rw [SummaryFields.modelValidate_arguments]
  rcases Nat.lt_or_ge (trendPoints warmupEnded rounds).length 2 with hshort | hlong
  · have hnone : slope = none := by
      rw [rssOlsBytesPerMinute, if_pos hshort] at hols
      cases hols
      rfl
    subst hnone
    have hsome : (none : Option Decimal).isSome =
        decide (2 ≤ (trendPoints warmupEnded rounds).length) :=
      (decide_eq_false (not_le.mpr hshort)).symm
    obtain ⟨s, hs⟩ := hvalid none hsome
    exact ⟨s, none, SummaryFields.validated_eq_ok.mpr hs, ⟨hsome, nofun⟩, hs⟩
  · obtain ⟨d, rfl, hneg⟩ := exists_of_rssOls (trendPoints_increasing _ h) hlong hols
    obtain ⟨r, hr, hnormal, hvalue⟩ := exists_normalize hneg
    have hsome : (some r).isSome = decide (2 ≤ (trendPoints warmupEnded rounds).length) :=
      (decide_eq_true hlong).symm
    obtain ⟨s, hs⟩ := hvalid (some r) hsome
    have hread : Json.readNullable normalizeNonnegativeDecimal (ofDecimal d) = .ok (some r) := by
      rw [readNullable_of_ne (show ofDecimal d ≠ .null from nofun), hr]
      rfl
    refine ⟨s, some r, ?_, ⟨hsome, fun r' hr' => ?_⟩, hs⟩
    · change Json.readNullable normalizeNonnegativeDecimal (ofDecimal d) >>= _ = _
      rw [hread, ok_bind]
      exact SummaryFields.validated_eq_ok.mpr hs
    · cases hr'
      exact ⟨hnormal, d, hols, hvalue⟩

/-! ## Writing and reading -/

/-- A gap is not longer than a time. -/
theorem exists_le_of_mem_gaps {times : List Nat} {x : Nat} (h : x ∈ gaps times) :
    ∃ t ∈ times, x ≤ t := by
  obtain ⟨i, hi, rfl⟩ := List.mem_iff_getElem.mp h
  rw [gaps, List.length_zipWith] at hi
  have htail : i < times.tail.length := lt_of_lt_of_le hi (min_le_right _ _)
  refine ⟨times.tail[i], List.mem_of_mem_tail (List.getElem_mem htail), ?_⟩
  simp only [gaps, List.getElem_zipWith]
  exact Nat.sub_le _ _

/-- A field is plain unless it is an integer that is too long. -/
theorem plain_or_int (f : SummaryFields) (g : SummaryField) :
    Plain (f.get strDecimal g) ∨ ∃ n, f.get strDecimal g = .int n ∧ textLimit ≤ n.natAbs := by
  have hint : ∀ n : Nat, Plain (.ofNat n) ∨ ∃ m, Json.ofNat n = .int m ∧ textLimit ≤ m.natAbs := by
    intro n
    rcases Nat.lt_or_ge n textLimit with h | h
    · exact .inl (plain_ofNat.mpr h)
    · exact .inr ⟨n, rfl, by rwa [Int.natAbs_natCast]⟩
  have hoption : ∀ o : Option Nat, Plain (.ofOption .ofNat o) ∨
      ∃ m, Json.ofOption Json.ofNat o = .int m ∧ textLimit ≤ m.natAbs := by
    intro o
    cases o with
    | none => exact .inl trivial
    | some n => exact hint n
  have hsmall : ∀ n < 10, n < textLimit := fun n hn => hn.trans_le ten_le_textLimit
  cases g with
  | schemaVersion => exact .inl (plain_ofNat.mpr (hsmall 1 (by decide)))
  | recordType => exact .inl trivial
  | processCount => exact .inl (plain_ofNat.mpr (hsmall 6 (by decide)))
  | resourceTrendValid => exact .inl trivial
  | rssSlopeBytesPerMinute =>
    refine .inl ?_
    rw [SummaryFields.get]
    cases f.rssSlopeBytesPerMinute <;> trivial
  | firstOpenFdsAfterWarmup => exact hoption _
  | maxOpenFdsAfterWarmup => exact hoption _
  | finalOpenFdsAfterWarmup => exact hoption _
  | fdGrowthAfterWarmup => exact hoption _
  | _ => exact hint _

variable {L : JsonLibraries} {parse : Bytes → Option Json}

/-- The fields of a summary that survives are plain, and its slope has a canonical text. -/
theorem survives_iff (hL : Documented L parse) (s : ResourceSummary) :
    ResourceSummary.Survives L parse s ↔ (∀ g, Plain (s.1.get strDecimal g)) ∧
      ∀ r ∈ s.1.rssSlopeBytesPerMinute, canonicalNumeral r.text = true := by
  have hnodup : (s.1.modelDump.map Prod.fst).Nodup := by
    rw [SummaryFields.modelDump, Schema.map_fst_dump]
    exact summarySchema.nodup
  constructor
  · rintro ⟨source, reread, hbytes, hread, rfl, -⟩
    rw [ResourceSummary.canonicalBytes, map_eq_ok] at hbytes
    obtain ⟨text, htext, rfl⟩ := hbytes
    rw [JsonLibraries.encodeJson_eq_ok] at htext
    have hplain : ∀ g, Plain (reread.1.get strDecimal g) := by
      intro g
      refine (plain_or_int reread.1 g).resolve_right ?_
      rintro ⟨n, hn, hlong⟩
      have hmem : (g.name, .int n) ∈ reread.1.modelDump :=
        List.mem_map.mpr ⟨g, SummaryField.mem_all g, by rw [← hn]; rfl⟩
      rw [hL.limited _ _ _ hmem hlong] at htext
      cases htext
    refine ⟨hplain, fun r hr => ?_⟩
    obtain ⟨text', htext', hparse⟩ := hL.parses reread.1.modelDump hnodup (by
      intro field hfield
      obtain ⟨g, -, rfl⟩ := List.mem_map.mp hfield
      exact hplain g)
    obtain rfl : text = text' := Option.some.inj (htext.symm.trans htext')
    rw [ResourceSummary.modelValidateJson, hparse] at hread
    dsimp only at hread
    rw [SummaryFields.modelValidate_dump, Option.mem_def.mp hr, bind_eq_ok] at hread
    obtain ⟨slope, hslope, -⟩ := hread
    rw [Json.ofOption, readNullable_of_ne (show strDecimal r ≠ .null from fun h => by cases h), map_eq_ok]
      at hslope
    obtain ⟨d, hd, -⟩ := hslope
    exact canonical_of_normalize hd
  · rintro ⟨hplain, hslope⟩
    obtain ⟨text, htext, hparse⟩ := hL.parses s.1.modelDump hnodup (by
      intro field hfield
      obtain ⟨g, -, rfl⟩ := List.mem_map.mp hfield
      exact hplain g)
    have hbytes : ResourceSummary.canonicalBytes L s = .ok (text ++ [10]) := by
      rw [ResourceSummary.canonicalBytes, JsonLibraries.encodeJson_eq_ok.mpr htext]
      rfl
    have hread : Json.readNullable normalizeNonnegativeDecimal
        (.ofOption strDecimal s.1.rssSlopeBytesPerMinute) = .ok s.1.rssSlopeBytesPerMinute := by
      cases hr : s.1.rssSlopeBytesPerMinute with
      | none => rfl
      | some r =>
        rw [Json.ofOption, readNullable_of_ne (show strDecimal r ≠ .null from fun h => by cases h),
          normalize_strDecimal (hslope r hr)]
        rfl
    refine ⟨text ++ [10], s, hbytes, ?_, rfl, hbytes⟩
    rw [ResourceSummary.modelValidateJson, hparse]
    dsimp only
    rw [SummaryFields.modelValidate_dump, hread, ok_bind]
    exact SummaryFields.validated_eq_ok.mpr rfl

/-- The fields of the summary of some totals are plain when its greatest numbers are. -/
theorem plain_summaryOf_iff (hle : firstRequest ≤ finalCompletion)
    (hscheduled : ∀ row ∈ totals, row.1 ≤ finalCompletion) :
    (∀ g, Plain ((summaryOf warmupEnded firstRequest finalCompletion totals slope).get
        strDecimal g)) ↔
      totals.length < textLimit ∧ warmupEnded < textLimit ∧ finalCompletion < textLimit ∧
        ∀ row ∈ totals, row.2.1 < textLimit ∧ row.2.2 < textLimit := by
  constructor
  · intro h
    refine ⟨plain_ofNat.mp (h .roundCount), plain_ofNat.mp (h .warmupEndedMonotonicNs),
      plain_ofNat.mp (h .finalCompletionMonotonicNs), fun row hrow => ⟨?_, ?_⟩⟩
    · exact (le_maximumOf (List.mem_map_of_mem hrow)).trans_lt (plain_ofNat.mp (h .rssPeakBytes))
    · exact (le_maximumOf (List.mem_map_of_mem hrow)).trans_lt (plain_ofNat.mp (h .openFdsPeak))
  · rintro ⟨hrounds, hwarmup, hfinal, htotals⟩ g
    have hpos : 0 < textLimit := lt_of_lt_of_le (by decide) ten_le_textLimit
    have hpost : (postWarmup warmupEnded totals).length < textLimit :=
      (List.length_filter_le _ _).trans_lt hrounds
    have hgap : maximumOf (gaps (totals.map Prod.fst)) < textLimit := by
      refine maximumOf_lt hpos fun x hx => ?_
      obtain ⟨t, ht, hxt⟩ := exists_le_of_mem_gaps hx
      obtain ⟨row, hrow, rfl⟩ := List.mem_map.mp ht
      exact (hxt.trans (hscheduled row hrow)).trans_lt hfinal
    have hrss : maximumOf (totals.map fun row => row.2.1) < textLimit := by
      refine maximumOf_lt hpos fun x hx => ?_
      obtain ⟨row, hrow, rfl⟩ := List.mem_map.mp hx
      exact (htotals row hrow).1
    have hfds : maximumOf (totals.map fun row => row.2.2) < textLimit := by
      refine maximumOf_lt hpos fun x hx => ?_
      obtain ⟨row, hrow, rfl⟩ := List.mem_map.mp hx
      exact (htotals row hrow).2
    have hpostfds : ∀ x ∈ (postWarmup warmupEnded totals).map fun row => row.2.2,
        x < textLimit := by
      intro x hx
      obtain ⟨row, hrow, rfl⟩ := List.mem_map.mp hx
      exact (htotals row (List.mem_of_mem_filter hrow)).2
    cases g with
    | schemaVersion => exact plain_ofNat.mpr (lt_of_lt_of_le (by decide) ten_le_textLimit)
    | recordType => exact trivial
    | processCount => exact plain_ofNat.mpr (lt_of_lt_of_le (by decide) ten_le_textLimit)
    | roundCount => exact plain_ofNat.mpr hrounds
    | postWarmupRoundCount => exact plain_ofNat.mpr hpost
    | warmupEndedMonotonicNs => exact plain_ofNat.mpr hwarmup
    | resourceTrendValid => exact trivial
    | firstRequestMonotonicNs => exact plain_ofNat.mpr (hle.trans_lt hfinal)
    | finalCompletionMonotonicNs => exact plain_ofNat.mpr hfinal
    | coverageNs => exact plain_ofNat.mpr ((Nat.sub_le _ _).trans_lt hfinal)
    | sampleMaxGapNs => exact plain_ofNat.mpr hgap
    | rssPeakBytes => exact plain_ofNat.mpr hrss
    | rssSlopeBytesPerMinute => cases slope <;> trivial
    | openFdsPeak => exact plain_ofNat.mpr hfds
    | firstOpenFdsAfterWarmup =>
      exact plain_ofOption fun n hn => hpostfds n (List.mem_of_head? hn)
    | maxOpenFdsAfterWarmup => exact plain_ofOption fun n hn => hpostfds n (List.max?_mem hn)
    | finalOpenFdsAfterWarmup =>
      exact plain_ofOption fun n hn => hpostfds n (List.mem_of_getLast? hn)
    | fdGrowthAfterWarmup =>
      refine plain_ofOption fun n hn => ?_
      obtain ⟨m, hm, rfl⟩ := Option.map_eq_some_iff.mp hn
      exact (Nat.sub_le _ _).trans_lt (hpostfds m (List.max?_mem hm))

/-! ## Which summaries are reported -/

/-- The least slope above zero that survives. -/
def leastSlope : ℚ := 10 ^ (-6 : ℤ) - 10 ^ (-56 : ℤ) / 2

/-- A summary is returned, its slope is the exact slope rounded half to even to 50 digits, and it
survives the evidence format. -/
structure Reports (L : JsonLibraries) (parse : Bytes → Option Json) (rounds : List ResourceRound)
    (expected : List ProcessKey) (warmupEnded : Nat) (s : ResourceSummary) : Prop where
  returns : summarizeResources rounds expected warmupEnded true = .ok s
  denominator_pos : 2 ≤ (trendPoints warmupEnded rounds).length →
    0 < slopeDenominator (integerPoints (trendPoints warmupEnded rounds))
  slope : 2 ≤ (trendPoints warmupEnded rounds).length →
    ∃ d, s.1.rssSlopeBytesPerMinute = some d ∧
      (exactSlopePerMinute (trendPoints warmupEnded rounds) ≤ 0 → d.value = 0) ∧
      (0 < exactSlopePerMinute (trendPoints warmupEnded rounds) →
        RoundsTo 50 (exactSlopePerMinute (trendPoints warmupEnded rounds)) d.value)
  survives : ResourceSummary.Survives L parse s

/-- Rounds whose numbers have texts, and whose slope is not a small positive number. -/
structure Representable (warmupEnded : Nat) (rounds : List ResourceRound) : Prop where
  rounds_lt : rounds.length < textLimit
  warmup_lt : warmupEnded < textLimit
  completions_lt : ∀ r ∈ rounds, ∀ s ∈ r.samples, s.requestCompletedMonotonicNs < textLimit
  totals_lt : ∀ r ∈ rounds, r.totalRss < textLimit ∧ r.totalFds < textLimit
  slope : (trendPoints warmupEnded rounds).length < 2 ∨
    exactSlopePerMinute (trendPoints warmupEnded rounds) ≤ 0 ∨
      leastSlope ≤ exactSlopePerMinute (trendPoints warmupEnded rounds)

/-- The slope of a summary, where the exact slope is not positive. -/
theorem SlopeOf.value_of_nonpos {r : Decimal} (h : SlopeOf points (some r))
    (hincreasing : points.Pairwise fun p q => p.1 < q.1) (hlength : 2 ≤ points.length)
    (hle : exactSlopePerMinute points ≤ 0) : r.value = 0 := by
  obtain ⟨-, d, hols, hvalue⟩ := h.computed r rfl
  rw [(rssOls_of_two hincreasing hlength).1 hle] at hols
  cases hols
  rw [hvalue]
  simp [Decimal.value]

/-- The slope of a summary, where the exact slope is positive. -/
theorem SlopeOf.value_of_pos {r : Decimal} (h : SlopeOf points (some r))
    (hincreasing : points.Pairwise fun p q => p.1 < q.1) (hlength : 2 ≤ points.length)
    (hgt : 0 < exactSlopePerMinute points) :
    ((10 : ℚ) ^ (-6 : ℤ) ≤ r.value ↔ leastSlope ≤ exactSlopePerMinute points) ∧
      (leastSlope ≤ exactSlopePerMinute points →
        RoundsTo 50 (exactSlopePerMinute points) r.value) := by
  obtain ⟨-, d, hols, hvalue⟩ := h.computed r rfl
  obtain ⟨n, m, hq, hdivide⟩ := (rssOls_of_two hincreasing hlength).2 hgt
  rw [hdivide] at hols
  cases hd : olsContext.divide n m with
  | none =>
    rw [hd] at hols
    cases hols
  | some d' =>
    rw [hd] at hols
    cases hols
    rw [hvalue, ← hq]
    have hpos : (0 : ℚ) < n / m := hq ▸ hgt
    refine ⟨Context.pow_le_value_iff (by decide) hd hpos (k := -6) (by decide), fun hleast => ?_⟩
    refine Context.roundsTo_of_divide (by decide) hd hpos ?_
    have hseven : (10 : ℚ) ^ (-7 : ℤ) ≤ n / m := le_trans (by norm_num [leastSlope]) hleast
    have hlog : -7 ≤ Int.log 10 (n / m : ℚ) := (Int.zpow_le_iff_le_log (by norm_num) hpos).mp (by
      exact_mod_cast hseven)
    have hetiny : olsContext.etiny = -1000048 := by decide
    have hprec : olsContext.prec = 50 := rfl
    rw [hetiny, hprec]
    omega

/-- The slope of a summary has a canonical text when it is not small and positive. -/
theorem SlopeOf.canonical_iff {r : Decimal} (h : SlopeOf points (some r))
    (hincreasing : points.Pairwise fun p q => p.1 < q.1) (hlength : 2 ≤ points.length)
    (hne : 0 < exactSlopePerMinute points → r.value ≠ 0) :
    canonicalNumeral r.text = true ↔
      exactSlopePerMinute points ≤ 0 ∨ leastSlope ≤ exactSlopePerMinute points := by
  rw [(h.computed r rfl).1.canonicalNumeral_text_iff]
  rcases le_or_gt (exactSlopePerMinute points) 0 with hle | hgt
  · exact iff_of_true (.inl (h.value_of_nonpos hincreasing hlength hle)) (.inl hle)
  · rw [or_iff_right (hne hgt), or_iff_right (not_le.mpr hgt)]
    exact (h.value_of_pos hincreasing hlength hgt).1

/-- What the function returns is computed from the rounds. -/
theorem exists_of_summarizeResources
    (hexpected : validateExpectedProcesses expected = .ok processes) (hne : rounds ≠ [])
    (hscan : scanRounds processes true rounds = .ok scan) {s : ResourceSummary}
    (h : summarizeResources rounds expected warmupEnded true = .ok s) :
    ∃ first final r, Bounds rounds first final ∧ SlopeOf (trendPoints warmupEnded rounds) r ∧
      s.1 = summaryOf warmupEnded first final (rounds.map ResourceRound.totals) r := by
  have hscanned := scanned_scanRounds hscan
  obtain ⟨first, final, hbounds, heq⟩ := summarizeResources_eq warmupEnded hexpected hne hscan
  rw [heq, bind_eq_ok] at h
  obtain ⟨slope, hols, h⟩ := h
  obtain ⟨s', r, hs', hslope, hs⟩ := exists_modelValidate hscanned hne hbounds.first_le hols
  obtain rfl : s = s' := Except.ok.inj (h.symm.trans hs')
  exact ⟨first, final, r, hbounds, hslope, hs⟩

theorem plain_iff_of_bounds {first final : Nat} (h : Bounds rounds first final) :
    (∀ g, Plain ((summaryOf warmupEnded first final (rounds.map ResourceRound.totals) slope).get
        strDecimal g)) ↔
      rounds.length < textLimit ∧ warmupEnded < textLimit ∧
        (∀ r ∈ rounds, ∀ s ∈ r.samples, s.requestCompletedMonotonicNs < textLimit) ∧
        ∀ r ∈ rounds, r.totalRss < textLimit ∧ r.totalFds < textLimit := by
  have hscheduled : ∀ row ∈ rounds.map ResourceRound.totals, row.1 ≤ final := by
    intro row hrow
    obtain ⟨r, hr, rfl⟩ := List.mem_map.mp hrow
    exact (h.le_final r hr).1
  have hfinal : final < textLimit ↔
      ∀ r ∈ rounds, ∀ s ∈ r.samples, s.requestCompletedMonotonicNs < textLimit := by
    constructor
    · intro hlt r hr s hs
      exact ((h.le_final r hr).2 s hs).trans_lt hlt
    · intro hlt
      obtain ⟨r, hr, s, hs, heq⟩ := h.final_mem
      exact heq.trans_lt (hlt r hr s hs)
  rw [plain_summaryOf_iff h.first_le hscheduled, List.length_map, hfinal, List.forall_mem_map]
  rfl

theorem representable_of_reports (hL : Documented L parse)
    (hexpected : validateExpectedProcesses expected = .ok processes) (hne : rounds ≠ [])
    (hscan : scanRounds processes true rounds = .ok scan) {s : ResourceSummary}
    (h : Reports L parse rounds expected warmupEnded s) : Representable warmupEnded rounds := by
  obtain ⟨first, final, slope, hbounds, hslope, hs⟩ :=
    exists_of_summarizeResources hexpected hne hscan h.returns
  have hincreasing := trendPoints_increasing warmupEnded (scanned_scanRounds hscan)
  obtain ⟨hplain, hcanonical⟩ := (survives_iff hL s).mp h.survives
  rw [hs, plain_iff_of_bounds hbounds] at hplain
  obtain ⟨hrounds, hwarmup, hcompletions, htotals⟩ := hplain
  refine ⟨hrounds, hwarmup, hcompletions, htotals, ?_⟩
  rw [or_iff_not_imp_left, not_lt]
  intro hlength
  obtain ⟨r, hr, -, hrounded⟩ := h.slope hlength
  have hslope' : SlopeOf (trendPoints warmupEnded rounds) (some r) := by
    rw [hs] at hr
    exact hr ▸ hslope
  exact (hslope'.canonical_iff hincreasing hlength fun hgt =>
    (hrounded hgt).ne_zero (by decide)).mp (hcanonical r hr)

theorem reports_of_representable (hL : Documented L parse)
    (hexpected : validateExpectedProcesses expected = .ok processes) (hne : rounds ≠ [])
    (hscan : scanRounds processes true rounds = .ok scan) (h : Representable warmupEnded rounds) :
    ∃ s, Reports L parse rounds expected warmupEnded s := by
  have hscanned := scanned_scanRounds hscan
  have hincreasing := trendPoints_increasing warmupEnded hscanned
  obtain ⟨first, final, hbounds, heq⟩ := summarizeResources_eq warmupEnded hexpected hne hscan
  have hrss : ∀ p ∈ trendPoints warmupEnded rounds, p.2 < textLimit := by
    intro p hp
    obtain ⟨r, hr, rfl⟩ := List.mem_map.mp hp
    exact (h.totals_lt r (List.mem_of_mem_filter hr)).1
  obtain ⟨slope, hols⟩ : ∃ slope, rssOlsBytesPerMinute (trendPoints warmupEnded rounds) = .ok slope := by
    rcases Nat.lt_or_ge (trendPoints warmupEnded rounds).length 2 with hshort | hlong
    · exact ⟨none, by rw [rssOlsBytesPerMinute, if_pos hshort]⟩
    · obtain ⟨d, hd⟩ := exists_rssOls hincreasing hlong hrss
      exact ⟨some d, hd⟩
  obtain ⟨s, slope', hs, hslope, hfields⟩ :=
    exists_modelValidate hscanned hne hbounds.first_le hols
  rw [hols, ok_bind, hs] at heq
  have hr : s.1.rssSlopeBytesPerMinute = slope' := by
    rw [hfields]
    rfl
  have hslopes : ∀ r ∈ slope', 2 ≤ (trendPoints warmupEnded rounds).length ∧
      SlopeOf (trendPoints warmupEnded rounds) (some r) ∧
      (0 < exactSlopePerMinute (trendPoints warmupEnded rounds) →
        RoundsTo 50 (exactSlopePerMinute (trendPoints warmupEnded rounds)) r.value) := by
    rintro r rfl
    have hlong : 2 ≤ (trendPoints warmupEnded rounds).length :=
      of_decide_eq_true hslope.isSome.symm
    refine ⟨hlong, hslope, fun hgt => (hslope.value_of_pos hincreasing hlong hgt).2 ?_⟩
    exact (h.slope.resolve_left (not_lt.mpr hlong)).resolve_left (not_le.mpr hgt)
  refine ⟨s, heq, denominator_pos hincreasing, fun hlong => ?_, (survives_iff hL s).mpr ⟨?_, ?_⟩⟩
  · obtain ⟨r, rfl⟩ : ∃ r, slope' = some r :=
      Option.isSome_iff_exists.mp (hslope.isSome.trans (decide_eq_true hlong))
    exact ⟨r, hr, hslope.value_of_nonpos hincreasing hlong, (hslopes r rfl).2.2⟩
  · rw [hfields, plain_iff_of_bounds hbounds]
    exact ⟨h.rounds_lt, h.warmup_lt, h.completions_lt, h.totals_lt⟩
  · intro r hmem
    rw [hr] at hmem
    obtain ⟨hlong, hslope', hrounded⟩ := hslopes r hmem
    exact (hslope'.canonical_iff hincreasing hlong fun hgt =>
      (hrounded hgt).ne_zero (by decide)).mpr (h.slope.resolve_left (not_lt.mpr hlong))

/-- A summary of rounds that pass the loop is reported exactly when its numbers have texts and its
slope is not below a millionth, except for rounding, and positive. -/
theorem summarizeResources_reports_iff (hL : Documented L parse)
    (hexpected : validateExpectedProcesses expected = .ok processes) (hne : rounds ≠ [])
    (hscan : ∃ scan, scanRounds processes true rounds = .ok scan) :
    (∃ s, Reports L parse rounds expected warmupEnded s) ↔ Representable warmupEnded rounds := by
  obtain ⟨scan, hscan⟩ := hscan
  constructor
  · rintro ⟨s, hs⟩
    exact representable_of_reports hL hexpected hne hscan hs
  · exact reports_of_representable hL hexpected hne hscan

/-! ### Two runs -/

/-- A round in which the supervisor has some resident memory and the workers have none. -/
def supervisorRound (index scheduled rss : Nat) : ResourceRound where
  roundIndex := index
  scheduledMonotonicNs := scheduled
  expectedProcessKeys := canonicalProcessPairs
  samples := canonicalProcessPairs.zipIdx.map fun entry =>
    { roundIndex := index
      scheduledMonotonicNs := scheduled
      requestStartedMonotonicNs := scheduled
      requestCompletedMonotonicNs := scheduled + 1000000
      processKey := entry.1
      processId := 100 + entry.2
      rssBytes := if entry.2 = 0 then rss else 0
      openFdCount := 3 }

/-- Two rounds, between which the memory grows by a page. -/
def growingRounds : List ResourceRound :=
  [supervisorRound 0 0 8192, supervisorRound 1 10000000000 12288]

/-- Three rounds, of which the last is late by a nanosecond. -/
def lateRounds : List ResourceRound :=
  [supervisorRound 0 0 8192, supervisorRound 1 10000000000 4096,
    supervisorRound 2 20000000001 8192]

theorem exists_scan_of_isOk
    (h : (scanRounds canonicalProcessPairs true rounds).isOk = true) :
    ∃ scan, scanRounds canonicalProcessPairs true rounds = .ok scan := by
  cases hscan : scanRounds canonicalProcessPairs true rounds with
  | ok scan => exact ⟨scan, rfl⟩
  | error e =>
    rw [hscan] at h
    cases h

theorem scanned_growingRounds : ∃ scan,
    scanRounds canonicalProcessPairs true growingRounds = .ok scan :=
  exists_scan_of_isOk (by decide +kernel)

theorem scanned_lateRounds : ∃ scan,
    scanRounds canonicalProcessPairs true lateRounds = .ok scan :=
  exists_scan_of_isOk (by decide +kernel)

theorem validated_canonicalProcessPairs :
    validateExpectedProcesses canonicalProcessPairs = .ok canonicalProcessPairs := by
  decide +kernel

theorem representable_growingRounds : Representable 0 growingRounds := by
  have hpoints : trendPoints 0 growingRounds = [(0, 8192), (10000000000, 12288)] := by
    decide +kernel
  have hbounds : ∀ r ∈ growingRounds, (∀ s ∈ r.samples, s.requestCompletedMonotonicNs < 10 ^ 20) ∧
      r.totalRss < 10 ^ 20 ∧ r.totalFds < 10 ^ 20 := by
    decide +kernel
  have hlimit : 10 ^ 20 ≤ textLimit := pow_le_textLimit (by decide)
  refine ⟨lt_of_lt_of_le (by decide) ten_le_textLimit, lt_of_lt_of_le (by decide) ten_le_textLimit,
    fun r hr s hs => ((hbounds r hr).1 s hs).trans_le hlimit, fun r hr => ?_, .inr (.inr ?_)⟩
  · exact ⟨(hbounds r hr).2.1.trans_le hlimit, (hbounds r hr).2.2.trans_le hlimit⟩
  · have hnumerator : slopeNumerator (integerPoints [(0, 8192), (10000000000, 12288)]) =
        40960000000000 := by decide
    have hdenominator : slopeDenominator (integerPoints [(0, 8192), (10000000000, 12288)]) =
        100000000000000000000 := by decide
    rw [hpoints, exactSlopePerMinute, leastSquaresSlope, hnumerator, hdenominator, leastSlope]
    norm_num [nsPerMinute]

/-- The summary of memory that grows is reported. -/
theorem growingRounds_reported :
    ∃ s, Reports compactLibraries parseCompact growingRounds canonicalProcessPairs 0 s :=
  (summarizeResources_reports_iff compactLibraries_documented validated_canonicalProcessPairs
    (by decide) scanned_growingRounds).mpr representable_growingRounds

/-- The slope of the late rounds is positive and below a millionth. -/
theorem not_representable_lateRounds : ¬ Representable 0 lateRounds := by
  intro h
  have hpoints : trendPoints 0 lateRounds =
      [(0, 8192), (10000000000, 4096), (20000000001, 8192)] := by
    decide +kernel
  have hnumerator : slopeNumerator
      (integerPoints [(0, 8192), (10000000000, 4096), (20000000001, 8192)]) = 4096 := by decide
  have hdenominator : slopeDenominator
      (integerPoints [(0, 8192), (10000000000, 4096), (20000000001, 8192)]) =
        600000000060000000002 := by decide
  have hslope := h.slope
  rw [hpoints, exactSlopePerMinute, leastSquaresSlope, hnumerator, hdenominator, leastSlope] at hslope
  norm_num [nsPerMinute] at hslope

/-- The summary of rounds that pass the loop is not always reported: a slope that is positive and
below a millionth is written with an exponent, which the reader refuses. -/
theorem lateRounds_unreported : Documented compactLibraries parseCompact ∧
    validateExpectedProcesses canonicalProcessPairs = .ok canonicalProcessPairs ∧
    (∃ scan, scanRounds canonicalProcessPairs true lateRounds = .ok scan) ∧
    ¬ ∃ s, Reports compactLibraries parseCompact lateRounds canonicalProcessPairs 0 s := by
  refine ⟨compactLibraries_documented, validated_canonicalProcessPairs, scanned_lateRounds, ?_⟩
  rintro ⟨s, hs⟩
  obtain ⟨scan, hscan⟩ := scanned_lateRounds
  exact not_representable_lateRounds (representable_of_reports compactLibraries_documented
    validated_canonicalProcessPairs (by decide) hscan hs)

end CryptoCollector.Benchmarks
