import CryptoCollector.Benchmarks.Documents
import CryptoCollector.Benchmarks.ResourceRounds
import CryptoCollector.Lib.FixedPoint
import CryptoCollector.Lib.LeastSquares

/-!
# The summary of resource rounds

`benchmarks/contracts.py: GateResourceSummaryV1`, its validation and its canonical bytes, and
`benchmarks/aggregation.py: summarize_resources`, which computes a summary and has it validated.
`model_dump(mode="json")` writes a decimal number as its `str`; the reader takes canonical decimal
texts only.

* `SummaryFields.modelValidate_arguments`, `SummaryFields.modelValidate_dump`: what the constructor
  and the reader make of the fields of a summary.
-/

namespace CryptoCollector.Benchmarks

open Lib Storage

/-! ## Strict fields -/

/-- A strict boolean. -/
def readBool : Json → Except Err Bool
  | .bool b => .ok b
  | _ => .error (.valueError "Input should be a valid boolean")

/-- A `Literal`. -/
def readLiteral (value : Json) (expected : String) (j : Json) : Except Err Unit :=
  if j = value then .ok () else .error (.valueError ("Input should be " ++ expected))

/-- `_normalize_nonnegative_decimal`. -/
def normalizeNonnegativeDecimal : Json → Except Err Decimal
  | .str text =>
    if canonicalNumeral text.toList then
      match Decimal.ofText text.toList with
      | some d => .ok d
      | none => .error (.valueError "InvalidOperation")
    else .error (.valueError "value must be a canonical non-negative decimal string")
  | .decimal negative coefficient exponent =>
    let value : Decimal := ⟨negative, coefficient, exponent⟩
    if negative ∧ coefficient ≠ 0 then
      .error (.valueError "value must be a finite non-negative Decimal")
    else if canonicalNumeral value.normalText then
      match Decimal.ofText value.normalText with
      | some d => .ok d
      | none => .error (.valueError "InvalidOperation")
    else .error (.valueError "value cannot be normalized as a canonical decimal")
  | _ => .error (.valueError "value must be a Decimal or canonical decimal string")

/-- A decimal number as a Python value. -/
def ofDecimal (d : Decimal) : Json := .decimal d.negative d.coefficient d.exponent

/-- The string that `model_dump(mode="json")` makes of a decimal number. -/
def strDecimal (d : Decimal) : Json := .str (String.ofList d.text)

theorem readNullable_of_ne {α : Type} {read : Json → Except Err α} {j : Json} (h : j ≠ .null) :
    Json.readNullable read j = some <$> read j := by
  unfold Json.readNullable
  split
  · exact absurd rfl h
  · rfl

theorem exists_normalize {d : Decimal} (hneg : d.negative = false) :
    ∃ r, normalizeNonnegativeDecimal (ofDecimal d) = .ok r ∧ r.Normal ∧ r.value = d.value := by
  obtain ⟨r, hcanonical, htext, hnormal, hvalue⟩ := Decimal.exists_ofText_normalText hneg
  refine ⟨r, ?_, hnormal, hvalue⟩
  obtain ⟨negative, coefficient, exponent⟩ := d
  dsimp only at hneg
  subst hneg
  simp [normalizeNonnegativeDecimal, ofDecimal, hcanonical, htext]

/-- A number whose text is canonical is read back. -/
theorem normalize_strDecimal {d : Decimal} (h : canonicalNumeral d.text = true) :
    normalizeNonnegativeDecimal (strDecimal d) = .ok d := by
  simp [normalizeNonnegativeDecimal, strDecimal, h, Decimal.ofText_text]

theorem canonical_of_normalize {d r : Decimal}
    (h : normalizeNonnegativeDecimal (strDecimal d) = .ok r) : canonicalNumeral d.text = true := by
  by_contra hcanonical
  simp [normalizeNonnegativeDecimal, strDecimal, hcanonical] at h

/-! ## Fields -/

/-- The fields of `GateResourceSummaryV1` that are not constant. -/
structure SummaryFields where
  roundCount : Nat
  postWarmupRoundCount : Nat
  warmupEndedMonotonicNs : Nat
  resourceTrendValid : Bool
  firstRequestMonotonicNs : Nat
  finalCompletionMonotonicNs : Nat
  coverageNs : Nat
  sampleMaxGapNs : Nat
  rssPeakBytes : Nat
  rssSlopeBytesPerMinute : Option Decimal
  openFdsPeak : Nat
  firstOpenFdsAfterWarmup : Option Nat
  maxOpenFdsAfterWarmup : Option Nat
  finalOpenFdsAfterWarmup : Option Nat
  fdGrowthAfterWarmup : Option Nat
  deriving DecidableEq

/-- The fields of `GateResourceSummaryV1`. -/
inductive SummaryField where
  | schemaVersion
  | recordType
  | processCount
  | roundCount
  | postWarmupRoundCount
  | warmupEndedMonotonicNs
  | resourceTrendValid
  | firstRequestMonotonicNs
  | finalCompletionMonotonicNs
  | coverageNs
  | sampleMaxGapNs
  | rssPeakBytes
  | rssSlopeBytesPerMinute
  | openFdsPeak
  | firstOpenFdsAfterWarmup
  | maxOpenFdsAfterWarmup
  | finalOpenFdsAfterWarmup
  | fdGrowthAfterWarmup
  deriving DecidableEq

namespace SummaryField

/-- The name of a field. -/
def name : SummaryField → String
  | .schemaVersion => "schema_version"
  | .recordType => "record_type"
  | .processCount => "process_count"
  | .roundCount => "round_count"
  | .postWarmupRoundCount => "post_warmup_round_count"
  | .warmupEndedMonotonicNs => "warmup_ended_monotonic_ns"
  | .resourceTrendValid => "resource_trend_valid"
  | .firstRequestMonotonicNs => "first_request_monotonic_ns"
  | .finalCompletionMonotonicNs => "final_completion_monotonic_ns"
  | .coverageNs => "coverage_ns"
  | .sampleMaxGapNs => "sample_max_gap_ns"
  | .rssPeakBytes => "rss_peak_bytes"
  | .rssSlopeBytesPerMinute => "rss_slope_bytes_per_minute"
  | .openFdsPeak => "open_fds_peak"
  | .firstOpenFdsAfterWarmup => "first_open_fds_after_warmup"
  | .maxOpenFdsAfterWarmup => "max_open_fds_after_warmup"
  | .finalOpenFdsAfterWarmup => "final_open_fds_after_warmup"
  | .fdGrowthAfterWarmup => "fd_growth_after_warmup"

/-- The fields that the constructor is given. The others have defaults. -/
def arguments : List SummaryField :=
  [.processCount, .roundCount, .postWarmupRoundCount, .warmupEndedMonotonicNs, .resourceTrendValid,
    .firstRequestMonotonicNs, .finalCompletionMonotonicNs, .coverageNs, .sampleMaxGapNs,
    .rssPeakBytes, .rssSlopeBytesPerMinute, .openFdsPeak, .firstOpenFdsAfterWarmup,
    .maxOpenFdsAfterWarmup, .finalOpenFdsAfterWarmup, .fdGrowthAfterWarmup]

/-- All fields, in their order. -/
def all : List SummaryField := .schemaVersion :: .recordType :: arguments

theorem mem_all (f : SummaryField) : f ∈ all := by
  cases f <;> decide

theorem nodup_names : (all.map name).Nodup := by
  decide

end SummaryField

/-- The fields of `GateResourceSummaryV1` and their names. -/
def summarySchema : Schema SummaryField :=
  ⟨SummaryField.all, SummaryField.name, SummaryField.mem_all, SummaryField.nodup_names⟩

namespace SummaryFields

variable (f : SummaryFields)

/-- The checks on the trend after the warm-up. -/
def trendChecks : Checks :=
  if f.postWarmupRoundCount = 0 then
    [(f.rssSlopeBytesPerMinute.isNone && f.firstOpenFdsAfterWarmup.isNone &&
      f.maxOpenFdsAfterWarmup.isNone && f.finalOpenFdsAfterWarmup.isNone &&
      f.fdGrowthAfterWarmup.isNone, "zero post-warmup rounds require null trend facts")]
  else
    match f.firstOpenFdsAfterWarmup, f.maxOpenFdsAfterWarmup, f.finalOpenFdsAfterWarmup,
      f.fdGrowthAfterWarmup with
    | some first, some maximum, some final, some growth =>
      [(max first final ≤ maximum, "post-warmup FD maximum is inconsistent"),
        (growth = maximum - first, "FD growth does not match baseline and maximum"),
        (maximum ≤ f.openFdsPeak, "all-round FD peak is below the post-warmup maximum"),
        (f.postWarmupRoundCount ≠ 1 || (f.rssSlopeBytesPerMinute.isNone && first = maximum &&
          first = final && growth = 0), "one post-warmup round has invalid trend facts"),
        (f.postWarmupRoundCount = 1 || f.rssSlopeBytesPerMinute.isSome,
          "valid resource trend requires an RSS slope")]
    | _, _, _, _ => [(false, "post-warmup rounds require complete FD trend facts")]

/-- The checks of `validate_summary`, after that of the positive number of rounds. -/
def checks : Checks :=
  ([(0 < f.roundCount, "Input should be greater than 0"),
    (f.postWarmupRoundCount ≤ f.roundCount, "post-warmup round count exceeds all rounds"),
    (f.firstRequestMonotonicNs ≤ f.finalCompletionMonotonicNs,
      "resource completion precedes the first request"),
    (f.coverageNs = f.finalCompletionMonotonicNs - f.firstRequestMonotonicNs,
      "resource coverage does not match its boundaries"),
    (decide (f.roundCount = 1) = decide (f.sampleMaxGapNs = 0),
      "resource maximum gap does not match round cardinality"),
    (f.resourceTrendValid = decide (2 ≤ f.postWarmupRoundCount),
      "resource trend validity does not match sample count")] : Checks) ++ f.trendChecks

/-- The value of a field, with a decimal number written as `write` does. -/
def get (write : Decimal → Json) : SummaryField → Json
  | .schemaVersion => .int 1
  | .recordType => .str "gate_resource_summary_v1"
  | .processCount => .int 6
  | .roundCount => .ofNat f.roundCount
  | .postWarmupRoundCount => .ofNat f.postWarmupRoundCount
  | .warmupEndedMonotonicNs => .ofNat f.warmupEndedMonotonicNs
  | .resourceTrendValid => .bool f.resourceTrendValid
  | .firstRequestMonotonicNs => .ofNat f.firstRequestMonotonicNs
  | .finalCompletionMonotonicNs => .ofNat f.finalCompletionMonotonicNs
  | .coverageNs => .ofNat f.coverageNs
  | .sampleMaxGapNs => .ofNat f.sampleMaxGapNs
  | .rssPeakBytes => .ofNat f.rssPeakBytes
  | .rssSlopeBytesPerMinute => .ofOption write f.rssSlopeBytesPerMinute
  | .openFdsPeak => .ofNat f.openFdsPeak
  | .firstOpenFdsAfterWarmup => .ofOption .ofNat f.firstOpenFdsAfterWarmup
  | .maxOpenFdsAfterWarmup => .ofOption .ofNat f.maxOpenFdsAfterWarmup
  | .finalOpenFdsAfterWarmup => .ofOption .ofNat f.finalOpenFdsAfterWarmup
  | .fdGrowthAfterWarmup => .ofOption .ofNat f.fdGrowthAfterWarmup

/-- The keyword arguments of the constructor. -/
def arguments : List (String × Json) := summarySchema.select SummaryField.arguments (f.get ofDecimal)

/-- `model_dump(mode="json")`. -/
def modelDump : List (String × Json) := summarySchema.dump (f.get strDecimal)

end SummaryFields

/-- `GateResourceSummaryV1`: fields that pass the validation. -/
abbrev ResourceSummary := {f : SummaryFields // f.checks.run = .ok ()}

namespace SummaryFields

/-- A summary of fields that pass the validation. -/
def validated (f : SummaryFields) : Except Err ResourceSummary :=
  match h : f.checks.run with
  | .ok () => .ok ⟨f, h⟩
  | .error e => .error e

/-- `GateResourceSummaryV1.model_validate`, which is also the constructor. -/
def modelValidate (entries : List (String × Json)) : Except Err ResourceSummary := do
  forbidExtra summarySchema.names entries
  optional entries SummaryField.schemaVersion.name (readLiteral (.int 1) "1") ()
  optional entries SummaryField.recordType.name
    (readLiteral (.str "gate_resource_summary_v1") "'gate_resource_summary_v1'") ()
  required entries SummaryField.processCount.name (readLiteral (.int 6) "6")
  let roundCount ← required entries SummaryField.roundCount.name Json.readNat
  let postWarmupRoundCount ← required entries SummaryField.postWarmupRoundCount.name Json.readNat
  let warmupEndedMonotonicNs ←
    required entries SummaryField.warmupEndedMonotonicNs.name Json.readNat
  let resourceTrendValid ← required entries SummaryField.resourceTrendValid.name readBool
  let firstRequestMonotonicNs ←
    required entries SummaryField.firstRequestMonotonicNs.name Json.readNat
  let finalCompletionMonotonicNs ←
    required entries SummaryField.finalCompletionMonotonicNs.name Json.readNat
  let coverageNs ← required entries SummaryField.coverageNs.name Json.readNat
  let sampleMaxGapNs ← required entries SummaryField.sampleMaxGapNs.name Json.readNat
  let rssPeakBytes ← required entries SummaryField.rssPeakBytes.name Json.readNat
  let rssSlopeBytesPerMinute ← required entries SummaryField.rssSlopeBytesPerMinute.name
    (Json.readNullable normalizeNonnegativeDecimal)
  let openFdsPeak ← required entries SummaryField.openFdsPeak.name Json.readNat
  let firstOpenFdsAfterWarmup ← required entries SummaryField.firstOpenFdsAfterWarmup.name
    (Json.readNullable Json.readNat)
  let maxOpenFdsAfterWarmup ← required entries SummaryField.maxOpenFdsAfterWarmup.name
    (Json.readNullable Json.readNat)
  let finalOpenFdsAfterWarmup ← required entries SummaryField.finalOpenFdsAfterWarmup.name
    (Json.readNullable Json.readNat)
  let fdGrowthAfterWarmup ← required entries SummaryField.fdGrowthAfterWarmup.name
    (Json.readNullable Json.readNat)
  validated
    { roundCount, postWarmupRoundCount, warmupEndedMonotonicNs, resourceTrendValid,
      firstRequestMonotonicNs, finalCompletionMonotonicNs, coverageNs, sampleMaxGapNs,
      rssPeakBytes, rssSlopeBytesPerMinute, openFdsPeak, firstOpenFdsAfterWarmup,
      maxOpenFdsAfterWarmup, finalOpenFdsAfterWarmup, fdGrowthAfterWarmup }

theorem validated_eq_ok {f : SummaryFields} {s : ResourceSummary} :
    f.validated = .ok s ↔ s.1 = f := by
  constructor
  · intro h
    unfold validated at h
    split at h
    · cases h
      rfl
    · cases h
  · rintro rfl
    unfold validated
    split
    · rfl
    · rename_i e he
      rw [s.2] at he
      cases he

/-- A field that is present is read. -/
theorem required_of_lookup {entries : List (String × Json)} {α : Type} {name : String}
    {read : Json → Except Err α} {value : Json} (h : entries.lookup name = some value) :
    required entries name read = read value := by
  rw [required, h]

/-- What the reader makes of the fields of a summary depends on its decimal number only. -/
theorem modelValidate_of_lookup {f : SummaryFields} {write : Decimal → Json}
    {entries : List (String × Json)} (hknown : entries.all fun e => summarySchema.names.contains e.1)
    (hdefault : ∀ g : SummaryField, entries.lookup g.name = some (f.get write g) ∨
      entries.lookup g.name = none ∧ g ∉ SummaryField.arguments) :
    modelValidate entries =
      (Json.readNullable normalizeNonnegativeDecimal
        (.ofOption write f.rssSlopeBytesPerMinute)) >>= fun slope =>
          validated { f with rssSlopeBytesPerMinute := slope } := by
  have hrequired : ∀ {α : Type} (g : SummaryField) (read : Json → Except Err α),
      g ∈ SummaryField.arguments → required entries g.name read = read (f.get write g) := by
    intro α g read hg
    rcases hdefault g with h | ⟨-, hnot⟩
    · rw [required, h]
    · exact absurd hg hnot
  have hoptional : ∀ (g : SummaryField) (value : Json) (expected : String),
      f.get write g = value →
      optional entries g.name (readLiteral value expected) () = .ok () := by
    intro g value expected hvalue
    rcases hdefault g with h | ⟨h, -⟩
    · rw [Storage.optional, h]
      exact if_pos hvalue
    · rw [Storage.optional, h]
  unfold modelValidate
  rw [forbidExtra, if_pos hknown, hoptional .schemaVersion (.int 1) _ rfl,
    hoptional .recordType (.str "gate_resource_summary_v1") _ rfl]
  simp (disch := decide) only [hrequired, get, ok_bind, Json.readNat_ofNat, readBool, readLiteral,
    Json.readNullable_nat, if_true]

/-- The constructor, given the fields of a summary. -/
theorem modelValidate_arguments (f : SummaryFields) :
    modelValidate f.arguments =
      (Json.readNullable normalizeNonnegativeDecimal
        (.ofOption ofDecimal f.rssSlopeBytesPerMinute)) >>= fun slope =>
          validated { f with rssSlopeBytesPerMinute := slope } := by
  refine modelValidate_of_lookup ?_ fun g => ?_
  · rw [List.all_eq_true]
    intro entry hentry
    obtain ⟨g, -, rfl⟩ := List.mem_map.mp hentry
    exact List.contains_iff_mem.mpr (List.mem_map_of_mem (SummaryField.mem_all g))
  · have hlookup := summarySchema.lookup_select SummaryField.arguments (f.get ofDecimal) g
    by_cases hg : g ∈ SummaryField.arguments
    · exact .inl (hlookup.trans (if_pos hg))
    · exact .inr ⟨hlookup.trans (if_neg hg), hg⟩

/-- The reader, given what `model_dump` has written. -/
theorem modelValidate_dump (f : SummaryFields) :
    modelValidate f.modelDump =
      (Json.readNullable normalizeNonnegativeDecimal
        (.ofOption strDecimal f.rssSlopeBytesPerMinute)) >>= fun slope =>
          validated { f with rssSlopeBytesPerMinute := slope } :=
  modelValidate_of_lookup (summarySchema.all_known _) fun g =>
    .inl (summarySchema.lookup_dump (f.get strDecimal) g)

end SummaryFields

/-! ## Documents -/

namespace ResourceSummary

/-- `canonical_bytes`. -/
def canonicalBytes (L : JsonLibraries) (s : ResourceSummary) : Except Err Bytes :=
  (· ++ [10]) <$> L.encodeJson (.object s.1.modelDump)

/-- `model_validate_json`. -/
def modelValidateJson (parse : Bytes → Option Json) (source : Bytes) :
    Except Err ResourceSummary :=
  match parse source with
  | some (.object entries) => SummaryFields.modelValidate entries
  | some _ => .error (.valueError "Input should be an object")
  | none => .error (.valueError "Invalid JSON")

/-- A summary survives the evidence format: the validation of its own canonical bytes gives an
equal summary with equal canonical bytes. -/
def Survives (L : JsonLibraries) (parse : Bytes → Option Json) (s : ResourceSummary) : Prop :=
  ∃ source reread, canonicalBytes L s = .ok source ∧
    modelValidateJson parse source = .ok reread ∧ reread = s ∧
    canonicalBytes L reread = .ok source

end ResourceSummary

/-! ## Summaries -/

/-- `_NS_PER_MINUTE`. -/
def nsPerMinute : Nat := 60000000000

/-- The context of `_rss_ols_bytes_per_minute`. -/
def olsContext : Context := ⟨50, -999999, 999999⟩

/-- The points of a regression as integers. -/
def integerPoints (points : List (Nat × Nat)) : List (Int × Int) :=
  points.map fun p => ((p.1 : Int), (p.2 : Int))

/-- `_rss_ols_bytes_per_minute`. -/
def rssOlsBytesPerMinute (points : List (Nat × Nat)) : Except Err (Option Decimal) :=
  if points.length < 2 then .ok none
  else
    let firstTime : Int := (points.head?.map Prod.fst).getD 0
    let shifted := (integerPoints points).map fun p => (p.1 - firstTime, p.2)
    let numerator := slopeNumerator shifted
    let denominator := slopeDenominator shifted
    if denominator ≤ 0 then .error (.valueError "resource OLS denominator must be positive")
    else if numerator ≤ 0 then .ok (some ⟨false, 0, 0⟩)
    else
      match olsContext.divide (numerator * nsPerMinute).toNat denominator.toNat with
      | some slope => .ok (some slope)
      | none => .error (.runtimeError "decimal.Overflow")

/-- The differences of neighbours. -/
def gaps (times : List Nat) : List Nat :=
  List.zipWith (fun previous current => current - previous) times times.tail

/-- The rows of the totals after the warm-up. -/
def postWarmup (warmupEnded : Nat) (totals : List (Nat × Nat × Nat)) : List (Nat × Nat × Nat) :=
  totals.filter fun row => warmupEnded ≤ row.1

/-- The fields of the summary of some totals. -/
def summaryOf (warmupEnded firstRequest finalCompletion : Nat) (totals : List (Nat × Nat × Nat))
    (slope : Option Decimal) : SummaryFields :=
  let rows := postWarmup warmupEnded totals
  let fdTotals := rows.map fun row => row.2.2
  { roundCount := totals.length
    postWarmupRoundCount := rows.length
    warmupEndedMonotonicNs := warmupEnded
    resourceTrendValid := decide (2 ≤ rows.length)
    firstRequestMonotonicNs := firstRequest
    finalCompletionMonotonicNs := finalCompletion
    coverageNs := finalCompletion - firstRequest
    sampleMaxGapNs := maximumOf (gaps (totals.map Prod.fst))
    rssPeakBytes := maximumOf (totals.map fun row => row.2.1)
    rssSlopeBytesPerMinute := slope
    openFdsPeak := maximumOf (totals.map fun row => row.2.2)
    firstOpenFdsAfterWarmup := fdTotals.head?
    maxOpenFdsAfterWarmup := fdTotals.max?
    finalOpenFdsAfterWarmup := fdTotals.getLast?
    fdGrowthAfterWarmup := fdTotals.max?.map fun maximum => maximum - fdTotals.head?.getD 0 }

/-- `summarize_resources`. -/
def summarizeResources (rounds : List ResourceRound) (expectedProcesses : List ProcessKey)
    (warmupEnded : Nat) (requireNonoverlap : Bool) : Except Err ResourceSummary := do
  let processes ← validateExpectedProcesses expectedProcesses
  if rounds.isEmpty then throw (.valueError "resource rounds cannot be empty")
  let scan ← scanRounds processes requireNonoverlap rounds
  match scan.firstRequest, scan.finalCompletion with
  | some firstRequest, some finalCompletion => do
    let slope ← rssOlsBytesPerMinute
      ((postWarmup warmupEnded scan.totals).map fun row => (row.1, row.2.1))
    SummaryFields.modelValidate
      (summaryOf warmupEnded firstRequest finalCompletion scan.totals slope).arguments
  | _, _ => throw (.assertionError "")

end CryptoCollector.Benchmarks
