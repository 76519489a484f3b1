import CryptoCollector.Benchmarks.Hashing
import CryptoCollector.Benchmarks.Plan
import CryptoCollector.Storage.Manifest.Model
import Mathlib.Data.List.Sort

/-!
# Stream plans

`benchmarks/oracle.py: StreamPlanV1` with its validation. A stream plan that pydantic refuses cannot
be built.

* `StreamPlanFields.lawful_of_validate`: what the validation says of a stream plan.
-/

namespace CryptoCollector.Benchmarks

open Lib Storage

/-! ## Rates -/

/-- `Decimal.as_integer_ratio`. -/
def asIntegerRatio (d : Decimal) : Int × Nat :=
  let signed : Int := if d.negative then -d.coefficient else d.coefficient
  if 0 ≤ d.exponent then (signed * 10 ^ d.exponent.toNat, 1)
  else
    let denominator := 10 ^ (-d.exponent).toNat
    let divisor := Nat.gcd d.coefficient denominator
    (signed / divisor, denominator / divisor)

/-- `Decimal(0) < d <= Decimal(1)`. -/
def isFraction (d : Decimal) : Bool :=
  let ratio := asIntegerRatio d
  0 < ratio.1 && ratio.1 ≤ ratio.2

/-- `_ceil_records`, for a rate that is not negative. -/
def ceilRecords (baseInstanceCount : Nat) (meanRecordsPerSecond : Decimal)
    (multiplier durationNs : Nat) : Nat :=
  let rate := asIntegerRatio meanRecordsPerSecond
  let numerator : Int := (baseInstanceCount * multiplier * durationNs : Nat) * rate.1
  let denominator : Int := (oneSecondNs * rate.2 : Nat)
  (-(-numerator / denominator)).toNat

/-- `_burst_second`. -/
def burstSecond (H : Hashlib) (seed : Nat) (streamGroup : StreamGroup) (durationSeconds : Nat) :
    Nat :=
  H.lane (ascii (toString seed ++ ":" ++ streamGroup.value)) % (durationSeconds - 1)

/-! ## Names -/

/-- `MAX_LANE_OR_SYMBOL`. -/
def maxLaneOrSymbol : Nat := 9999

/-- The names of the algorithms of a plan. -/
structure Algorithms where
  identity : String
  event : String
  payload : String
  schedule : String
  deriving DecidableEq

namespace Algorithms

/-- The literals of the fields. -/
def versionOne : Algorithms where
  identity := "gate-identity-v1"
  event := "gate-event-v1"
  payload := "gate-payload-v1"
  schedule := "gate-schedule-v2-full-second-burst"

/-- The checks of the literals. -/
def validate (a : Algorithms) : Option Err :=
  refuseIf (a.identity ≠ "gate-identity-v1") "Input should be 'gate-identity-v1'" <|>
  refuseIf (a.event ≠ "gate-event-v1") "Input should be 'gate-event-v1'" <|>
  refuseIf (a.payload ≠ "gate-payload-v1") "Input should be 'gate-payload-v1'" <|>
  refuseIf (a.schedule ≠ "gate-schedule-v2-full-second-burst")
    "Input should be 'gate-schedule-v2-full-second-burst'"

theorem validate_eq_none {a : Algorithms} : a.validate = none ↔ a = versionOne := by
  obtain ⟨identity, event, payload, schedule⟩ := a
  simp [validate, versionOne]

end Algorithms

/-- `_CANONICAL_EXCHANGES`, as the position of an exchange. -/
def exchangePosition (e : Exchange) : Nat :=
  ([.binance, .okx, .bybit, .bitget, .kraken] : List Exchange).idxOf e

/-- `_CANONICAL_MARKETS`, as the position of a market. -/
def marketPosition (m : Market) : Nat := ([.spot, .perpetual] : List Market).idxOf m

/-- Whether some names are distinct and `sorted` by their position leaves them as they are. -/
def isCanonical {α : Type} [DecidableEq α] (position : α → Nat) (names : List α) : Bool :=
  names.Nodup && names.insertionSort (fun a b => position a ≤ position b) = names

namespace StreamGroup

/-- `expected_logical`. -/
def logicalStreams : StreamGroup → List LogicalStream
  | .trade => [.trade]
  | .bookLive => [.bookLive]
  | .ticker => [.ticker]
  | .bbo => [.bbo]
  | .derivative => [.funding, .openInterest]
  | .candle1m => [.candle1m]
  | .bookDeepSnapshot => [.bookDeepSnapshot]
  | .control => [.control]

/-- `expected_transports`. -/
def transports : StreamGroup → List Transport
  | .control => [.internal]
  | .derivative => [.websocket, .websocket]
  | .bookDeepSnapshot => [.rest]
  | _ => [.websocket]

end StreamGroup

/-! ## Stream plans -/

/-- The fields of `StreamPlanV1`. -/
structure StreamPlanFields where
  streamGroup : StreamGroup
  logicalStreams : List LogicalStream
  transports : List Transport
  exchanges : List Exchange
  markets : List Market
  symbolsPerMarket : Nat
  generationSeed : Nat
  algorithms : Algorithms
  multiplier : Nat
  durationNs : Nat
  baseInstanceCount : Nat
  identityCount : Nat
  meanRecordsPerSecond : Decimal
  burstRecordsIn1s : Nat
  payloadP50Bytes : Nat
  payloadP95Bytes : Nat
  payloadMaxBytes : Nat
  decimalStringFraction : Decimal
  repeatedKeyFraction : Decimal
  incompressibleFraction : Decimal
  expectedRecordCount : Nat
  expectedTouchedFileIdentityCount : Nat
  requiredBurstCount : Nat
  scheduledBurstCount : Nat
  burstSecond : Nat
  burstStartNs : Nat

namespace StreamPlanFields

variable (s : StreamPlanFields)

/-- The constraints on single fields. -/
def validateFields : Option Err :=
  s.algorithms.validate <|>
  refuseIf ([s.symbolsPerMarket, s.multiplier, s.durationNs, s.baseInstanceCount, s.identityCount,
      s.burstRecordsIn1s, s.payloadP50Bytes, s.payloadP95Bytes, s.payloadMaxBytes,
      s.expectedRecordCount, s.expectedTouchedFileIdentityCount, s.requiredBurstCount,
      s.scheduledBurstCount].contains 0) "Input should be greater than 0"

/-- The check of the markets. -/
def validateMarkets : Option Err :=
  match s.streamGroup with
  | .control => refuseIf (!s.markets.isEmpty) "control stream must not declare markets"
  | .derivative =>
    refuseIf (s.markets ≠ [.perpetual]) "derivative stream must use perpetual market"
  | _ =>
    refuseIf (s.markets.isEmpty || !isCanonical marketPosition s.markets)
      "ordinary markets must use canonical relative order"

/-- `expected_base`. -/
def expectedBase : Nat :=
  match s.streamGroup with
  | .control => s.exchanges.length
  | .derivative =>
    s.exchanges.length * s.markets.length * s.symbolsPerMarket *
      s.streamGroup.logicalStreams.length
  | _ => s.exchanges.length * s.markets.length * s.symbolsPerMarket

/-- `expected_identity_count`. -/
def expectedIdentityCount : Nat :=
  if s.streamGroup = .control then s.expectedBase else s.expectedBase * s.multiplier

/-- `validate_contract`. -/
def validateContract (H : Hashlib) : Option Err :=
  refuseIf (s.logicalStreams.length ≠ s.transports.length)
    "logical streams and transports must be paired" <|>
  refuseIf (!decide s.logicalStreams.Nodup) "logical streams must be unique" <|>
  refuseIf (s.durationNs < 10 * oneSecondNs || s.durationNs % oneSecondNs ≠ 0)
    "stream duration must be integral and at least ten seconds" <|>
  refuseIf (maxLaneOrSymbol < s.symbolsPerMarket - 1)
    "stream symbol count exceeds four-digit identity grammar" <|>
  refuseIf (maxLaneOrSymbol < s.multiplier - 1)
    "stream multiplier exceeds four-digit identity grammar" <|>
  refuseIf (!isCanonical exchangePosition s.exchanges)
    "stream exchanges must use canonical relative order" <|>
  s.validateMarkets <|>
  refuseIf (s.logicalStreams ≠ s.streamGroup.logicalStreams)
    "logical streams do not match the stream group" <|>
  refuseIf (s.transports ≠ s.streamGroup.transports)
    "transports do not match the logical streams" <|>
  refuseIf (s.baseInstanceCount ≠ s.expectedBase)
    "base instance count does not match stream scope" <|>
  refuseIf (s.identityCount ≠ s.expectedIdentityCount)
    "identity count does not match stream scope" <|>
  refuseIf (s.expectedRecordCount ≠
      ceilRecords s.baseInstanceCount s.meanRecordsPerSecond s.multiplier s.durationNs)
    "expected record count does not match stream inputs" <|>
  refuseIf (s.expectedTouchedFileIdentityCount ≠ min s.expectedRecordCount s.identityCount)
    "touched identity count does not match allocation" <|>
  refuseIf (s.requiredBurstCount ≠ s.baseInstanceCount * s.burstRecordsIn1s * s.multiplier)
    "required burst count does not match workload inputs" <|>
  refuseIf (s.scheduledBurstCount ≠ min s.expectedRecordCount s.requiredBurstCount)
    "scheduled burst count does not match capped burst" <|>
  refuseIf (s.burstStartNs ≠ s.burstSecond * oneSecondNs)
    "burst start does not match burst second" <|>
  refuseIf (s.burstSecond ≠
      Benchmarks.burstSecond H s.generationSeed s.streamGroup (s.durationNs / oneSecondNs))
    "burst second does not match the schedule algorithm" <|>
  refuseIf (s.durationNs / oneSecondNs - 1 ≤ s.burstSecond)
    "burst second must precede the drain second" <|>
  refuseIf (!(isFraction s.decimalStringFraction && isFraction s.repeatedKeyFraction &&
      isFraction s.incompressibleFraction))
    "payload fractions must be in the interval (0, 1]" <|>
  refuseIf (!(s.payloadP50Bytes ≤ s.payloadP95Bytes && s.payloadP95Bytes ≤ s.payloadMaxBytes))
    "payload sizes must be ordered p50 <= p95 <= max" <|>
  refuseIf (600 * oneSecondNs ≤ s.durationNs && s.expectedRecordCount < s.requiredBurstCount)
    "qualification stream underdrives its required burst"

/-- The validation of `StreamPlanV1`. -/
def validate (H : Hashlib) : Option Err := s.validateFields <|> s.validateContract H

/-- What the validation says of the scope and of the counts of a stream plan. -/
structure Lawful : Prop where
  algorithms : s.algorithms = .versionOne
  logicalStreams : s.logicalStreams = s.streamGroup.logicalStreams
  transports : s.transports = s.streamGroup.transports
  exchanges_nodup : s.exchanges.Nodup
  markets : s.validateMarkets = none
  symbols_pos : 0 < s.symbolsPerMarket
  symbols_le : s.symbolsPerMarket ≤ 10000
  multiplier_pos : 0 < s.multiplier
  multiplier_le : s.multiplier ≤ 10000
  identityCount_eq : s.identityCount = s.expectedIdentityCount
  identityCount_pos : 0 < s.identityCount
  scheduledBurst : s.scheduledBurstCount =
    min s.expectedRecordCount (s.expectedBase * s.burstRecordsIn1s * s.multiplier)
  burstStart : s.burstStartNs = s.burstSecond * oneSecondNs
  duration_le : 10 * oneSecondNs ≤ s.durationNs
  burstSecond_lt : s.burstSecond + 1 < s.durationNs / oneSecondNs
  payload_pos : 0 < s.payloadP50Bytes
  payload_le_p95 : s.payloadP50Bytes ≤ s.payloadP95Bytes
  payload_le_max : s.payloadP95Bytes ≤ s.payloadMaxBytes

variable {s}

theorem lawful_of_validate {H : Hashlib} (h : s.validate H = none) : s.Lawful := by
  obtain ⟨hfields, hcontract⟩ := orElse_eq_none.mp h
  obtain ⟨halgorithms, hpositive⟩ := orElse_eq_none.mp hfields
  simp only [validateContract, orElse_eq_none, refuseIf_eq_none, isCanonical] at hcontract
  simp only [refuseIf_eq_none, List.contains_cons, List.contains_nil, Bool.or_eq_false_iff,
    beq_eq_false_iff_ne] at hpositive
  obtain ⟨-, -, hduration, hsymbols, hmultiplier, hexchanges, hmarkets, hlogical, htransports, hbase,
    hidentities, -, -, hrequired, hscheduled, hstart, -, hburst, -, hsizes, -⟩ := hcontract
  obtain ⟨hsymbols0, hmultiplier0, -, -, hidentities0, -, hp50, -⟩ := hpositive
  rw [decide_eq_false_iff_not, not_lt, maxLaneOrSymbol] at hsymbols hmultiplier
  simp only [decide_eq_false_iff_not, ne_eq, not_not] at hlogical htransports hidentities
  simp only [decide_eq_false_iff_not, ne_eq, not_not] at hbase hrequired hscheduled hstart
  simp only [Bool.not_eq_false', Bool.and_eq_true, decide_eq_true_eq] at hexchanges hsizes
  exact {
    algorithms := Algorithms.validate_eq_none.mp halgorithms
    logicalStreams := hlogical
    transports := htransports
    exchanges_nodup := hexchanges.1
    markets := hmarkets
    symbols_pos := by omega
    symbols_le := by omega
    multiplier_pos := by omega
    multiplier_le := by omega
    identityCount_eq := hidentities
    identityCount_pos := by omega
    scheduledBurst := by rw [hscheduled, hrequired, hbase]
    burstStart := hstart
    duration_le := by
      rw [Bool.or_eq_false_iff, decide_eq_false_iff_not] at hduration
      exact not_lt.mp hduration.1
    burstSecond_lt := by
      rw [decide_eq_false_iff_not] at hburst
      omega
    payload_pos := by omega
    payload_le_p95 := hsizes.1
    payload_le_max := hsizes.2 }

theorem Lawful.markets_nodup (h : s.Lawful) : s.markets.Nodup := by
  have hmarkets := h.markets
  unfold validateMarkets at hmarkets
  split at hmarkets
  · have hempty : s.markets = [] := by simpa using hmarkets
    rw [hempty]
    exact List.nodup_nil
  · have hsingle : s.markets = [.perpetual] := by simpa using hmarkets
    rw [hsingle]
    exact List.nodup_singleton _
  · simp only [refuseIf_eq_none, isCanonical, Bool.or_eq_false_iff, Bool.not_eq_false',
      Bool.and_eq_true, decide_eq_true_eq] at hmarkets
    exact hmarkets.2.1

end StreamPlanFields

/-- `StreamPlanV1`: a stream plan that passed the validation. -/
structure StreamPlan (H : Hashlib) extends StreamPlanFields where
  valid : toStreamPlanFields.validate H = none

theorem StreamPlan.lawful {H : Hashlib} (s : StreamPlan H) : s.Lawful :=
  StreamPlanFields.lawful_of_validate s.valid

end CryptoCollector.Benchmarks
