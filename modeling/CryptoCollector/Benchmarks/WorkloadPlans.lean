import CryptoCollector.Benchmarks.StreamPlans
import CryptoCollector.Lib.Digests
import Mathlib.Algebra.GroupWithZero.Nat

/-!
# Workload plans

`benchmarks/oracle.py: WorkloadPlanV1, build_workload_plan`, with the fields of `GateWorkloadV1` that
it reads. Nothing is assumed of a workload: what the events need is checked again by the plans.

* `WorkloadPlanV1.eq_of_streamGroup`: the streams of a plan have different groups.
-/

namespace CryptoCollector.Benchmarks

open Lib Storage

/-! ## Workloads -/

/-- `_PayloadSizedStreamV1`. -/
structure PayloadSizedStream where
  meanRecordsPerSecond : Decimal
  burstRecordsIn1s : Nat
  payloadP50Bytes : Nat
  payloadP95Bytes : Nat
  payloadMaxBytes : Nat

/-- `StreamDefinitionV1`. -/
inductive StreamDefinition where
  | ordinary (sizes : PayloadSizedStream) (instances : Nat)
  | derivative (sizes : PayloadSizedStream) (fileInstances : Nat) (markets : List Market)
  | control (sizes : PayloadSizedStream) (instances : Nat)

namespace StreamDefinition

/-- The fields of `_PayloadSizedStreamV1`. -/
def sizes : StreamDefinition → PayloadSizedStream
  | .ordinary sizes _ | .derivative sizes _ _ | .control sizes _ => sizes

/-- `stream_data.get("file_instances", stream_data.get("instances"))`. -/
def baseInstanceCount : StreamDefinition → Nat
  | .ordinary _ instances | .control _ instances => instances
  | .derivative _ fileInstances _ => fileInstances

/-- `stream_data["markets"]`. -/
def markets : StreamDefinition → Except Err (List Market)
  | .derivative _ _ markets => .ok markets
  | _ => .error (.keyError "markets")

end StreamDefinition

/-- `GateWorkloadV1`. -/
structure GateWorkload where
  name : String
  generationSeed : Nat
  exchanges : List Exchange
  markets : List Market
  symbolsPerMarket : Nat
  derivativeLogicalStreams : List LogicalStream
  identityAlgorithm : String
  payloadAlgorithm : String
  scheduleAlgorithm : String
  streamTransports : LogicalStream → Transport
  fixedScopeFileCount : Nat
  scalableFileCount : Nat
  streams : StreamGroup → StreamDefinition
  decimalStringFraction : Decimal
  repeatedKeyFraction : Decimal
  incompressibleFraction : Decimal

namespace GateWorkload

variable (w : GateWorkload)

/-- The algorithms that the plans declare. -/
def algorithms : Algorithms where
  identity := w.identityAlgorithm
  event := "gate-event-v1"
  payload := w.payloadAlgorithm
  schedule := w.scheduleAlgorithm

/-- `_stream_logical_names`. -/
def streamLogicalNames : StreamGroup → List LogicalStream
  | .derivative => w.derivativeLogicalStreams
  | .control => [.control]
  | .trade => [.trade]
  | .bookLive => [.bookLive]
  | .ticker => [.ticker]
  | .bbo => [.bbo]
  | .candle1m => [.candle1m]
  | .bookDeepSnapshot => [.bookDeepSnapshot]

/-- `_stream_markets`. -/
def streamMarkets (g : StreamGroup) : Except Err (List Market) :=
  match g with
  | .control => .ok []
  | .derivative => (w.streams g).markets
  | _ => .ok w.markets

end GateWorkload

/-- `LoadedWorkload`. -/
structure LoadedWorkload where
  workload : GateWorkload
  sourceBytes : Bytes
  sha256 : String

/-! ## Workload plans -/

/-- The fields of `WorkloadPlanV1`. -/
structure WorkloadPlanFields (H : Hashlib) where
  workloadSha256 : String
  workloadName : String
  generationSeed : Nat
  algorithms : Algorithms
  multiplier : Nat
  durationNs : Nat
  durationSeconds : Nat
  declaredFileIdentityCount : Nat
  expectedTouchedFileIdentityCount : Nat
  expectedRecordCount : Nat
  streams : List (StreamPlan H)

namespace WorkloadPlanFields

variable {H : Hashlib} (p : WorkloadPlanFields H)

/-- The constraints on single fields. -/
def validateFields : Option Err :=
  refuseIf (!isSha256 p.workloadSha256) "String should match pattern" <|>
  refuseIf (p.workloadName = "") "String should have at least 1 character" <|>
  p.algorithms.validate <|>
  refuseIf ([p.multiplier, p.durationNs, p.durationSeconds, p.declaredFileIdentityCount,
      p.expectedTouchedFileIdentityCount, p.expectedRecordCount].contains 0)
    "Input should be greater than 0"

/-- `validate_totals`. -/
def validateTotals : Option Err :=
  refuseIf (p.durationSeconds * oneSecondNs ≠ p.durationNs)
    "plan duration seconds and nanoseconds disagree" <|>
  refuseIf (p.streams.map (·.streamGroup) ≠ StreamGroup.all)
    "stream plans must use declared version-one order" <|>
  refuseIf (p.expectedRecordCount ≠ (p.streams.map (·.expectedRecordCount)).sum)
    "plan record count does not match stream summaries" <|>
  refuseIf (p.expectedTouchedFileIdentityCount ≠
      (p.streams.map (·.expectedTouchedFileIdentityCount)).sum)
    "plan touched count does not match stream summaries" <|>
  refuseIf (p.declaredFileIdentityCount ≠ (p.streams.map (·.identityCount)).sum)
    "plan declared count does not match stream summaries" <|>
  refuseIf (p.streams.any fun s =>
      s.generationSeed ≠ p.generationSeed || s.algorithms ≠ p.algorithms ||
        s.multiplier ≠ p.multiplier || s.durationNs ≠ p.durationNs)
    "stream summary inputs disagree with plan header"

/-- The validation of `WorkloadPlanV1`. -/
def validate : Option Err := p.validateFields <|> p.validateTotals

end WorkloadPlanFields

/-- `WorkloadPlanV1`: a plan that passed the validation. -/
structure WorkloadPlanV1 (H : Hashlib) extends WorkloadPlanFields H where
  valid : toWorkloadPlanFields.validate = none

namespace WorkloadPlanV1

variable {H : Hashlib} (p : WorkloadPlanV1 H)

theorem streamGroups : p.streams.map (·.streamGroup) = StreamGroup.all := by
  have htotals := (orElse_eq_none.mp p.valid).2
  simp only [WorkloadPlanFields.validateTotals, orElse_eq_none, refuseIf_eq_none,
    decide_eq_false_iff_not, ne_eq, not_not] at htotals
  exact htotals.2.1

theorem nodup_streamGroups : (p.streams.map (·.streamGroup)).Nodup := by
  rw [p.streamGroups]
  decide

/-- The streams of a plan have different groups. -/
theorem eq_of_streamGroup {s t : StreamPlan H} (hs : s ∈ p.streams) (ht : t ∈ p.streams)
    (h : s.streamGroup = t.streamGroup) : s = t :=
  List.inj_on_of_nodup_map p.nodup_streamGroups hs ht h

end WorkloadPlanV1

/-! ## Building -/

section Building

variable (H : Hashlib) (loaded : LoadedWorkload)

/-- The stream plan that `build_workload_plan` makes of a group. -/
def buildStreamPlan (multiplier durationNs : Nat) (g : StreamGroup) :
    Except Err (StreamPlan H) := do
  let workload := loaded.workload
  let durationSeconds := durationNs / oneSecondNs
  let stream := workload.streams g
  let baseInstanceCount := stream.baseInstanceCount
  let expectedCount :=
    ceilRecords baseInstanceCount stream.sizes.meanRecordsPerSecond multiplier durationNs
  let identityCount := if g = .control then baseInstanceCount else baseInstanceCount * multiplier
  let requiredBurst := baseInstanceCount * stream.sizes.burstRecordsIn1s * multiplier
  if 600 ≤ durationSeconds ∧ expectedCount < requiredBurst then
    throw (.valueError ("qualification duration underdrives " ++ g.value ++ " required burst"))
  let logicalNames := workload.streamLogicalNames g
  let burstSecond := burstSecond H workload.generationSeed g durationSeconds
  let markets ← workload.streamMarkets g
  let summary ← construct (StreamPlanFields.validate · H)
    { streamGroup := g
      logicalStreams := logicalNames
      transports := logicalNames.map workload.streamTransports
      exchanges := workload.exchanges
      markets
      symbolsPerMarket := workload.symbolsPerMarket
      generationSeed := workload.generationSeed
      algorithms := workload.algorithms
      multiplier
      durationNs
      baseInstanceCount
      identityCount
      meanRecordsPerSecond := stream.sizes.meanRecordsPerSecond
      burstRecordsIn1s := stream.sizes.burstRecordsIn1s
      payloadP50Bytes := stream.sizes.payloadP50Bytes
      payloadP95Bytes := stream.sizes.payloadP95Bytes
      payloadMaxBytes := stream.sizes.payloadMaxBytes
      decimalStringFraction := workload.decimalStringFraction
      repeatedKeyFraction := workload.repeatedKeyFraction
      incompressibleFraction := workload.incompressibleFraction
      expectedRecordCount := expectedCount
      expectedTouchedFileIdentityCount := min expectedCount identityCount
      requiredBurstCount := requiredBurst
      scheduledBurstCount := min expectedCount requiredBurst
      burstSecond
      burstStartNs := burstSecond * oneSecondNs }
  return ⟨summary.1, summary.2⟩

/-- The plan that `build_workload_plan` makes of numbers that passed its checks. -/
def buildPlan (multiplier durationNs : Nat) : Except Err (WorkloadPlanV1 H) := do
  let workload := loaded.workload
  let summaries ← StreamGroup.all.mapM (buildStreamPlan H loaded multiplier durationNs)
  let plan ← construct WorkloadPlanFields.validate
    { workloadSha256 := loaded.sha256
      workloadName := workload.name
      generationSeed := workload.generationSeed
      algorithms := workload.algorithms
      multiplier
      durationNs
      durationSeconds := durationNs / oneSecondNs
      declaredFileIdentityCount :=
        workload.fixedScopeFileCount + multiplier * workload.scalableFileCount
      expectedTouchedFileIdentityCount :=
        (summaries.map (·.expectedTouchedFileIdentityCount)).sum
      expectedRecordCount := (summaries.map (·.expectedRecordCount)).sum
      streams := summaries }
  return ⟨plan.1, plan.2⟩

/-- `build_workload_plan`. -/
def buildWorkloadPlan (multiplier durationNs : Int) : Except Err (WorkloadPlanV1 H) :=
  checked
    (refuseIf (H.hexdigest loaded.sourceBytes ≠ loaded.sha256)
      "loaded workload source SHA does not match its bytes" <|>
    refuseIf (multiplier < 1) "multiplier must be at least one" <|>
    refuseIf (maxLaneOrSymbol < multiplier - 1)
      "multiplier exceeds the four-digit identity lane limit" <|>
    refuseIf (durationNs < (10 * oneSecondNs : Nat)) "duration must be at least ten seconds" <|>
    refuseIf (durationNs % oneSecondNs ≠ 0) "duration must be an integral number of seconds" <|>
    refuseIf (maxLaneOrSymbol < loaded.workload.symbolsPerMarket - 1)
      "symbol count exceeds the four-digit identity symbol limit")
    (buildPlan H loaded multiplier.toNat durationNs.toNat)

end Building

/-! ## The default workload -/

/-- SHA-256 and SHAKE-256. -/
def hashlib : Hashlib where
  sha256 := Lib.sha256
  shake256 := Lib.shake256
  length_sha256 := length_sha256
  length_shake256 := length_shake256

/-- A decimal number with some digits after its point. -/
def decimalOf (coefficient digits : Nat) : Decimal := ⟨false, coefficient, -digits⟩

/-- The workload of `research-default-v1.yaml`. -/
def researchDefault : GateWorkload where
  name := "research-default-v1"
  generationSeed := 20260731
  exchanges := [.binance, .okx, .bybit, .bitget, .kraken]
  markets := [.spot, .perpetual]
  symbolsPerMarket := 25
  derivativeLogicalStreams := [.funding, .openInterest]
  identityAlgorithm := "gate-identity-v1"
  payloadAlgorithm := "gate-payload-v1"
  scheduleAlgorithm := "gate-schedule-v2-full-second-burst"
  streamTransports
    | .bookDeepSnapshot => .rest
    | .control => .internal
    | _ => .websocket
  fixedScopeFileCount := 5
  scalableFileCount := 1750
  streams
    | .trade => .ordinary ⟨decimalOf 50 0, 500, 600, 1400, 8192⟩ 250
    | .bookLive => .ordinary ⟨decimalOf 20 0, 100, 8192, 32768, 262144⟩ 250
    | .ticker => .ordinary ⟨decimalOf 1 0, 5, 1200, 2400, 8192⟩ 250
    | .bbo => .ordinary ⟨decimalOf 10 0, 50, 500, 1000, 4096⟩ 250
    | .derivative => .derivative ⟨decimalOf 2 0, 10, 1400, 3000, 16384⟩ 250 [.perpetual]
    | .candle1m => .ordinary ⟨decimalOf 5 1, 2, 1000, 2000, 4096⟩ 250
    | .bookDeepSnapshot => .ordinary ⟨decimalOf 334 4, 1, 131072, 262144, 1048576⟩ 250
    | .control => .control ⟨decimalOf 1 1, 10, 800, 2000, 8192⟩ 5
  decimalStringFraction := decimalOf 70 2
  repeatedKeyFraction := decimalOf 80 2
  incompressibleFraction := decimalOf 20 2

/-- The plan of the default workload for ten minutes. -/
def researchPlan : Except Err (WorkloadPlanV1 hashlib) :=
  buildWorkloadPlan hashlib ⟨researchDefault, [], hashlib.hexdigest []⟩ 1 (600 * oneSecondNs : Nat)

theorem exists_researchPlan : ∃ p, researchPlan = .ok p ∧
    ∀ s ∈ p.streams, s.exchanges = researchDefault.exchanges := by
  have hok : (researchPlan.toOption.any fun p =>
      p.streams.all fun s => s.exchanges = researchDefault.exchanges) = true := by
    decide +kernel
  cases hplan : researchPlan with
  | ok p =>
    rw [hplan] at hok
    exact ⟨p, rfl, fun s hs => of_decide_eq_true (List.all_eq_true.mp hok s hs)⟩
  | error e =>
    rw [hplan] at hok
    cases hok

end CryptoCollector.Benchmarks
