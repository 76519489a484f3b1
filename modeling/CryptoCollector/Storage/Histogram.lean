import CryptoCollector.Storage.Types
import Mathlib.Data.List.MinMax
import Mathlib.Order.Lattice
import Mathlib.Algebra.GroupWithZero.Nat
import Mathlib.Algebra.Order.BigOperators.Group.List

/-!
# Durability histograms

`storage/stats.py`: the cumulative histogram of durability lags, the rolling histogram of the
last sixty whole seconds, and the snapshot with its own consistency checks.
-/

namespace CryptoCollector.Storage

/-- `DURABILITY_BUCKET_UPPER_BOUNDS_NS`. -/
def bucketUpperBoundsNs : List Nat :=
  [0, 100000, 250000, 500000, 1000000, 2500000, 5000000, 10000000, 25000000, 50000000,
    100000000, 250000000, 500000000, 750000000, 1000000000, 1500000000, 2000000000,
    3000000000, 5000000000, 10000000000, 60000000000, 2 ^ 63 - 1]

/-- The number of histogram buckets. -/
def bucketCount : Nat := 22

/-- `_NS_PER_SECOND`. -/
def nsPerSecond : Nat := 1000000000

/-- `_ROLLING_SLOT_COUNT`. -/
def rollingSlotCount : Nat := 60

/-- The binary search of `_bucket_index`; `fuel` bounds its rounds. -/
def bucketSearch (lag : Nat) : Nat → Nat → Nat → Nat
  | 0, low, _ => low
  | fuel + 1, low, high =>
    if low < high then
      let middle := (low + high) / 2
      if bucketUpperBoundsNs.getD middle 0 < lag then bucketSearch lag fuel (middle + 1) high
      else bucketSearch lag fuel low middle
    else low

/-- `_bucket_index`, for a lag that fits the schema. -/
def bucketIndex (lag : Nat) : Nat := bucketSearch lag bucketCount 0 bucketCount

/-- The loop of `_nearest_rank`. -/
def rankWalk (rank : Nat) : Nat → List Nat → List Nat → Option Nat
  | cumulative, bound :: bounds, count :: counts =>
    if rank ≤ cumulative + count then some bound
    else rankWalk rank (cumulative + count) bounds counts
  | _, _, _ => none

/-- `_nearest_rank`. -/
def nearestRank (bucketCounts : List Nat) (sampleCount numerator : Nat) :
    Except Err (Option Nat) :=
  if sampleCount = 0 then .ok none
  else
    match rankWalk (max 1 ((numerator * sampleCount + 99) / 100)) 0 bucketUpperBoundsNs
      bucketCounts with
    | some bound => .ok (some bound)
    | none => .error (.assertionError "histogram sample count does not match its buckets")

/-- `DurabilityHistogramSnapshot`. -/
structure HistogramSnapshot where
  bucketCounts : List Nat
  sampleCount : Nat
  lagTotalNs : Nat
  lagP50Ns : Option Nat
  lagP95Ns : Option Nat
  lagP99Ns : Option Nat
  lagMaxNs : Option Nat
  deriving DecidableEq

/-- The index of the highest nonempty bucket. -/
def highestNonempty (bucketCounts : List Nat) : Option Nat :=
  ((List.range bucketCounts.length).filter fun i => bucketCounts.getD i 0 ≠ 0).getLast?

/-- `DurabilityHistogramSnapshot.__post_init__`. -/
def HistogramSnapshot.check (s : HistogramSnapshot) : Except Err Unit := do
  if s.bucketCounts.length ≠ bucketCount then
    throw (.valueError "bucket_counts must match the durability histogram schema")
  if maxSignedInt64 < s.sampleCount then
    throw (.valueError "sample_count must fit a signed 64-bit integer")
  if s.bucketCounts.sum ≠ s.sampleCount then
    throw (.valueError "sample_count must equal the disjoint bucket sum")
  let p50 ← nearestRank s.bucketCounts s.sampleCount 50
  let p95 ← nearestRank s.bucketCounts s.sampleCount 95
  let p99 ← nearestRank s.bucketCounts s.sampleCount 99
  if (s.lagP50Ns, s.lagP95Ns, s.lagP99Ns) ≠ (p50, p95, p99) then
    throw (.valueError "durability quantiles must match nearest-rank buckets")
  match s.lagMaxNs with
  | none =>
    if s.sampleCount ≠ 0 then
      throw (.valueError "a nonempty histogram requires lag_max_ns")
    if s.lagTotalNs ≠ 0 then
      throw (.valueError "an empty histogram must have zero lag_total_ns")
  | some maximum =>
    if maxSignedInt64 < maximum then
      throw (.valueError "lag_max_ns must fit a signed 64-bit integer")
    if s.sampleCount = 0 then
      throw (.valueError "an empty histogram cannot have lag_max_ns")
    if highestNonempty s.bucketCounts ≠ some (bucketIndex maximum) then
      throw (.valueError "lag maximum must fall in the highest nonempty bucket")
    if s.lagTotalNs < maximum then
      throw (.valueError "lag_total_ns cannot be smaller than lag_max_ns")

/-- `_snapshot`. -/
def snapshotOf (bucketCounts : List Nat) (sampleCount lagTotalNs : Nat) (lagMaxNs : Option Nat) :
    Except Err HistogramSnapshot := do
  let s : HistogramSnapshot :=
    { bucketCounts, sampleCount, lagTotalNs,
      lagP50Ns := ← nearestRank bucketCounts sampleCount 50,
      lagP95Ns := ← nearestRank bucketCounts sampleCount 95,
      lagP99Ns := ← nearestRank bucketCounts sampleCount 99,
      lagMaxNs }
  s.check
  return s

/-- The counters that `CumulativeDurabilityHistogram` and `_RollingSlot` share. -/
structure Histogram where
  bucketCounts : List Nat := List.replicate bucketCount 0
  sampleCount : Nat := 0
  lagTotalNs : Nat := 0
  lagMaxNs : Option Nat := none
  deriving DecidableEq

namespace Histogram

/-- The update of `CumulativeDurabilityHistogram.add` and `_RollingSlot.add`, for a lag that fits
a signed 64-bit integer. -/
def add (h : Histogram) (lag : Nat) : Histogram where
  bucketCounts := h.bucketCounts.modify (bucketIndex lag) (· + 1)
  sampleCount := h.sampleCount + 1
  lagTotalNs := h.lagTotalNs + lag
  lagMaxNs := some (match h.lagMaxNs with
    | none => lag
    | some m => max m lag)

/-- Add the lags of a list in turn. -/
def addAll (h : Histogram) (lags : List Nat) : Histogram := lags.foldl add h

/-- `CumulativeDurabilityHistogram.snapshot`. -/
def snapshot (h : Histogram) : Except Err HistogramSnapshot :=
  snapshotOf h.bucketCounts h.sampleCount h.lagTotalNs h.lagMaxNs

end Histogram

/-- `_RollingSlot`. -/
structure RollingSlot where
  second : Option Nat := none
  histogram : Histogram := {}
  deriving DecidableEq

/-- `RollingDurabilityHistogram`. -/
structure RollingHistogram where
  slots : List RollingSlot := List.replicate rollingSlotCount {}
  latestSecond : Option Nat := none
  deriving DecidableEq

namespace RollingHistogram

/-- Whether a slot's second lies in the window that ends at `current`. -/
def inWindow (current : Nat) (second : Nat) : Bool :=
  decide (current ≤ second + (rollingSlotCount - 1) ∧ second ≤ current)

/-- The effect of `_advance` when time does not move backward. -/
def advance (r : RollingHistogram) (current : Nat) : RollingHistogram where
  latestSecond := some current
  slots := r.slots.map fun slot =>
    match slot.second with
    | some second => if inWindow current second then slot else {}
    | none => slot

/-- The slot update of `add`. -/
def addToSlot (r : RollingHistogram) (second lag : Nat) : RollingHistogram :=
  { r with
    slots := r.slots.modify (second % rollingSlotCount) fun slot =>
      let slot := if slot.second = some second then slot else { second := some second }
      { slot with histogram := slot.histogram.add lag } }

/-- `RollingDurabilityHistogram.add`. -/
def add (r : RollingHistogram) (lag completed : Nat) : RollingHistogram :=
  let second := completed / nsPerSecond
  match r.latestSecond with
  | none => (r.advance second).addToSlot second lag
  | some latest =>
    if second + (rollingSlotCount - 1) < latest then r
    else if latest < second then (r.advance second).addToSlot second lag
    else r.addToSlot second lag

/-- The sums of `RollingDurabilityHistogram.snapshot` over the slots of the window. -/
def collect (current : Nat) (slots : List RollingSlot) : Histogram :=
  slots.foldl (fun total slot =>
    match slot.second with
    | some second =>
      if inWindow current second then
        { bucketCounts := List.zipWith (· + ·) total.bucketCounts slot.histogram.bucketCounts
          sampleCount := total.sampleCount + slot.histogram.sampleCount
          lagTotalNs := total.lagTotalNs + slot.histogram.lagTotalNs
          lagMaxNs := match total.lagMaxNs, slot.histogram.lagMaxNs with
            | some a, some b => some (max a b)
            | some a, none => some a
            | none, b => b }
      else total
    | none => total) {}

/-- `RollingDurabilityHistogram.snapshot`: the histogram it leaves and what it returns. -/
def snapshot (r : RollingHistogram) (now : Nat) :
    RollingHistogram × Except Err HistogramSnapshot :=
  if maxSignedInt64 < now then
    (r, .error (.valueError "now_monotonic_ns must fit a signed 64-bit integer"))
  else
    let current := now / nsPerSecond
    let backward : Except Err HistogramSnapshot :=
      .error (.valueError "rolling histogram time must not move backward")
    match r.latestSecond with
    | some latest =>
      if current < latest then (r, backward)
      else
        let r := if latest < current then r.advance current else r
        (r, (collect current r.slots).snapshot)
    | none =>
      let r := r.advance current
      (r, (collect current r.slots).snapshot)

end RollingHistogram

end CryptoCollector.Storage
