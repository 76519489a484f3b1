import CryptoCollector.Benchmarks.Identities
import CryptoCollector.Benchmarks.WorkloadPlans
import CryptoCollector.Lib.Except
import CryptoCollector.Lib.StableSort

/-!
# Schedules

`benchmarks/oracle.py`: the order and the due times of the events of a plan. A stream schedules a
burst and the other events of every identity of a span; the schedules of the streams are merged.
-/

namespace CryptoCollector.Benchmarks

open Lib Storage

/-! ## Ordinals of a span of identities -/

namespace StreamPlanFields

variable (s : StreamPlanFields)

/-- `_allocated_count`. -/
def allocatedCount (identityIndex : Nat) : Nat :=
  s.expectedRecordCount / s.identityCount +
    if identityIndex < s.expectedRecordCount % s.identityCount then 1 else 0

/-- `_burst_quota_per_identity`. -/
def burstQuotaPerIdentity : Nat :=
  s.burstRecordsIn1s * if s.streamGroup = .control then s.multiplier else 1

/-- The first ordinal of an identity. -/
def ordinalStart (identityIndex : Nat) : Nat :=
  identityIndex * (s.expectedRecordCount / s.identityCount) +
    min identityIndex (s.expectedRecordCount % s.identityCount)

/-- `_identity_ordinal_start`. -/
def identityOrdinalStart (identityIndex : Nat) : Except GenerationError Nat :=
  if s.identityCount < identityIndex then .error (.indexError (toString identityIndex))
  else .ok (s.ordinalStart identityIndex)

/-- The loop of `_iter_burst_ordinals_for_identity_span`. -/
def burstOrdinalsFrom : Nat → List Nat → List Nat
  | _, [] => []
  | ordinalStart, identityIndex :: rest =>
    let allocatedCount := s.allocatedCount identityIndex
    List.range' ordinalStart (min allocatedCount s.burstQuotaPerIdentity) ++
      burstOrdinalsFrom (ordinalStart + allocatedCount) rest

/-- `_iter_burst_ordinals_for_identity_span`. -/
def burstOrdinals (identityStart identityStop : Nat) : Except GenerationError (List Nat) := do
  let ordinalStart ← s.identityOrdinalStart identityStart
  return s.burstOrdinalsFrom ordinalStart (List.range' identityStart (identityStop - identityStart))

/-- `_iter_burst_ordinals`. -/
def allBurstOrdinals : Except GenerationError (List Nat) := do
  let ordinals ← s.burstOrdinals 0 s.identityCount
  if ordinals.length ≠ s.scheduledBurstCount then
    throw (.assertionError "distributed burst count does not match stream plan")
  return ordinals

/-- `_smooth_count_before_identity`. -/
def smoothCountBeforeIdentity (identityIndex : Nat) : Except GenerationError Nat :=
  if s.identityCount < identityIndex then .error (.indexError (toString identityIndex))
  else
    let quotient := s.expectedRecordCount / s.identityCount
    let longer := min identityIndex (s.expectedRecordCount % s.identityCount)
    .ok (longer * (quotient + 1 - s.burstQuotaPerIdentity) +
      (identityIndex - longer) * (quotient - s.burstQuotaPerIdentity))

/-- The loop of `_iter_indexed_smooth_ordinals_for_identity_span`. -/
def indexedSmoothOrdinalsFrom : Nat → Nat → List Nat → List (Nat × Nat)
  | _, _, [] => []
  | ordinalStart, smoothIndex, identityIndex :: rest =>
    let allocatedCount := s.allocatedCount identityIndex
    let selected := min allocatedCount s.burstQuotaPerIdentity
    let remaining := allocatedCount - selected
    (List.range' smoothIndex remaining).zip (List.range' (ordinalStart + selected) remaining) ++
      indexedSmoothOrdinalsFrom (ordinalStart + allocatedCount) (smoothIndex + remaining) rest

/-- `_iter_indexed_smooth_ordinals_for_identity_span`. -/
def indexedSmoothOrdinals (identityStart identityStop : Nat) :
    Except GenerationError (List (Nat × Nat)) := do
  let ordinalStart ← s.identityOrdinalStart identityStart
  let smoothIndex ← s.smoothCountBeforeIdentity identityStart
  return s.indexedSmoothOrdinalsFrom ordinalStart smoothIndex
    (List.range' identityStart (identityStop - identityStart))

/-- `_iter_smooth_ordinals`. -/
def allSmoothOrdinals : Except GenerationError (List Nat) := do
  let ordinals ← s.indexedSmoothOrdinals 0 s.identityCount
  if ordinals.length ≠ s.expectedRecordCount - s.scheduledBurstCount then
    throw (.assertionError "smooth event count does not match stream plan")
  return ordinals.map Prod.snd

/-- `_exchange_identity_span`. -/
def exchangeIdentitySpan (exchange : Exchange) : Except GenerationError (Nat × Nat) := do
  let exchangeIndex ← tupleIndex s.exchanges exchange
  let perExchange := s.identityCount / s.exchanges.length
  if s.identityCount % s.exchanges.length ≠ 0 then
    throw (.assertionError "exchange identity spans must be equal and contiguous")
  return (exchangeIndex * perExchange, exchangeIndex * perExchange + perExchange)

end StreamPlanFields

/-! ## Scheduled events -/

/-- `_ScheduledEvent`. -/
structure ScheduledEvent (H : Hashlib) where
  summary : StreamPlan H
  ordinal : Nat
  dueOffsetNs : Nat
  eventId : String

/-- Whether the key `(due_offset_ns, event_id)` of an event is at most that of another one. -/
def scheduledBefore {H : Hashlib} (a b : ScheduledEvent H) : Bool :=
  a.dueOffsetNs < b.dueOffsetNs || a.dueOffsetNs = b.dueOffsetNs && a.eventId ≤ b.eventId

/-- `heapq.merge`: of the first items, the least comes next, the one of the first list among equal
ones. -/
def heapqMerge {α : Type} (before : α → α → Bool) (iterables : List (List α)) : List α :=
  mergeAll before iterables

/-- A scheduled event that waits for the others of its due time: its id, its ordinal and its due
time. -/
abbrev TieRow := String × Nat × Nat

/-- The loop of `_iter_smooth_schedule_for_identity_span`: the events of one due time are sorted. -/
def flushTies : Option Nat → List TieRow → List TieRow → List TieRow
  | _, tieGroup, [] => sortedBy Prod.fst tieGroup
  | priorDue, tieGroup, row :: rows =>
    if priorDue.any (· ≠ row.2.2) then
      sortedBy Prod.fst tieGroup ++ flushTies (some row.2.2) [row] rows
    else flushTies (some row.2.2) (tieGroup ++ [row]) rows

namespace StreamPlan

variable {H : Hashlib} (s : StreamPlan H)

/-- A row of `burst_rows`: the id of an event and its ordinal. -/
def burstRow (ordinal : Nat) : Except GenerationError (String × Nat) := do
  let facts ← s.eventFactsAt H ordinal
  return (facts.1, ordinal)

/-- `_iter_burst_schedule_for_identity_span`. -/
def burstSchedule (identityStart identityStop : Nat) :
    Except GenerationError (List (ScheduledEvent H)) := do
  let ordinals ← s.burstOrdinals identityStart identityStop
  let rows ← ordinals.mapM s.burstRow
  return (sortedBy Prod.fst rows).map fun row => ⟨s, row.2, s.burstStartNs, row.1⟩

/-- The due time of an event that is not in the burst: the second of the burst is left out. -/
def smoothDueOffsetNs (index : Nat) : Nat :=
  let remainingCount := s.expectedRecordCount - s.scheduledBurstCount
  let outsideNs := s.durationNs - oneSecondNs - oneSecondNs
  let compressed := index * outsideNs / remainingCount
  if compressed < s.burstStartNs then compressed else compressed + oneSecondNs

/-- A row of `tie_group`. -/
def smoothRow (row : Nat × Nat) : Except GenerationError TieRow := do
  let facts ← s.eventFactsAt H row.2
  return (facts.1, row.2, s.smoothDueOffsetNs row.1)

/-- `_iter_smooth_schedule_for_identity_span`. -/
def smoothSchedule (identityStart identityStop : Nat) :
    Except GenerationError (List (ScheduledEvent H)) :=
  if s.expectedRecordCount - s.scheduledBurstCount = 0 then .ok []
  else do
    let ordinals ← s.indexedSmoothOrdinals identityStart identityStop
    let rows ← ordinals.mapM s.smoothRow
    return (flushTies none [] rows).map fun row => ⟨s, row.2.1, row.2.2, row.1⟩

/-- `_iter_stream_schedule_for_identity_span`. -/
def spanSchedule (identityStart identityStop : Nat) :
    Except GenerationError (List (ScheduledEvent H)) := do
  let burst ← s.burstSchedule identityStart identityStop
  let smooth ← s.smoothSchedule identityStart identityStop
  return heapqMerge scheduledBefore [burst, smooth]

/-- `_iter_stream_schedule`. -/
def streamSchedule : Except GenerationError (List (ScheduledEvent H)) :=
  s.spanSchedule 0 s.identityCount

/-- The schedule of an exchange in `_iter_exchange_plan_schedule`. -/
def exchangeSchedule (exchange : Exchange) : Except GenerationError (List (ScheduledEvent H)) := do
  let span ← s.exchangeIdentitySpan exchange
  s.spanSchedule span.1 span.2

end StreamPlan

/-! ## The schedule of a plan -/

section Plans

variable {H : Hashlib} (p : WorkloadPlanV1 H)

/-- `_iter_plan_schedule`. -/
def planSchedule : Except GenerationError (List (ScheduledEvent H)) := do
  let schedules ← p.streams.mapM StreamPlan.streamSchedule
  return heapqMerge scheduledBefore schedules

/-- `_iter_exchange_plan_schedule`. -/
def exchangePlanSchedule (exchange : Exchange) :
    Except GenerationError (List (ScheduledEvent H)) := do
  let schedules ← p.streams.mapM (StreamPlan.exchangeSchedule · exchange)
  return heapqMerge scheduledBefore schedules

end Plans

end CryptoCollector.Benchmarks
