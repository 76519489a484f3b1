import CryptoCollector.Benchmarks.Buckets
import CryptoCollector.Benchmarks.ExchangeSchedules

/-!
# Trace partitions

Every exchange has its partition of the trace, with the rows that its worker wrote.
`_iter_trace_partition` checks the order of a partition, and `_validate_trace` merges the partitions
and compares the merge with the events of the plan.

* `mergedTrace_eq_ok`: the merge is the stable sort of the partitions.
* `validateTrace_partitions`: the trace is accepted when every partition agrees with the events of
  its exchange, one by one.
-/

namespace CryptoCollector.Benchmarks

open Lib Storage

/-! ## Partitions -/

/-- The key of a row: its due time and its id. -/
def traceKey (t : AdmissionTrace Sha256) : Lex (Nat × String) :=
  toLex (t.dueMonotonicNs, t.plannedEventId.hex)

/-- The loop of `_iter_trace_partition`, with the key of the previous row. -/
def iterTracePartitionFrom (exchange : Exchange) : Option (Lex (Nat × String)) →
    List (AdmissionTrace Sha256) → Except TraceError (List (AdmissionTrace Sha256))
  | _, [] => .ok []
  | previousKey, row :: rows =>
    if row.exchange ≠ exchange then
      .error (.validation "trace row does not match its exchange partition")
    else if previousKey.any (traceKey row ≤ ·) then
      .error (.validation "trace partition order is not strictly increasing")
    else iterTracePartitionFrom exchange (some (traceKey row)) rows >>= fun rows =>
      .ok (row :: rows)

/-- `_iter_trace_partition`. -/
def iterTracePartition (exchange : Exchange) (rows : List (AdmissionTrace Sha256)) :
    Except TraceError (List (AdmissionTrace Sha256)) :=
  iterTracePartitionFrom exchange none rows

/-- The rows of a partition: they are of its exchange and come in strictly increasing order. -/
structure IsPartition (exchange : Exchange) (rows : List (AdmissionTrace Sha256)) : Prop where
  exchange : ∀ row ∈ rows, row.exchange = exchange
  increasing : rows.Pairwise fun a b => traceKey a < traceKey b

theorem iterTracePartitionFrom_eq_ok {exchange : Exchange}
    {previousKey : Option (Lex (Nat × String))} {rows rows' : List (AdmissionTrace Sha256)} :
    iterTracePartitionFrom exchange previousKey rows = .ok rows' ↔
      rows' = rows ∧ IsPartition exchange rows ∧
        ∀ k ∈ previousKey, ∀ row ∈ rows, k < traceKey row := by
  induction rows generalizing previousKey rows' with
  | nil =>
    have hnil : IsPartition exchange [] := ⟨by simp, .nil⟩
    simp [iterTracePartitionFrom, hnil, eq_comm]
  | cons row rows ih =>
    rw [iterTracePartitionFrom]
    constructor
    · intro h
      split_ifs at h with hexchange hkey
      obtain ⟨rest, hrest, h⟩ := bind_eq_ok.mp h
      cases h
      obtain ⟨rfl, hpartition, hlater⟩ := ih.mp hrest
      have hlater : ∀ next ∈ rest, traceKey row < traceKey next := hlater _ rfl
      refine ⟨rfl, ⟨?_, List.pairwise_cons.mpr ⟨hlater, hpartition.increasing⟩⟩, ?_⟩
      · exact List.forall_mem_cons.mpr ⟨not_not.mp hexchange, hpartition.exchange⟩
      · intro k hk
        have hfirst : k < traceKey row := by
          rw [Option.mem_def] at hk
          simpa [hk] using hkey
        exact List.forall_mem_cons.mpr ⟨hfirst, fun next hnext => hfirst.trans (hlater next hnext)⟩
    · rintro ⟨rfl, ⟨hexchange, hincreasing⟩, hprevious⟩
      obtain ⟨hrow, hrows⟩ := List.forall_mem_cons.mp hexchange
      obtain ⟨hlater, hincreasing⟩ := List.pairwise_cons.mp hincreasing
      have hkey : ¬ previousKey.any (traceKey row ≤ ·) = true := by
        rw [Option.any_eq_true]
        rintro ⟨k, hk, hle⟩
        exact absurd (of_decide_eq_true hle)
          (not_le.mpr (hprevious k hk row List.mem_cons_self))
      have hrest : iterTracePartitionFrom exchange (some (traceKey row)) rows = .ok rows := by
        refine ih.mpr ⟨rfl, ⟨hrows, hincreasing⟩, fun k hk next hnext => ?_⟩
        cases hk
        exact hlater next hnext
      rw [if_neg (not_not.mpr hrow), if_neg hkey, hrest, ok_bind]

/-- A partition is read when its rows are of its exchange and in order. -/
theorem iterTracePartition_eq_ok {exchange : Exchange} {rows rows' : List (AdmissionTrace Sha256)} :
    iterTracePartition exchange rows = .ok rows' ↔ rows' = rows ∧ IsPartition exchange rows := by
  rw [iterTracePartition, iterTracePartitionFrom_eq_ok]
  simp

/-! ## The merge -/

/-- The merge of the partitions in `_validate_trace`. All of them are read to their end, as they are
where the trace is accepted. -/
def mergedTrace (partitions : Exchange → List (AdmissionTrace Sha256)) :
    Except TraceError (List (AdmissionTrace Sha256)) := do
  let readers ← canonicalExchanges.mapM fun exchange =>
    iterTracePartition exchange (partitions exchange)
  return heapqMerge (fun a b => traceKey a ≤ traceKey b) readers

section Merge

variable {partitions : Exchange → List (AdmissionTrace Sha256)}

theorem mem_canonicalExchanges (x : Exchange) : x ∈ canonicalExchanges := by
  cases x <;> decide

/-- The merge is the stable sort of the partitions. -/
theorem mergedTrace_eq_ok {rows : List (AdmissionTrace Sha256)} :
    mergedTrace partitions = .ok rows ↔ (∀ x, IsPartition x (partitions x)) ∧
      rows = sortedBy traceKey (canonicalExchanges.flatMap partitions) := by
  have hmerged (hall : ∀ x, IsPartition x (partitions x)) : mergedTrace partitions =
      .ok (sortedBy traceKey (canonicalExchanges.flatMap partitions)) := by
    have hsorted : ∀ items ∈ canonicalExchanges.map partitions, SortedBy traceKey items := by
      intro items hitems
      obtain ⟨x, -, rfl⟩ := List.mem_map.mp hitems
      exact (hall x).increasing.imp le_of_lt
    rw [mergedTrace, mapM_eq_ok fun x _ => iterTracePartition_eq_ok.mpr ⟨rfl, hall x⟩, ok_bind,
      heapqMerge, mergeAll_eq_sortedBy hsorted]
    rfl
  constructor
  · intro h
    have hall (x : Exchange) : IsPartition x (partitions x) := by
      obtain ⟨readers, hreaders, -⟩ := bind_eq_ok.mp h
      obtain ⟨reader, -, hreader⟩ :=
        exists_right_of_forall₂ (forall₂_of_mapM hreaders) (mem_canonicalExchanges x)
      exact (iterTracePartition_eq_ok.mp hreader).2
    rw [hmerged hall] at h
    cases h
    exact ⟨hall, rfl⟩
  · rintro ⟨hall, rfl⟩
    exact hmerged hall

/-- The rows of an exchange in the merge are its partition. -/
theorem filter_exchange_merged (h : ∀ x, IsPartition x (partitions x)) (x : Exchange) :
    (sortedBy traceKey (canonicalExchanges.flatMap partitions)).filter (·.exchange = x) =
      partitions x := by
  have hone : canonicalExchanges.filter (fun y => decide (y = x)) = [x] := by
    cases x <;> rfl
  rw [filter_sortedBy, filter_flatMap_eq (q := fun y => decide (y = x)), hone,
    List.flatMap_singleton]
  · exact sortedBy_eq_self ((h x).increasing.imp le_of_lt)
  · intro y _ row hrow
    rw [(h y).exchange row hrow]

end Merge

/-! ## The events of a plan -/

/-- The key that the row of an event has. -/
def plannedKey (c : CandidateReport) (e : PlannedEventV1) : Lex (Nat × String) :=
  toLex (dueMonotonicNs c e, e.plannedEventId)

/-- What a loop yields of related items is related. -/
theorem pairwise_yielded {α β ε : Type} {f : α → Except ε β} {r : α → α → Prop}
    {s : β → β → Prop} {xs : List α}
    (hrs : ∀ a a' b b', f a = .ok b → f a' = .ok b' → r a a' → s b b') (h : xs.Pairwise r) :
    (yielded f xs).1.Pairwise s := by
  induction xs with
  | nil => exact .nil
  | cons a as ih =>
    obtain ⟨ha, has⟩ := List.pairwise_cons.mp h
    cases hf : f a with
    | error e => simp [yielded, hf]
    | ok b =>
      simp only [yielded, hf]
      refine List.pairwise_cons.mpr ⟨fun b' hb' => ?_, ih has⟩
      obtain ⟨a', ha', hfa'⟩ := exists_of_mem_yielded hb'
      exact hrs a a' b b' hf hfa' (ha a' ha')

section Plan

variable {H : Hashlib} (L : PayloadLibraries) (p : WorkloadPlanV1 H) (c : CandidateReport)

/-- `_validate_trace`, as far as it counts, from the partitions of the trace. -/
def validateTrace (partitions : Exchange → List (AdmissionTrace Sha256)) :
    Except TraceError Buckets := do
  traceBuckets L p c (← mergedTrace partitions)

variable {L p c}

theorem key_of_agrees {e : PlannedEventV1} {t : AdmissionTrace Sha256}
    (h : agrees c e t = true) : plannedKey c e = traceKey t := by
  simp only [agrees, Bool.and_eq_true, decide_eq_true_eq, Prod.mk.injEq] at h
  obtain ⟨⟨⟨hid, -⟩, -⟩, hdue, -⟩ := h
  rw [plannedKey, traceKey, hid, hdue]

theorem exchange_of_agrees {e : PlannedEventV1} {t : AdmissionTrace Sha256}
    (h : agrees c e t = true) : e.exchange = t.exchange := by
  simp only [agrees, Bool.and_eq_true, decide_eq_true_eq, Prod.mk.injEq] at h
  obtain ⟨⟨⟨-, -, -, hexchange, -⟩, -⟩, -⟩ := h
  exact hexchange.symm

/-- An event has the due time and the id of its place in the schedule. -/
theorem key_of_buildEvent {scheduled : ScheduledEvent H} {e : PlannedEventV1}
    (h : buildEvent H L scheduled = .ok e) :
    toLex (e.dueOffsetNs, e.plannedEventId) = scheduled.key := by
  obtain ⟨⟨eventId, identity, localSequence⟩, -, h⟩ := bind_eq_ok.mp h
  obtain ⟨hid, h⟩ := throw_bind_eq_ok.mp h
  obtain ⟨payload, -, h⟩ := bind_eq_ok.mp h
  obtain ⟨logicalIndex, -, h⟩ := bind_eq_ok.mp h
  obtain ⟨transport, -, h⟩ := bind_eq_ok.mp h
  cases h
  rw [ScheduledEvent.key, not_not.mp hid]
  rfl

/-- The events of a plan come in the order of their rows. -/
theorem sortedBy_iterPlanEvents : SortedBy (plannedKey c) (iterPlanEvents L p).1 := by
  rw [iterPlanEvents, planSchedule_eq]
  refine pairwise_yielded (fun a a' e e' he he' hle => ?_)
    (sortedBy_sortedBy ScheduledEvent.key p.scheduled)
  rw [← key_of_buildEvent he, ← key_of_buildEvent he', Prod.Lex.toLex_le_toLex] at hle
  rw [plannedKey, plannedKey, Prod.Lex.toLex_le_toLex]
  simpa [dueMonotonicNs] using hle

/-- Events with different ids have different keys. -/
theorem nodup_plannedKey {events : List PlannedEventV1}
    (hids : (events.map (·.plannedEventId)).Nodup) : (events.map (plannedKey c)).Nodup := by
  have hmap : (events.map (plannedKey c)).map (fun k => (ofLex k).2) =
      events.map (·.plannedEventId) := by
    rw [List.map_map]
    rfl
  exact List.Nodup.of_map _ (hmap ▸ hids)

/-- Rows that agree with the events of an exchange are a partition. -/
theorem isPartition_of_agrees {events : List PlannedEventV1} {x : Exchange}
    {rows : List (AdmissionTrace Sha256)}
    (hstrict : events.Pairwise fun a b => plannedKey c a < plannedKey c b)
    (h : List.Forall₂ (fun e t => agrees c e t = true) (events.filter (·.exchange = x)) rows) :
    IsPartition x rows := by
  constructor
  · intro row hrow
    obtain ⟨e, he, hagrees⟩ := exists_left_of_forall₂ h hrow
    rw [← exchange_of_agrees hagrees]
    exact of_decide_eq_true (List.mem_filter.mp he).2
  · have hmap : rows.map traceKey = (events.filter (·.exchange = x)).map (plannedKey c) :=
      map_eq_of_forall₂ h fun e t hagrees => (key_of_agrees hagrees).symm
    have hkeys : ((events.filter (·.exchange = x)).map (plannedKey c)).Pairwise (· < ·) :=
      List.pairwise_map.mpr (hstrict.filter _)
    rw [← hmap] at hkeys
    exact List.pairwise_map.mp hkeys

/-- Partitions that agree with the events of their exchanges are merged to rows that agree with all
events. -/
theorem forall₂_merged {events : List PlannedEventV1}
    {partitions : Exchange → List (AdmissionTrace Sha256)}
    (hsorted : SortedBy (plannedKey c) events) (hids : (events.map (·.plannedEventId)).Nodup)
    (h : ∀ x, List.Forall₂ (fun e t => agrees c e t = true) (events.filter (·.exchange = x))
      (partitions x)) :
    List.Forall₂ (fun e t => agrees c e t = true) events
      (sortedBy traceKey (canonicalExchanges.flatMap partitions)) := by
  have hperm : (canonicalExchanges.flatMap fun x => events.filter (·.exchange = x)).Perm events :=
    flatMap_filter_perm (·.exchange) (by decide) events fun e _ => mem_canonicalExchanges _
  have hparts : List.Forall₂ (fun e t => agrees c e t = true)
      (canonicalExchanges.flatMap fun x => events.filter (·.exchange = x))
      (canonicalExchanges.flatMap partitions) := by
    refine List.rel_flatten ?_
    rw [List.forall₂_map_left_iff, List.forall₂_map_right_iff]
    exact List.forall₂_same.mpr fun x _ => h x
  have hmerged := forall₂_sortedBy (fun e t hagrees => key_of_agrees hagrees) hparts
  rwa [← sortedBy_eq_of_perm hperm.symm (keyed_of_nodup_map (nodup_plannedKey hids)),
    sortedBy_eq_self hsorted] at hmerged

/-- A trace that is accepted has in each partition, one by one, the rows of the events that the
worker of its exchange generates. Where no id of the plan occurs twice, such partitions are
accepted: their merge is the trace of the whole plan. -/
theorem validateTrace_partitions (hp : ∀ s ∈ p.streams, ∀ x : Exchange, x ∈ s.exchanges)
    (c : CandidateReport) (partitions : Exchange → List (AdmissionTrace Sha256)) :
    ((∃ buckets, validateTrace L p c partitions = .ok buckets) →
      (iterPlanEvents L p).2 = none ∧
        ∀ x, List.Forall₂ (fun e t => agrees c e t = true) (iterExchangePlanEvents L p x).1
          (partitions x)) ∧
    ((iterPlanEvents L p).2 = none →
      ((iterPlanEvents L p).1.map (·.plannedEventId)).Nodup →
      (∀ x, List.Forall₂ (fun e t => agrees c e t = true) (iterExchangePlanEvents L p x).1
        (partitions x)) →
      ∃ buckets, validateTrace L p c partitions = .ok buckets) := by
  have hexchange (hnone : (iterPlanEvents L p).2 = none) (x : Exchange) :
      (iterExchangePlanEvents L p x).1 = (iterPlanEvents L p).1.filter (·.exchange = x) := by
    rw [(iterExchangePlanEvents_filter L fun s hs => hp s hs x).2 hnone]
  constructor
  · rintro ⟨buckets, h⟩
    obtain ⟨rows, hmerged, hcounted⟩ := bind_eq_ok.mp h
    obtain ⟨hnone, hagree, -⟩ := traceBuckets_eq_ok.mp hcounted
    obtain ⟨hall, rfl⟩ := mergedTrace_eq_ok.mp hmerged
    refine ⟨hnone, fun x => ?_⟩
    have hfilter := List.rel_filter (p := (·.exchange = x)) (q := (·.exchange = x))
      (fun e t hagrees => by simp [exchange_of_agrees hagrees]) hagree
    rwa [hexchange hnone, ← filter_exchange_merged hall x]
  · intro hnone hids hagree
    simp only [hexchange hnone] at hagree
    have hsorted : SortedBy (plannedKey c) (iterPlanEvents L p).1 := sortedBy_iterPlanEvents
    have hstrict : (iterPlanEvents L p).1.Pairwise fun a b => plannedKey c a < plannedKey c b :=
      (List.Pairwise.and hsorted (List.pairwise_map.mp (nodup_plannedKey hids))).imp
        fun hab => lt_of_le_of_ne hab.1 hab.2
    have hmerged : mergedTrace partitions =
        .ok (sortedBy traceKey (canonicalExchanges.flatMap partitions)) :=
      mergedTrace_eq_ok.mpr ⟨fun x => isPartition_of_agrees hstrict (hagree x), rfl⟩
    refine ⟨_, bind_eq_ok.mpr ⟨_, hmerged, traceBuckets_eq_ok.mpr ⟨hnone, ?_, rfl⟩⟩⟩
    exact forall₂_merged hsorted hids hagree

end Plan

/-- The partitions of the default workload: the one of Binance has a row, the others have none. -/
theorem researchPlan_partitions : ∃ p, researchPlan = .ok p ∧
    let c : CandidateReport := ⟨true, 0, 1, 1, 0, 1⟩
    let partitions : Exchange → List (AdmissionTrace Sha256) :=
      fun x => if x = .binance then [overflowRow] else []
    ((∃ buckets, validateTrace compactPayloads p c partitions = .ok buckets) →
      (iterPlanEvents compactPayloads p).2 = none ∧
        ∀ x, List.Forall₂ (fun e t => agrees c e t = true)
          (iterExchangePlanEvents compactPayloads p x).1 (partitions x)) ∧
    ((iterPlanEvents compactPayloads p).2 = none →
      ((iterPlanEvents compactPayloads p).1.map (·.plannedEventId)).Nodup →
      (∀ x, List.Forall₂ (fun e t => agrees c e t = true)
        (iterExchangePlanEvents compactPayloads p x).1 (partitions x)) →
      ∃ buckets, validateTrace compactPayloads p c partitions = .ok buckets) := by
  obtain ⟨p, hp, hexchanges⟩ := exists_researchPlan
  refine ⟨p, hp, validateTrace_partitions (fun s hs x => ?_) _ _⟩
  rw [hexchanges s hs]
  cases x <;> decide

end CryptoCollector.Benchmarks
