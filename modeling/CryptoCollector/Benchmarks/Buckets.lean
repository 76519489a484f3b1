import CryptoCollector.Benchmarks.Contracts
import CryptoCollector.Benchmarks.ExactSchedule
import CryptoCollector.Benchmarks.PlannedEvents
import CryptoCollector.Lib.Tallies

/-!
# Buckets per second

The buckets of `_validate_trace`: one for each stream group and each second of the plan. A trace row
counts in the second in which it was due, and in the second in which it was admitted.

* `countTrace_eq_ok`: the loop accepts the rows that agree with the events of the plan one by one.
* `exists_frozen`: every bucket passes its validation.
* `addsUp_of_freeze`: the frozen buckets add up to the trace.
* `traceBuckets_exact`: all of it for the events of a plan.
-/

namespace CryptoCollector.Benchmarks

open Lib Storage

/-- The counters of a bucket. -/
inductive Counter where
  | scheduledCount
  | attemptedCount
  | acceptedCount
  | admittedInActualSecondCount
  | scheduledPayloadBytes
  | attemptedPayloadBytes
  | acceptedPayloadBytes
  | earlyCount
  | lateCount
  | outOfWindowCount
  deriving DecidableEq

/-- `_MutableBucket`. -/
abbrev MutableBucket := Counter → Nat

/-- The buckets, by stream group and second. -/
abbrev Buckets := StreamGroup × Nat → MutableBucket

/-- The keys of the buckets. -/
def bucketKeys (durationSeconds : Nat) : List (StreamGroup × Nat) :=
  StreamGroup.all.flatMap fun streamGroup => (List.range durationSeconds).map (streamGroup, ·)

theorem mem_bucketKeys {durationSeconds : Nat} {k : StreamGroup × Nat} :
    k ∈ bucketKeys durationSeconds ↔ k.2 < durationSeconds := by
  have hall : k.1 ∈ StreamGroup.all := by
    cases k.1 <;> decide
  rw [bucketKeys, List.mem_flatMap]
  constructor
  · rintro ⟨streamGroup, -, hk⟩
    obtain ⟨second, hsecond, rfl⟩ := List.mem_map.mp hk
    exact List.mem_range.mp hsecond
  · intro hk
    exact ⟨k.1, hall, List.mem_map.mpr ⟨k.2, List.mem_range.mpr hk, rfl⟩⟩

theorem nodup_bucketKeys (durationSeconds : Nat) : (bucketKeys durationSeconds).Nodup := by
  rw [bucketKeys, List.nodup_flatMap]
  constructor
  · intro streamGroup _
    exact List.nodup_range.map fun a b h => (Prod.mk.inj h).2
  · have hnodup : StreamGroup.all.Nodup := by decide
    refine hnodup.imp fun {a b} hab k ha hb => ?_
    obtain ⟨i, -, rfl⟩ := List.mem_map.mp ha
    obtain ⟨j, -, heq⟩ := List.mem_map.mp hb
    exact hab (Prod.mk.inj heq).1.symm

/-- What ends the loop of `_validate_trace`: the generation of the events raises, a row is refused,
or there is no bucket. -/
inductive TraceError where
  | generation (e : GenerationError)
  | validation (message : String)
  | keyError
  deriving DecidableEq

section Rows

variable (c : CandidateReport) (durationSeconds : Nat)

/-- A planned event with its trace row. -/
abbrev TracePair := PlannedEventV1 × AdmissionTrace Sha256

/-- The time at which an event is due. -/
def dueMonotonicNs (e : PlannedEventV1) : Nat := c.admissionStartedMonotonicNs + e.dueOffsetNs

/-- The deadline of an event. -/
def deadlineMonotonicNs (e : PlannedEventV1) : Nat :=
  c.admissionStartedMonotonicNs + e.deadlineOffsetNs

/-- The attempt started before the event was due. -/
def isEarly (p : TracePair) : Bool :=
  p.2.attemptStartedMonotonicNs < dueMonotonicNs c p.1

/-- The admission completed at the deadline or after it. -/
def isLate (p : TracePair) : Bool :=
  deadlineMonotonicNs c p.1 ≤ p.2.admissionCompletedMonotonicNs

/-- A time is in the window of the admission. -/
def inWindow (timeNs : Nat) : Bool :=
  c.admissionStartedMonotonicNs ≤ timeNs && timeNs < c.admissionScheduledEndMonotonicNs

/-- The attempt or its completion is outside the window of the admission. -/
def isOutOfWindow (p : TracePair) : Bool :=
  !(inWindow c p.2.attemptStartedMonotonicNs && inWindow c p.2.admissionCompletedMonotonicNs)

/-- What a row adds to the bucket of the second in which it was due. -/
def increment (p : TracePair) : MutableBucket
  | .scheduledCount | .attemptedCount => 1
  | .acceptedCount => p.2.isAccepted.toNat
  | .admittedInActualSecondCount => 0
  | .scheduledPayloadBytes | .attemptedPayloadBytes => p.1.payloadBytes
  | .acceptedPayloadBytes => if p.2.isAccepted then p.1.payloadBytes else 0
  | .earlyCount => (isEarly c p).toNat
  | .lateCount => (isLate c p).toNat
  | .outOfWindowCount => (isOutOfWindow c p).toNat

/-- The bucket of the second in which an event is due. -/
def dueKey (e : PlannedEventV1) : StreamGroup × Nat :=
  (e.streamGroup, e.dueOffsetNs / oneSecondNs)

/-- The bucket of the second in which an accepted row was admitted, if the plan has it. -/
def actualKey (p : TracePair) : Option (StreamGroup × Nat) :=
  let actualSecond :=
    (p.2.admissionCompletedMonotonicNs - c.admissionStartedMonotonicNs) / oneSecondNs
  if p.2.isAccepted && c.admissionStartedMonotonicNs ≤ p.2.admissionCompletedMonotonicNs &&
      actualSecond < durationSeconds then
    some (p.1.streamGroup, actualSecond)
  else none

/-- One admission. -/
def oneAdmission : MutableBucket := Pi.single .admittedInActualSecondCount 1

/-- The buckets after a row. A second that the plan does not have is a `KeyError`. -/
def countRow (buckets : Buckets) (p : TracePair) : Except TraceError Buckets :=
  if (dueKey p.1).2 < durationSeconds then
    .ok (buckets + charge (some (dueKey p.1)) (increment c p) +
      charge (actualKey c durationSeconds p) oneAdmission)
  else .error .keyError

/-- The facts of a row are those of its event: `observed_facts == expected_facts`. -/
def agrees (e : PlannedEventV1) (t : AdmissionTrace Sha256) : Bool :=
  decide ((t.plannedEventId.hex, t.streamGroup, t.logicalStream, t.exchange, t.market) =
    (e.plannedEventId, e.streamGroup, e.logicalStream, e.exchange, e.market)) &&
  decide ((t.instrumentKey, t.canonicalIdentity, t.identityIndex, t.localSequence) =
    (e.instrumentKey, e.canonicalIdentity, e.identityIndex, e.localSequence)) &&
  decide ((t.dueMonotonicNs, t.deadlineMonotonicNs, t.payloadBytes, t.payloadSha256.hex) =
    (dueMonotonicNs c e, deadlineMonotonicNs c e, e.payloadBytes, e.payloadSha256))

/-- The loop of `_validate_trace`, as far as it counts: the events that are generated and what
their generation raises, beside the rows of the merged trace. -/
def countTrace (failure : Option GenerationError) :
    Buckets → List PlannedEventV1 → List (AdmissionTrace Sha256) → Except TraceError Buckets
  | buckets, [], rows =>
    match failure, rows with
    | some e, _ => .error (.generation e)
    | none, [] => .ok buckets
    | none, _ :: _ => .error (.validation "trace and workload oracle cardinalities disagree")
  | _, _ :: _, [] => .error (.validation "trace and workload oracle cardinalities disagree")
  | buckets, e :: events, t :: rows =>
    if agrees c e t then
      countRow c durationSeconds buckets (e, t) >>= fun buckets =>
        countTrace failure buckets events rows
    else .error (.validation "trace row disagrees with the workload oracle")

/-- The buckets of rows. -/
def countedBuckets (pairs : List TracePair) : Buckets :=
  tally (fun p => some (dueKey p.1)) (increment c) pairs +
    tally (actualKey c durationSeconds) (fun _ => oneAdmission) pairs

variable {c durationSeconds}

/-- A row in a second of the plan is counted. -/
theorem countRow_countedBuckets {pairs : List TracePair} {p : TracePair}
    (h : (dueKey p.1).2 < durationSeconds) :
    countRow c durationSeconds (countedBuckets c durationSeconds pairs) p =
      .ok (countedBuckets c durationSeconds (pairs ++ [p])) := by
  rw [countRow, if_pos h, countedBuckets, countedBuckets, tally_concat, tally_concat, add_assoc,
    add_assoc, add_add_add_comm, add_assoc]

/-- The loop accepts the rows that agree with the events one by one, and counts all of them. -/
theorem countTrace_eq_ok {failure : Option GenerationError} {done : List TracePair}
    {events : List PlannedEventV1} {rows : List (AdmissionTrace Sha256)} {buckets : Buckets}
    (hdue : ∀ e ∈ events, (dueKey e).2 < durationSeconds) :
    countTrace c durationSeconds failure (countedBuckets c durationSeconds done) events rows =
        .ok buckets ↔
      failure = none ∧ List.Forall₂ (fun e t => agrees c e t = true) events rows ∧
        buckets = countedBuckets c durationSeconds (done ++ events.zip rows) := by
  induction events generalizing done rows with
  | nil =>
    cases failure with
    | some e => simp [countTrace]
    | none =>
      cases rows with
      | nil =>
        simp only [countTrace, List.zip_nil_left, List.append_nil, Except.ok.injEq,
          List.forall₂_nil_left_iff, true_and]
        exact eq_comm
      | cons t rows => simp [countTrace]
  | cons e events ih =>
    cases rows with
    | nil => simp [countTrace]
    | cons t rows =>
      rw [countTrace, List.forall₂_cons]
      by_cases hagrees : agrees c e t = true
      · rw [if_pos hagrees, countRow_countedBuckets (hdue e List.mem_cons_self), ok_bind,
          ih fun e he => hdue e (List.mem_cons_of_mem _ he), List.append_assoc]
        simp [hagrees]
      · simp [hagrees]

end Rows

/-! ## Frozen buckets -/

/-- The fields of `GateSecondBucketV1`. -/
structure SecondBucketFields where
  streamGroup : StreamGroup
  secondIndex : Nat
  counts : MutableBucket

namespace SecondBucketFields

/-- A stage of a bucket: its name, its record count and its bytes. -/
def stages (b : SecondBucketFields) : List (String × Nat × Nat) :=
  [("scheduled", b.counts .scheduledCount, b.counts .scheduledPayloadBytes),
    ("attempted", b.counts .attemptedCount, b.counts .attemptedPayloadBytes),
    ("accepted", b.counts .acceptedCount, b.counts .acceptedPayloadBytes)]

/-- `validate_bucket`. -/
def validate (b : SecondBucketFields) : Option Err :=
  refuseIf (!(b.counts .acceptedCount ≤ b.counts .attemptedCount &&
      b.counts .attemptedCount ≤ b.counts .scheduledCount))
    "bucket record counts must satisfy accepted <= attempted <= scheduled" <|>
  refuseIf (!(b.counts .acceptedPayloadBytes ≤ b.counts .attemptedPayloadBytes &&
      b.counts .attemptedPayloadBytes ≤ b.counts .scheduledPayloadBytes))
    "bucket payload bytes must follow record stage ordering" <|>
  (b.stages.findSome? fun stage =>
    refuseIf ((stage.2.1 == 0) != (stage.2.2 == 0))
      ("bucket " ++ stage.1 ++ " count and byte zero states must agree")) <|>
  refuseIf ([b.counts .earlyCount, b.counts .lateCount, b.counts .outOfWindowCount].any
      (b.counts .attemptedCount < ·))
    "bucket timing failures cannot exceed attempted records"

/-- What the validation accepts. -/
theorem validate_eq_none {b : SecondBucketFields} :
    b.validate = none ↔
      (b.counts .acceptedCount ≤ b.counts .attemptedCount ∧
        b.counts .attemptedCount ≤ b.counts .scheduledCount) ∧
      (b.counts .acceptedPayloadBytes ≤ b.counts .attemptedPayloadBytes ∧
        b.counts .attemptedPayloadBytes ≤ b.counts .scheduledPayloadBytes) ∧
      (∀ stage ∈ b.stages, stage.2.1 = 0 ↔ stage.2.2 = 0) ∧
      ∀ x ∈ [Counter.earlyCount, .lateCount, .outOfWindowCount],
        b.counts x ≤ b.counts .attemptedCount := by
  rw [validate, orElse_eq_none, orElse_eq_none, orElse_eq_none, refuseIf_eq_none,
    refuseIf_eq_none, refuseIf_eq_none, List.findSome?_eq_none_iff]
  refine and_congr (by simp) (and_congr (by simp) (and_congr ?_ (by simp)))
  refine forall₂_congr fun stage _ => ?_
  rw [refuseIf_eq_none, bne_eq_false_iff_eq, Bool.eq_iff_iff, beq_iff_eq, beq_iff_eq]

end SecondBucketFields

/-- `GateSecondBucketV1`: fields that passed the validation. -/
abbrev SecondBucket := {b : SecondBucketFields // b.validate = none}

/-- `freeze`. -/
def freeze (buckets : Buckets) (k : StreamGroup × Nat) : Except Err SecondBucket :=
  construct SecondBucketFields.validate ⟨k.1, k.2, buckets k⟩

/-- Every bucket, frozen. -/
def freezeAll (durationSeconds : Nat) (buckets : Buckets) : Except Err (List SecondBucket) :=
  (bucketKeys durationSeconds).mapM (freeze buckets)

theorem val_of_freezeAll {durationSeconds : Nat} {buckets : Buckets} {frozen : List SecondBucket}
    (h : freezeAll durationSeconds buckets = .ok frozen) :
    frozen.map Subtype.val =
      (bucketKeys durationSeconds).map fun k => ⟨k.1, k.2, buckets k⟩ :=
  map_eq_of_forall₂ (forall₂_of_mapM h) fun _ _ hk => construct_eq_ok.mp hk

/-! ## The buckets add up -/

/-- Frozen buckets that add up to rows: one bucket for each group and second, each with the rows
that were due in its second and those that were admitted in it, and nothing is left out. -/
structure AddsUp (c : CandidateReport) (durationSeconds : Nat)
    (pairs : List TracePair) (frozen : List SecondBucket) : Prop where
  keys : frozen.map (fun b => (b.1.streamGroup, b.1.secondIndex)) = bucketKeys durationSeconds
  perSecond : ∀ b ∈ frozen, ∀ x ≠ Counter.admittedInActualSecondCount,
    b.1.counts x = ((pairs.filter fun p => dueKey p.1 = (b.1.streamGroup, b.1.secondIndex)).map
      fun p => increment c p x).sum
  admitted : ∀ b ∈ frozen, b.1.counts .admittedInActualSecondCount =
    (pairs.filter fun p =>
      actualKey c durationSeconds p = some (b.1.streamGroup, b.1.secondIndex)).length
  total : ∀ x ≠ Counter.admittedInActualSecondCount,
    (frozen.map fun b => b.1.counts x).sum = (pairs.map fun p => increment c p x).sum
  totalAdmitted : (frozen.map fun b => b.1.counts .admittedInActualSecondCount).sum =
    (pairs.filter fun p => (actualKey c durationSeconds p).isSome).length

section

variable {c : CandidateReport} {durationSeconds : Nat}
  {pairs : List TracePair}

theorem sum_apply (l : List MutableBucket) (x : Counter) : l.sum x = (l.map (· x)).sum := by
  induction l with
  | nil => rfl
  | cons b l ih => rw [List.sum_cons, List.map_cons, List.sum_cons, ← ih, Pi.add_apply]

/-- What admissions count. -/
def admissions (rows : List TracePair) (x : Counter) : Nat :=
  if x = .admittedInActualSecondCount then rows.length else 0

theorem sum_oneAdmission (rows : List TracePair) (x : Counter) :
    (rows.map fun _ => oneAdmission).sum x = admissions rows x := by
  rw [List.map_const', List.sum_replicate, oneAdmission, Pi.smul_apply, Pi.single_apply, admissions]
  split <;> simp

/-- What the bucket of a key has counted. -/
theorem countedBuckets_apply {k : StreamGroup × Nat} {x : Counter} :
    countedBuckets c durationSeconds pairs k x =
      ((pairs.filter fun p => dueKey p.1 = k).map fun p => increment c p x).sum +
        admissions (pairs.filter fun p => actualKey c durationSeconds p = some k) x := by
  rw [countedBuckets, Pi.add_apply, Pi.add_apply, tally_apply, tally_apply, sum_apply, sum_apply,
    List.map_map]
  simp only [Option.some.injEq, Function.comp_def]
  rw [← sum_apply, sum_oneAdmission]

/-- A counter that no row raises more than another is not above it. -/
theorem counts_le {k : StreamGroup × Nat} {x y : Counter} (hx : x ≠ .admittedInActualSecondCount)
    (hy : y ≠ .admittedInActualSecondCount)
    (h : ∀ p ∈ pairs, increment c p x ≤ increment c p y) :
    countedBuckets c durationSeconds pairs k x ≤ countedBuckets c durationSeconds pairs k y := by
  rw [countedBuckets_apply, countedBuckets_apply, admissions, admissions, if_neg hx, if_neg hy]
  exact Nat.add_le_add_right
    (List.sum_le_sum fun p hp => h p (List.mem_filter.mp hp).1) 0

/-- Two counters that the same rows raise are zero together. -/
theorem counts_eq_zero_iff {k : StreamGroup × Nat} {x y : Counter}
    (hx : x ≠ .admittedInActualSecondCount) (hy : y ≠ .admittedInActualSecondCount)
    (h : ∀ p ∈ pairs, increment c p x = 0 ↔ increment c p y = 0) :
    countedBuckets c durationSeconds pairs k x = 0 ↔
      countedBuckets c durationSeconds pairs k y = 0 := by
  rw [countedBuckets_apply, countedBuckets_apply, admissions, admissions, if_neg hx, if_neg hy,
    add_zero, add_zero, List.sum_eq_zero_iff, List.sum_eq_zero_iff, List.forall_mem_map,
    List.forall_mem_map]
  exact forall₂_congr fun p hp => h p (List.mem_filter.mp hp).1

/-- Every bucket passes its validation: no event is without payload. -/
theorem validate_countedBuckets (hbytes : ∀ p ∈ pairs, 0 < p.1.payloadBytes)
    (k : StreamGroup × Nat) :
    SecondBucketFields.validate ⟨k.1, k.2, countedBuckets c durationSeconds pairs k⟩ = none := by
  have hscheduled : ∀ p ∈ pairs, 1 = 0 ↔ p.1.payloadBytes = 0 := fun p hp =>
    iff_of_false Nat.one_ne_zero (hbytes p hp).ne'
  have haccepted : ∀ p ∈ pairs,
      increment c p .acceptedCount = 0 ↔ increment c p .acceptedPayloadBytes = 0 := by
    intro p hp
    have hpos := hbytes p hp
    cases hstatus : p.2.isAccepted with
    | true => simp [increment, hstatus, hpos.ne']
    | false => simp [increment, hstatus]
  rw [SecondBucketFields.validate_eq_none]
  refine ⟨⟨?_, ?_⟩, ⟨?_, ?_⟩, fun stage hstage => ?_, fun x hx => ?_⟩
  · exact counts_le (by decide) (by decide) fun p _ => Bool.toNat_le p.2.isAccepted
  · exact counts_le (by decide) (by decide) fun _ _ => le_rfl
  · refine counts_le (by decide) (by decide) fun p _ => ?_
    simp only [increment]
    split <;> omega
  · exact counts_le (by decide) (by decide) fun _ _ => le_rfl
  · simp only [SecondBucketFields.stages, List.mem_cons, List.not_mem_nil, or_false] at hstage
    rcases hstage with rfl | rfl | rfl
    · exact counts_eq_zero_iff (by decide) (by decide) hscheduled
    · exact counts_eq_zero_iff (by decide) (by decide) hscheduled
    · exact counts_eq_zero_iff (by decide) (by decide) haccepted
  · simp only [List.mem_cons, List.not_mem_nil, or_false] at hx
    rcases hx with rfl | rfl | rfl
    · exact counts_le (by decide) (by decide) fun p _ => Bool.toNat_le (isEarly c p)
    · exact counts_le (by decide) (by decide) fun p _ => Bool.toNat_le (isLate c p)
    · exact counts_le (by decide) (by decide) fun p _ => Bool.toNat_le (isOutOfWindow c p)

/-- Every bucket can be frozen. -/
theorem exists_frozen (hbytes : ∀ p ∈ pairs, 0 < p.1.payloadBytes) :
    ∃ frozen, freezeAll durationSeconds (countedBuckets c durationSeconds pairs) = .ok frozen :=
  mapM_total fun k _ => ⟨_, construct_of_valid (validate_countedBuckets hbytes k)⟩

/-- What all buckets have counted. -/
theorem sum_countedBuckets (hdue : ∀ p ∈ pairs, (dueKey p.1).2 < durationSeconds) {x : Counter} :
    ((bucketKeys durationSeconds).map fun k => countedBuckets c durationSeconds pairs k x).sum =
      (pairs.map fun p => increment c p x).sum +
        admissions (pairs.filter fun p => (actualKey c durationSeconds p).isSome) x := by
  have hactual : ∀ p ∈ pairs, ∀ k ∈ actualKey c durationSeconds p,
      k ∈ bucketKeys durationSeconds := by
    intro p _ k hk
    simp only [actualKey, Option.mem_def, Option.ite_none_right_eq_some, Bool.and_eq_true,
      decide_eq_true_eq, Option.some.injEq] at hk
    obtain ⟨⟨-, hsecond⟩, rfl⟩ := hk
    exact mem_bucketKeys.mpr hsecond
  have hown : ∀ p ∈ pairs, ∀ k ∈ some (dueKey p.1), k ∈ bucketKeys durationSeconds := by
    rintro p hp _ ⟨⟩
    exact mem_bucketKeys.mpr (hdue p hp)
  have hsum : ((bucketKeys durationSeconds).map (countedBuckets c durationSeconds pairs)).sum =
      (pairs.map (increment c)).sum +
        ((pairs.filter fun p => (actualKey c durationSeconds p).isSome).map fun _ =>
          oneAdmission).sum := by
    have hnodup := nodup_bucketKeys durationSeconds
    rw [countedBuckets]
    refine List.sum_map_add.trans ?_
    rw [sum_tally hnodup hown, sum_tally hnodup hactual]
    simp
  have happly := congrFun hsum x
  rw [sum_apply, List.map_map, Pi.add_apply, sum_apply, List.map_map, sum_oneAdmission] at happly
  exact happly

/-- The frozen buckets add up to the trace. -/
theorem addsUp_of_freeze (hdue : ∀ p ∈ pairs, (dueKey p.1).2 < durationSeconds)
    {frozen : List SecondBucket}
    (h : freezeAll durationSeconds (countedBuckets c durationSeconds pairs) = .ok frozen) :
    AddsUp c durationSeconds pairs frozen := by
  have hval := val_of_freezeAll h
  have hincrement : ∀ p : TracePair, increment c p .admittedInActualSecondCount = 0 :=
    fun _ => rfl
  have hbucket : ∀ b ∈ frozen, ∀ x, b.1.counts x =
      countedBuckets c durationSeconds pairs (b.1.streamGroup, b.1.secondIndex) x := by
    intro b hb x
    have hmem := List.mem_map_of_mem (f := Subtype.val) hb
    rw [hval] at hmem
    obtain ⟨k, -, hk⟩ := List.mem_map.mp hmem
    rw [← hk]
  have htotal (x : Counter) : (frozen.map fun b => b.1.counts x).sum =
      ((bucketKeys durationSeconds).map fun k =>
        countedBuckets c durationSeconds pairs k x).sum := by
    have hmap := congrArg (List.map fun b : SecondBucketFields => b.counts x) hval
    rw [List.map_map, List.map_map] at hmap
    exact congrArg List.sum hmap
  refine ⟨?_, fun b hb x hx => ?_, fun b hb => ?_, fun x hx => ?_, ?_⟩
  · have hmap := congrArg
      (List.map fun b : SecondBucketFields => (b.streamGroup, b.secondIndex)) hval
    rw [List.map_map, List.map_map] at hmap
    exact hmap.trans (List.map_id _)
  · rw [hbucket b hb, countedBuckets_apply, admissions, if_neg hx, add_zero]
  · rw [hbucket b hb, countedBuckets_apply, admissions, if_pos rfl]
    simp [hincrement]
  · rw [htotal, sum_countedBuckets hdue, admissions, if_neg hx, add_zero]
  · rw [htotal, sum_countedBuckets hdue, admissions, if_pos rfl]
    simp [hincrement]

end

/-! ## The trace of a plan -/

theorem WorkloadPlanV1.durationNs_of_mem {H : Hashlib} {p : WorkloadPlanV1 H} {s : StreamPlan H}
    (hs : s ∈ p.streams) : s.durationNs = p.durationSeconds * oneSecondNs := by
  have htotals := (orElse_eq_none.mp p.valid).2
  simp only [WorkloadPlanFields.validateTotals, orElse_eq_none, refuseIf_eq_none,
    decide_eq_false_iff_not, ne_eq, not_not] at htotals
  obtain ⟨hduration, -, -, -, -, hstreams⟩ := htotals
  have hsame := List.any_eq_false.mp hstreams s hs
  simp only [Bool.or_eq_true, decide_eq_true_eq, not_or, not_not] at hsame
  rw [hsame.2, hduration]

/-- A loop that does not raise yields an item for each of its own. -/
theorem length_yielded {α β ε : Type} {f : α → Except ε β} {xs : List α}
    (h : (yielded f xs).2 = none) : (yielded f xs).1.length = xs.length := by
  induction xs with
  | nil => rfl
  | cons a as ih =>
    cases hf : f a with
    | error e => simp [yielded, hf] at h
    | ok b =>
      simp only [yielded, hf] at h ⊢
      rw [List.length_cons, ih h, List.length_cons]

section Plan

variable {H : Hashlib} (L : PayloadLibraries) (p : WorkloadPlanV1 H) (c : CandidateReport)

/-- `_validate_trace`, as far as it counts: the buckets after the events of the plan and the rows of
the merged trace. -/
def traceBuckets (rows : List (AdmissionTrace Sha256)) : Except TraceError Buckets :=
  countTrace c p.durationSeconds (iterPlanEvents L p).2 0 (iterPlanEvents L p).1 rows

variable {L p c}

theorem exists_of_mem_iterPlanEvents {e : PlannedEventV1} (he : e ∈ (iterPlanEvents L p).1) :
    ∃ scheduled ∈ p.scheduled, buildEvent H L scheduled = .ok e := by
  rw [iterPlanEvents, planSchedule_eq] at he
  obtain ⟨scheduled, hscheduled, hbuild⟩ := exists_of_mem_yielded he
  exact ⟨scheduled, (sortedBy_perm _ _).mem_iff.mp hscheduled, hbuild⟩

/-- Every event of a plan is due in one of its seconds. -/
theorem dueKey_lt {e : PlannedEventV1} (he : e ∈ (iterPlanEvents L p).1) :
    (dueKey e).2 < p.durationSeconds := by
  obtain ⟨scheduled, hscheduled, hbuild⟩ := exists_of_mem_iterPlanEvents he
  obtain ⟨s, hs, place, hplace, rfl⟩ := WorkloadPlanV1.mem_scheduled.mp hscheduled
  obtain ⟨identity, localSequence, payload, -, -, rfl⟩ := exists_of_buildEvent hbuild
  have hdue := StreamPlan.dueAt_lt hplace
  rw [WorkloadPlanV1.durationNs_of_mem hs] at hdue
  exact Nat.div_lt_of_lt_mul (by rw [Nat.mul_comm]; exact (Nat.le_add_right _ _).trans_lt hdue)

/-- No event of a plan is without payload. -/
theorem payloadBytes_pos_of_mem (hL : L.Documented) {e : PlannedEventV1}
    (he : e ∈ (iterPlanEvents L p).1) : 0 < e.payloadBytes := by
  obtain ⟨scheduled, -, hbuild⟩ := exists_of_mem_iterPlanEvents he
  have hvalid := validate_of_buildEvent hL hbuild
  rw [PlannedEventV1.validate, orElse_eq_none, PlannedEventV1.validateFields] at hvalid
  simp only [orElse_eq_none, refuseIf_eq_none, Bool.or_eq_false_iff, decide_eq_false_iff_not]
    at hvalid
  exact Nat.pos_of_ne_zero hvalid.1.2.2.2.2.2.2

/-- The buckets of a trace that is counted. -/
theorem traceBuckets_eq_ok {rows : List (AdmissionTrace Sha256)} {buckets : Buckets} :
    traceBuckets L p c rows = .ok buckets ↔ (iterPlanEvents L p).2 = none ∧
      List.Forall₂ (fun e t => agrees c e t = true) (iterPlanEvents L p).1 rows ∧
      buckets = countedBuckets c p.durationSeconds ((iterPlanEvents L p).1.zip rows) :=
  @countTrace_eq_ok c p.durationSeconds _ [] _ rows buckets fun _ he => dueKey_lt he

/-- A trace is counted exactly when the events of the plan are generated without an error and its
rows agree with them one by one. Then there is one bucket for each stream group and second, every
bucket passes its validation, and the buckets add up to the trace and to the plan. -/
theorem traceBuckets_exact (hL : L.Documented) (p : WorkloadPlanV1 H) (c : CandidateReport)
    (rows : List (AdmissionTrace Sha256)) :
    let events := (iterPlanEvents L p).1
    ((∃ buckets, traceBuckets L p c rows = .ok buckets) ↔
      (iterPlanEvents L p).2 = none ∧
        List.Forall₂ (fun e t => agrees c e t = true) events rows) ∧
    ∀ buckets, traceBuckets L p c rows = .ok buckets →
      ∃ frozen, freezeAll p.durationSeconds buckets = .ok frozen ∧
        AddsUp c p.durationSeconds (events.zip rows) frozen ∧
        (frozen.map fun b => b.1.counts .scheduledCount).sum = p.expectedRecordCount := by
  intro events
  refine ⟨⟨?_, ?_⟩, fun buckets hbuckets => ?_⟩
  · rintro ⟨buckets, hbuckets⟩
    obtain ⟨hnone, hagree, -⟩ := traceBuckets_eq_ok.mp hbuckets
    exact ⟨hnone, hagree⟩
  · rintro ⟨hnone, hagree⟩
    exact ⟨_, traceBuckets_eq_ok.mpr ⟨hnone, hagree, rfl⟩⟩
  · obtain ⟨hnone, hagree, rfl⟩ := traceBuckets_eq_ok.mp hbuckets
    have hmem : ∀ pair ∈ events.zip rows, pair.1 ∈ events := fun pair hpair =>
      (List.of_mem_zip hpair).1
    obtain ⟨frozen, hfrozen⟩ : ∃ frozen, freezeAll p.durationSeconds
        (countedBuckets c p.durationSeconds (events.zip rows)) = .ok frozen :=
      exists_frozen fun pair hpair => payloadBytes_pos_of_mem hL (hmem pair hpair)
    have hadds := addsUp_of_freeze (fun pair hpair => dueKey_lt (hmem pair hpair)) hfrozen
    refine ⟨frozen, hfrozen, hadds, ?_⟩
    have hlength : events.length = p.expectedRecordCount := by
      have hyielded := hnone
      change (iterPlanEvents L p).1.length = _
      rw [iterPlanEvents, planSchedule_eq] at hyielded ⊢
      rw [length_yielded hyielded, (sortedBy_perm _ _).length_eq, length_scheduled]
    rw [hadds.total .scheduledCount (by decide)]
    change ((events.zip rows).map fun _ => 1).sum = _
    rw [List.map_const', List.sum_replicate, List.length_zip, ← hagree.length_eq, Nat.min_self,
      hlength, smul_eq_mul, mul_one]

end Plan

/-- The digest of no bytes. -/
def emptySha256 : Sha256 :=
  ⟨"e3b0c44298fc1c149afbf4c8996fb92427ae41e4649b934ca495991b7852b855", by decide +kernel⟩

/-- A control row of Binance that the worker did not accept. -/
def overflowRow : AdmissionTrace Sha256 where
  plannedEventId := emptySha256
  streamGroup := .control
  logicalStream := .control
  exchange := .binance
  market := none
  instrumentKey := none
  canonicalIdentity := "gate-identity-v1:binance:-:-:_control"
  identityIndex := 0
  localSequence := 0
  dueMonotonicNs := 0
  deadlineMonotonicNs := 1
  attemptStartedMonotonicNs := 0
  admissionCompletedMonotonicNs := 0
  enqueueStatus := .overflow
  payloadBytes := 1
  payloadSha256 := emptySha256
  acceptedIdentity := none
  valid := by decide

/-- The buckets of a trace of one row against the default workload. -/
theorem researchPlan_buckets : ∃ p, researchPlan = .ok p ∧
    let c : CandidateReport := ⟨true, 0, 1, 1, 0, 1⟩
    let rows := [overflowRow]
    let events := (iterPlanEvents compactPayloads p).1
    ((∃ buckets, traceBuckets compactPayloads p c rows = .ok buckets) ↔
      (iterPlanEvents compactPayloads p).2 = none ∧
        List.Forall₂ (fun e t => agrees c e t = true) events rows) ∧
    ∀ buckets, traceBuckets compactPayloads p c rows = .ok buckets →
      ∃ frozen, freezeAll p.durationSeconds buckets = .ok frozen ∧
        AddsUp c p.durationSeconds (events.zip rows) frozen ∧
        (frozen.map fun b => b.1.counts .scheduledCount).sum = p.expectedRecordCount := by
  obtain ⟨p, hp, -⟩ := exists_researchPlan
  exact ⟨p, hp, traceBuckets_exact compactPayloads_documented p _ _⟩

end CryptoCollector.Benchmarks
