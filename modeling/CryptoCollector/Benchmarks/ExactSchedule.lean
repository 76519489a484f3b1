import CryptoCollector.Benchmarks.ScheduleOrder

/-!
# The schedule of a plan

The schedule of a plan holds every record once. The burst of a stream is due at the start of its
second, and nothing else of the stream is due in that second; nothing at all is due in the last
second, in which the writer drains.

* `planSchedule_exact`: the schedule of a plan is exact.
-/

namespace CryptoCollector.Benchmarks

open Lib Storage

/-- Whether an event is an event of a stream in the second of its burst. -/
def inBurstSecond {H : Hashlib} (s : StreamPlan H) (e : ScheduledEvent H) : Bool :=
  e.summary.streamGroup = s.streamGroup &&
    (s.burstStartNs ≤ e.dueOffsetNs && e.dueOffsetNs < s.burstStartNs + oneSecondNs)

/-- A schedule of all records of a plan. -/
structure ExactSchedule {H : Hashlib} (p : WorkloadPlanV1 H) (events : List (ScheduledEvent H)) :
    Prop where
  /-- By due time, and by id at one due time. -/
  sorted : SortedBy ScheduledEvent.key events
  length : events.length = p.expectedRecordCount
  /-- Every record of every stream once. -/
  records : (events.map fun e => (e.summary.streamGroup, e.ordinal)).Perm
    (p.streams.flatMap fun s => (List.range s.expectedRecordCount).map (s.streamGroup, ·))
  /-- The events of an identity that fit its quota are due in the burst, the others are not due in
  the second of the burst. -/
  due : ∀ e ∈ events, e.summary ∈ p.streams ∧ ∃ identity localSequence,
    e.summary.eventFactsAt H e.ordinal = .ok (e.eventId, identity, localSequence) ∧
      (localSequence < e.summary.burstQuotaPerIdentity →
        e.dueOffsetNs = e.summary.burstStartNs) ∧
      (e.summary.burstQuotaPerIdentity ≤ localSequence → e.dueOffsetNs < e.summary.burstStartNs ∨
        e.summary.burstStartNs + oneSecondNs ≤ e.dueOffsetNs)
  drained : ∀ e ∈ events, e.dueOffsetNs + oneSecondNs < e.summary.durationNs
  bursts : ∀ s ∈ p.streams, events.countP (inBurstSecond s) = s.scheduledBurstCount

namespace StreamPlan

variable {H : Hashlib} {s : StreamPlan H}

theorem dueAt_lt {place : Nat × Nat} (hplace : place ∈ s.places 0 s.identityCount) :
    s.dueAt place + oneSecondNs < s.durationNs := by
  unfold dueAt
  split_ifs with hquota
  · have hseconds := Nat.div_mul_le_self s.durationNs oneSecondNs
    have hmul := Nat.mul_le_mul_right oneSecondNs (Nat.succ_le_of_lt s.lawful.burstSecond_lt)
    have hpos : 0 < oneSecondNs := by decide
    rw [Nat.succ_mul, Nat.succ_mul] at hmul
    rw [s.lawful.burstStart]
    omega
  · exact smoothDueOffsetNs_lt (rank_lt hplace (not_lt.mp hquota))

theorem inBurstSecond_scheduledAt (place : Nat × Nat) :
    inBurstSecond s (s.scheduledAt place) = decide (place.2 < s.burstQuotaPerIdentity) := by
  by_cases hquota : place.2 < s.burstQuotaPerIdentity
  · have hpos : 0 < oneSecondNs := by decide
    simp [inBurstSecond, scheduledAt, dueAt, hquota, hpos]
  · have houtside := smoothDueOffsetNs_outside (s := s) (s.smoothRank place)
    simp only [inBurstSecond, scheduledAt, dueAt, hquota, if_false, decide_true, Bool.true_and,
      decide_false, Bool.and_eq_false_imp, decide_eq_true_eq, decide_eq_false_iff_not]
    omega

/-- The places in the burst are as many as the plan says. -/
theorem countP_burst : (s.places 0 s.identityCount).countP (·.2 < s.burstQuotaPerIdentity) =
    s.scheduledBurstCount := by
  have hall := congrArg List.length (StreamPlanFields.map_ordinalOf_places_all s.lawful)
  rw [List.length_map, List.length_range] at hall
  have hsmooth := StreamPlanFields.length_smoothPlaces s.lawful
  have hfilter : (s.places 0 s.identityCount).filter (fun place =>
      !decide (place.2 < s.burstQuotaPerIdentity)) =
        (List.range' 0 s.identityCount).flatMap s.smoothPlacesAt := by
    rw [StreamPlanFields.places, List.filter_flatMap, Nat.sub_zero]
    refine List.flatMap_congr fun i _ => ?_
    rw [StreamPlanFields.placesAt_eq, List.filter_append, List.filter_eq_nil_iff.mpr,
      List.filter_eq_self.mpr, List.nil_append]
    · intro place hplace
      simpa using (StreamPlanFields.mem_smoothPlacesAt.mp hplace).2
    · intro place hplace
      simpa using (StreamPlanFields.mem_burstPlacesAt.mp hplace).2
  have hsplit := List.length_eq_countP_add_countP (l := s.places 0 s.identityCount)
    fun place => decide (place.2 < s.burstQuotaPerIdentity)
  have hrest : (s.places 0 s.identityCount).countP (fun place =>
      decide ¬ decide (place.2 < s.burstQuotaPerIdentity) = true) =
        s.expectedRecordCount - s.scheduledBurstCount := by
    rw [← hsmooth, ← hfilter, List.countP_eq_length_filter]
    refine congrArg List.length (List.filter_congr fun place _ => ?_)
    rw [Bool.eq_iff_iff]
    simp
  have hle : s.scheduledBurstCount ≤ s.expectedRecordCount :=
    s.lawful.scheduledBurst ▸ min_le_left _ _
  rw [hrest, hall] at hsplit
  omega

end StreamPlan

section Plans

variable {H : Hashlib} {p : WorkloadPlanV1 H}

/-- The events of a stream in a plan. -/
theorem filter_streamGroup {s : StreamPlan H} (hs : s ∈ p.streams) :
    p.scheduled.filter (·.summary.streamGroup = s.streamGroup) =
      (s.places 0 s.identityCount).map s.scheduledAt := by
  rw [WorkloadPlanV1.scheduled,
    filter_flatMap_eq (q := fun t : StreamPlan H => t.streamGroup = s.streamGroup),
    filter_key_of_mem p.nodup_streamGroups hs, List.flatMap_singleton]
  intro t _ e he
  obtain ⟨place, -, rfl⟩ := List.mem_map.mp he
  rfl

theorem countP_inBurstSecond {s : StreamPlan H} (hs : s ∈ p.streams) :
    p.scheduled.countP (inBurstSecond s) = s.scheduledBurstCount := by
  have hstream : p.scheduled.countP (inBurstSecond s) =
      (p.scheduled.filter (·.summary.streamGroup = s.streamGroup)).countP (inBurstSecond s) := by
    rw [List.countP_filter]
    refine List.countP_congr fun e _ => ?_
    simpa [inBurstSecond] using fun h _ _ => h
  rw [hstream, filter_streamGroup hs, List.countP_map, ← StreamPlan.countP_burst (s := s)]
  refine List.countP_congr fun place _ => ?_
  rw [Function.comp_apply, StreamPlan.inBurstSecond_scheduledAt]

/-- The records of the events of all places. -/
theorem map_record_scheduled (p : WorkloadPlanV1 H) :
    (p.scheduled.map fun e => (e.summary.streamGroup, e.ordinal)) =
      p.streams.flatMap fun s => (List.range s.expectedRecordCount).map (s.streamGroup, ·) := by
  rw [WorkloadPlanV1.scheduled, List.map_flatMap]
  refine List.flatMap_congr fun s _ => ?_
  rw [← StreamPlanFields.map_ordinalOf_places_all s.lawful, List.map_map, List.map_map]
  rfl

theorem expectedRecordCount_eq (p : WorkloadPlanV1 H) :
    p.expectedRecordCount = (p.streams.map (·.expectedRecordCount)).sum := by
  have htotals := (orElse_eq_none.mp p.valid).2
  simp only [WorkloadPlanFields.validateTotals, orElse_eq_none, refuseIf_eq_none,
    decide_eq_false_iff_not, ne_eq, not_not] at htotals
  exact htotals.2.2.1

theorem length_scheduled (p : WorkloadPlanV1 H) : p.scheduled.length = p.expectedRecordCount := by
  have hrecords := congrArg List.length (map_record_scheduled p)
  rw [List.length_map, List.length_flatMap] at hrecords
  rw [hrecords, expectedRecordCount_eq]
  congr 1
  refine List.map_congr_left fun s _ => ?_
  rw [List.length_map, List.length_range]

/-- The schedule of every plan does not raise and is exact: it holds every record of the plan once,
by due time and id; the bursts have their size and their second for themselves, and the last second
is left to the drain. -/
theorem planSchedule_exact (p : WorkloadPlanV1 H) :
    ∃ events, planSchedule p = .ok events ∧ ExactSchedule p events := by
  refine ⟨_, planSchedule_eq, ?_⟩
  have hperm := sortedBy_perm ScheduledEvent.key p.scheduled
  refine ⟨sortedBy_sortedBy _ _, hperm.length_eq.trans (length_scheduled p), ?_, fun e he => ?_,
    fun e he => ?_, fun s hs => (hperm.countP_eq _).trans (countP_inBurstSecond hs)⟩
  · rw [← map_record_scheduled]
    exact hperm.map _
  · obtain ⟨s, hs, place, hplace, rfl⟩ := WorkloadPlanV1.mem_scheduled.mp (mem_sortedBy.mp he)
    obtain ⟨identity, -, hfacts⟩ := StreamPlan.eventFactsAt_ordinalOf hplace
    refine ⟨hs, identity, place.2, hfacts, fun hquota => if_pos hquota, fun hquota => ?_⟩
    change s.dueAt place < _ ∨ _ ≤ s.dueAt place
    have hsmooth : ¬ place.2 < s.burstQuotaPerIdentity := not_lt.mpr hquota
    rw [StreamPlan.dueAt, if_neg hsmooth]
    exact StreamPlan.smoothDueOffsetNs_outside _
  · obtain ⟨s, hs, place, hplace, rfl⟩ := WorkloadPlanV1.mem_scheduled.mp (mem_sortedBy.mp he)
    exact StreamPlan.dueAt_lt hplace

end Plans

end CryptoCollector.Benchmarks
