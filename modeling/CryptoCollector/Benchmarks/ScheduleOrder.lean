import CryptoCollector.Benchmarks.Allocation
import Mathlib.Data.Prod.Lex

/-!
# The order of the schedules

What the schedules are: the events of all places, each at its due time, sorted by due time and id.

* `spanSchedule_eq`: the schedule of a span of identities.
* `planSchedule_eq`: the schedule of a plan.
-/

namespace CryptoCollector.Benchmarks

open Lib Storage

/-! ## Events of places -/

/-- The key of the schedules. -/
def ScheduledEvent.key {H : Hashlib} (e : ScheduledEvent H) : Lex (Nat × String) :=
  toLex (e.dueOffsetNs, e.eventId)

theorem scheduledBefore_eq {H : Hashlib} :
    (scheduledBefore : ScheduledEvent H → ScheduledEvent H → Bool) =
      fun a b => decide (a.key ≤ b.key) := by
  funext a b
  rw [Bool.eq_iff_iff, decide_eq_true_eq, ScheduledEvent.key, ScheduledEvent.key,
    Prod.Lex.toLex_le_toLex]
  simp [scheduledBefore]

namespace StreamPlan

variable {H : Hashlib} (s : StreamPlan H)

/-- The due time of a place. -/
def dueAt (place : Nat × Nat) : Nat :=
  if place.2 < s.burstQuotaPerIdentity then s.burstStartNs
  else s.smoothDueOffsetNs (s.smoothRank place)

/-- The id of the event of a place. -/
def eventIdAt (place : Nat × Nat) : String :=
  match s.identityFactsAt place.1 with
  | .ok facts => s.plannedEventId H facts.canonicalIdentity place.2
  | .error _ => ""

/-- The event of a place. -/
def scheduledAt (place : Nat × Nat) : ScheduledEvent H where
  summary := s
  ordinal := s.ordinalOf place
  dueOffsetNs := s.dueAt place
  eventId := s.eventIdAt place

variable {s}

/-- The facts of the event of a place. -/
theorem eventFactsAt_ordinalOf {place : Nat × Nat} (hplace : place ∈ s.places 0 s.identityCount) :
    ∃ facts, s.identityFactsAt place.1 = .ok facts ∧
      s.eventFactsAt H (s.ordinalOf place) = .ok (s.eventIdAt place, facts, place.2) := by
  obtain ⟨-, hi, -⟩ := StreamPlanFields.mem_places.mp hplace
  obtain ⟨facts, hfacts⟩ := StreamPlanFields.exists_identityFactsAt s.lawful hi
  refine ⟨facts, hfacts, ?_⟩
  rw [StreamPlanFields.eventFactsAt,
    StreamPlanFields.ordinalIdentityFactsAndSequence_eq s.lawful hplace, eventIdAt, hfacts]
  rfl

/-! ## Due times -/

theorem smoothDueOffsetNs_mono {m n : Nat} (h : m ≤ n) :
    s.smoothDueOffsetNs m ≤ s.smoothDueOffsetNs n := by
  have hle := Nat.div_le_div_right
    (c := s.expectedRecordCount - s.scheduledBurstCount)
    (Nat.mul_le_mul_right (s.durationNs - oneSecondNs - oneSecondNs) h)
  unfold smoothDueOffsetNs
  dsimp only
  split_ifs <;> omega

/-- An event that is not in the burst is not due in the second of the burst. -/
theorem smoothDueOffsetNs_outside (n : Nat) : s.smoothDueOffsetNs n < s.burstStartNs ∨
    s.burstStartNs + oneSecondNs ≤ s.smoothDueOffsetNs n := by
  unfold smoothDueOffsetNs
  dsimp only
  split_ifs <;> omega

theorem smoothDueOffsetNs_ne (n : Nat) : s.smoothDueOffsetNs n ≠ s.burstStartNs := by
  have houtside := smoothDueOffsetNs_outside (s := s) n
  have hpos : 0 < oneSecondNs := by decide
  omega

/-- An event that is not in the burst is due before the last second. -/
theorem smoothDueOffsetNs_lt {n : Nat} (h : n < s.expectedRecordCount - s.scheduledBurstCount) :
    s.smoothDueOffsetNs n + oneSecondNs < s.durationNs := by
  have hduration := s.lawful.duration_le
  have hpos : 0 < oneSecondNs := by decide
  have houtside : 0 < s.durationNs - oneSecondNs - oneSecondNs := by omega
  have hlt : n * (s.durationNs - oneSecondNs - oneSecondNs) /
      (s.expectedRecordCount - s.scheduledBurstCount) <
        s.durationNs - oneSecondNs - oneSecondNs := by
    refine (Nat.div_lt_iff_lt_mul (by omega)).mpr ?_
    rw [Nat.mul_comm]
    exact Nat.mul_lt_mul_of_pos_left h houtside
  unfold smoothDueOffsetNs
  dsimp only
  split_ifs <;> omega

/-! ## Spans -/

theorem rank_lt {place : Nat × Nat} (hplace : place ∈ s.places 0 s.identityCount)
    (hquota : s.burstQuotaPerIdentity ≤ place.2) :
    s.smoothRank place < s.expectedRecordCount - s.scheduledBurstCount := by
  obtain ⟨-, hi, hk⟩ := StreamPlanFields.mem_places.mp hplace
  have hmem : place ∈ (List.range' 0 s.identityCount).flatMap s.smoothPlacesAt :=
    List.mem_flatMap.mpr ⟨place.1, List.mem_range'_1.mpr ⟨Nat.zero_le _, by omega⟩,
      StreamPlanFields.mem_smoothPlacesAt.mpr
        ⟨StreamPlanFields.mem_placesAt.mpr ⟨rfl, hk⟩, hquota⟩⟩
  have hrank := List.mem_map_of_mem (f := s.smoothRank) hmem
  rw [StreamPlanFields.map_smoothRank, List.mem_range'_1, Nat.zero_add,
    StreamPlanFields.smoothBefore_identityCount s.lawful] at hrank
  have hzero : s.smoothBefore 0 = 0 := rfl
  omega

/-- The events of one due time are sorted by their ids. -/
theorem sortedBy_key_of_due {rows : List TieRow} {due : Nat} (h : ∀ row ∈ rows, row.2.2 = due) :
    sortedBy Prod.fst rows = sortedBy (fun row : TieRow => toLex (row.2.2, row.1)) rows := by
  refine sortedBy_congr fun a ha b hb => ?_
  rw [Prod.Lex.toLex_le_toLex, h a ha, h b hb]
  simp

/-- Groups of one due time that are sorted one by one are sorted together. -/
theorem flushTies_eq {prior : Option Nat} {tieGroup rows : List TieRow}
    (htie : ∀ row ∈ tieGroup, prior = some row.2.2)
    (hprior : ∀ due ∈ prior, ∀ row ∈ rows, due ≤ row.2.2)
    (hrows : rows.Pairwise fun a b => a.2.2 ≤ b.2.2) :
    flushTies prior tieGroup rows =
      sortedBy (fun row : TieRow => toLex (row.2.2, row.1)) (tieGroup ++ rows) := by
  -- The rows of a group have one due time, which is at most that of the other rows.
  have hgroup {prior : Option Nat} {tieGroup : List TieRow}
      (htie : ∀ row ∈ tieGroup, prior = some row.2.2) :
      sortedBy Prod.fst tieGroup =
        sortedBy (fun row : TieRow => toLex (row.2.2, row.1)) tieGroup := by
    cases prior with
    | none =>
      cases tieGroup with
      | nil => rfl
      | cons row _ => cases htie row List.mem_cons_self
    | some due => exact sortedBy_key_of_due fun row hrow => (Option.some.inj (htie row hrow)).symm
  induction rows generalizing prior tieGroup with
  | nil => rw [List.append_nil, flushTies, hgroup htie]
  | cons row rows ih =>
    obtain ⟨hrow, hrest⟩ := List.pairwise_cons.mp hrows
    have hnext : ∀ due ∈ some row.2.2, ∀ r ∈ rows, due ≤ r.2.2 := by
      rintro due hdue r hr
      cases hdue
      exact hrow r hr
    rw [flushTies]
    split_ifs with hflush
    · obtain ⟨due, rfl⟩ : ∃ due, prior = some due := by
        cases prior with
        | none => cases hflush
        | some due => exact ⟨due, rfl⟩
      have hne : due ≠ row.2.2 := by simpa using hflush
      have hlt : due < row.2.2 :=
        lt_of_le_of_ne (hprior due rfl row List.mem_cons_self) hne
      rw [ih (by simp) hnext hrest, hgroup htie]
      refine sortedBy_append fun a ha b hb => Prod.Lex.toLex_le_toLex.mpr (.inl ?_)
      have ha' : due = a.2.2 := Option.some.inj (htie a ha)
      have hb' : row.2.2 ≤ b.2.2 := by
        rcases List.mem_cons.mp hb with rfl | hb
        · exact le_rfl
        · exact hrow b hb
      exact ha' ▸ hlt.trans_le hb'
    · have hsame : ∀ due ∈ prior, due = row.2.2 := by
        rintro due rfl
        simpa using hflush
      rw [ih (fun r hr => ?_) hnext hrest, List.append_assoc]
      · rfl
      · rcases List.mem_append.mp hr with hr | hr
        · rw [hsame _ (htie r hr)]
        · rw [List.mem_singleton.mp hr]

theorem mem_places_of_mem_flatMap {start stop : Nat} {f : Nat → List (Nat × Nat)}
    (hstop : stop ≤ s.identityCount) (hf : ∀ i, ∀ place ∈ f i, place ∈ s.placesAt i)
    {place : Nat × Nat} (h : place ∈ (List.range' start (stop - start)).flatMap f) :
    place ∈ s.places 0 s.identityCount := by
  obtain ⟨i, hi, hplace⟩ := List.mem_flatMap.mp h
  obtain ⟨rfl, hk⟩ := StreamPlanFields.mem_placesAt.mp (hf i place hplace)
  have hrange := List.mem_range'_1.mp hi
  exact StreamPlanFields.mem_places.mpr ⟨Nat.zero_le _, by omega, hk⟩

section Span

variable {start stop : Nat} (hstart : start ≤ s.identityCount) (hstop : stop ≤ s.identityCount)

include hstart hstop

/-- The burst of a span. -/
theorem burstSchedule_eq : s.burstSchedule start stop = .ok (sortedBy ScheduledEvent.key
    (((List.range' start (stop - start)).flatMap s.burstPlacesAt).map s.scheduledAt)) := by
  set burst := (List.range' start (stop - start)).flatMap s.burstPlacesAt with hburst
  have hmem : ∀ place ∈ burst, place ∈ s.places 0 s.identityCount ∧
      place.2 < s.burstQuotaPerIdentity := by
    intro place hplace
    refine ⟨mem_places_of_mem_flatMap hstop
      (fun i place h => (StreamPlanFields.mem_burstPlacesAt.mp h).1) hplace, ?_⟩
    obtain ⟨i, -, hi⟩ := List.mem_flatMap.mp hplace
    exact (StreamPlanFields.mem_burstPlacesAt.mp hi).2
  have hrows : (burst.map s.ordinalOf).mapM s.burstRow =
      .ok (burst.map fun place => (s.eventIdAt place, s.ordinalOf place)) := by
    refine mapM_map_eq_ok fun place hplace => ?_
    obtain ⟨facts, -, hfacts⟩ := eventFactsAt_ordinalOf (hmem place hplace).1
    rw [burstRow, hfacts]
    rfl
  rw [burstSchedule, StreamPlanFields.burstOrdinals_eq hstart, ok_bind, ← hburst, hrows, ok_bind]
  change Except.ok _ = Except.ok _
  rw [sortedBy_map, sortedBy_map, List.map_map]
  have hkey : sortedBy (fun place => (s.scheduledAt place).key) burst =
      sortedBy s.eventIdAt burst := by
    refine sortedBy_congr fun a ha b hb => ?_
    rw [ScheduledEvent.key, ScheduledEvent.key, Prod.Lex.toLex_le_toLex]
    simp only [scheduledAt, dueAt, if_pos (hmem a ha).2, if_pos (hmem b hb).2, lt_self_iff_false,
      false_or, true_and]
  rw [hkey]
  congr 1
  refine List.map_congr_left fun place hplace => ?_
  have hquota := (hmem place (mem_sortedBy.mp hplace)).2
  rw [Function.comp_apply, scheduledAt, dueAt, if_pos hquota]

/-- The other events of a span. -/
theorem smoothSchedule_eq : s.smoothSchedule start stop = .ok (sortedBy ScheduledEvent.key
    (((List.range' start (stop - start)).flatMap s.smoothPlacesAt).map s.scheduledAt)) := by
  set smooth := (List.range' start (stop - start)).flatMap s.smoothPlacesAt with hsmooth
  have hmem : ∀ place ∈ smooth, place ∈ s.places 0 s.identityCount ∧
      s.burstQuotaPerIdentity ≤ place.2 := by
    intro place hplace
    refine ⟨mem_places_of_mem_flatMap hstop
      (fun i place h => (StreamPlanFields.mem_smoothPlacesAt.mp h).1) hplace, ?_⟩
    obtain ⟨i, -, hi⟩ := List.mem_flatMap.mp hplace
    exact (StreamPlanFields.mem_smoothPlacesAt.mp hi).2
  unfold smoothSchedule
  split_ifs with hzero
  · have hempty : smooth = [] := by
      rw [List.eq_nil_iff_forall_not_mem]
      intro place hplace
      have hrank := rank_lt (hmem place hplace).1 (hmem place hplace).2
      omega
    rw [hempty]
    rfl
  · have hrows : (smooth.map fun place => (s.smoothRank place, s.ordinalOf place)).mapM s.smoothRow =
        .ok (smooth.map fun place => (s.eventIdAt place, s.ordinalOf place, s.dueAt place)) := by
      refine mapM_map_eq_ok fun place hplace => ?_
      obtain ⟨facts, -, hfacts⟩ := eventFactsAt_ordinalOf (hmem place hplace).1
      rw [smoothRow, hfacts, dueAt, if_neg (not_lt.mpr (hmem place hplace).2)]
      rfl
    have hdue : (smooth.map fun place =>
        (s.eventIdAt place, s.ordinalOf place, s.dueAt place)).Pairwise
          fun a b => a.2.2 ≤ b.2.2 := by
      have hranks : smooth.Pairwise fun a b => s.smoothRank a ≤ s.smoothRank b := by
        have hall : (smooth.map s.smoothRank).Pairwise (· ≤ ·) := by
          rw [hsmooth, StreamPlanFields.map_smoothRank]
          exact (List.pairwise_lt_range' ..).imp le_of_lt
        exact List.pairwise_map.mp hall
      refine List.pairwise_map.mpr (hranks.imp_of_mem fun ha hb hle => ?_)
      simp only [dueAt, if_neg (not_lt.mpr (hmem _ ha).2), if_neg (not_lt.mpr (hmem _ hb).2)]
      exact smoothDueOffsetNs_mono hle
    rw [StreamPlanFields.indexedSmoothOrdinals_eq hstart, ok_bind, ← hsmooth, hrows, ok_bind,
      flushTies_eq (by simp) (by simp) hdue, List.nil_append]
    change Except.ok _ = Except.ok _
    rw [sortedBy_map, sortedBy_map, List.map_map]
    rfl

/-- The schedule of a span: the events of its places, by due time and id. -/
theorem spanSchedule_eq : s.spanSchedule start stop =
    .ok (sortedBy ScheduledEvent.key ((s.places start stop).map s.scheduledAt)) := by
  rw [spanSchedule, burstSchedule_eq hstart hstop, ok_bind, smoothSchedule_eq hstart hstop, ok_bind]
  change Except.ok _ = Except.ok _
  rw [heapqMerge, scheduledBefore_eq, mergeAll_eq_sortedBy (by simp [sortedBy_sortedBy])]
  have hflatten (xs ys : List (ScheduledEvent H)) : [xs, ys].flatten = xs ++ ys := by simp
  rw [hflatten]
  congr 1
  refine sortedBy_congr_filter fun k => ?_
  -- A key has the due time of the burst, or another one: either way it is that of one kind of
  -- event.
  rw [List.filter_append, filter_key_sortedBy, filter_key_sortedBy, List.map_flatMap,
    List.map_flatMap, StreamPlanFields.places, List.map_flatMap, List.filter_flatMap,
    List.filter_flatMap, List.filter_flatMap]
  have hplaces (i : Nat) : ((s.placesAt i).map s.scheduledAt).filter (·.key = k) =
      ((s.burstPlacesAt i).map s.scheduledAt).filter (·.key = k) ++
        ((s.smoothPlacesAt i).map s.scheduledAt).filter (·.key = k) := by
    rw [StreamPlanFields.placesAt_eq, List.map_append, List.filter_append]
  have hempty : ((List.range' start (stop - start)).flatMap
      fun _ => ([] : List (ScheduledEvent H))) = [] := by simp
  by_cases hdue : (ofLex k).1 = s.burstStartNs
  · have hnone (i : Nat) : ((s.smoothPlacesAt i).map s.scheduledAt).filter (·.key = k) = [] := by
      rw [List.filter_eq_nil_iff]
      intro e he hk
      obtain ⟨place, hplace, rfl⟩ := List.mem_map.mp he
      have hquota := (StreamPlanFields.mem_smoothPlacesAt.mp hplace).2
      rw [← of_decide_eq_true hk] at hdue
      change s.dueAt place = _ at hdue
      rw [dueAt, if_neg (not_lt.mpr hquota)] at hdue
      exact smoothDueOffsetNs_ne _ hdue
    simp only [hplaces, hnone, List.append_nil, hempty]
  · have hnone (i : Nat) : ((s.burstPlacesAt i).map s.scheduledAt).filter (·.key = k) = [] := by
      rw [List.filter_eq_nil_iff]
      intro e he hk
      obtain ⟨place, hplace, rfl⟩ := List.mem_map.mp he
      have hquota := (StreamPlanFields.mem_burstPlacesAt.mp hplace).2
      rw [← of_decide_eq_true hk] at hdue
      exact hdue (if_pos hquota)
    simp only [hplaces, hnone, List.nil_append, hempty]

end Span

end StreamPlan

/-! ## Plans -/

section Plans

variable {H : Hashlib} {p : WorkloadPlanV1 H}

/-- The events of all places of a plan, in the order of its streams. -/
def WorkloadPlanV1.scheduled (p : WorkloadPlanV1 H) : List (ScheduledEvent H) :=
  p.streams.flatMap fun s => (s.places 0 s.identityCount).map s.scheduledAt

/-- The schedules of spans of the streams are merged to the stable sort of their events. -/
theorem mergedSpans_eq {span : StreamPlan H → Except GenerationError (List (ScheduledEvent H))}
    {rows : StreamPlan H → List (ScheduledEvent H)}
    (h : ∀ s ∈ p.streams, span s = .ok (sortedBy ScheduledEvent.key (rows s))) :
    (do return heapqMerge scheduledBefore (← p.streams.mapM span)) =
      Except.ok (sortedBy ScheduledEvent.key (p.streams.flatMap rows)) := by
  rw [mapM_eq_ok h, ok_bind]
  change Except.ok _ = Except.ok _
  rw [heapqMerge, scheduledBefore_eq, mergeAll_eq_sortedBy]
  · have hmap : (p.streams.map fun s => sortedBy ScheduledEvent.key (rows s)) =
        (p.streams.map rows).map (sortedBy ScheduledEvent.key) := by
      rw [List.map_map]
      rfl
    rw [hmap, sortedBy_flatten_map, List.flatMap]
  · intro items hitems
    obtain ⟨s, -, rfl⟩ := List.mem_map.mp hitems
    exact sortedBy_sortedBy _ _

/-- The schedule of a plan: the events of its places, by due time and id. -/
theorem planSchedule_eq : planSchedule p = .ok (sortedBy ScheduledEvent.key p.scheduled) :=
  mergedSpans_eq fun _ _ => StreamPlan.spanSchedule_eq (Nat.zero_le _) le_rfl

/-- Every event of a plan is the event of a place of one of its streams. -/
theorem WorkloadPlanV1.mem_scheduled {e : ScheduledEvent H} :
    e ∈ p.scheduled ↔
      ∃ s ∈ p.streams, ∃ place ∈ s.places 0 s.identityCount, e = s.scheduledAt place := by
  rw [scheduled, List.mem_flatMap]
  refine exists_congr fun s => and_congr_right fun _ => ?_
  rw [List.mem_map]
  exact exists_congr fun place => and_congr_right fun _ => eq_comm

end Plans

end CryptoCollector.Benchmarks
