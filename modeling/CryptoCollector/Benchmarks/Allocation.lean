import CryptoCollector.Benchmarks.Schedules

/-!
# Allocation

The records of a stream are dealt to its identities: the ordinals of one identity follow each other,
the first of them are in the burst. A place is an identity and a sequence number of it.

* `ordinalIdentityFactsAndSequence_eq`: the ordinal of a place has the identity and the sequence
  number of the place.
* `burstOrdinals_eq`, `indexedSmoothOrdinals_eq`: the loops over a span of identities go through its
  places.
* `smoothBefore_identityCount`: the places out of the burst are as many as the plan says.
-/

namespace CryptoCollector.Benchmarks

open Lib Storage

namespace StreamPlanFields

variable (s : StreamPlanFields)

/-! ## Places -/

/-- The ordinal of a place. -/
def ordinalOf (place : Nat × Nat) : Nat := s.ordinalStart place.1 + place.2

/-- The number of places out of the burst of the identities before an identity. -/
def smoothBefore (i : Nat) : Nat :=
  ((List.range i).map fun j => s.allocatedCount j - s.burstQuotaPerIdentity).sum

/-- The places out of the burst that come before a place out of the burst. -/
def smoothRank (place : Nat × Nat) : Nat :=
  s.smoothBefore place.1 + (place.2 - s.burstQuotaPerIdentity)

/-- The places of an identity. -/
def placesAt (i : Nat) : List (Nat × Nat) := (List.range (s.allocatedCount i)).map (i, ·)

/-- The places of an identity that are in the burst. -/
def burstPlacesAt (i : Nat) : List (Nat × Nat) :=
  (List.range (min (s.allocatedCount i) s.burstQuotaPerIdentity)).map (i, ·)

/-- The places of an identity that are not in the burst. -/
def smoothPlacesAt (i : Nat) : List (Nat × Nat) :=
  (List.range (s.allocatedCount i - s.burstQuotaPerIdentity)).map
    fun k => (i, s.burstQuotaPerIdentity + k)

/-- The places of a span of identities. -/
def places (start stop : Nat) : List (Nat × Nat) :=
  (List.range' start (stop - start)).flatMap s.placesAt

variable {s}

theorem placesAt_eq (i : Nat) : s.placesAt i = s.burstPlacesAt i ++ s.smoothPlacesAt i := by
  rw [placesAt, burstPlacesAt, smoothPlacesAt]
  obtain hle | hlt := le_total (s.allocatedCount i) s.burstQuotaPerIdentity
  · rw [min_eq_left hle, Nat.sub_eq_zero_of_le hle]
    exact (List.append_nil _).symm
  · have hsplit : s.allocatedCount i =
        s.burstQuotaPerIdentity + (s.allocatedCount i - s.burstQuotaPerIdentity) := by omega
    rw [min_eq_right hlt]
    conv_lhs => rw [hsplit, List.range_add, List.map_append, List.map_map]
    rfl

theorem mem_placesAt {i : Nat} {place : Nat × Nat} :
    place ∈ s.placesAt i ↔ place.1 = i ∧ place.2 < s.allocatedCount i := by
  rw [placesAt, List.mem_map]
  constructor
  · rintro ⟨k, hk, rfl⟩
    exact ⟨rfl, List.mem_range.mp hk⟩
  · rintro ⟨rfl, hk⟩
    exact ⟨place.2, List.mem_range.mpr hk, rfl⟩

theorem mem_burstPlacesAt {i : Nat} {place : Nat × Nat} :
    place ∈ s.burstPlacesAt i ↔ place ∈ s.placesAt i ∧ place.2 < s.burstQuotaPerIdentity := by
  rw [mem_placesAt, burstPlacesAt, List.mem_map]
  constructor
  · rintro ⟨k, hk, rfl⟩
    rw [List.mem_range, lt_min_iff] at hk
    exact ⟨⟨rfl, hk.1⟩, hk.2⟩
  · rintro ⟨⟨rfl, hk⟩, hquota⟩
    exact ⟨place.2, List.mem_range.mpr (lt_min hk hquota), rfl⟩

theorem mem_smoothPlacesAt {i : Nat} {place : Nat × Nat} :
    place ∈ s.smoothPlacesAt i ↔ place ∈ s.placesAt i ∧ s.burstQuotaPerIdentity ≤ place.2 := by
  rw [mem_placesAt, smoothPlacesAt, List.mem_map]
  constructor
  · rintro ⟨k, hk, rfl⟩
    rw [List.mem_range] at hk
    exact ⟨⟨rfl, by omega⟩, Nat.le_add_right _ _⟩
  · rintro ⟨⟨rfl, hk⟩, hquota⟩
    refine ⟨place.2 - s.burstQuotaPerIdentity, List.mem_range.mpr (by omega), ?_⟩
    rw [Nat.add_sub_cancel' hquota]

theorem mem_places {start stop : Nat} {place : Nat × Nat} :
    place ∈ s.places start stop ↔
      start ≤ place.1 ∧ place.1 < stop ∧ place.2 < s.allocatedCount place.1 := by
  rw [places, List.mem_flatMap]
  constructor
  · rintro ⟨i, hi, hplace⟩
    obtain ⟨rfl, hk⟩ := mem_placesAt.mp hplace
    have hrange := List.mem_range'_1.mp hi
    exact ⟨hrange.1, by omega, hk⟩
  · rintro ⟨hstart, hstop, hk⟩
    exact ⟨place.1, List.mem_range'_1.mpr ⟨hstart, by omega⟩, mem_placesAt.mpr ⟨rfl, hk⟩⟩

/-! ## Ordinals -/

theorem ordinalStart_succ (i : Nat) :
    s.ordinalStart (i + 1) = s.ordinalStart i + s.allocatedCount i := by
  rw [ordinalStart, ordinalStart, allocatedCount, Nat.add_mul, Nat.one_mul]
  split_ifs <;> omega

/-- The ordinals of the places of a span are those from its first one on. -/
theorem map_ordinalOf_places {start stop : Nat} (h : start ≤ stop) :
    (s.places start stop).map s.ordinalOf =
      List.range' (s.ordinalStart start) (s.ordinalStart stop - s.ordinalStart start) := by
  obtain ⟨k, rfl⟩ := Nat.exists_eq_add_of_le h
  rw [places, Nat.add_sub_cancel_left]
  clear h
  induction k generalizing start with
  | zero => simp
  | succ k ih =>
    have hnext := ordinalStart_succ (s := s) start
    have hle : s.ordinalStart (start + 1) ≤ s.ordinalStart (start + 1 + k) := by
      have hstep (j : Nat) : s.ordinalStart j ≤ s.ordinalStart (j + 1) := by
        rw [ordinalStart_succ]
        exact Nat.le_add_right _ _
      exact monotone_nat_of_le_succ hstep (Nat.le_add_right _ _)
    have hfirst : (s.placesAt start).map s.ordinalOf =
        List.range' (s.ordinalStart start) (s.allocatedCount start) := by
      rw [placesAt, List.map_map, List.range'_eq_map_range]
      rfl
    rw [List.range'_succ, List.flatMap_cons, List.map_append, ih, hfirst, hnext, List.range'_append_1]
    congr 1
    rw [show start + (k + 1) = start + 1 + k by omega]
    omega

theorem ordinalStart_identityCount (h : s.Lawful) :
    s.ordinalStart s.identityCount = s.expectedRecordCount := by
  have hlt := Nat.mod_lt s.expectedRecordCount h.identityCount_pos
  rw [ordinalStart, min_eq_right hlt.le]
  exact Nat.div_add_mod _ _

/-- The places of a stream have the ordinals of its records. -/
theorem map_ordinalOf_places_all (h : s.Lawful) :
    (s.places 0 s.identityCount).map s.ordinalOf = List.range s.expectedRecordCount := by
  rw [map_ordinalOf_places (Nat.zero_le _), ordinalStart_identityCount h, ordinalStart, Nat.zero_mul,
    Nat.zero_min, Nat.sub_zero, List.range_eq_range']

/-- The ordinal of a place has the identity and the sequence number of the place. -/
theorem ordinalIdentityFactsAndSequence_eq (h : s.Lawful) {place : Nat × Nat}
    (hplace : place ∈ s.places 0 s.identityCount) :
    s.ordinalIdentityFactsAndSequence (s.ordinalOf place) =
      (s.identityFactsAt place.1).map (·, place.2) := by
  have hordinal : s.ordinalOf place < s.expectedRecordCount := by
    rw [← List.mem_range, ← map_ordinalOf_places_all h]
    exact List.mem_map_of_mem hplace
  obtain ⟨-, hi, hk⟩ := mem_places.mp hplace
  obtain ⟨i, k⟩ := place
  unfold ordinalIdentityFactsAndSequence
  rw [if_neg (not_le.mpr hordinal)]
  dsimp only
  unfold ordinalOf ordinalStart
  unfold allocatedCount at hk
  dsimp only at hk ⊢
  set quotient := s.expectedRecordCount / s.identityCount
  set remainder := s.expectedRecordCount % s.identityCount
  by_cases hlonger : i < remainder
  · -- An identity of a longer allocation.
    rw [if_pos hlonger] at hk
    have hordinal : i * quotient + min i remainder + k = (quotient + 1) * i + k := by
      rw [min_eq_left hlonger.le, Nat.add_mul, Nat.mul_comm quotient i, Nat.one_mul]
    have hspan : (quotient + 1) * i + k < remainder * (quotient + 1) := by
      have hmul := Nat.mul_le_mul_right (quotient + 1) hlonger
      rw [Nat.succ_mul, Nat.mul_comm i] at hmul
      omega
    rw [hordinal, if_pos hspan, Nat.mul_add_div (Nat.succ_pos _), Nat.div_eq_of_lt hk, Nat.add_zero,
      Nat.mul_add_mod, Nat.mod_eq_of_lt hk]
    cases s.identityFactsAt i <;> rfl
  · rw [if_neg hlonger, Nat.add_zero] at hk
    obtain ⟨j, rfl⟩ := Nat.exists_eq_add_of_le (not_lt.mp hlonger)
    have hordinal : (remainder + j) * quotient + min (remainder + j) remainder + k =
        remainder * (quotient + 1) + (quotient * j + k) := by
      rw [min_eq_right (Nat.le_add_right _ _), Nat.add_mul, Nat.mul_succ, Nat.mul_comm j]
      omega
    have hquotient : quotient ≠ 0 := by omega
    rw [hordinal, if_neg (by omega), if_neg hquotient, Nat.add_sub_cancel_left,
      Nat.mul_add_div (by omega), Nat.div_eq_of_lt hk, Nat.add_zero, Nat.mul_add_mod,
      Nat.mod_eq_of_lt hk]
    cases s.identityFactsAt (remainder + j) <;> rfl

/-! ## Spans -/

theorem burstOrdinalsFrom_eq (i k : Nat) :
    s.burstOrdinalsFrom (s.ordinalStart i) (List.range' i k) =
      ((List.range' i k).flatMap s.burstPlacesAt).map s.ordinalOf := by
  induction k generalizing i with
  | zero => rfl
  | succ k ih =>
    have hfirst : (s.burstPlacesAt i).map s.ordinalOf = List.range' (s.ordinalStart i)
        (min (s.allocatedCount i) s.burstQuotaPerIdentity) := by
      rw [burstPlacesAt, List.map_map, List.range'_eq_map_range]
      rfl
    rw [List.range'_succ, burstOrdinalsFrom, List.flatMap_cons, List.map_append, hfirst,
      ← ordinalStart_succ, ih]

/-- The loop over the burst of a span goes through its places in the burst. -/
theorem burstOrdinals_eq {start stop : Nat} (h : start ≤ s.identityCount) :
    s.burstOrdinals start stop =
      .ok (((List.range' start (stop - start)).flatMap s.burstPlacesAt).map s.ordinalOf) := by
  rw [burstOrdinals, identityOrdinalStart, if_neg (not_lt.mpr h), ok_bind, burstOrdinalsFrom_eq]
  rfl

theorem smoothBefore_succ (i : Nat) :
    s.smoothBefore (i + 1) = s.smoothBefore i + (s.allocatedCount i - s.burstQuotaPerIdentity) := by
  rw [smoothBefore, smoothBefore, List.range_succ, List.map_append, List.sum_append]
  simp

/-- The closed form of the number of places out of the burst. -/
theorem smoothBefore_eq (i : Nat) :
    s.smoothBefore i = min i (s.expectedRecordCount % s.identityCount) *
        (s.expectedRecordCount / s.identityCount + 1 - s.burstQuotaPerIdentity) +
      (i - min i (s.expectedRecordCount % s.identityCount)) *
        (s.expectedRecordCount / s.identityCount - s.burstQuotaPerIdentity) := by
  induction i with
  | zero => simp [smoothBefore]
  | succ i ih =>
    rw [smoothBefore_succ, ih, allocatedCount]
    set quotient := s.expectedRecordCount / s.identityCount
    set remainder := s.expectedRecordCount % s.identityCount
    by_cases hlonger : i < remainder
    · rw [if_pos hlonger, min_eq_left hlonger.le, min_eq_left (Nat.succ_le_of_lt hlonger), Nat.sub_self,
        Nat.sub_self, Nat.zero_mul, Nat.succ_mul]
      omega
    · rw [if_neg hlonger, min_eq_right (not_lt.mp hlonger),
        min_eq_right ((not_lt.mp hlonger).trans (Nat.le_succ i)),
        Nat.succ_sub (not_lt.mp hlonger), Nat.succ_mul, Nat.add_assoc]
      rfl

theorem smoothCountBeforeIdentity_eq {i : Nat} (h : i ≤ s.identityCount) :
    s.smoothCountBeforeIdentity i = .ok (s.smoothBefore i) := by
  rw [smoothCountBeforeIdentity, if_neg (not_lt.mpr h), smoothBefore_eq]

theorem indexedSmoothOrdinalsFrom_eq (i k : Nat) :
    s.indexedSmoothOrdinalsFrom (s.ordinalStart i) (s.smoothBefore i) (List.range' i k) =
      ((List.range' i k).flatMap s.smoothPlacesAt).map
        fun place => (s.smoothRank place, s.ordinalOf place) := by
  induction k generalizing i with
  | zero => rfl
  | succ k ih =>
    have hremaining : s.allocatedCount i - min (s.allocatedCount i) s.burstQuotaPerIdentity =
        s.allocatedCount i - s.burstQuotaPerIdentity := by omega
    have hfirst : (s.smoothPlacesAt i).map (fun place => (s.smoothRank place, s.ordinalOf place)) =
        (List.range' (s.smoothBefore i) (s.allocatedCount i - s.burstQuotaPerIdentity)).zip
          (List.range' (s.ordinalStart i + min (s.allocatedCount i) s.burstQuotaPerIdentity)
            (s.allocatedCount i - s.burstQuotaPerIdentity)) := by
      rw [smoothPlacesAt, List.map_map, List.range'_eq_map_range, List.range'_eq_map_range,
        List.zip_map']
      refine List.map_congr_left fun j hj => ?_
      have hlt := List.mem_range.mp hj
      have hmin : min (s.allocatedCount i) s.burstQuotaPerIdentity = s.burstQuotaPerIdentity :=
        min_eq_right (by omega)
      rw [hmin]
      simp [smoothRank, ordinalOf, Nat.add_assoc]
    rw [List.range'_succ, indexedSmoothOrdinalsFrom, hremaining, List.flatMap_cons, List.map_append, hfirst, ← ordinalStart_succ,
      ← smoothBefore_succ, ih]

/-- The loop over the other events of a span goes through its other places. -/
theorem indexedSmoothOrdinals_eq {start stop : Nat} (h : start ≤ s.identityCount) :
    s.indexedSmoothOrdinals start stop =
      .ok (((List.range' start (stop - start)).flatMap s.smoothPlacesAt).map
        fun place => (s.smoothRank place, s.ordinalOf place)) := by
  rw [indexedSmoothOrdinals, identityOrdinalStart, if_neg (not_lt.mpr h), ok_bind,
    smoothCountBeforeIdentity_eq h, ok_bind, indexedSmoothOrdinalsFrom_eq]
  rfl

/-! ## Counts -/

/-- The ranks of the places out of the burst of a span are those from its first one on. -/
theorem map_smoothRank (i k : Nat) :
    ((List.range' i k).flatMap s.smoothPlacesAt).map s.smoothRank =
      List.range' (s.smoothBefore i) (s.smoothBefore (i + k) - s.smoothBefore i) := by
  induction k generalizing i with
  | zero => simp
  | succ k ih =>
    have hnext := smoothBefore_succ (s := s) i
    have hle : s.smoothBefore (i + 1) ≤ s.smoothBefore (i + 1 + k) := by
      have hstep (j : Nat) : s.smoothBefore j ≤ s.smoothBefore (j + 1) := by
        rw [smoothBefore_succ]
        exact Nat.le_add_right _ _
      exact monotone_nat_of_le_succ hstep (Nat.le_add_right _ _)
    have hfirst : (s.smoothPlacesAt i).map s.smoothRank =
        List.range' (s.smoothBefore i) (s.allocatedCount i - s.burstQuotaPerIdentity) := by
      rw [smoothPlacesAt, List.map_map, List.range'_eq_map_range]
      refine List.map_congr_left fun j _ => ?_
      simp [smoothRank]
    rw [List.range'_succ, List.flatMap_cons, List.map_append, ih, hfirst, hnext, List.range'_append_1]
    congr 1
    rw [show i + (k + 1) = i + 1 + k by omega]
    omega

/-- The bursts of all identities are the burst that the workload asks for. -/
theorem Lawful.identityCount_mul_quota (h : s.Lawful) :
    s.identityCount * s.burstQuotaPerIdentity =
      s.expectedBase * s.burstRecordsIn1s * s.multiplier := by
  rw [h.identityCount_eq, expectedIdentityCount, burstQuotaPerIdentity]
  split_ifs <;> ring

/-- The places out of the burst are as many as the plan says. -/
theorem smoothBefore_identityCount (h : s.Lawful) :
    s.smoothBefore s.identityCount = s.expectedRecordCount - s.scheduledBurstCount := by
  have hlt := Nat.mod_lt s.expectedRecordCount h.identityCount_pos
  have hrecords := Nat.div_add_mod s.expectedRecordCount s.identityCount
  rw [smoothBefore_eq, h.scheduledBurst, ← h.identityCount_mul_quota, min_eq_right hlt.le]
  set quotient := s.expectedRecordCount / s.identityCount
  set remainder := s.expectedRecordCount % s.identityCount
  rw [← hrecords]
  obtain ⟨rest, hrest⟩ := Nat.exists_eq_add_of_lt hlt
  obtain hle | hgt := Nat.lt_or_ge quotient s.burstQuotaPerIdentity
  · -- Every identity is in the burst whole.
    have hall : s.identityCount * quotient + remainder ≤
        s.identityCount * s.burstQuotaPerIdentity := by
      have hmul := Nat.mul_le_mul_left s.identityCount (Nat.succ_le_of_lt hle)
      rw [Nat.mul_succ] at hmul
      omega
    rw [min_eq_left hall, Nat.sub_self, Nat.sub_eq_zero_of_le (Nat.succ_le_of_lt hle),
      Nat.sub_eq_zero_of_le hle.le]
    rfl
  · obtain ⟨extra, hextra⟩ := Nat.exists_eq_add_of_le hgt
    have hmul : s.identityCount * quotient =
        s.identityCount * s.burstQuotaPerIdentity + s.identityCount * extra := by
      rw [hextra, Nat.mul_add]
    have hsplit : s.identityCount * extra =
        remainder * extra + (s.identityCount - remainder) * extra := by
      rw [← Nat.add_mul, Nat.add_sub_cancel' hlt.le]
    have hone : quotient + 1 - s.burstQuotaPerIdentity = extra + 1 := by omega
    have hzero : quotient - s.burstQuotaPerIdentity = extra := by omega
    rw [hone, hzero, Nat.mul_succ, min_eq_right (by omega)]
    omega

/-- The places out of the burst of all identities are as many as the plan says. -/
theorem length_smoothPlaces (h : s.Lawful) :
    ((List.range' 0 s.identityCount).flatMap s.smoothPlacesAt).length =
      s.expectedRecordCount - s.scheduledBurstCount := by
  have hranks := congrArg List.length (map_smoothRank (s := s) 0 s.identityCount)
  rw [List.length_map, List.length_range', Nat.zero_add, smoothBefore_identityCount h] at hranks
  rw [hranks, smoothBefore]
  simp

end StreamPlanFields

end CryptoCollector.Benchmarks
