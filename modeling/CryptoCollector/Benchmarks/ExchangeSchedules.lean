import CryptoCollector.Benchmarks.PlannedEvents
import CryptoCollector.Benchmarks.ScheduleOrder

/-!
# The schedules of the exchanges

The worker of an exchange generates the events of its exchange only, from the span of its identities
in every stream.

* `exchangePlanSchedule_eq`: the schedule of an exchange is what the schedule of the plan has of it.
* `iterExchangePlanEvents_eq`: so are the events of an exchange.
-/

namespace CryptoCollector.Benchmarks

open Lib Storage

/-! ## Exchanges of identities -/

namespace StreamPlanFields

variable {s : StreamPlanFields}

theorem Lawful.exchanges_pos (h : s.Lawful) : 0 < s.exchanges.length := by
  have hpos := h.identityCount_pos
  by_cases hgroup : s.streamGroup = .control
  · rwa [h.identityCount_control hgroup] at hpos
  · rw [h.identityCount_scaled hgroup] at hpos
    exact Nat.pos_of_mul_pos_right hpos

/-- Every exchange has the same number of identities, which follow each other. -/
theorem Lawful.exists_exchangeSpan (h : s.Lawful) : ∃ perExchange, 0 < perExchange ∧
    s.identityCount = s.exchanges.length * perExchange ∧
    ∀ i facts, s.identityFactsAt i = .ok facts →
      s.exchanges[i / perExchange]? = some facts.exchange := by
  by_cases hgroup : s.streamGroup = .control
  · refine ⟨1, Nat.one_pos, by rw [Nat.mul_one, h.identityCount_control hgroup],
      fun i facts hfacts => ?_⟩
    rw [Nat.div_one]
    exact (control_of_identityFactsAt hgroup hfacts).1
  · refine ⟨s.perExchange, h.perExchange_pos hgroup, h.identityCount_scaled hgroup,
      fun i facts hfacts => ?_⟩
    obtain ⟨-, -, -, -, -, hexchange, -⟩ := scaled_of_identityFactsAt hgroup hfacts
    exact hexchange

/-- The span of an exchange holds the identities of the exchange. -/
theorem exists_exchangeIdentitySpan (h : s.Lawful) {x : Exchange} (hx : x ∈ s.exchanges) :
    ∃ start stop, s.exchangeIdentitySpan x = .ok (start, stop) ∧ start ≤ stop ∧
      stop ≤ s.identityCount ∧ ∀ i facts, s.identityFactsAt i = .ok facts →
        (facts.exchange = x ↔ start ≤ i ∧ i < stop) := by
  obtain ⟨perExchange, hpos, hcount, hexchange⟩ := h.exists_exchangeSpan
  have hper : s.identityCount / s.exchanges.length = perExchange := by
    rw [hcount, Nat.mul_div_cancel_left _ h.exchanges_pos]
  have hmod : s.identityCount % s.exchanges.length = 0 := by
    rw [hcount, Nat.mul_mod_right]
  have hlt : s.exchanges.idxOf x < s.exchanges.length := List.idxOf_lt_length_iff.mpr hx
  refine ⟨s.exchanges.idxOf x * perExchange,
    s.exchanges.idxOf x * perExchange + perExchange, ?_, Nat.le_add_right _ _, ?_,
    fun i facts hfacts => ?_⟩
  · unfold exchangeIdentitySpan tupleIndex
    rw [if_pos hx, ok_bind, hper, hmod]
    rfl
  · rw [hcount, ← Nat.succ_mul]
    exact Nat.mul_le_mul_right _ hlt
  · have hi := hexchange i facts hfacts
    have hself : s.exchanges[s.exchanges.idxOf x]? = some x := List.getElem?_idxOf hx
    have hindex : facts.exchange = x ↔ i / perExchange = s.exchanges.idxOf x := by
      constructor
      · rintro rfl
        exact index_inj h.exchanges_nodup hi hself
      · intro heq
        rw [heq, hself] at hi
        exact (Option.some.inj hi).symm
    rw [hindex, Nat.div_eq_iff hpos, ← Nat.succ_mul, Nat.succ_mul]
    omega

/-- The places of a span among those of all identities. -/
theorem filter_places {start stop : Nat} (hle : start ≤ stop) (hstop : stop ≤ s.identityCount) :
    (s.places 0 s.identityCount).filter (fun place => start ≤ place.1 ∧ place.1 < stop) =
      s.places start stop := by
  have hsplit : List.range' 0 s.identityCount = List.range' 0 start ++
      (List.range' start (stop - start) ++ List.range' stop (s.identityCount - stop)) := by
    have hmiddle := List.range'_append_1 (s := start) (m := stop - start) (n := s.identityCount - stop)
    have hall := List.range'_append_1 (s := 0) (m := start)
      (n := stop - start + (s.identityCount - stop))
    rw [Nat.add_sub_cancel' hle] at hmiddle
    rw [Nat.zero_add] at hall
    rw [hmiddle, hall]
    congr 1
    omega
  have hspan : (List.range' 0 s.identityCount).filter (fun i => start ≤ i ∧ i < stop) =
      List.range' start (stop - start) := by
    have hnone {low count : Nat} (h : low + count ≤ start ∨ stop ≤ low) :
        (List.range' low count).filter (fun i => start ≤ i ∧ i < stop) = [] := by
      refine List.filter_eq_nil_iff.mpr fun i hi hspan => ?_
      have hrange := List.mem_range'_1.mp hi
      have hspan := of_decide_eq_true hspan
      omega
    rw [hsplit, List.filter_append, List.filter_append, hnone (.inl (by omega)),
      hnone (.inr le_rfl), List.nil_append, List.append_nil, List.filter_eq_self]
    intro i hi
    have hrange := List.mem_range'_1.mp hi
    exact decide_eq_true ⟨hrange.1, by omega⟩
  rw [places, Nat.sub_zero, filter_flatMap_eq (q := fun i => start ≤ i ∧ i < stop), hspan, places]
  intro i _ place hplace
  rw [(mem_placesAt.mp hplace).1]

end StreamPlanFields

/-! ## Schedules -/

/-- The exchange of an event. -/
def ScheduledEvent.exchange {H : Hashlib} (e : ScheduledEvent H) : Option Exchange :=
  match e.summary.eventFactsAt H e.ordinal with
  | .ok (_, identity, _) => some identity.exchange
  | .error _ => none

theorem exchange_of_eventFactsAt {H : Hashlib} {e : ScheduledEvent H} {eventId : String}
    {identity : IdentityFacts} {localSequence : Nat}
    (h : e.summary.eventFactsAt H e.ordinal = .ok (eventId, identity, localSequence)) :
    e.exchange = some identity.exchange := by
  rw [ScheduledEvent.exchange, h]

section Exchanges

variable {H : Hashlib} {p : WorkloadPlanV1 H} {x : Exchange}

/-- The places of an exchange in a stream. -/
theorem exchangeSchedule_eq {s : StreamPlan H} (hx : x ∈ s.exchanges) :
    s.exchangeSchedule x = .ok (sortedBy ScheduledEvent.key
      (((s.places 0 s.identityCount).map s.scheduledAt).filter (·.exchange = some x))) := by
  obtain ⟨start, stop, hspan, hle, hstop, hexchange⟩ :=
    StreamPlanFields.exists_exchangeIdentitySpan s.lawful hx
  rw [StreamPlan.exchangeSchedule, hspan, ok_bind,
    StreamPlan.spanSchedule_eq (hle.trans hstop) hstop]
  congr 2
  -- The identities from `start` on and below `stop` are those of the exchange.
  have hplace {place : Nat × Nat} (hmem : place ∈ s.places 0 s.identityCount) :
      ((s.scheduledAt place).exchange = some x ↔ start ≤ place.1 ∧ place.1 < stop) := by
    obtain ⟨facts, hfacts, hevent⟩ := StreamPlan.eventFactsAt_ordinalOf hmem
    rw [exchange_of_eventFactsAt hevent, Option.some.injEq]
    exact hexchange place.1 facts hfacts
  have hfilter : (s.places 0 s.identityCount).filter
      (fun place => (s.scheduledAt place).exchange = some x) = s.places start stop := by
    rw [← StreamPlanFields.filter_places hle hstop]
    exact List.filter_congr fun place hmem => decide_eq_decide.mpr (hplace hmem)
  rw [List.filter_map, ← hfilter]
  rfl

/-- The schedule of an exchange is what the schedule of the plan has of it. -/
theorem exchangePlanSchedule_eq (hx : ∀ s ∈ p.streams, x ∈ s.exchanges) :
    exchangePlanSchedule p x = .ok ((sortedBy ScheduledEvent.key p.scheduled).filter
      (·.exchange = some x)) := by
  refine (mergedSpans_eq fun s hs => exchangeSchedule_eq (hx s hs)).trans ?_
  rw [filter_sortedBy, WorkloadPlanV1.scheduled, List.filter_flatMap]

end Exchanges

/-! ## Events -/

/-- The exchange of an event that is built. -/
theorem exchange_of_buildEvent {H : Hashlib} {L : PayloadLibraries} {scheduled : ScheduledEvent H}
    {e : PlannedEventV1} (h : buildEvent H L scheduled = .ok e) :
    scheduled.exchange = some e.exchange := by
  obtain ⟨⟨eventId, identity, localSequence⟩, hfacts, h⟩ := bind_eq_ok.mp h
  obtain ⟨-, h⟩ := throw_bind_eq_ok.mp h
  obtain ⟨payload, -, h⟩ := bind_eq_ok.mp h
  obtain ⟨logicalIndex, -, h⟩ := bind_eq_ok.mp h
  obtain ⟨transport, -, h⟩ := bind_eq_ok.mp h
  cases h
  exact exchange_of_eventFactsAt hfacts

/-- What a loop yields of some items is what it yields of all items, where none of them raises. -/
theorem yielded_filter {α β ε : Type} {f : α → Except ε β} {p : α → Bool} {q : β → Bool}
    (h : ∀ a b, f a = .ok b → p a = q b) (xs : List α) :
    (yielded f xs).1.filter q <+: (yielded f (xs.filter p)).1 ∧
      ((yielded f xs).2 = none → yielded f (xs.filter p) = ((yielded f xs).1.filter q, none)) := by
  induction xs with
  | nil => exact ⟨List.prefix_rfl, fun _ => rfl⟩
  | cons a as ih =>
    obtain ⟨hinitial, hall⟩ := ih
    cases hf : f a with
    | error e =>
      simp only [yielded, hf, List.filter_nil]
      exact ⟨List.nil_prefix, fun h => by cases h⟩
    | ok b =>
      simp only [yielded, hf]
      cases hq : q b with
      | true =>
        have hp : p a = true := (h a b hf).trans hq
        rw [List.filter_cons_of_pos hq, List.filter_cons_of_pos hp]
        simp only [yielded, hf]
        refine ⟨List.cons_prefix_cons.mpr ⟨rfl, hinitial⟩, fun hnone => ?_⟩
        rw [hall hnone]
      | false =>
        have hp : ¬ p a = true := by simp [h a b hf, hq]
        rw [List.filter_cons_of_neg (by simp [hq]), List.filter_cons_of_neg hp]
        exact ⟨hinitial, hall⟩

/-- The events of an exchange are those of the plan that belong to it. -/
theorem iterExchangePlanEvents_filter {H : Hashlib} (L : PayloadLibraries) {p : WorkloadPlanV1 H}
    {x : Exchange} (hx : ∀ s ∈ p.streams, x ∈ s.exchanges) :
    (iterPlanEvents L p).1.filter (·.exchange = x) <+: (iterExchangePlanEvents L p x).1 ∧
    ((iterPlanEvents L p).2 = none →
      iterExchangePlanEvents L p x = ((iterPlanEvents L p).1.filter (·.exchange = x), none)) := by
  have hpresent : ¬ (p.streams.any fun s => x ∉ s.exchanges) = true := by
    rw [List.any_eq_true]
    rintro ⟨s, hs, habsent⟩
    exact of_decide_eq_true habsent (hx s hs)
  rw [iterPlanEvents, planSchedule_eq, iterExchangePlanEvents, if_neg hpresent,
    exchangePlanSchedule_eq hx]
  refine yielded_filter (fun scheduled e hbuilt => ?_) _
  rw [exchange_of_buildEvent hbuilt, Bool.eq_iff_iff, decide_eq_true_eq, decide_eq_true_eq,
    Option.some.injEq]

/-- The worker of an exchange gets the events of the plan that belong to its exchange, in the order
of the plan. Where the generation of the plan raises, the worker may get more events of its
exchange. -/
theorem iterExchangePlanEvents_eq {H : Hashlib} (L : PayloadLibraries) {p : WorkloadPlanV1 H}
    {x : Exchange} (hx : ∀ s ∈ p.streams, x ∈ s.exchanges) :
    (∃ events, planSchedule p = .ok events ∧
      exchangePlanSchedule p x = .ok (events.filter (·.exchange = some x))) ∧
    (iterPlanEvents L p).1.filter (·.exchange = x) <+: (iterExchangePlanEvents L p x).1 ∧
    ((iterPlanEvents L p).2 = none →
      iterExchangePlanEvents L p x = ((iterPlanEvents L p).1.filter (·.exchange = x), none)) :=
  ⟨⟨_, planSchedule_eq, exchangePlanSchedule_eq hx⟩, iterExchangePlanEvents_filter L hx⟩

/-- The worker of Binance in the default workload. -/
theorem researchPlan_binance : ∃ p, researchPlan = .ok p ∧
    (∃ events, planSchedule p = .ok events ∧
      exchangePlanSchedule p .binance = .ok (events.filter (·.exchange = some .binance))) ∧
    (iterPlanEvents compactPayloads p).1.filter (·.exchange = .binance) <+:
      (iterExchangePlanEvents compactPayloads p .binance).1 ∧
    ((iterPlanEvents compactPayloads p).2 = none →
      iterExchangePlanEvents compactPayloads p .binance =
        ((iterPlanEvents compactPayloads p).1.filter (·.exchange = .binance), none)) := by
  obtain ⟨p, hp, hexchanges⟩ := exists_researchPlan
  refine ⟨p, hp, iterExchangePlanEvents_eq compactPayloads fun s hs => ?_⟩
  rw [hexchanges s hs]
  decide

end CryptoCollector.Benchmarks
