import CryptoCollector.Benchmarks.ScheduleOrder

/-!
# The ids of events

The id of an event is the digest of a record that names its stream group, its identity and its
sequence number. The parts of a record are separated by colons; all of them but the canonical
identity have none, and so have the parts of a canonical identity.

* `planSchedule_records`: the ids of a plan are the digests of different records.
-/

namespace CryptoCollector.Benchmarks

open Lib Storage

/-! ## Parts of a text -/

/-- A part of a text that is separated by colons. -/
def IsPart (s : String) : Prop := ':' ∉ s.toList

/-- Two lists are read up to the first separator. -/
theorem eq_of_append_cons {α : Type} {c : α} {as bs xs ys : List α} (ha : c ∉ as) (hb : c ∉ bs)
    (h : as ++ c :: xs = bs ++ c :: ys) : as = bs ∧ xs = ys := by
  induction as generalizing bs with
  | nil =>
    cases bs with
    | nil => exact ⟨rfl, (List.cons.inj h).2⟩
    | cons b bs => exact absurd List.mem_cons_self ((List.cons.inj h).1 ▸ hb)
  | cons a as ih =>
    cases bs with
    | nil => exact absurd List.mem_cons_self ((List.cons.inj h).1 ▸ ha)
    | cons b bs =>
      obtain ⟨hhead, htail⟩ := List.cons.inj h
      obtain ⟨hrest, hxs⟩ := ih (fun hmem => ha (List.mem_cons_of_mem _ hmem))
        (fun hmem => hb (List.mem_cons_of_mem _ hmem)) htail
      exact ⟨by rw [hhead, hrest], hxs⟩

/-- Two texts that start with a part and a colon have the same part and the same rest. -/
theorem eq_of_part_append {a b x y : String} (ha : IsPart a) (hb : IsPart b)
    (h : a ++ ":" ++ x = b ++ ":" ++ y) : a = b ∧ x = y := by
  have hlist := congrArg String.toList h
  simp only [String.toList_append, List.append_assoc] at hlist
  obtain ⟨hab, hxy⟩ : a.toList = b.toList ∧ x.toList = y.toList := eq_of_append_cons ha hb hlist
  exact ⟨String.toList_inj.mp hab, String.toList_inj.mp hxy⟩

/-- Two texts that end with a colon and a part have the same part and the same rest. -/
theorem eq_of_append_part {a b x y : String} (ha : IsPart a) (hb : IsPart b)
    (h : x ++ ":" ++ a = y ++ ":" ++ b) : x = y ∧ a = b := by
  have hlist := congrArg (fun s => s.toList.reverse) h
  simp only [String.toList_append, List.reverse_append] at hlist
  obtain ⟨hab, hxy⟩ : a.toList.reverse = b.toList.reverse ∧ x.toList.reverse = y.toList.reverse :=
    eq_of_append_cons (mt List.mem_reverse.mp ha) (mt List.mem_reverse.mp hb) hlist
  exact ⟨String.toList_inj.mp (List.reverse_inj.mp hxy),
    String.toList_inj.mp (List.reverse_inj.mp hab)⟩

theorem eq_of_append_left {a x y : String} (h : a ++ x = a ++ y) : x = y := by
  have hlist := congrArg String.toList h
  rw [String.toList_append, String.toList_append] at hlist
  exact String.toList_inj.mp (List.append_cancel_left hlist)

theorem isPart_append {s t : String} (hs : IsPart s) (ht : IsPart t) : IsPart (s ++ t) := by
  rw [IsPart, String.toList_append, List.mem_append]
  exact fun h => h.elim hs ht

theorem isPart_of_digits {s : String} (h : ∀ c ∈ s.toList, c.isDigit = true) : IsPart s := by
  intro hmem
  have hcolon : (':').isDigit = true := h ':' hmem
  revert hcolon
  decide

theorem isPart_padded (width n : Nat) : IsPart (padded width n) := by
  refine isPart_of_digits fun c hc => ?_
  rw [padded, String.toList_ofList, List.mem_append] at hc
  obtain hc | hc := hc
  · rw [List.eq_of_mem_replicate hc]
    decide
  · exact isDigit_of_mem_toDigits hc

theorem toString_eq_padded (n : Nat) : toString n = padded 0 n := by
  change Nat.repr n = _
  rw [Nat.repr_eq_ofList_toDigits, padded, Nat.zero_sub]
  rfl

theorem isPart_instrumentKey {i : IdentityFacts} {key : String} (h : i.instrumentKey = some key) :
    IsPart key := by
  obtain ⟨scope, -, rfl⟩ := Option.map_eq_some_iff.mp h
  have hexchange : IsPart (upper i.exchange.value) := by
    unfold IsPart
    cases i.exchange <;> decide
  have hmarket : IsPart (upper scope.market.value) := by
    unfold IsPart
    cases scope.market <;> decide
  have hgate : IsPart "GATE-" := by unfold IsPart; decide
  have hdash : IsPart "-" := by unfold IsPart; decide
  have hlane : IsPart "-L" := by unfold IsPart; decide
  have hsymbol : IsPart "-S" := by unfold IsPart; decide
  exact isPart_append hgate (isPart_append (isPart_append (isPart_append (isPart_append
    (isPart_append (isPart_append hexchange hdash) hmarket) hlane) (isPart_padded _ _)) hsymbol)
    (isPart_padded _ _))

/-! ## Records -/

theorem isPart_exchange (x : Exchange) : IsPart x.value := by
  unfold IsPart
  cases x <;> decide

theorem isPart_market (m : Market) : IsPart m.value := by
  unfold IsPart
  cases m <;> decide

theorem isPart_streamGroup (g : StreamGroup) : IsPart g.value := by
  unfold IsPart
  cases g <;> decide

theorem StreamGroup.value_injective : Function.Injective StreamGroup.value := by
  intro a b h
  cases a <;> cases b <;> first | rfl | exact absurd h (by decide)

/-- The parts of the canonical identity of an identity with a scope. -/
theorem canonicalIdentity_of_scope {i : IdentityFacts} {market : Market} {key : String}
    (hmarket : i.market = some market) (hkey : i.instrumentKey = some key) :
    i.canonicalIdentity = "gate-identity-v1:" ++
      (i.exchange.value ++ ":" ++ (market.value ++ ":" ++ (key ++ ":" ++ i.logicalStream.value))) := by
  unfold IdentityFacts.canonicalIdentity
  rw [hmarket, hkey]
  dsimp only
  simp only [String.append_assoc]

/-- The parts of the canonical identity of an identity without a scope. -/
theorem canonicalIdentity_of_control {i : IdentityFacts} (h : i.scope = none) :
    i.canonicalIdentity = "gate-identity-v1:" ++ (i.exchange.value ++ ":" ++ "-:-:_control") := by
  unfold IdentityFacts.canonicalIdentity IdentityFacts.market
  rw [h]
  dsimp only [Option.map_none]
  simp only [String.append_assoc]

/-! ## Records -/

namespace StreamPlanFields

variable {s : StreamPlanFields}

/-- Two identities of a stream with one canonical identity are the same identity. -/
theorem eq_of_canonicalIdentity_eq (h : s.Lawful) {i j : Nat} {facts facts' : IdentityFacts}
    (hfacts : s.identityFactsAt i = .ok facts) (hfacts' : s.identityFactsAt j = .ok facts')
    (heq : facts.canonicalIdentity = facts'.canonicalIdentity) : i = j := by
  by_cases hgroup : s.streamGroup = .control
  · obtain ⟨hi, hcontrol⟩ := control_of_identityFactsAt hgroup hfacts
    obtain ⟨hj, hcontrol'⟩ := control_of_identityFactsAt hgroup hfacts'
    have hscope : facts.scope = none := by rw [hcontrol]
    have hscope' : facts'.scope = none := by rw [hcontrol']
    rw [canonicalIdentity_of_control hscope, canonicalIdentity_of_control hscope'] at heq
    have hexchange := Exchange.value_injective (eq_of_part_append (isPart_exchange _)
      (isPart_exchange _) (eq_of_append_left heq)).1
    exact index_inj h.exchanges_nodup hi (hexchange ▸ hj)
  · obtain ⟨-, scope, hscope, -⟩ := scaled_of_identityFactsAt hgroup hfacts
    obtain ⟨-, scope', hscope', -⟩ := scaled_of_identityFactsAt hgroup hfacts'
    have hmarket : facts.market = some scope.market := congrArg _ hscope
    have hmarket' : facts'.market = some scope'.market := congrArg _ hscope'
    obtain ⟨key, hkey⟩ : ∃ key, facts.instrumentKey = some key :=
      ⟨_, congrArg (Option.map _) hscope⟩
    obtain ⟨key', hkey'⟩ : ∃ key, facts'.instrumentKey = some key :=
      ⟨_, congrArg (Option.map _) hscope'⟩
    rw [canonicalIdentity_of_scope hmarket hkey, canonicalIdentity_of_scope hmarket' hkey'] at heq
    obtain ⟨hexchange, hrest⟩ := eq_of_part_append (isPart_exchange _) (isPart_exchange _)
      (eq_of_append_left heq)
    obtain ⟨hmarkets, hrest⟩ := eq_of_part_append (isPart_market _) (isPart_market _) hrest
    obtain ⟨hkeys, hstream⟩ := eq_of_part_append (isPart_instrumentKey hkey)
      (isPart_instrumentKey hkey') hrest
    refine eq_of_key_eq h hfacts hfacts' (Exchange.value_injective hexchange) ?_
    rw [IdentityFacts.key, IdentityFacts.key, hmarket, hmarket', hkey, hkey', hkeys, hstream,
      Market.value_injective hmarkets]

/-- A record gives its stream group, its canonical identity and its sequence number. -/
theorem eq_of_eventRecord_eq {t : StreamPlanFields} (hs : s.Lawful) (ht : t.Lawful)
    {identity identity' : String} {k k' : Nat}
    (h : s.eventRecord identity k = t.eventRecord identity' k') :
    s.streamGroup = t.streamGroup ∧ identity = identity' ∧ k = k' := by
  have hdigits (n : Nat) : IsPart (toString n) := toString_eq_padded n ▸ isPart_padded 0 n
  obtain ⟨hrest, hsequence⟩ := eq_of_append_part (hdigits k) (hdigits k') h
  have halgorithm : s.algorithms.event = t.algorithms.event := by
    rw [hs.algorithms, ht.algorithms]
  simp only [halgorithm, String.append_assoc] at hrest
  have hseed := eq_of_append_left (eq_of_append_left hrest)
  simp only [← String.append_assoc] at hseed
  obtain ⟨hgroup, hidentity⟩ := eq_of_part_append (hdigits _) (hdigits _)
    (by simpa only [String.append_assoc] using hseed)
  obtain ⟨hgroup, hidentity⟩ := eq_of_part_append (isPart_streamGroup _) (isPart_streamGroup _)
    (by simpa only [String.append_assoc] using hidentity)
  refine ⟨StreamGroup.value_injective hgroup, hidentity, ?_⟩
  rw [toString_eq_padded, toString_eq_padded] at hsequence
  exact UtcHour.padded_injective 0 hsequence

end StreamPlanFields

namespace StreamPlan

variable {H : Hashlib} {s : StreamPlan H}

/-- The record of the event of a place. -/
def recordAt (s : StreamPlan H) (place : Nat × Nat) : String :=
  match s.identityFactsAt place.1 with
  | .ok facts => s.eventRecord facts.canonicalIdentity place.2
  | .error _ => ""

theorem recordAt_eq {place : Nat × Nat} {facts : IdentityFacts}
    (h : s.identityFactsAt place.1 = .ok facts) :
    s.recordAt place = s.eventRecord facts.canonicalIdentity place.2 := by
  rw [recordAt, h]

/-- The identity of a place. -/
theorem exists_identityFactsAt_place {place : Nat × Nat}
    (hplace : place ∈ s.places 0 s.identityCount) :
    ∃ facts, s.identityFactsAt place.1 = .ok facts :=
  StreamPlanFields.exists_identityFactsAt s.lawful (StreamPlanFields.mem_places.mp hplace).2.1

theorem eventIdAt_eq {place : Nat × Nat} (hplace : place ∈ s.places 0 s.identityCount) :
    s.eventIdAt place = H.hexdigest (ascii (s.recordAt place)) := by
  obtain ⟨facts, hfacts⟩ := exists_identityFactsAt_place hplace
  rw [recordAt_eq hfacts, eventIdAt, hfacts]
  rfl

/-- The places of a stream have different records. -/
theorem nodup_recordAt : ((s.places 0 s.identityCount).map s.recordAt).Nodup := by
  have hplaces : (s.places 0 s.identityCount).Nodup := by
    refine List.Nodup.of_map s.ordinalOf ?_
    rw [StreamPlanFields.map_ordinalOf_places_all s.lawful]
    exact List.nodup_range
  refine (List.nodup_map_iff_inj_on hplaces).mpr fun a ha b hb h => ?_
  obtain ⟨facts, hfacts⟩ := exists_identityFactsAt_place ha
  obtain ⟨facts', hfacts'⟩ := exists_identityFactsAt_place hb
  rw [recordAt_eq hfacts, recordAt_eq hfacts'] at h
  obtain ⟨-, hidentity, hsequence⟩ := StreamPlanFields.eq_of_eventRecord_eq s.lawful s.lawful h
  exact Prod.ext
    (StreamPlanFields.eq_of_canonicalIdentity_eq s.lawful hfacts hfacts' hidentity) hsequence

end StreamPlan

/-! ## Plans -/

section Plans

variable {H : Hashlib} {p : WorkloadPlanV1 H}

/-- The places of a plan. -/
def WorkloadPlanV1.places (p : WorkloadPlanV1 H) : List (StreamPlan H × (Nat × Nat)) :=
  p.streams.flatMap fun s => (s.places 0 s.identityCount).map (s, ·)

theorem WorkloadPlanV1.scheduled_eq_map (p : WorkloadPlanV1 H) :
    p.scheduled = p.places.map fun place => place.1.scheduledAt place.2 := by
  rw [scheduled, places, List.map_flatMap]
  refine List.flatMap_congr fun s _ => ?_
  rw [List.map_map]
  rfl

theorem WorkloadPlanV1.mem_places {place : StreamPlan H × (Nat × Nat)} (h : place ∈ p.places) :
    place.1 ∈ p.streams ∧ place.2 ∈ place.1.places 0 place.1.identityCount := by
  obtain ⟨s, hs, hplace⟩ := List.mem_flatMap.mp h
  obtain ⟨place, hmem, rfl⟩ := List.mem_map.mp hplace
  exact ⟨hs, hmem⟩

/-- The places of a plan have different records. -/
theorem WorkloadPlanV1.nodup_records (p : WorkloadPlanV1 H) :
    (p.places.map fun place => place.1.recordAt place.2).Nodup := by
  have hmap : (p.places.map fun place => place.1.recordAt place.2) =
      p.streams.flatMap fun s => (s.places 0 s.identityCount).map s.recordAt := by
    rw [places, List.map_flatMap]
    refine List.flatMap_congr fun s _ => ?_
    rw [List.map_map]
    rfl
  rw [hmap, List.nodup_flatMap]
  refine ⟨fun s _ => StreamPlan.nodup_recordAt, ?_⟩
  refine (List.pairwise_map.mp p.nodup_streamGroups).imp fun {s t} hne => ?_
  intro record hs ht
  obtain ⟨a, ha, rfl⟩ := List.mem_map.mp hs
  obtain ⟨b, hb, heq⟩ := List.mem_map.mp ht
  obtain ⟨facts, hfacts⟩ := StreamPlan.exists_identityFactsAt_place ha
  obtain ⟨facts', hfacts'⟩ := StreamPlan.exists_identityFactsAt_place hb
  rw [StreamPlan.recordAt_eq hfacts, StreamPlan.recordAt_eq hfacts'] at heq
  exact hne (StreamPlanFields.eq_of_eventRecord_eq t.lawful s.lawful heq).1.symm

/-- The ids of the events of a plan are the SHA-256 digests of different texts, one for each event.
Where the digests of these texts do not collide, no id occurs twice, and the events come in strictly
increasing order of due time and id. -/
theorem planSchedule_records (p : WorkloadPlanV1 H) : ∃ events, ∃ records : List String,
    planSchedule p = .ok events ∧ records.Nodup ∧ (events.map (·.eventId)) = records.map (fun r => H.hexdigest (ascii r)) ∧
    ((∀ r ∈ records, ∀ r' ∈ records, H.sha256 (ascii r) = H.sha256 (ascii r') → r = r') →
      (events.map (·.eventId)).Nodup ∧ events.Pairwise fun a b => a.key < b.key) := by
  -- The places of the plan in the order of their events.
  set places := sortedBy (fun place => (place.1.scheduledAt place.2).key) p.places with hsorted
  have hperm : places.Perm p.places := sortedBy_perm _ _
  have hevents : planSchedule p = .ok (places.map fun place => place.1.scheduledAt place.2) := by
    rw [planSchedule_eq, WorkloadPlanV1.scheduled_eq_map, sortedBy_map]
  have hrecords : (places.map fun place => place.1.recordAt place.2).Nodup :=
    (hperm.map _).nodup_iff.mpr p.nodup_records
  have hids : ((places.map fun place => place.1.scheduledAt place.2).map (·.eventId)) =
      (places.map fun place => place.1.recordAt place.2).map fun r => H.hexdigest (ascii r) := by
    rw [List.map_map, List.map_map]
    refine List.map_congr_left fun place hplace => ?_
    exact StreamPlan.eventIdAt_eq (WorkloadPlanV1.mem_places (hperm.mem_iff.mp hplace)).2
  refine ⟨_, _, hevents, hrecords, hids, fun hcollision => ?_⟩
  have hnodup : ((places.map fun place => place.1.scheduledAt place.2).map (·.eventId)).Nodup := by
    rw [hids]
    exact (List.nodup_map_iff_inj_on hrecords).mpr fun r hr r' hr' h =>
      hcollision r hr r' hr' (Hashlib.sha256_of_hexdigest h)
  refine ⟨hnodup, ?_⟩
  have hle : SortedBy ScheduledEvent.key (places.map fun place => place.1.scheduledAt place.2) := by
    rw [hsorted, ← sortedBy_map]
    exact sortedBy_sortedBy _ _
  refine (List.Pairwise.and hle (List.pairwise_map.mp hnodup)).imp fun {a b} hab => ?_
  refine lt_of_le_of_ne hab.1 fun hkey => hab.2 ?_
  exact congrArg (fun k => (ofLex k).2) hkey

end Plans

end CryptoCollector.Benchmarks
