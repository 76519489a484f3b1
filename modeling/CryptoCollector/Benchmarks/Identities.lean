import CryptoCollector.Benchmarks.StreamPlans
import CryptoCollector.Storage.Calendar
import Mathlib.Tactic.Ring

/-!
# Identities and ordinals

`benchmarks/oracle.py`: the identity at an index of a stream plan, and the identity, the sequence
number and the id of the event at an ordinal.

* `exists_identityFactsAt`: every index below the identity count has an identity.
* `eq_of_key_eq`: two identities of one exchange with one logical key are the same identity.
* `exists_eventFactsAt`: every ordinal below the record count has an event.
-/

namespace CryptoCollector.Benchmarks

open Lib Storage

/-- The exceptions that the generation of events raises. -/
inductive GenerationError where
  | indexError (message : String)
  | assertionError (message : String)
  | valueError (message : String)
  | jsonEncodeError
  deriving DecidableEq

/-- The item of a tuple at an index. -/
def index {α : Type} (items : List α) (i : Nat) : Except GenerationError α :=
  match items[i]? with
  | some item => .ok item
  | none => .error (.indexError "tuple index out of range")

/-- `items.index(item)`. -/
def tupleIndex {α : Type} [DecidableEq α] (items : List α) (item : α) :
    Except GenerationError Nat :=
  if item ∈ items then .ok (items.idxOf item)
  else .error (.valueError "tuple.index(x): x not in tuple")

theorem index_eq_ok {α : Type} {items : List α} {i : Nat} {item : α} :
    index items i = .ok item ↔ items[i]? = some item := by
  unfold index
  cases items[i]? <;> simp

theorem exists_index {α : Type} {items : List α} {i : Nat} (h : i < items.length) :
    ∃ item, index items i = .ok item :=
  ⟨items[i], index_eq_ok.mpr (List.getElem?_eq_getElem h)⟩

theorem index_inj {α : Type} {items : List α} (h : items.Nodup) {i j : Nat} {item : α}
    (hi : items[i]? = some item) (hj : items[j]? = some item) : i = j :=
  (List.getElem?_inj (List.getElem?_eq_some_iff.mp hi).1 h).mp (hi.trans hj.symm)

namespace StreamPlanFields

variable (s : StreamPlanFields)

/-! ## Identities -/

/-- `per_lane`. -/
def perLane : Nat := s.symbolsPerMarket * s.logicalStreams.length

/-- `per_market`. -/
def perMarket : Nat := s.multiplier * s.perLane

/-- `per_exchange`. -/
def perExchange : Nat := s.markets.length * s.perMarket

/-- `_identity_facts_at`. -/
def identityFactsAt (identityIndex : Nat) : Except GenerationError IdentityFacts :=
  if s.identityCount ≤ identityIndex then .error (.indexError (toString identityIndex))
  else if s.streamGroup = .control then do
    let exchange ← index s.exchanges identityIndex
    return ⟨s.streamGroup, .control, exchange, none, identityIndex⟩
  else do
    let exchangeIndex := identityIndex / s.perExchange
    let ofExchange := identityIndex % s.perExchange
    let marketIndex := ofExchange / s.perMarket
    let ofMarket := ofExchange % s.perMarket
    let laneIndex := ofMarket / s.perLane
    let ofLane := ofMarket % s.perLane
    let symbolIndex := ofLane / s.logicalStreams.length
    let logicalIndex := ofLane % s.logicalStreams.length
    let exchange ← index s.exchanges exchangeIndex
    let market ← index s.markets marketIndex
    let logicalStream ← index s.logicalStreams logicalIndex
    return ⟨s.streamGroup, logicalStream, exchange, some ⟨market, laneIndex, symbolIndex⟩,
      identityIndex⟩

/-! ## Ordinals -/

/-- `_ordinal_identity_facts_and_sequence`. -/
def ordinalIdentityFactsAndSequence (ordinal : Nat) :
    Except GenerationError (IdentityFacts × Nat) :=
  if s.expectedRecordCount ≤ ordinal then .error (.indexError (toString ordinal))
  else
    let quotient := s.expectedRecordCount / s.identityCount
    let remainder := s.expectedRecordCount % s.identityCount
    let longerSpan := remainder * (quotient + 1)
    if ordinal < longerSpan then do
      let identity ← s.identityFactsAt (ordinal / (quotient + 1))
      return (identity, ordinal % (quotient + 1))
    else if quotient = 0 then
      .error (.assertionError "zero allocation cannot have a remainder ordinal")
    else do
      let identity ← s.identityFactsAt (remainder + (ordinal - longerSpan) / quotient)
      return (identity, (ordinal - longerSpan) % quotient)

/-- `record` of `_planned_event_id`. -/
def eventRecord (canonicalIdentity : String) (localSequence : Nat) : String :=
  s.algorithms.event ++ ":" ++ toString s.generationSeed ++ ":" ++ s.streamGroup.value ++ ":" ++
    canonicalIdentity ++ ":" ++ toString localSequence

/-- `_planned_event_id`. -/
def plannedEventId (H : Hashlib) (canonicalIdentity : String) (localSequence : Nat) : String :=
  H.hexdigest (ascii (s.eventRecord canonicalIdentity localSequence))

/-- `_event_facts_at`. -/
def eventFactsAt (H : Hashlib) (ordinal : Nat) :
    Except GenerationError (String × IdentityFacts × Nat) := do
  let (identity, localSequence) ← s.ordinalIdentityFactsAndSequence ordinal
  return (s.plannedEventId H identity.canonicalIdentity localSequence, identity, localSequence)

/-! ## What an identity is -/

/-- What `_identity_facts_at` says of the identity at an index. -/
structure IdentityAt (i : Nat) (facts : IdentityFacts) : Prop where
  streamGroup : facts.streamGroup = s.streamGroup
  identityIndex : facts.identityIndex = i
  logicalStream : facts.logicalStream ∈ s.logicalStreams
  exchange : facts.exchange ∈ s.exchanges
  scope : ∀ scope ∈ facts.scope, facts.streamGroup ≠ .control ∧
    scope.laneIndex < s.multiplier ∧ scope.symbolIndex < s.symbolsPerMarket
  unscoped : facts.scope = none → facts.streamGroup = .control

variable {s}

theorem Lawful.logicalStreams_pos (h : s.Lawful) : 0 < s.logicalStreams.length := by
  rw [h.logicalStreams]
  cases s.streamGroup <;> decide

theorem Lawful.perLane_pos (h : s.Lawful) : 0 < s.perLane :=
  Nat.mul_pos h.symbols_pos h.logicalStreams_pos

theorem Lawful.perMarket_pos (h : s.Lawful) : 0 < s.perMarket :=
  Nat.mul_pos h.multiplier_pos h.perLane_pos

theorem expectedBase_scaled (hgroup : s.streamGroup ≠ .control) :
    s.expectedBase = s.exchanges.length * s.markets.length * s.symbolsPerMarket *
      s.streamGroup.logicalStreams.length := by
  unfold expectedBase
  cases hg : s.streamGroup with
  | control => exact absurd hg hgroup
  | derivative => rfl
  | _ => exact (Nat.mul_one _).symm

/-- The identities of a scaled stream are its exchanges by those of one exchange. -/
theorem Lawful.identityCount_scaled (h : s.Lawful) (hgroup : s.streamGroup ≠ .control) :
    s.identityCount = s.exchanges.length * s.perExchange := by
  rw [h.identityCount_eq, expectedIdentityCount, if_neg hgroup, expectedBase_scaled hgroup,
    perExchange, perMarket, perLane, h.logicalStreams]
  ac_rfl

theorem Lawful.identityCount_control (h : s.Lawful) (hgroup : s.streamGroup = .control) :
    s.identityCount = s.exchanges.length := by
  rw [h.identityCount_eq, expectedIdentityCount, if_pos hgroup, expectedBase, hgroup]

theorem Lawful.perExchange_pos (h : s.Lawful) (hgroup : s.streamGroup ≠ .control) :
    0 < s.perExchange := by
  have hpos := h.identityCount_pos
  rw [h.identityCount_scaled hgroup] at hpos
  exact Nat.pos_of_mul_pos_left hpos

/-- Every index below the identity count has an identity. -/
theorem exists_identityFactsAt (h : s.Lawful) {i : Nat} (hi : i < s.identityCount) :
    ∃ facts, s.identityFactsAt i = .ok facts := by
  rw [identityFactsAt, if_neg (not_le.mpr hi)]
  by_cases hgroup : s.streamGroup = .control
  · rw [if_pos hgroup]
    rw [h.identityCount_control hgroup] at hi
    obtain ⟨exchange, hexchange⟩ := exists_index hi
    rw [hexchange]
    exact ⟨_, rfl⟩
  · rw [if_neg hgroup]
    have hexchange : i / s.perExchange < s.exchanges.length := by
      rw [Nat.div_lt_iff_lt_mul (h.perExchange_pos hgroup), ← h.identityCount_scaled hgroup]
      exact hi
    have hmarket : i % s.perExchange / s.perMarket < s.markets.length := by
      rw [Nat.div_lt_iff_lt_mul h.perMarket_pos]
      exact Nat.mod_lt _ (h.perExchange_pos hgroup)
    obtain ⟨exchange, hexchange⟩ := exists_index hexchange
    obtain ⟨market, hmarket⟩ := exists_index hmarket
    have hlogical : i % s.perExchange % s.perMarket % s.perLane % s.logicalStreams.length <
        s.logicalStreams.length := Nat.mod_lt _ h.logicalStreams_pos
    obtain ⟨logicalStream, hlogical⟩ := exists_index hlogical
    dsimp only
    rw [hexchange, ok_bind, hmarket, ok_bind, hlogical, ok_bind]
    exact ⟨_, rfl⟩

/-- The parts of an identity of a scaled stream. -/
theorem scaled_of_identityFactsAt {i : Nat} {facts : IdentityFacts}
    (hgroup : s.streamGroup ≠ .control) (h : s.identityFactsAt i = .ok facts) :
    i < s.identityCount ∧ ∃ scope, facts.scope = some scope ∧ facts.streamGroup = s.streamGroup ∧
      facts.identityIndex = i ∧
      s.exchanges[i / s.perExchange]? = some facts.exchange ∧
      s.markets[i % s.perExchange / s.perMarket]? = some scope.market ∧
      scope.laneIndex = i % s.perExchange % s.perMarket / s.perLane ∧
      scope.symbolIndex =
        i % s.perExchange % s.perMarket % s.perLane / s.logicalStreams.length ∧
      s.logicalStreams[i % s.perExchange % s.perMarket % s.perLane %
        s.logicalStreams.length]? = some facts.logicalStream := by
  unfold identityFactsAt at h
  split_ifs at h with hcount
  obtain ⟨exchange, hexchange, h⟩ := bind_eq_ok.mp h
  obtain ⟨market, hmarket, h⟩ := bind_eq_ok.mp h
  obtain ⟨logicalStream, hlogical, h⟩ := bind_eq_ok.mp h
  cases h
  exact ⟨not_le.mp hcount, _, rfl, rfl, rfl, index_eq_ok.mp hexchange, index_eq_ok.mp hmarket, rfl,
    rfl, index_eq_ok.mp hlogical⟩

/-- The parts of a control identity. -/
theorem control_of_identityFactsAt {i : Nat} {facts : IdentityFacts}
    (hgroup : s.streamGroup = .control) (h : s.identityFactsAt i = .ok facts) :
    s.exchanges[i]? = some facts.exchange ∧
      facts = ⟨s.streamGroup, .control, facts.exchange, none, i⟩ := by
  unfold identityFactsAt at h
  split_ifs at h with hcount
  obtain ⟨exchange, hexchange, h⟩ := bind_eq_ok.mp h
  cases h
  exact ⟨index_eq_ok.mp hexchange, rfl⟩

/-- What `_identity_facts_at` says of the identity at an index. -/
theorem identityAt_of_eq_ok (h : s.Lawful) {i : Nat} {facts : IdentityFacts}
    (hfacts : s.identityFactsAt i = .ok facts) : s.IdentityAt i facts := by
  by_cases hgroup : s.streamGroup = .control
  · obtain ⟨hexchange, heq⟩ := control_of_identityFactsAt hgroup hfacts
    have hmem := List.mem_of_getElem? hexchange
    rw [heq]
    exact {
      streamGroup := rfl
      identityIndex := rfl
      logicalStream := by
        rw [h.logicalStreams, hgroup]
        exact List.mem_singleton_self _
      exchange := hmem
      scope := fun _ hscope => absurd hscope (Option.not_mem_none _)
      unscoped := fun _ => hgroup }
  · obtain ⟨-, scope, hscope, hsame, hindex, hexchange, -, hlane, hsymbol, hlogical⟩ :=
      scaled_of_identityFactsAt hgroup hfacts
    refine ⟨hsame, hindex, List.mem_of_getElem? hlogical, List.mem_of_getElem? hexchange,
      fun scope' hscope' => ⟨hsame ▸ hgroup, ?_⟩, fun hnone => ?_⟩
    · rw [hscope, Option.mem_some_iff] at hscope'
      subst hscope'
      rw [hlane, hsymbol, Nat.div_lt_iff_lt_mul h.perLane_pos,
        Nat.div_lt_iff_lt_mul h.logicalStreams_pos]
      exact ⟨Nat.mod_lt _ h.perMarket_pos, Nat.mod_lt _ h.perLane_pos⟩
    · rw [hscope] at hnone
      cases hnone

/-! ## Ordinals and events -/

/-- The longer allocations and the others are all records. -/
theorem spans_eq (records : Nat) {identities : Nat} (h : 0 < identities) :
    records % identities * (records / identities + 1) +
      (identities - records % identities) * (records / identities) = records := by
  obtain ⟨k, hk⟩ := Nat.exists_eq_add_of_lt (Nat.mod_lt records h)
  have hrecords := Nat.div_add_mod records identities
  generalize records / identities = quotient at *
  generalize records % identities = remainder at *
  have hrest : identities - remainder = k + 1 := by omega
  rw [hrest, ← hrecords, hk]
  ring

/-- Every ordinal below the record count has an identity. -/
theorem exists_ordinalIdentityFactsAndSequence (h : s.Lawful) {ordinal : Nat}
    (hordinal : ordinal < s.expectedRecordCount) :
    ∃ facts, s.ordinalIdentityFactsAndSequence ordinal = .ok facts := by
  have hrest := Nat.mod_lt s.expectedRecordCount h.identityCount_pos
  have hall := spans_eq s.expectedRecordCount h.identityCount_pos
  unfold ordinalIdentityFactsAndSequence
  rw [if_neg (not_le.mpr hordinal)]
  dsimp only
  set quotient := s.expectedRecordCount / s.identityCount
  set remainder := s.expectedRecordCount % s.identityCount
  by_cases hspan : ordinal < remainder * (quotient + 1)
  · rw [if_pos hspan]
    have hindex : ordinal / (quotient + 1) < s.identityCount :=
      lt_trans ((Nat.div_lt_iff_lt_mul (Nat.succ_pos _)).mpr hspan) hrest
    obtain ⟨facts, hfacts⟩ := exists_identityFactsAt h hindex
    rw [hfacts]
    exact ⟨_, rfl⟩
  · rw [if_neg hspan]
    have hquotient : quotient ≠ 0 := by
      intro hzero
      rw [hzero, Nat.mul_zero, Nat.add_zero] at hall
      rw [hzero] at hspan
      omega
    rw [if_neg hquotient]
    have htail : (ordinal - remainder * (quotient + 1)) / quotient <
        s.identityCount - remainder := by
      rw [Nat.div_lt_iff_lt_mul (Nat.pos_of_ne_zero hquotient)]
      omega
    obtain ⟨facts, hfacts⟩ := exists_identityFactsAt h (i := remainder +
      (ordinal - remainder * (quotient + 1)) / quotient) (by omega)
    rw [hfacts]
    exact ⟨_, rfl⟩

/-- Every ordinal below the record count has an event. -/
theorem exists_eventFactsAt (H : Hashlib) (h : s.Lawful) {ordinal : Nat}
    (hordinal : ordinal < s.expectedRecordCount) : ∃ facts, s.eventFactsAt H ordinal = .ok facts := by
  obtain ⟨⟨identity, localSequence⟩, hidentity⟩ := exists_ordinalIdentityFactsAndSequence h hordinal
  rw [eventFactsAt, hidentity]
  exact ⟨_, rfl⟩

/-- The identity of an event is an identity of the stream, and its id is computed from it. -/
theorem identityAt_of_eventFactsAt {H : Hashlib} (h : s.Lawful) {ordinal : Nat} {eventId : String}
    {identity : IdentityFacts} {localSequence : Nat}
    (hfacts : s.eventFactsAt H ordinal = .ok (eventId, identity, localSequence)) :
    s.identityFactsAt identity.identityIndex = .ok identity ∧
      eventId = s.plannedEventId H identity.canonicalIdentity localSequence := by
  obtain ⟨⟨identity', localSequence'⟩, hidentity, hfacts⟩ := bind_eq_ok.mp hfacts
  cases hfacts
  refine ⟨?_, rfl⟩
  have hindexed (i : Nat) (hi : s.identityFactsAt i = .ok identity) :
      s.identityFactsAt identity.identityIndex = .ok identity := by
    rw [(identityAt_of_eq_ok h hi).identityIndex, hi]
  unfold ordinalIdentityFactsAndSequence at hidentity
  dsimp only at hidentity
  split_ifs at hidentity
  · obtain ⟨facts, hi, hidentity⟩ := bind_eq_ok.mp hidentity
    cases hidentity
    exact hindexed _ hi
  · obtain ⟨facts, hi, hidentity⟩ := bind_eq_ok.mp hidentity
    cases hidentity
    exact hindexed _ hi

end StreamPlanFields

/-! ## Logical keys -/

/-- `_sequence_key` of the draft of an event. -/
def IdentityFacts.key (i : IdentityFacts) : LogicalKey :=
  ⟨i.market, i.instrumentKey, i.logicalStream.value⟩

/-- The shard of the events of an identity. -/
def IdentityFacts.shard (i : IdentityFacts) : String :=
  if i.logicalStream = .control then "_control"
  else "gate-" ++ i.logicalStream.value ++ "-" ++ toString i.identityIndex

theorem LogicalStream.value_injective : Function.Injective LogicalStream.value := by
  intro a b h
  cases a <;> cases b <;> first | rfl | exact absurd h (by decide)

theorem length_padded {width n : Nat} (hwidth : 0 < width) (h : n < 10 ^ width) :
    (padded width n).toList.length = width := by
  have hlength := (Nat.length_toDigits_le_iff (n := n) (b := 10) (by decide) hwidth).mpr h
  rw [padded, String.toList_ofList, List.length_append, List.length_replicate]
  omega

/-- Two padded numbers are read from one text. -/
theorem eq_of_padded_append {a b c d : Nat} (middle : String) (ha : a < 10000) (hb : b < 10000)
    (h : padded 4 a ++ middle ++ padded 4 c = padded 4 b ++ middle ++ padded 4 d) :
    a = b ∧ c = d := by
  have hlist := congrArg String.toList h
  simp only [String.toList_append, List.append_assoc] at hlist
  obtain ⟨hlane, hrest⟩ := List.append_inj hlist
    ((length_padded (by decide) ha).trans (length_padded (by decide) hb).symm)
  exact ⟨UtcHour.padded_injective 4 (String.toList_inj.mp hlane),
    UtcHour.padded_injective 4 (String.toList_inj.mp (List.append_cancel_left hrest))⟩

/-- The instrument key and the exchange of an identity give its lane and its symbol. -/
theorem scope_eq_of_instrumentKey {i j : IdentityFacts} {scope scope' : IdentityScope}
    (hi : i.scope = some scope) (hj : j.scope = some scope') (hexchange : i.exchange = j.exchange)
    (hmarket : scope.market = scope'.market) (hlane : scope.laneIndex < 10000)
    (hlane' : scope'.laneIndex < 10000) (hkey : i.instrumentKey = j.instrumentKey) :
    scope = scope' := by
  rw [IdentityFacts.instrumentKey, IdentityFacts.instrumentKey, hi, hj, hexchange, Option.map_some,
    Option.map_some, Option.some.injEq, hmarket] at hkey
  have hlist := congrArg String.toList hkey
  simp only [String.toList_append, List.append_assoc, List.append_cancel_left_eq] at hlist
  obtain ⟨hlanes, hsymbols⟩ := eq_of_padded_append "-S" hlane hlane'
    (String.toList_inj.mp (by simpa only [String.toList_append, List.append_assoc] using hlist))
  obtain ⟨market, laneIndex, symbolIndex⟩ := scope
  cases scope'
  simp_all

namespace StreamPlanFields

variable {s : StreamPlanFields}

theorem Lawful.laneIndex_lt (h : s.Lawful) {i : Nat} {facts : IdentityFacts}
    (hfacts : s.identityFactsAt i = .ok facts) {scope : IdentityScope}
    (hscope : facts.scope = some scope) : scope.laneIndex < 10000 ∧ scope.symbolIndex < 10000 := by
  obtain ⟨-, hlane, hsymbol⟩ := (identityAt_of_eq_ok h hfacts).scope scope hscope
  exact ⟨hlane.trans_le h.multiplier_le, hsymbol.trans_le h.symbols_le⟩

/-- The index of an identity of a scaled stream is made of its parts. -/
theorem identityIndex_eq (i : Nat) :
    i = s.perExchange * (i / s.perExchange) + (s.perMarket * (i % s.perExchange / s.perMarket) +
      (s.perLane * (i % s.perExchange % s.perMarket / s.perLane) +
        (s.logicalStreams.length *
            (i % s.perExchange % s.perMarket % s.perLane / s.logicalStreams.length) +
          i % s.perExchange % s.perMarket % s.perLane % s.logicalStreams.length))) := by
  rw [Nat.div_add_mod, Nat.div_add_mod, Nat.div_add_mod, Nat.div_add_mod]

/-- Two identities of a stream with one exchange and one logical key are the same identity. -/
theorem eq_of_key_eq (h : s.Lawful) {i j : Nat} {facts facts' : IdentityFacts}
    (hfacts : s.identityFactsAt i = .ok facts) (hfacts' : s.identityFactsAt j = .ok facts')
    (hexchange : facts.exchange = facts'.exchange) (hkey : facts.key = facts'.key) : i = j := by
  by_cases hgroup : s.streamGroup = .control
  · obtain ⟨hi, -⟩ := control_of_identityFactsAt hgroup hfacts
    obtain ⟨hj, -⟩ := control_of_identityFactsAt hgroup hfacts'
    exact index_inj h.exchanges_nodup hi (hexchange ▸ hj)
  · obtain ⟨-, scope, hscope, -, -, hex, hmk, hlane, hsymbol, hlog⟩ :=
      scaled_of_identityFactsAt hgroup hfacts
    obtain ⟨-, scope', hscope', -, -, hex', hmk', hlane', hsymbol', hlog'⟩ :=
      scaled_of_identityFactsAt hgroup hfacts'
    rw [IdentityFacts.key, IdentityFacts.key, LogicalKey.mk.injEq] at hkey
    obtain ⟨hmarket, hinstrument, hstream⟩ := hkey
    have hmarkets : scope.market = scope'.market := by
      rw [IdentityFacts.market, IdentityFacts.market, hscope, hscope'] at hmarket
      exact Option.some.inj hmarket
    have hscopes := scope_eq_of_instrumentKey hscope hscope' hexchange hmarkets
      (h.laneIndex_lt hfacts hscope).1 (h.laneIndex_lt hfacts' hscope').1 hinstrument
    have hlogicals : s.logicalStreams.Nodup := by
      rw [h.logicalStreams]
      cases s.streamGroup <;> decide
    have hexchanges := index_inj h.exchanges_nodup hex (hexchange ▸ hex')
    have hmarketIndex := index_inj h.markets_nodup hmk (hmarkets ▸ hmk')
    have hlogicalIndex := index_inj hlogicals hlog (LogicalStream.value_injective hstream ▸ hlog')
    rw [identityIndex_eq (s := s) i, identityIndex_eq (s := s) j, hexchanges, hmarketIndex, ← hlane,
      ← hlane', ← hsymbol, ← hsymbol', hscopes, hlogicalIndex]

end StreamPlanFields

end CryptoCollector.Benchmarks
