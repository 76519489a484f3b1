import CryptoCollector.Lib.Dict
import CryptoCollector.Lib.Except
import CryptoCollector.Lib.FirstFit
import CryptoCollector.Lib.Sorting
import CryptoCollector.Network.Egress
import Mathlib.Data.List.Dedup
import Mathlib.Data.Prod.Lex
import Mathlib.Data.String.Basic

/-!
# The assignment of instruments to egresses

`network/assignment.py`. An instrument ranks the egresses by a hash and goes to the first one with
room; the assignments of an egress are then packed into shards, one for each connection.

* `AssignmentKey.parse_canonical`: a key with slashes in its instrument survives its text.
* `assignInstruments_eq`: the loop is a first fit, and a first fit has no dead ends.
* `packEgressShards_eq`: what is packed when no egress holds too much.
* `assignInstruments_lawful`: the law of both functions.
-/

namespace CryptoCollector.Network

open Lib

/-- The exceptions of an assignment. The last two messages name an egress. -/
inductive AssignmentError where
  | valueError (message : String)
  | noAvailableEgress (message : String)
  | unknownEgress (egressId : String)
  | shardCapacity (egressId : String)
  deriving DecidableEq

/-! ## Keys -/

/-- `_validate_fixed_key_components`. -/
def validateFixedKeyComponents (exchange market channel : String) : Option AssignmentError :=
  if exchange = "" ∨ '/' ∈ exchange.toList ∨ market = "" ∨ '/' ∈ market.toList ∨ channel = "" ∨
      '/' ∈ channel.toList then
    some (.valueError "assignment key components are invalid")
  else none

/-- What stands before and after the first occurrence of a character. -/
def partition (c : Char) (cs : List Char) : Option (List Char × List Char) :=
  match cs.dropWhile (· ≠ c) with
  | [] => none
  | _ :: rest => some (cs.takeWhile (· ≠ c), rest)

/-- What stands before and after the last occurrence of a character. -/
def rpartition (c : Char) (cs : List Char) : Option (List Char × List Char) :=
  (partition c cs.reverse).map fun p => (p.2.reverse, p.1.reverse)

/-- `_AssignmentKey`. -/
structure AssignmentKey where
  exchange : String
  market : String
  instrumentKey : String
  channel : String
  deriving DecidableEq

namespace AssignmentKey

/-- `value.split("/", 2)` and `remainder.rsplit("/", 1)`. -/
def parts (value : String) : Option AssignmentKey := do
  let (exchange, rest) ← partition '/' value.toList
  let (market, remainder) ← partition '/' rest
  let (instrumentKey, channel) ← rpartition '/' remainder
  return ⟨.ofList exchange, .ofList market, .ofList instrumentKey, .ofList channel⟩

/-- `_AssignmentKey.parse`. -/
def parse (value : String) : Except AssignmentError AssignmentKey :=
  match parts value with
  | none => .error (.valueError "assignment key must be exchange/market/instrument/channel")
  | some key =>
    if key.exchange = "" ∨ key.market = "" ∨ key.instrumentKey = "" ∨ key.channel = "" then
      .error (.valueError "assignment key must be exchange/market/instrument/channel")
    else .ok key

/-- `_AssignmentKey.from_parts`. -/
def fromParts (exchange market instrumentKey channel : String) :
    Except AssignmentError AssignmentKey :=
  checked (validateFixedKeyComponents exchange market channel <|>
      if instrumentKey = "" then some (.valueError "assignment key components are invalid")
      else none) <|
    .ok ⟨exchange, market, instrumentKey, channel⟩

/-- `_AssignmentKey.canonical`. -/
def canonical (k : AssignmentKey) : String :=
  k.exchange ++ "/" ++ k.market ++ "/" ++ k.instrumentKey ++ "/" ++ k.channel

end AssignmentKey

/-- `StickyAssignment`. -/
structure StickyAssignment where
  key : String
  exchange : String
  market : String
  instrumentKey : String
  channel : String
  egressId : String
  quotaGroup : String
  generation : Nat
  parse_key : AssignmentKey.parse key = .ok ⟨exchange, market, instrumentKey, channel⟩
  egressId_ne : egressId ≠ ""
  quotaGroup_ne : quotaGroup ≠ ""

/-- `StickyAssignment.create`. -/
def StickyAssignment.create (key : String) (egress : Egress) (generation : Nat) :
    Except AssignmentError StickyAssignment :=
  match AssignmentKey.parse key with
  | .error e => .error e
  | .ok parsed =>
    match h : AssignmentKey.parse parsed.canonical with
    | .error e => .error e
    | .ok again =>
      if heq : again = parsed then
        .ok {
          key := parsed.canonical
          exchange := parsed.exchange
          market := parsed.market
          instrumentKey := parsed.instrumentKey
          channel := parsed.channel
          egressId := egress.id
          quotaGroup := egress.quotaGroup
          generation
          parse_key := by rw [h, heq]
          egressId_ne := egress.id_ne
          quotaGroup_ne := egress.quotaGroup_ne }
      else .error (.valueError "sticky assignment fields must match its canonical key")

/-! ## Ranking -/

/-- `_validated_egresses`. -/
def validatedEgresses (egresses : List Egress) : Except AssignmentError (List Egress) :=
  if egresses = [] then .error (.noAvailableEgress "no egresses are configured")
  else if ¬ (egresses.map (·.id)).Nodup then .error (.valueError "duplicate egress id")
  else .ok (sortedBy (·.id) egresses)

/-- `_score`; the digest is a number. -/
def score (sha256 : ByteArray → Nat) (key egressId : String) : Nat :=
  sha256 (key ++ "\x00" ++ egressId).toUTF8

/-- `_ranked_healthy_egresses`. -/
def rankedHealthyEgresses (sha256 : ByteArray → Nat) (key : AssignmentKey) (egresses : List Egress)
    (health : HealthSnapshot) : Except AssignmentError (List Egress) := do
  let candidates ← validatedEgresses egresses
  let healthy := candidates.filter fun c => health.isAvailable key.exchange c.id
  return sortedBy (fun c => OrderDual.toDual (toLex (score sha256 key.canonical c.id, c.id))) healthy

/-! ## Assignment -/

/-- A dictionary of egresses by their identifiers. -/
def byId (egresses : List Egress) (egressId : String) : Option Egress :=
  egresses.find? (·.id = egressId)

/-- The dictionary `capacity` of `assign_instruments`. -/
def capacityOf (healthy : List Egress) (subscriptionsPerConnection : Nat) (egressId : String) :
    Nat :=
  ((byId healthy egressId).map (·.maxWsConnections * subscriptionsPerConnection)).getD 0

/-- The loop of `assign_instruments`. -/
def assignLoop (sha256 : ByteArray → Nat) (exchange market channel : String)
    (candidates : List Egress) (health : HealthSnapshot) (capacity : String → Nat)
    (generation : Nat) :
    (used : String → Nat) → List String → Except AssignmentError (List StickyAssignment)
  | _, [] => .ok []
  | used, instrument :: instruments => do
    let key ← AssignmentKey.fromParts exchange market instrument channel
    let ranked ← rankedHealthyEgresses sha256 key candidates health
    match ranked.find? fun candidate => used candidate.id < capacity candidate.id with
    | none =>
      throw (.noAvailableEgress "instrument demand exceeds total healthy egress capacity")
    | some selected => do
      let assignment ← StickyAssignment.create key.canonical selected generation
      let assignments ← assignLoop sha256 exchange market channel candidates health capacity
        generation (Function.update used selected.id (used selected.id + 1)) instruments
      return assignment :: assignments

/-- `assign_instruments`. -/
def assignInstruments (sha256 : ByteArray → Nat) (instruments : List String)
    (exchange market channel : String) (egresses : List Egress)
    (subscriptionsPerConnection : Int) (health : HealthSnapshot) (generation : Int) :
    Except AssignmentError (List StickyAssignment) :=
  checked (validateFixedKeyComponents exchange market channel <|>
      (if subscriptionsPerConnection ≤ 0 then
        some (.valueError "subscriptions_per_connection must be a positive integer") else none) <|>
      (if generation < 0 then
        some (.valueError "generation must be a non-negative integer") else none) <|>
      (if "" ∈ instruments then some (.valueError "instrument keys must be non-empty")
        else none) <|>
      (if ¬ instruments.Nodup then some (.valueError "instrument keys must be unique")
        else none)) do
    let candidates ← validatedEgresses egresses
    let healthy := candidates.filter fun c => health.isAvailable exchange c.id
    let size := subscriptionsPerConnection.toNat
    if (healthy.map (·.maxWsConnections * size)).sum < instruments.length then
      throw (.noAvailableEgress "instrument demand exceeds total healthy egress capacity")
    else
      assignLoop sha256 exchange market channel candidates health (capacityOf healthy size)
        generation.toNat (fun _ => 0) (sortedBy id instruments)

/-! ## Shards -/

/-- `EgressShard`. -/
structure EgressShard where
  egressId : String
  index : Nat
  assignments : List StickyAssignment

/-- An element of `cohorts`. -/
def StickyAssignment.cohort (a : StickyAssignment) : String × String × String × Nat :=
  (a.exchange, a.market, a.channel, a.generation)

/-- The checks of the first loop of `pack_egress_shards`. -/
def checkAssignments (candidates : List Egress) :
    (seenKeys : List String) → List StickyAssignment → Option AssignmentError
  | _, [] => none
  | seenKeys, a :: assignments =>
    if a.key ∈ seenKeys then some (.valueError "assignment keys must be unique")
    else
      match byId candidates a.egressId with
      | none => some (.unknownEgress a.egressId)
      | some egress =>
        if a.quotaGroup ≠ egress.quotaGroup then
          some (.valueError "assignment quota group does not match current egress")
        else checkAssignments candidates (a.key :: seenKeys) assignments

/-- The second loop of `pack_egress_shards`, for one egress. -/
def packGroup (candidates : List Egress) (subscriptionsPerConnection : Nat)
    (grouped : Dict String (List StickyAssignment)) (egressId : String) :
    Except AssignmentError (List EgressShard) :=
  let items := sortedBy (·.key) ((grouped.get? egressId).getD [])
  let pieces := chunks subscriptionsPerConnection items
  if ((byId candidates egressId).map (·.maxWsConnections)).getD 0 < pieces.length then
    .error (.shardCapacity egressId)
  else .ok (pieces.zipIdx.map fun piece => ⟨egressId, piece.2, piece.1⟩)

/-- `pack_egress_shards`. -/
def packEgressShards (assignments : List StickyAssignment) (egresses : List Egress)
    (subscriptionsPerConnection : Int) : Except AssignmentError (List EgressShard) :=
  checked (if subscriptionsPerConnection ≤ 0 then
      some (.valueError "subscriptions_per_connection must be a positive integer") else none) do
    let candidates ← validatedEgresses egresses
    checked ((if 1 < (assignments.map (·.cohort)).dedup.length then
        some (.valueError "sharding requires one assignment cohort") else none) <|>
        checkAssignments candidates [] assignments) do
      let grouped := assignments.foldl (Dict.push fun a => some a.egressId) Dict.empty
      let shards ← (sortedBy id grouped.keys).mapM
        (packGroup candidates subscriptionsPerConnection.toNat grouped)
      return shards.flatten

/-! ## The text of a key -/

theorem partition_append {c : Char} {a b : List Char} (h : c ∉ a) :
    partition c (a ++ c :: b) = some (a, b) := by
  have hdrop : (a ++ c :: b).dropWhile (· ≠ c) = c :: b := by
    rw [List.dropWhile_append_of_pos]
    · simp
    · intro d hd
      simpa using fun hdc : d = c => h (hdc ▸ hd)
  have htake : (a ++ c :: b).takeWhile (· ≠ c) = a := by
    rw [List.takeWhile_append_of_pos]
    · simp
    · intro d hd
      simpa using fun hdc : d = c => h (hdc ▸ hd)
  rw [partition, hdrop, htake]

theorem rpartition_append {c : Char} {a b : List Char} (h : c ∉ b) :
    rpartition c (a ++ c :: b) = some (a, b) := by
  have hreverse : (a ++ c :: b).reverse = b.reverse ++ c :: a.reverse := by simp
  rw [rpartition, hreverse, partition_append (by simpa using h)]
  simp

theorem validateFixedKeyComponents_eq_none {exchange market channel : String} :
    validateFixedKeyComponents exchange market channel = none ↔
      (exchange ≠ "" ∧ '/' ∉ exchange.toList) ∧ (market ≠ "" ∧ '/' ∉ market.toList) ∧
        channel ≠ "" ∧ '/' ∉ channel.toList := by
  simp only [validateFixedKeyComponents, ite_eq_right_iff, reduceCtorEq, imp_false, not_or, ne_eq,
    and_assoc]

namespace AssignmentKey

/-- The parts of a key that its text cannot confuse. -/
structure Plain (k : AssignmentKey) : Prop where
  components : validateFixedKeyComponents k.exchange k.market k.channel = none
  instrument_ne : k.instrumentKey ≠ ""

theorem fromParts_ok {exchange market instrumentKey channel : String}
    (h : (⟨exchange, market, instrumentKey, channel⟩ : AssignmentKey).Plain) :
    fromParts exchange market instrumentKey channel =
      .ok ⟨exchange, market, instrumentKey, channel⟩ := by
  have hcomponents : validateFixedKeyComponents exchange market channel = none := h.components
  simp [fromParts, hcomponents, h.instrument_ne, checked]

/-- A key is read back from its text, whatever slashes its instrument has. -/
theorem parse_canonical {k : AssignmentKey} (h : k.Plain) : parse k.canonical = .ok k := by
  obtain ⟨⟨hexchange, hexchange'⟩, ⟨hmarket, hmarket'⟩, hchannel, hchannel'⟩ :=
    validateFixedKeyComponents_eq_none.mp h.components
  have htext : k.canonical.toList = k.exchange.toList ++
      '/' :: (k.market.toList ++ '/' :: (k.instrumentKey.toList ++ '/' :: k.channel.toList)) := by
    simp [canonical]
  have hparts : parts k.canonical = some k := by
    simp only [parts, htext, partition_append hexchange', partition_append hmarket',
      rpartition_append hchannel', Option.bind_eq_bind, Option.bind_some, String.ofList_toList]
    rfl
  simp [parse, hparts, hexchange, hmarket, hchannel, h.instrument_ne]

theorem canonical_injective {k k' : AssignmentKey} (h : k.Plain) (h' : k'.Plain)
    (heq : k.canonical = k'.canonical) : k = k' := by
  have := parse_canonical h
  rw [heq, parse_canonical h'] at this
  exact (Except.ok.inj this).symm

/-- The assignment of a key to an egress. -/
def assignedTo (k : AssignmentKey) (h : k.Plain) (egress : Egress) (generation : Nat) :
    StickyAssignment where
  key := k.canonical
  exchange := k.exchange
  market := k.market
  instrumentKey := k.instrumentKey
  channel := k.channel
  egressId := egress.id
  quotaGroup := egress.quotaGroup
  generation := generation
  parse_key := parse_canonical h
  egressId_ne := egress.id_ne
  quotaGroup_ne := egress.quotaGroup_ne

theorem create_canonical {k : AssignmentKey} (h : k.Plain) (egress : Egress) (generation : Nat) :
    StickyAssignment.create k.canonical egress generation =
      .ok (k.assignedTo h egress generation) := by
  unfold StickyAssignment.create
  split
  · next e he =>
    rw [parse_canonical h] at he
    cases he
  · next parsed hparsed =>
    rw [parse_canonical h] at hparsed
    cases hparsed
    split
    · next e he =>
      rw [parse_canonical h] at he
      cases he
    · next again hagain =>
      have hagain' := hagain
      rw [parse_canonical h] at hagain'
      cases hagain'
      rw [dif_pos rfl]
      rfl

end AssignmentKey

/-! ## Order -/

theorem validatedEgresses_eq {egresses : List Egress} (hne : egresses ≠ [])
    (hids : (egresses.map (·.id)).Nodup) :
    validatedEgresses egresses = .ok (sortedBy (·.id) egresses) := by
  simp [validatedEgresses, hne, hids]

/-- The order of the egresses is forgotten. -/
theorem validatedEgresses_congr {egresses egresses' : List Egress} (h : egresses.Perm egresses') :
    validatedEgresses egresses = validatedEgresses egresses' := by
  have hnil : egresses = [] ↔ egresses' = [] := by
    rw [← List.length_eq_zero_iff, h.length_eq, List.length_eq_zero_iff]
  have hnodup : (egresses.map (·.id)).Nodup ↔ (egresses'.map (·.id)).Nodup :=
    (h.map _).nodup_iff
  simp only [validatedEgresses, hnil, hnodup]
  split_ifs with h1 h2
  · rfl
  · rw [sortedBy_eq_of_perm h (keyed_of_nodup_map (hnodup.mpr h2))]
  · rfl

/-- The order of the instruments and of the egresses is forgotten. -/
theorem assignInstruments_congr (sha256 : ByteArray → Nat) {instruments instruments' : List String}
    (hinstruments : instruments.Perm instruments') (exchange market channel : String)
    {egresses egresses' : List Egress} (hegresses : egresses.Perm egresses')
    (subscriptionsPerConnection : Int) (health : HealthSnapshot) (generation : Int) :
    assignInstruments sha256 instruments exchange market channel egresses
        subscriptionsPerConnection health generation =
      assignInstruments sha256 instruments' exchange market channel egresses'
        subscriptionsPerConnection health generation := by
  have hsorted : sortedBy id instruments = sortedBy id instruments' :=
    sortedBy_eq_of_perm hinstruments fun _ _ _ _ h => h
  simp only [assignInstruments, validatedEgresses_congr hegresses, hinstruments.mem_iff,
    hinstruments.nodup_iff, hinstruments.length_eq, hsorted]

/-! ## The loop is a first fit -/

/-- The healthy egresses, as an instrument ranks them. -/
def ranking (sha256 : ByteArray → Nat) (health : HealthSnapshot) (candidates : List Egress)
    (key : AssignmentKey) : List Egress :=
  sortedBy (fun c => OrderDual.toDual (toLex (score sha256 key.canonical c.id, c.id)))
    ((sortedBy (·.id) candidates).filter fun c => health.isAvailable key.exchange c.id)

theorem mem_ranking {sha256 : ByteArray → Nat} {health : HealthSnapshot} {candidates : List Egress}
    {key : AssignmentKey} {c : Egress} : c ∈ ranking sha256 health candidates key ↔
      c ∈ candidates.filter fun c => health.isAvailable key.exchange c.id := by
  simp [ranking]

theorem rankedHealthyEgresses_eq {sha256 : ByteArray → Nat} {health : HealthSnapshot}
    {candidates : List Egress} (hne : candidates ≠ []) (hids : (candidates.map (·.id)).Nodup)
    (key : AssignmentKey) : rankedHealthyEgresses sha256 key candidates health =
      .ok (ranking sha256 health candidates key) := by
  rw [rankedHealthyEgresses, validatedEgresses_eq hne hids]
  rfl

/-- The assignments of a first fit. -/
structure Carries (exchange market channel : String) (generation : Nat)
    (given : List (String × Egress)) (assignments : List StickyAssignment) : Prop where
  pairs : assignments.map (fun a => (a.instrumentKey, a.egressId, a.quotaGroup)) =
    given.map fun g => (g.1, g.2.id, g.2.quotaGroup)
  cohort : ∀ a ∈ assignments, a.cohort = (exchange, market, channel, generation)

theorem assignLoop_spec (sha256 : ByteArray → Nat) {exchange market channel : String}
    (hcomponents : validateFixedKeyComponents exchange market channel = none)
    {candidates : List Egress} (hne : candidates ≠ []) (hids : (candidates.map (·.id)).Nodup)
    (health : HealthSnapshot) (capacity : String → Nat) (generation : Nat) (used : String → Nat)
    (instruments : List String) (hinstruments : ∀ i ∈ instruments, i ≠ "") :
    match firstFit (·.id) capacity
      (fun i => ranking sha256 health candidates ⟨exchange, market, i, channel⟩) used instruments
      with
    | none => ∃ e, assignLoop sha256 exchange market channel candidates health capacity generation
        used instruments = .error e
    | some given => ∃ r, assignLoop sha256 exchange market channel candidates health capacity
        generation used instruments = .ok r ∧ Carries exchange market channel generation given r := by
  induction instruments generalizing used with
  | nil => exact ⟨[], rfl, rfl, by simp⟩
  | cons i instruments ih =>
    have hplain : (⟨exchange, market, i, channel⟩ : AssignmentKey).Plain :=
      ⟨hcomponents, hinstruments i List.mem_cons_self⟩
    unfold firstFit assignLoop
    rw [AssignmentKey.fromParts_ok hplain, ok_bind, rankedHealthyEgresses_eq hne hids, ok_bind]
    cases hfind : (ranking sha256 health candidates ⟨exchange, market, i, channel⟩).find?
      (fun c => used c.id < capacity c.id) with
    | none => exact ⟨_, rfl⟩
    | some selected =>
      have hrest := ih (Function.update used selected.id (used selected.id + 1))
        fun j hj => hinstruments j (List.mem_cons_of_mem _ hj)
      dsimp only
      rw [AssignmentKey.create_canonical hplain, ok_bind]
      cases hfit : firstFit (·.id) capacity
        (fun i => ranking sha256 health candidates ⟨exchange, market, i, channel⟩)
        (Function.update used selected.id (used selected.id + 1)) instruments with
      | none =>
        rw [hfit] at hrest
        obtain ⟨e, he⟩ := hrest
        rw [he]
        exact ⟨e, rfl⟩
      | some given =>
        rw [hfit] at hrest
        obtain ⟨r, hr, hpairs, hcohort⟩ := hrest
        rw [hr]
        refine ⟨_, rfl, ?_, ?_⟩
        · rw [List.map_cons, List.map_cons, hpairs]
          rfl
        · intro a ha
          obtain rfl | ha := List.mem_cons.mp ha
          · rfl
          · exact hcohort a ha

/-! ## What is assigned -/

theorem byId_of_mem {egresses : List Egress} (hids : (egresses.map (·.id)).Nodup) {e : Egress}
    (he : e ∈ egresses) : byId egresses e.id = some e :=
  find?_key_of_mem hids he

theorem capacityOf_mem {egresses : List Egress} (hids : (egresses.map (·.id)).Nodup) {e : Egress}
    (he : e ∈ egresses) (size : Nat) :
    capacityOf egresses size e.id = e.maxWsConnections * size := by
  rw [capacityOf, byId_of_mem hids he]
  rfl

/-- The egresses of a snapshot that are available. -/
def healthyEgresses (health : HealthSnapshot) (exchange : String) (egresses : List Egress) :
    List Egress := egresses.filter fun c => health.isAvailable exchange c.id

theorem healthyEgresses_nodup {health : HealthSnapshot} {exchange : String}
    {egresses : List Egress} (hids : (egresses.map (·.id)).Nodup) :
    ((healthyEgresses health exchange egresses).map (·.id)).Nodup :=
  hids.sublist (List.filter_sublist.map _)

/-- What an assignment of instruments to healthy egresses has to be. -/
structure Allocation (exchange market channel : String) (generation : Nat)
    (instruments : List String) (healthy : List Egress) (subscriptionsPerConnection : Nat)
    (r : List StickyAssignment) : Prop where
  once : (r.map (·.instrumentKey)).Perm instruments
  egress : ∀ a ∈ r, ∃ e ∈ healthy, a.egressId = e.id ∧ a.quotaGroup = e.quotaGroup
  capacity : ∀ e ∈ healthy,
    r.countP (·.egressId = e.id) ≤ e.maxWsConnections * subscriptionsPerConnection
  cohort : ∀ a ∈ r, a.cohort = (exchange, market, channel, generation)

theorem Carries.countP {exchange market channel : String} {generation : Nat}
    {given : List (String × Egress)} {r : List StickyAssignment}
    (h : Carries exchange market channel generation given r) (egressId : String) :
    r.countP (·.egressId = egressId) = given.countP fun g => g.2.id = egressId := by
  have := congrArg (List.countP fun p => p.2.1 = egressId) h.pairs
  simpa only [List.countP_map, Function.comp_def] using this

theorem Carries.allocation {exchange market channel : String} {generation : Nat}
    {given : List (String × Egress)} {r : List StickyAssignment}
    (h : Carries exchange market channel generation given r) {instruments : List String}
    {healthy : List Egress} {size : Nat} (hitems : (given.map Prod.fst).Perm instruments)
    (hhealthy : ∀ g ∈ given, g.2 ∈ healthy)
    (hload : ∀ e ∈ healthy, given.countP (fun g => g.2.id = e.id) ≤ e.maxWsConnections * size) :
    Allocation exchange market channel generation instruments healthy size r := by
  refine ⟨?_, ?_, ?_, h.cohort⟩
  · have := congrArg (List.map Prod.fst) h.pairs
    rw [List.map_map, List.map_map] at this
    exact (List.Perm.of_eq this).trans hitems
  · intro a ha
    have hmem := List.mem_map_of_mem (f := fun a : StickyAssignment =>
      (a.instrumentKey, a.egressId, a.quotaGroup)) ha
    rw [h.pairs] at hmem
    obtain ⟨g, hg, heq⟩ := List.mem_map.mp hmem
    rw [Prod.mk.injEq, Prod.mk.injEq] at heq
    exact ⟨g.2, hhealthy g hg, heq.2.1.symm, heq.2.2.symm⟩
  · intro e he
    rw [h.countP]
    exact hload e he

/-- There is a first fit when there is room. -/
theorem exists_firstFit (sha256 : ByteArray → Nat) (exchange market channel : String)
    {candidates : List Egress} (hids : (candidates.map (·.id)).Nodup) (health : HealthSnapshot)
    {size : Nat} {items : List String}
    (hroom : items.length ≤ ((healthyEgresses health exchange candidates).map
      (·.maxWsConnections * size)).sum) :
    ∃ given, firstFit (·.id) (capacityOf (healthyEgresses health exchange candidates) size)
      (fun i => ranking sha256 health candidates ⟨exchange, market, i, channel⟩) (fun _ => 0)
      items = some given := by
  have hhealthy : ((healthyEgresses health exchange candidates).map (·.id)).Nodup :=
    healthyEgresses_nodup hids
  have hcapacity : (healthyEgresses health exchange candidates).map (fun e =>
      capacityOf (healthyEgresses health exchange candidates) size e.id) =
      (healthyEgresses health exchange candidates).map (·.maxWsConnections * size) :=
    List.map_congr_left fun e he => capacityOf_mem hhealthy he size
  rw [← Option.isSome_iff_exists, firstFit_isSome_iff hhealthy]
  · rw [hcapacity]
    simpa using hroom
  · exact fun i _ k => mem_ranking
  · exact fun k _ => Nat.zero_le _

/-- An assignment that passes its checks succeeds if and only if there is room, and then it is an
allocation. -/
theorem assignInstruments_spec (sha256 : ByteArray → Nat) {exchange market channel : String}
    (hcomponents : validateFixedKeyComponents exchange market channel = none)
    {instruments : List String} (hinstruments : ∀ i ∈ instruments, i ≠ "")
    (hnodup : instruments.Nodup) {egresses : List Egress} (hne : egresses ≠ [])
    (hids : (egresses.map (·.id)).Nodup) (health : HealthSnapshot) {size : Nat} (hsize : 0 < size)
    (generation : Nat) :
    if instruments.length ≤ ((healthyEgresses health exchange egresses).map
        (·.maxWsConnections * size)).sum then
      ∃ r, assignInstruments sha256 instruments exchange market channel egresses size health
          generation = .ok r ∧
        Allocation exchange market channel generation instruments
          (healthyEgresses health exchange egresses) size r
    else
      ∃ e, assignInstruments sha256 instruments exchange market channel egresses size health
        generation = .error e := by
  have hperm := sortedBy_perm (·.id) egresses
  -- the candidates of the loop are the sorted egresses
  generalize hcandidates : sortedBy (fun e : Egress => e.id) egresses = candidates at hperm
  have hne' : candidates ≠ [] := by
    rintro rfl
    exact hne (List.nil_perm.mp hperm)
  have hids' : (candidates.map (·.id)).Nodup := (hperm.map _).nodup_iff.mpr hids
  have hhealthy : (healthyEgresses health exchange candidates).Perm
      (healthyEgresses health exchange egresses) := hperm.filter _
  have hsum := (hhealthy.map (·.maxWsConnections * size)).sum_eq
  have heq : assignInstruments sha256 instruments exchange market channel egresses size health
      generation = if ((healthyEgresses health exchange candidates).map
          (·.maxWsConnections * size)).sum < instruments.length then
        .error (.noAvailableEgress "instrument demand exceeds total healthy egress capacity")
      else assignLoop sha256 exchange market channel candidates health
        (capacityOf (healthyEgresses health exchange candidates) size) generation (fun _ => 0)
        (sortedBy id instruments) := by
    have hempty : "" ∉ instruments := fun h => hinstruments "" h rfl
    have hsize' : ¬ (size : Int) ≤ 0 := by omega
    have hgeneration : ¬ (generation : Int) < 0 := by omega
    rw [assignInstruments, hcomponents, if_neg hsize', if_neg hgeneration, if_neg hempty,
      if_neg (not_not.mpr hnodup), validatedEgresses_eq hne hids, hcandidates]
    rfl
  rw [heq, hsum]
  by_cases hroom : instruments.length ≤
      ((healthyEgresses health exchange egresses).map (·.maxWsConnections * size)).sum
  · rw [if_pos hroom, if_neg (not_lt.mpr hroom)]
    have hspec := assignLoop_spec sha256 hcomponents hne' hids' health
      (capacityOf (healthyEgresses health exchange candidates) size) generation (fun _ => 0)
      (sortedBy id instruments) fun i hi => hinstruments i (mem_sortedBy.mp hi)
    have hlength : (sortedBy id instruments).length ≤ ((healthyEgresses health exchange
        candidates).map (·.maxWsConnections * size)).sum := by
      rw [length_sortedBy, hsum]
      exact hroom
    obtain ⟨given, hgiven⟩ := exists_firstFit sha256 exchange market channel hids' health hlength
    rw [hgiven] at hspec
    obtain ⟨r, hr, hcarries⟩ := hspec
    refine ⟨r, hr, hcarries.allocation ?_ ?_ ?_⟩
    · rw [map_fst_of_firstFit hgiven]
      exact sortedBy_perm id instruments
    · intro g hg
      exact hhealthy.mem_iff.mp (mem_ranking.mp (mem_prefer_of_firstFit hgiven g hg))
    · intro e he
      have he' := hhealthy.mem_iff.mpr he
      have := load_of_firstFit hgiven e.id (Nat.zero_le _)
      rwa [Nat.zero_add, capacityOf_mem (healthyEgresses_nodup hids') he'] at this
  · rw [if_neg hroom, if_pos (not_le.mp hroom)]
    exact ⟨_, rfl⟩

/-! ## What is packed -/

/-- Assignments that the egresses have room for. -/
structure Packable (egresses : List Egress) (size : Nat) (r : List StickyAssignment) : Prop where
  keys : (r.map (·.key)).Nodup
  cohort : ∃ c, ∀ a ∈ r, a.cohort = c
  egress : ∀ a ∈ r, ∃ e ∈ egresses, a.egressId = e.id ∧ a.quotaGroup = e.quotaGroup
  load : ∀ e ∈ egresses, r.countP (·.egressId = e.id) ≤ e.maxWsConnections * size

/-- A key determines its instrument. -/
theorem nodup_keys {r : List StickyAssignment} (h : (r.map (·.instrumentKey)).Nodup) :
    (r.map (·.key)).Nodup := by
  refine List.Nodup.of_map (fun key => ((AssignmentKey.parse key).toOption.map
    (·.instrumentKey)).getD "") ?_
  rw [List.map_map]
  refine (List.Perm.of_eq (List.map_congr_left fun a _ => ?_)).nodup_iff.mpr h
  simp [a.parse_key, Except.toOption]

theorem Allocation.packable {exchange market channel : String} {generation size : Nat}
    {instruments : List String} {health : HealthSnapshot} {egresses : List Egress}
    {r : List StickyAssignment} (h : Allocation exchange market channel generation instruments
      (healthyEgresses health exchange egresses) size r) (hnodup : instruments.Nodup)
    (hids : (egresses.map (·.id)).Nodup) : Packable egresses size r where
  keys := nodup_keys (h.once.nodup_iff.mpr hnodup)
  cohort := ⟨_, h.cohort⟩
  egress a ha := by
    obtain ⟨e, he, hid⟩ := h.egress a ha
    exact ⟨e, (List.mem_filter.mp he).1, hid⟩
  load e he := by
    by_cases hhealthy : e ∈ healthyEgresses health exchange egresses
    · exact h.capacity e hhealthy
    · -- nothing was given to an egress that is not healthy
      have hzero : r.countP (·.egressId = e.id) = 0 := by
        rw [List.countP_eq_zero]
        intro a ha hae
        rw [decide_eq_true_eq] at hae
        obtain ⟨d, hd, hid, -⟩ := h.egress a ha
        have hde := keyed_of_nodup_map hids d (List.mem_filter.mp hd).1 e he (hid.symm.trans hae)
        exact hhealthy (hde ▸ hd)
      rw [hzero]
      exact Nat.zero_le _

theorem checkAssignments_eq_none {candidates : List Egress}
    (hids : (candidates.map (·.id)).Nodup) {r : List StickyAssignment} {seenKeys : List String}
    (hkeys : (r.map (·.key)).Nodup) (hseen : ∀ a ∈ r, a.key ∉ seenKeys)
    (hegress : ∀ a ∈ r, ∃ e ∈ candidates, a.egressId = e.id ∧ a.quotaGroup = e.quotaGroup) :
    checkAssignments candidates seenKeys r = none := by
  induction r generalizing seenKeys with
  | nil => rfl
  | cons a r ih =>
    rw [List.map_cons, List.nodup_cons] at hkeys
    obtain ⟨e, he, hid, hgroup⟩ := hegress a List.mem_cons_self
    unfold checkAssignments
    rw [if_neg (hseen a List.mem_cons_self), hid, byId_of_mem hids he]
    simp only [hgroup, ne_eq, not_true_eq_false, if_false]
    refine ih hkeys.2 ?_ fun b hb => hegress b (List.mem_cons_of_mem _ hb)
    intro b hb hmem
    obtain hkey | hmem := List.mem_cons.mp hmem
    · exact hkeys.1 (hkey ▸ List.mem_map_of_mem hb)
    · exact hseen b (List.mem_cons_of_mem _ hb) hmem

/-- The shards of one egress. -/
def shardsOf (size : Nat) (r : List StickyAssignment) (egressId : String) : List EgressShard :=
  (chunks size (sortedBy (·.key) (r.filter (·.egressId = egressId)))).zipIdx.map fun piece =>
    ⟨egressId, piece.2, piece.1⟩

/-- The egresses that have assignments, in order. -/
def usedEgresses (r : List StickyAssignment) : List String :=
  sortedBy id (r.foldl (Dict.push fun a => some a.egressId) Dict.empty).keys

theorem usedEgresses_nodup (r : List StickyAssignment) : (usedEgresses r).Nodup :=
  (sortedBy_perm id _).nodup_iff.mpr (Dict.nodup _)

theorem mem_usedEgresses {r : List StickyAssignment} {egressId : String} :
    egressId ∈ usedEgresses r ↔ ∃ a ∈ r, a.egressId = egressId := by
  rw [usedEgresses, mem_sortedBy, Dict.mem_keys_foldl_push]
  simp [Dict.keys]

theorem length_shardsOf (size : Nat) (r : List StickyAssignment) (egressId : String) :
    (shardsOf size r egressId).length = (r.countP (·.egressId = egressId) + size - 1) / size := by
  simp [shardsOf, List.countP_eq_length_filter]

theorem dedup_length_le_one {r : List StickyAssignment} {c : String × String × String × Nat}
    (h : ∀ a ∈ r, a.cohort = c) : ¬ 1 < (r.map (·.cohort)).dedup.length := by
  have hsubset : (r.map (·.cohort)).dedup ⊆ [c] := by
    intro d hd
    obtain ⟨a, ha, rfl⟩ := List.mem_map.mp (List.mem_dedup.mp hd)
    exact List.mem_singleton.mpr (h a ha)
  exact not_lt.mpr (List.subperm_of_subset (List.nodup_dedup _) hsubset).length_le

/-- Packing one egress succeeds when it has room. -/
theorem packGroup_eq {egresses candidates : List Egress} {size : Nat} {r : List StickyAssignment}
    (h : Packable egresses size r) (hids : (candidates.map (·.id)).Nodup)
    (hperm : candidates.Perm egresses) (hsize : 0 < size) {egressId : String}
    (hused : egressId ∈ usedEgresses r) :
    packGroup candidates size (r.foldl (Dict.push fun a => some a.egressId) Dict.empty) egressId =
      .ok (shardsOf size r egressId) := by
  obtain ⟨a, ha, rfl⟩ := mem_usedEgresses.mp hused
  obtain ⟨e, he, hid, -⟩ := h.egress a ha
  have hitems : ((r.foldl (Dict.push fun a => some a.egressId) Dict.empty).get? a.egressId).getD [] =
      r.filter (·.egressId = a.egressId) := by
    rw [Dict.getD_foldl_push]
    simp
  have hroom : ¬ e.maxWsConnections < (chunks size (sortedBy (·.key)
      (r.filter (·.egressId = e.id)))).length := by
    rw [not_lt, length_chunks, ceil_le_iff hsize, length_sortedBy, ← List.countP_eq_length_filter]
    exact h.load e he
  unfold packGroup
  rw [hitems, hid, byId_of_mem hids (hperm.mem_iff.mpr he)]
  simp only [Option.map_some, Option.getD_some]
  rw [if_neg hroom]
  rfl

/-- Packing succeeds when the egresses have room. -/
theorem packEgressShards_eq {egresses : List Egress} {size : Nat} {r : List StickyAssignment}
    (h : Packable egresses size r) (hne : egresses ≠ []) (hids : (egresses.map (·.id)).Nodup)
    (hsize : 0 < size) :
    packEgressShards r egresses size = .ok ((usedEgresses r).flatMap (shardsOf size r)) := by
  have hperm := sortedBy_perm (·.id) egresses
  have hids' : ((sortedBy (·.id) egresses).map (·.id)).Nodup := (hperm.map _).nodup_iff.mpr hids
  obtain ⟨c, hcohort⟩ := h.cohort
  have hcheck : checkAssignments (sortedBy (·.id) egresses) [] r = none := by
    refine checkAssignments_eq_none hids' h.keys (by simp) fun a ha => ?_
    obtain ⟨e, he, hid⟩ := h.egress a ha
    exact ⟨e, hperm.mem_iff.mpr he, hid⟩
  have hsize' : ¬ (size : Int) ≤ 0 := by omega
  rw [packEgressShards, if_neg hsize', validatedEgresses_eq hne hids]
  simp only [checked, ok_bind]
  rw [if_neg (dedup_length_le_one hcohort), hcheck]
  simp only [Option.orElse_eq_orElse, Option.orElse_eq_or, Option.or_self]
  change ((usedEgresses r).mapM (packGroup (sortedBy (·.id) egresses) size
    (r.foldl (Dict.push fun a => some a.egressId) Dict.empty)) >>= fun shards =>
      Except.ok shards.flatten) = _
  rw [mapM_eq_ok fun egressId hused => packGroup_eq h hids' hperm hsize hused]
  rfl

/-- The shards of assignments that the egresses have room for. -/
structure Packing (egresses : List Egress) (size : Nat) (r : List StickyAssignment)
    (shards : List EgressShard) : Prop where
  partition : (shards.flatMap (·.assignments)).Perm r
  shard : ∀ s ∈ shards, s.assignments ≠ [] ∧ s.assignments.length ≤ size ∧
    ∀ a ∈ s.assignments, a.egressId = s.egressId
  connections : ∀ e ∈ egresses, shards.countP (·.egressId = e.id) ≤ e.maxWsConnections

theorem mem_shardsOf {size : Nat} {r : List StickyAssignment} {egressId : String} {s : EgressShard}
    (h : s ∈ shardsOf size r egressId) : s.egressId = egressId ∧
      s.assignments ∈ chunks size (sortedBy (·.key) (r.filter (·.egressId = egressId))) := by
  obtain ⟨piece, hpiece, rfl⟩ := List.mem_map.mp h
  exact ⟨rfl, List.fst_mem_of_mem_zipIdx hpiece⟩

theorem assignments_shardsOf {size : Nat} (hsize : 0 < size) (r : List StickyAssignment)
    (egressId : String) : ((shardsOf size r egressId).flatMap (·.assignments)).Perm
      (r.filter (·.egressId = egressId)) := by
  have hflatten : (shardsOf size r egressId).flatMap (·.assignments) =
      sortedBy (·.key) (r.filter (·.egressId = egressId)) := by
    rw [shardsOf, List.flatMap_map]
    change ((chunks size _).zipIdx.flatMap Prod.fst) = _
    rw [List.flatMap_def, List.zipIdx_map_fst, flatten_chunks hsize]
  rw [hflatten]
  exact sortedBy_perm _ _

/-- What is packed is a packing. -/
theorem packing {egresses : List Egress} {size : Nat} {r : List StickyAssignment}
    (h : Packable egresses size r) (hsize : 0 < size) :
    Packing egresses size r ((usedEgresses r).flatMap (shardsOf size r)) := by
  refine ⟨?_, ?_, ?_⟩
  · rw [List.flatMap_assoc]
    refine (List.Perm.flatMap_left _ fun egressId _ => assignments_shardsOf hsize r egressId).trans ?_
    exact flatMap_filter_perm (·.egressId) (usedEgresses_nodup r) r
      fun a ha => mem_usedEgresses.mpr ⟨a, ha, rfl⟩
  · intro s hs
    obtain ⟨egressId, -, hs⟩ := List.mem_flatMap.mp hs
    obtain ⟨hid, hchunk⟩ := mem_shardsOf hs
    refine ⟨ne_nil_of_mem_chunks hsize hchunk, length_le_of_mem_chunks hchunk, ?_⟩
    intro a ha
    have hmem : a ∈ (chunks size (sortedBy (·.key) (r.filter (·.egressId = egressId)))).flatten :=
      List.mem_flatten.mpr ⟨_, hchunk, ha⟩
    rw [flatten_chunks hsize, mem_sortedBy, List.mem_filter, decide_eq_true_eq] at hmem
    rw [hmem.2, hid]
  · intro e he
    refine (countP_flatMap_le (·.egressId) (usedEgresses_nodup r) (shardsOf size r)
      (fun egressId _ s hs => (mem_shardsOf hs).1) e.id).trans ?_
    rw [length_shardsOf, ceil_le_iff hsize]
    exact h.load e he

/-! ## The law of both functions -/

/-- With an egress configured, an assignment succeeds if and only if the healthy egresses have room
for all instruments; it is an allocation that can be packed; and no order plays a part. -/
theorem assignInstruments_lawful (sha256 : ByteArray → Nat) (exchange market channel : String)
    (hcomponents : validateFixedKeyComponents exchange market channel = none)
    (instruments : List String) (hinstruments : ∀ i ∈ instruments, i ≠ "")
    (hnodup : instruments.Nodup) (egresses : List Egress) (hne : egresses ≠ [])
    (hids : (egresses.map (·.id)).Nodup) (health : HealthSnapshot) (size : Nat) (hsize : 0 < size)
    (generation : Nat) :
    let healthy := healthyEgresses health exchange egresses
    let assigned := assignInstruments sha256 instruments exchange market channel egresses size
      health generation
    ((∃ r, assigned = .ok r) ↔
      instruments.length ≤ (healthy.map (·.maxWsConnections * size)).sum) ∧
    (∀ r, assigned = .ok r →
      Allocation exchange market channel generation instruments healthy size r ∧
      ∃ shards, packEgressShards r egresses size = .ok shards ∧
        Packing egresses size r shards) ∧
    ∀ instruments' egresses', instruments.Perm instruments' → egresses.Perm egresses' →
      assignInstruments sha256 instruments' exchange market channel egresses' size health
        generation = assigned := by
  intro healthy assigned
  have hspec := assignInstruments_spec sha256 hcomponents hinstruments hnodup hne hids health hsize
    generation
  have horder : ∀ instruments' egresses', instruments.Perm instruments' →
      egresses.Perm egresses' → assignInstruments sha256 instruments' exchange market channel
        egresses' size health generation = assigned :=
    fun _ _ hi he => (assignInstruments_congr sha256 hi exchange market channel he size health
      generation).symm
  split at hspec
  · next hroom =>
    obtain ⟨r, hr, hallocation⟩ := hspec
    refine ⟨iff_of_true ⟨r, hr⟩ hroom, ?_, horder⟩
    intro r' hr'
    have hpackable := hallocation.packable hnodup hids
    cases hr.symm.trans hr'
    exact ⟨hallocation, _, packEgressShards_eq hpackable hne hids hsize, packing hpackable hsize⟩
  · next hroom =>
    obtain ⟨e, he⟩ := hspec
    refine ⟨iff_of_false ?_ hroom, ?_, horder⟩
    · rintro ⟨r, hr⟩
      cases he.symm.trans hr
    · intro r hr
      cases he.symm.trans hr

/-- Two instruments, one of them with a slash, and two egresses with one place each. -/
theorem twoInstruments_lawful :
    let egresses : List Egress := [⟨"b", "main", 1, by decide, by decide, by decide⟩,
      ⟨"a", "main", 1, by decide, by decide, by decide⟩]
    ∃ r, assignInstruments (fun bytes => bytes.size) ["BTC/USDT", "ETH"] "binance" "spot" "trade"
      egresses (1 : Nat) {} (0 : Nat) = .ok r ∧
      Allocation "binance" "spot" "trade" 0 ["BTC/USDT", "ETH"]
        (healthyEgresses {} "binance" egresses) 1 r := by
  intro egresses
  have h := assignInstruments_lawful (fun bytes => bytes.size) "binance" "spot" "trade" (by decide)
    ["BTC/USDT", "ETH"] (by decide) (by decide) egresses (by decide) (by decide) {} 1 (by decide) 0
  obtain ⟨r, hr⟩ := h.1.mpr (by decide)
  exact ⟨r, hr, (h.2.1 r hr).1⟩

/-- Without an egress nothing is assigned, not even no instrument. -/
theorem noEgress_refused : ([] : List String).length ≤
      ((healthyEgresses {} "binance" []).map (·.maxWsConnections * 1)).sum ∧
    assignInstruments (fun _ => 0) [] "binance" "spot" "trade" [] (1 : Nat) {} (0 : Nat) =
      .error (.noAvailableEgress "no egresses are configured") :=
  ⟨by decide, by rfl⟩

end CryptoCollector.Network
