import CryptoCollector.Network.Assignment

/-!
# Assignments when egresses are added

`network/assignment.py: choose_egress`, and two runs of `assign_instruments` of which the second
has the healthy egresses of the first and maybe more. An egress outranks another for a key by its
score, and by its identifier when the scores are equal (`Outranks`).

* `exists_fit`: an assignment that succeeds is a first fit over the sorted instruments.
* `assignInstruments_grows`: every instrument keeps its egress or gets one that outranks it.
-/

namespace CryptoCollector.Network

open Lib

/-! ## Choice -/

/-- The exceptions of a choice. The message of the second names the exchange. -/
inductive ChoiceError where
  | assignment (e : AssignmentError)
  | noHealthyEgress (exchange : String)
  deriving DecidableEq

/-- `choose_egress`. -/
def chooseEgress (sha256 : ByteArray → Nat) (key : String) (egresses : List Egress)
    (health : HealthSnapshot) : Except ChoiceError Egress :=
  match AssignmentKey.parse key with
  | .error e => .error (.assignment e)
  | .ok parsed =>
    match rankedHealthyEgresses sha256 parsed egresses health with
    | .error e => .error (.assignment e)
    | .ok [] => .error (.noHealthyEgress parsed.exchange)
    | .ok (egress :: _) => .ok egress

/-! ## The text of an assignment's key -/

theorem eq_append_of_partition {c : Char} {cs a b : List Char}
    (h : partition c cs = some (a, b)) : cs = a ++ c :: b := by
  unfold partition at h
  split at h
  · cases h
  · next d rest hdrop =>
    cases h
    have hd : d = c := by
      have := List.head?_dropWhile_not (fun x => decide (x ≠ c)) cs
      rw [hdrop] at this
      simpa using this
    subst hd
    rw [← hdrop, List.takeWhile_append_dropWhile]

theorem eq_append_of_rpartition {c : Char} {cs a b : List Char}
    (h : rpartition c cs = some (a, b)) : cs = a ++ c :: b := by
  obtain ⟨⟨x, y⟩, hxy, heq⟩ := Option.map_eq_some_iff.mp h
  have hreverse := congrArg List.reverse (eq_append_of_partition hxy)
  rw [List.reverse_reverse, List.reverse_append, List.reverse_cons, List.append_assoc] at hreverse
  cases heq
  exact hreverse

/-- A key is the text of its parts. -/
theorem AssignmentKey.canonical_of_parse {value : String} {k : AssignmentKey}
    (h : parse value = .ok k) : k.canonical = value := by
  have hparts : parts value = some k := by
    unfold parse at h
    split at h
    · cases h
    · split_ifs at h
      simp_all
  obtain ⟨⟨exchange, rest⟩, hexchange, hparts⟩ := Option.bind_eq_some_iff.mp hparts
  obtain ⟨⟨market, remainder⟩, hmarket, hparts⟩ := Option.bind_eq_some_iff.mp hparts
  obtain ⟨⟨instrument, channel⟩, hchannel, hparts⟩ := Option.bind_eq_some_iff.mp hparts
  cases hparts
  rw [← String.toList_inj, eq_append_of_partition hexchange, eq_append_of_partition hmarket,
    eq_append_of_rpartition hchannel]
  simp [canonical]

/-- The key of an instrument. -/
def keyOf (exchange market channel instrument : String) : AssignmentKey :=
  ⟨exchange, market, instrument, channel⟩

theorem key_of_cohort {a : StickyAssignment} {exchange market channel : String} {generation : Nat}
    (h : a.cohort = (exchange, market, channel, generation)) :
    a.key = (keyOf exchange market channel a.instrumentKey).canonical := by
  rw [← AssignmentKey.canonical_of_parse a.parse_key]
  simp only [StickyAssignment.cohort, Prod.mk.injEq] at h
  rw [h.1, h.2.1, h.2.2.1]
  rfl

/-! ## Ranks -/

/-- An egress comes before another one in the ranking of a key. -/
def Outranks (sha256 : ByteArray → Nat) (key egressId other : String) : Prop :=
  toLex (score sha256 key other, other) < toLex (score sha256 key egressId, egressId)

theorem outranks_asymm {sha256 : ByteArray → Nat} {key m n : String}
    (h : Outranks sha256 key m n) : ¬ Outranks sha256 key n m :=
  lt_asymm h

theorem pairwise_ranking {sha256 : ByteArray → Nat} {health : HealthSnapshot}
    {candidates : List Egress} (hids : (candidates.map (·.id)).Nodup) (key : AssignmentKey) :
    (ranking sha256 health candidates key).Pairwise fun k l =>
      Outranks sha256 key.canonical k.id l.id := by
  have hnodup : ((ranking sha256 health candidates key).map (·.id)).Nodup := by
    have hcandidates : ((sortedBy (fun c : Egress => c.id) candidates).map (·.id)).Nodup :=
      nodup_map_sortedBy hids
    exact ((sortedBy_perm _ _).map _).nodup_iff.mpr
      (hcandidates.sublist (List.filter_sublist.map _))
  have hsorted := pairwise_sortedBy
    (fun c : Egress => OrderDual.toDual (toLex (score sha256 key.canonical c.id, c.id)))
    ((sortedBy (·.id) candidates).filter fun c => health.isAvailable key.exchange c.id)
  refine (hsorted.and (List.pairwise_map.mp hnodup)).imp fun {k l} hkl => ?_
  refine (OrderDual.toDual_le_toDual.mp hkl.1).lt_of_ne fun heq => hkl.2 ?_
  exact (congrArg (fun p : Nat ×ₗ String => (ofLex p).2) heq).symm

/-! ## An assignment is a first fit -/

/-- The first fit that an assignment carries out. -/
structure Fit (sha256 : ByteArray → Nat) (exchange market channel : String)
    (instruments : List String) (egresses : List Egress) (size : Nat) (health : HealthSnapshot)
    (generation : Nat) (given : List (String × Egress)) (r : List StickyAssignment) : Prop where
  nodup : (egresses.map (·.id)).Nodup
  plain : ∀ i ∈ instruments, (keyOf exchange market channel i).Plain
  unique : instruments.Nodup
  fit : firstFit (·.id) (capacityOf (healthyEgresses health exchange egresses) size)
    (fun i => ranking sha256 health egresses (keyOf exchange market channel i)) (fun _ => 0)
    instruments = some given
  carries : Carries exchange market channel generation given r

/-- An assignment that succeeds is a first fit over the sorted instruments. -/
theorem exists_fit {sha256 : ByteArray → Nat} {instruments : List String}
    {exchange market channel : String} {egresses : List Egress}
    {subscriptionsPerConnection : Int} {health : HealthSnapshot} {generation : Int}
    {r : List StickyAssignment}
    (h : assignInstruments sha256 instruments exchange market channel egresses
      subscriptionsPerConnection health generation = .ok r) :
    ∃ given, Fit sha256 exchange market channel (sortedBy id instruments)
      (sortedBy (·.id) egresses) subscriptionsPerConnection.toNat health generation.toNat given
      r := by
  obtain ⟨hchecks, h⟩ := checked_eq_ok.mp h
  simp only [orElse_eq_none, ite_eq_right_iff, reduceCtorEq, imp_false, not_not] at hchecks
  obtain ⟨hcomponents, -, -, hempty, hunique⟩ := hchecks
  obtain ⟨candidates, hcandidates, h⟩ := bind_eq_ok.mp h
  obtain ⟨hne, hids, rfl⟩ : egresses ≠ [] ∧ (egresses.map (·.id)).Nodup ∧
      sortedBy (·.id) egresses = candidates := by
    unfold validatedEgresses at hcandidates
    split_ifs at hcandidates with hne hids
    exact ⟨hne, hids, Except.ok.inj hcandidates⟩
  have hperm := sortedBy_perm (·.id) egresses
  have hinstruments : ∀ i ∈ sortedBy id instruments, i ≠ "" :=
    fun i hi heq => hempty (heq ▸ mem_sortedBy.mp hi)
  have hne' : sortedBy (·.id) egresses ≠ [] :=
    fun hnil => hne (List.nil_perm.mp (hnil ▸ hperm))
  have hids' : ((sortedBy (·.id) egresses).map (·.id)).Nodup := (hperm.map _).nodup_iff.mpr hids
  dsimp only at h
  split_ifs at h
  have hspec := assignLoop_spec sha256 hcomponents hne' hids' health
    (capacityOf (healthyEgresses health exchange (sortedBy (·.id) egresses))
      subscriptionsPerConnection.toNat) generation.toNat (fun _ => 0) _ hinstruments
  cases hfit : firstFit (·.id) (capacityOf (healthyEgresses health exchange
      (sortedBy (·.id) egresses)) subscriptionsPerConnection.toNat)
      (fun i => ranking sha256 health (sortedBy (·.id) egresses) ⟨exchange, market, i, channel⟩)
      (fun _ => 0) (sortedBy id instruments) with
  | none =>
    rw [hfit] at hspec
    obtain ⟨e, he⟩ := hspec
    cases he.symm.trans h
  | some given =>
    rw [hfit] at hspec
    obtain ⟨r', hr', hcarries⟩ := hspec
    cases hr'.symm.trans h
    have hnodup := (sortedBy_perm id instruments).nodup_iff.mpr hunique
    exact ⟨given, hids', fun i hi => ⟨hcomponents, hinstruments i hi⟩, hnodup, hfit, hcarries⟩

/-! ## What an assignment promises to its instruments -/

section Promises

variable {sha256 : ByteArray → Nat} {exchange market channel : String}
  {instruments : List String} {egresses : List Egress} {size : Nat} {health : HealthSnapshot}
  {generation : Nat} {given : List (String × Egress)} {r : List StickyAssignment}

/-- The number of assignments of an egress. -/
def load (r : List StickyAssignment) (egressId : String) : Nat :=
  r.countP (·.egressId = egressId)

/-- No egress is full. -/
def Spare (healthy : List Egress) (size : Nat) (r : List StickyAssignment) : Prop :=
  ∀ e ∈ healthy, load r e.id < e.maxWsConnections * size

theorem Fit.instrumentKeys (h : Fit sha256 exchange market channel instruments egresses size health
    generation given r) : r.map (·.instrumentKey) = instruments := by
  have := congrArg (List.map Prod.fst) h.carries.pairs
  rw [List.map_map, List.map_map] at this
  exact this.trans (map_fst_of_firstFit h.fit)

/-- What the first fit gave to the instrument of an assignment. -/
theorem Fit.exists_given (h : Fit sha256 exchange market channel instruments egresses size health
    generation given r) {a : StickyAssignment} (ha : a ∈ r) :
    ∃ g ∈ given, g.1 = a.instrumentKey ∧ g.2.id = a.egressId := by
  have hmem := List.mem_map_of_mem (f := fun a : StickyAssignment =>
    (a.instrumentKey, a.egressId, a.quotaGroup)) ha
  rw [h.carries.pairs] at hmem
  obtain ⟨g, hg, heq⟩ := List.mem_map.mp hmem
  simp only [Prod.mk.injEq] at heq
  exact ⟨g, hg, heq.1, heq.2.1⟩

theorem Fit.key (h : Fit sha256 exchange market channel instruments egresses size health
    generation given r) {a : StickyAssignment} (ha : a ∈ r) :
    a.key = (keyOf exchange market channel a.instrumentKey).canonical :=
  key_of_cohort (h.carries.cohort a ha)

theorem Fit.sorted (h : Fit sha256 exchange market channel instruments egresses size health
    generation given r) (i : String) (_ : i ∈ instruments) :
    (ranking sha256 health egresses (keyOf exchange market channel i)).Pairwise fun k l =>
      Outranks sha256 (keyOf exchange market channel i).canonical k.id l.id :=
  pairwise_ranking h.nodup _

/-- An egress that outranks the assigned one for the key of an instrument is full. -/
theorem Fit.full_of_outranks (h : Fit sha256 exchange market channel instruments egresses size
    health generation given r) {a : StickyAssignment} (ha : a ∈ r) {e : Egress}
    (he : e ∈ healthyEgresses health exchange egresses)
    (hout : Outranks sha256 a.key e.id a.egressId) :
    e.maxWsConnections * size ≤ load r e.id := by
  obtain ⟨g, hg, hitem, hegress⟩ := h.exists_given ha
  rw [h.key ha, ← hitem, ← hegress] at hout
  have hfull := full_of_better (fun i m n =>
      Outranks sha256 (keyOf exchange market channel i).canonical m n) h.sorted
    (fun _ _ _ => outranks_asymm) h.fit hg (mem_ranking.mpr he) hout
  rw [Nat.zero_add, capacityOf_mem (healthyEgresses_nodup h.nodup) he] at hfull
  rwa [load, h.carries.countP]

/-- When no egress is full, every instrument has the egress that is chosen for its key. -/
theorem Fit.chooseEgress_eq (h : Fit sha256 exchange market channel instruments egresses size
    health generation given r) (hspare : Spare (healthyEgresses health exchange egresses) size r)
    {a : StickyAssignment} (ha : a ∈ r) :
    ∃ e, chooseEgress sha256 a.key egresses health = .ok e ∧ a.egressId = e.id := by
  obtain ⟨g, hg, hitem, hegress⟩ := h.exists_given ha
  have hhead := head?_of_spare (fun i m n =>
      Outranks sha256 (keyOf exchange market channel i).canonical m n) h.sorted
    (fun _ _ _ => outranks_asymm) h.fit hg fun e he => by
      have he' : e ∈ healthyEgresses health exchange egresses := mem_ranking.mp he
      have := hspare e he'
      rw [load, h.carries.countP] at this
      rwa [Nat.zero_add, capacityOf_mem (healthyEgresses_nodup h.nodup) he']
  have hplain : (keyOf exchange market channel a.instrumentKey).Plain := by
    refine h.plain _ ?_
    rw [← h.instrumentKeys]
    exact List.mem_map_of_mem ha
  have hne : egresses ≠ [] := by
    rintro rfl
    have := mem_prefer_of_firstFit h.fit g hg
    simp [ranking] at this
  refine ⟨g.2, ?_, hegress.symm⟩
  rw [hitem] at hhead
  rw [chooseEgress, h.key ha, AssignmentKey.parse_canonical hplain]
  simp only [rankedHealthyEgresses_eq hne h.nodup]
  cases hranking : ranking sha256 health egresses
    (keyOf exchange market channel a.instrumentKey) with
  | nil => simp [hranking] at hhead
  | cons e es =>
    obtain rfl : e = g.2 := by simpa [hranking] using hhead
    rfl

/-- What an assignment promises: no instrument could move up to an egress with room, and when no
egress is full each instrument has the egress that is chosen for its key. -/
structure Settled (sha256 : ByteArray → Nat) (egresses healthy : List Egress) (size : Nat)
    (health : HealthSnapshot) (r : List StickyAssignment) : Prop where
  noMove : ∀ a ∈ r, ∀ e ∈ healthy, Outranks sha256 a.key e.id a.egressId →
    ¬ load r e.id < e.maxWsConnections * size
  chosen : Spare healthy size r → ∀ a ∈ r, ∃ e,
    chooseEgress sha256 a.key egresses health = .ok e ∧ a.egressId = e.id

theorem chooseEgress_congr {egresses' : List Egress} (h : egresses.Perm egresses') (key : String) :
    chooseEgress sha256 key egresses health = chooseEgress sha256 key egresses' health := by
  simp only [chooseEgress, rankedHealthyEgresses, validatedEgresses_congr h]

theorem Fit.settled {configured : List Egress} (h : Fit sha256 exchange market channel instruments
      (sortedBy (·.id) configured) size health generation given r) :
    Settled sha256 configured (healthyEgresses health exchange configured) size health r := by
  have hperm := sortedBy_perm (fun e : Egress => e.id) configured
  have hmem {e : Egress} : e ∈ healthyEgresses health exchange (sortedBy (·.id) configured) ↔
      e ∈ healthyEgresses health exchange configured := (hperm.filter _).mem_iff
  refine ⟨fun a ha e he hout => ?_, fun hspare a ha => ?_⟩
  · exact not_lt.mpr (h.full_of_outranks ha (hmem.mpr he) hout)
  · obtain ⟨e, he, hid⟩ := h.chooseEgress_eq (fun e he => hspare e (hmem.mp he)) ha
    exact ⟨e, (chooseEgress_congr hperm.symm _).trans he, hid⟩

end Promises

/-! ## More egresses -/

/-- The healthy egresses of one run are among those of another one, with the same capacities. -/
def Among (healthy healthy' : List Egress) : Prop :=
  ∀ e ∈ healthy, ∃ e' ∈ healthy', e'.id = e.id ∧ e'.maxWsConnections = e.maxWsConnections

instance Among.decidable (healthy healthy' : List Egress) : Decidable (Among healthy healthy') :=
  inferInstanceAs (Decidable (∀ e ∈ healthy, ∃ e' ∈ healthy', e'.id = e.id ∧
    e'.maxWsConnections = e.maxWsConnections))

/-- With more healthy egresses every instrument keeps its egress or gets one that outranks it. -/
theorem Fit.grows {sha256 : ByteArray → Nat} {exchange market channel : String}
    {instruments : List String} {egresses egresses' : List Egress} {size : Nat}
    {health health' : HealthSnapshot} {generation generation' : Nat}
    {given given' : List (String × Egress)} {r r' : List StickyAssignment}
    (h : Fit sha256 exchange market channel instruments egresses size health generation given r)
    (h' : Fit sha256 exchange market channel instruments egresses' size health' generation' given'
      r')
    (hmore : Among (healthyEgresses health exchange egresses)
      (healthyEgresses health' exchange egresses')) {a a' : StickyAssignment} (ha : a ∈ r)
    (ha' : a' ∈ r') (hsame : a'.instrumentKey = a.instrumentKey) :
    a'.egressId = a.egressId ∨ Outranks sha256 a.key a'.egressId a.egressId := by
  have hranked {health : HealthSnapshot} {egresses : List Egress} (i n : String) :
      (∃ e ∈ healthyEgresses health exchange egresses, e.id = n) ↔
        ∃ k ∈ ranking sha256 health egresses (keyOf exchange market channel i), k.id = n := by
    simp only [mem_ranking]
    exact Iff.rfl
  have hcapacity (n : String) (hn : ∃ e ∈ healthyEgresses health exchange egresses, e.id = n) :
      capacityOf (healthyEgresses health' exchange egresses') size n =
        capacityOf (healthyEgresses health exchange egresses) size n := by
    obtain ⟨e, he, rfl⟩ := hn
    obtain ⟨e', he', hid, hmax⟩ := hmore e he
    rw [capacityOf_mem (healthyEgresses_nodup h.nodup) he, ← hid,
      capacityOf_mem (healthyEgresses_nodup h'.nodup) he', hmax]
  have hpaired := firstFit_mono (fun i m n =>
      Outranks sha256 (keyOf exchange market channel i).canonical m n)
    (fun n => ∃ e ∈ healthyEgresses health exchange egresses, e.id = n) h.sorted h'.sorted
    (fun _ _ _ => outranks_asymm) (fun i _ n => hranked i n)
    (fun i _ n hn => (hranked i n).mp (by
      obtain ⟨e, he, rfl⟩ := hn
      obtain ⟨e', he', hid, -⟩ := hmore e he
      exact ⟨e', he', hid⟩)) hcapacity (fun _ _ => le_rfl) h.fit h'.fit
  obtain ⟨g, hg, hitem, hegress⟩ := h.exists_given ha
  obtain ⟨g', hg', hitem', hegress'⟩ := h'.exists_given ha'
  obtain ⟨g₂, hg₂, heq, hbetter⟩ := exists_right_of_forall₂ hpaired hg
  -- the two runs give to the same instruments, each of them once
  obtain rfl : g₂ = g' := by
    have hnodup : (given'.map Prod.fst).Nodup := by
      rw [map_fst_of_firstFit h'.fit]
      exact h'.unique
    exact List.inj_on_of_nodup_map hnodup hg₂ hg' (by rw [heq, hitem, hitem', hsame])
  rwa [hegress', hegress, hitem, ← h.key ha] at hbetter

end CryptoCollector.Network
