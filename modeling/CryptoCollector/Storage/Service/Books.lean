import CryptoCollector.Storage.Lags
import CryptoCollector.Storage.Service.Footprint

/-!
# The books of the service

Ledger, stages, charges, resident budget and histograms are kept by different functions. `Books`
says that they agree: the stage map is a view of the ledger, every live record has its charge in
both places where charges are kept, the counters count, and the histograms hold one lag for each
durable record. It is an invariant of every action, also of those that fail.
-/

namespace CryptoCollector.Storage

open Lib Proc

/-! ## The resident budget -/

/-- One for a charge of a class. -/
def inClass (c : CapacityClass) (e : Nat × ResidentCharge) : Nat :=
  if e.2.capacityClass = c then 1 else 0

/-- The bytes of a charge of a class. -/
def bytesIn (c : CapacityClass) (e : Nat × ResidentCharge) : Nat :=
  if e.2.capacityClass = c then e.2.chargeBytes else 0

namespace ResidentBudget

/-- The counters of the budget count its charges, and every charge is positive. -/
structure Sound (b : ResidentBudget) : Prop where
  normalRecords : b.normalResidentRecords = (b.charges.entries.map (inClass .normal)).sum
  normalBytes : b.normalResidentBytes = (b.charges.entries.map (bytesIn .normal)).sum
  controlRecords : b.controlResidentRecords = (b.charges.entries.map (inClass .control)).sum
  controlBytes : b.controlResidentBytes = (b.charges.entries.map (bytesIn .control)).sum
  positive : ∀ e ∈ b.charges.entries, 0 < e.2.chargeBytes

theorem sound_reserve {b : ResidentBudget} (h : b.Sound) {ordinal : Nat} {c : CapacityClass}
    {charge : Nat} (hc : 0 < charge) (hr : (reserve ordinal c charge b).1 = none) :
    (reserve ordinal c charge b).2.Sound ∧
      (reserve ordinal c charge b).2.charges.entries =
        b.charges.entries ++ [(ordinal, ⟨c, charge⟩)] := by
  unfold reserve at hr ⊢
  split at hr
  · simp at hr
  rename_i hn
  split at hr
  · simp at hr
  rename_i hfit
  have hk : ordinal ∉ b.charges.keys := fun hk => hn (Dict.contains_iff.mpr hk)
  have hsum (f : Nat × ResidentCharge → Nat) := Dict.sum_set_of_not_mem b.charges f
    (⟨c, charge⟩ : ResidentCharge) hk
  have hent := Dict.entries_set_of_not_mem hk (⟨c, charge⟩ : ResidentCharge)
  have hpos : ∀ e ∈ (b.charges.set ordinal ⟨c, charge⟩).entries, 0 < e.2.chargeBytes := by
    rw [hent]
    intro e he
    rcases List.mem_append.mp he with he | he
    · exact h.positive e he
    · simp at he
      simpa [he] using hc
  simp only [hn, hfit, Bool.false_eq_true, ↓reduceIte]
  obtain ⟨h1, h2, h3, h4, -⟩ := h
  cases c with
  | normal =>
    refine ⟨⟨?_, ?_, ?_, ?_, hpos⟩, hent⟩ <;> simp only [hsum] <;> simp [inClass, bytesIn, *]
  | control =>
    refine ⟨⟨?_, ?_, ?_, ?_, hpos⟩, hent⟩ <;> simp only [hsum] <;> simp [inClass, bytesIn, *]

theorem sound_release {b : ResidentBudget} (h : b.Sound) {ordinal : Nat}
    (hk : ordinal ∈ b.charges.keys) :
    (release ordinal b).1 = none ∧ (release ordinal b).2.Sound ∧
      (release ordinal b).2.charges = b.charges.erase ordinal := by
  obtain ⟨v, hg⟩ := Dict.exists_of_mem_keys hk
  have hsum (f : Nat × ResidentCharge → Nat) := Dict.sum_erase b.charges f hg
  have hpos : ∀ e ∈ (b.charges.erase ordinal).entries, 0 < e.2.chargeBytes := by
    intro e he
    exact h.positive e (List.mem_filter.mp he).1
  have hn := hsum (inClass .normal)
  have hc := hsum (inClass .control)
  have hn' := hsum (bytesIn .normal)
  have hc' := hsum (bytesIn .control)
  obtain ⟨h1, h2, h3, h4, -⟩ := h
  simp only [release, hg]
  cases hv : v.capacityClass <;> simp only [inClass, bytesIn, hv, reduceCtorEq, ↓reduceIte] at hn hc hn' hc'
  all_goals
    refine ⟨trivial, ⟨?_, ?_, ?_, ?_, hpos⟩, rfl⟩
    all_goals simp only
    all_goals omega

end ResidentBudget

/-! ## The accounts -/

/-- The ordinal and the bytes of a charge of the budget. -/
def budgetCharge (e : Nat × ResidentCharge) : Nat × Nat := (e.1, e.2.chargeBytes)

/-- The ordinal and the bytes of a charge of the service. -/
def recordCharge (e : Identity × Nat) : Nat × Nat := (e.1.acceptanceOrdinal, e.2)

namespace Accounts

/-- Ledger, stages, charges and budget agree, for records with ordinals below `n`. -/
structure Kept (n : Nat) (a : Accounts) : Prop where
  ledger : a.ledger.Sound
  budget : a.budget.Sound
  stages : a.recordStages = a.ledger.entries.mapValues fun _ e => e.stage
  keys : a.recordChargeBytes.keys = a.ledger.entries.keys
  charges : a.budget.charges.entries.map budgetCharge =
    a.recordChargeBytes.entries.map recordCharge
  bound : ∀ id ∈ a.ledger.entries.keys, id.acceptanceOrdinal < n

/-- The histograms hold the lags of the durable records, each with its series. -/
structure Sampled (lags : List ((Option Market × String) × Nat)) (a : Accounts) : Prop where
  histogram : a.histogram.Describes (lags.map Prod.snd)
  series : ∀ k, ((a.series.get? k).getD {}).Describes ((lags.filter (·.1 = k)).map Prod.snd)
  present : ∀ k, k ∈ a.series.keys ↔ ∃ l ∈ lags, l.1 = k

/-- The books agree. -/
structure Books (n : Nat) (a : Accounts) : Prop where
  kept : a.Kept n
  sampled : ∃ lags, a.Sampled lags ∧ a.ledger.durableCount = lags.length

theorem Kept.mono {n m : Nat} {a : Accounts} (h : a.Kept n) (hnm : n ≤ m) : a.Kept m :=
  ⟨h.ledger, h.budget, h.stages, h.keys, h.charges, fun id hid =>
    Nat.lt_of_lt_of_le (h.bound id hid) hnm⟩

/-- The ordinal of a live record is charged. -/
theorem Kept.ordinal_mem {n : Nat} {a : Accounts} (h : a.Kept n) {id : Identity}
    (hid : id ∈ a.ledger.entries.keys) : id.acceptanceOrdinal ∈ a.budget.charges.keys := by
  rw [← h.keys] at hid
  obtain ⟨e, he, rfl⟩ := List.mem_map.mp hid
  have : recordCharge e ∈ a.budget.charges.entries.map budgetCharge := by
    rw [h.charges]
    exact List.mem_map.mpr ⟨e, he, rfl⟩
  obtain ⟨e', he', heq⟩ := List.mem_map.mp this
  refine List.mem_map.mpr ⟨e', he', ?_⟩
  exact (Prod.mk.injEq .. ▸ heq : _ ∧ _).1

/-- Live records have different ordinals. -/
theorem Kept.ordinal_inj {n : Nat} {a : Accounts} (h : a.Kept n) {e e' : Identity × Nat}
    (he : e ∈ a.recordChargeBytes.entries) (he' : e' ∈ a.recordChargeBytes.entries)
    (heq : e.1.acceptanceOrdinal = e'.1.acceptanceOrdinal) : e = e' := by
  have hnd : ((a.recordChargeBytes.entries.map recordCharge).map Prod.fst).Nodup := by
    rw [← h.charges, List.map_map]
    exact a.budget.charges.nodup
  rw [List.map_map] at hnd
  exact List.inj_on_of_nodup_map hnd he he' heq

theorem kept_empty (b : ResidentBudget) (hb : b.charges = Dict.empty) (hs : b.Sound) (n : Nat) :
    Kept n { budget := b } where
  ledger := DurabilityLedger.sound_empty
  budget := hs
  stages := rfl
  keys := rfl
  charges := by simp [hb]
  bound := by simp [Dict.keys]

theorem sampled_empty (b : ResidentBudget) : Sampled [] { budget := b } where
  histogram := Histogram.describes_nil
  series k := by simpa using Histogram.describes_nil
  present k := by simp [Dict.keys]

/-- The histograms do not depend on the rest of the accounts. -/
theorem Sampled.congr {lags : List ((Option Market × String) × Nat)} {a a' : Accounts}
    (h : a.Sampled lags) (hh : a'.histogram = a.histogram) (hs : a'.series = a.series) :
    a'.Sampled lags :=
  ⟨hh ▸ h.histogram, fun k => hs ▸ h.series k, fun k => hs ▸ h.present k⟩

/-- A record whose charge was just reserved is registered. -/
theorem books_register {n : Nat} {a : Accounts} (hbooks : a.Books n) {b : ResidentBudget} (hb : b.Sound)
    {r : Record} (hord : r.identity.acceptanceOrdinal = n) {c : ResidentCharge}
    (hc : b.charges.entries = a.budget.charges.entries ++ [(n, c)]) :
    (register r { a with budget := b }).1 = none ∧
      (register r { a with budget := b }).2.Books (n + 1) := by
  obtain ⟨h, lags, hsam, hdur⟩ := hbooks
  have hfresh : r.identity ∉ a.ledger.entries.keys := by
    intro hm
    have := h.bound _ hm
    omega
  have hfresh' : r.identity ∉ a.recordChargeBytes.keys := h.keys ▸ hfresh
  have hcon : a.ledger.entries.contains r.identity = false := by
    rw [← Bool.not_eq_true, Dict.contains_iff]
    exact hfresh
  have hget : b.charges.get? r.identity.acceptanceOrdinal = some c := by
    rw [Dict.get?_eq_some, hc, hord]
    simp
  have hl := DurabilityLedger.sound_registerAccepted h.ledger r.acceptedMonotonicNs hfresh
  simp only [DurabilityLedger.registerAccepted, hcon, Bool.false_eq_true, ↓reduceIte] at hl
  have heq : register r { a with budget := b } = (none, { a with
      budget := b
      ledger := (DurabilityLedger.registerAccepted r.identity r.acceptedMonotonicNs a.ledger).2
      recordChargeBytes := a.recordChargeBytes.set r.identity c.chargeBytes
      recordStages := a.recordStages.set r.identity .queued }) := by
    simp [register, seq, onLedger, DurabilityLedger.registerAccepted, hcon, hget]
  rw [heq]
  refine ⟨rfl, ⟨?_, hb, ?_, ?_, ?_, ?_⟩, lags, hsam.congr rfl rfl, ?_⟩
  · simpa only [DurabilityLedger.registerAccepted, hcon, Bool.false_eq_true, ↓reduceIte] using hl
  · simp only [DurabilityLedger.registerAccepted, hcon, Bool.false_eq_true, ↓reduceIte]
    rw [Dict.mapValues_set_of_not_mem _ _ _ hfresh, ← h.stages]
  · simp only [DurabilityLedger.registerAccepted, hcon, Bool.false_eq_true, ↓reduceIte]
    rw [Dict.keys_set_of_not_mem _ _ hfresh, Dict.keys_set_of_not_mem _ _ hfresh', h.keys]
  · dsimp only
    rw [hc, Dict.entries_set_of_not_mem hfresh', List.map_append, List.map_append, h.charges]
    simp [budgetCharge, recordCharge, hord]
  · simp only [DurabilityLedger.registerAccepted, hcon, Bool.false_eq_true, ↓reduceIte]
    intro id hid
    rcases Dict.mem_keys_set.mp hid with hid | rfl
    · have := h.bound id hid
      omega
    · omega
  · simpa only [DurabilityLedger.registerAccepted, hcon, Bool.false_eq_true, ↓reduceIte] using hdur

theorem mark_cases {n : Nat} {a : Accounts} (h : a.Kept n) {stage : DurabilityStage}
    (hs : stage.live = true) (id : Identity) :
    (∃ e, mark stage id a = (some e, a)) ∨
    (mark stage id a).1 = none ∧ (mark stage id a).2.Kept n ∧
      (mark stage id a).2.ledger.durableCount = a.ledger.durableCount ∧
      ∃ l stages, (mark stage id a).2 = { a with ledger := l, recordStages := stages } := by
  have hl := DurabilityLedger.sound_transition h.ledger id stage
  rcases DurabilityLedger.transition_cases id stage a.ledger with ⟨e, he⟩ | ⟨entry, -, -, he⟩
  · left
    refine ⟨e, ?_⟩
    simp [mark, seq, onLedger, he]
  · right
    have hnone : (DurabilityLedger.transition id stage a.ledger).1 = none := by rw [he]
    obtain ⟨hent, hmem, hdur⟩ := DurabilityLedger.transition_live hs hnone
    have heq : mark stage id a = (none, { a with
        ledger := (DurabilityLedger.transition id stage a.ledger).2
        recordStages := a.recordStages.set id stage }) := by
      simp [mark, seq, onLedger, hnone, Proc.modify]
    rw [heq]
    refine ⟨rfl, ⟨hl, h.budget, ?_, ?_, h.charges, ?_⟩, hdur, _, _, rfl⟩
    · dsimp only
      have hmem' : id ∈ a.recordStages.keys := by
        rw [h.stages, Dict.keys_mapValues]
        exact hmem
      rw [hent, Dict.set_of_mem hmem', Dict.mapValues_update _ _ _ _ stage fun _ => rfl, h.stages]
    · dsimp only
      rw [hent, Dict.keys_update, h.keys]
    · dsimp only
      rw [hent, Dict.keys_update]
      exact h.bound

/-- A record leaves the ledger, the stages, the charges and the budget together, or none of
them. -/
theorem settle_cases {n : Nat} {a : Accounts} (h : a.Kept n) {stage : DurabilityStage}
    (hs : stage = .durable ∨ stage = .uncertain) (id : Identity) :
    (∃ e, settle stage id a = (some e, a)) ∨
    (settle stage id a).1 = none ∧ (settle stage id a).2.Kept n ∧
      (settle stage id a).2.ledger.durableCount =
        a.ledger.durableCount + (if stage = .durable then 1 else 0) ∧
      ∃ l b stages charges, (settle stage id a).2 =
        { a with ledger := l, budget := b, recordStages := stages, recordChargeBytes := charges } := by
  have hl := DurabilityLedger.sound_transition h.ledger id stage
  rcases DurabilityLedger.transition_cases id stage a.ledger with ⟨e, he⟩ | ⟨entry, -, -, he⟩
  · left
    refine ⟨e, ?_⟩
    simp [settle, seq, onLedger, he]
  · right
    have hnone : (DurabilityLedger.transition id stage a.ledger).1 = none := by rw [he]
    obtain ⟨hent, hmem, hdur⟩ := DurabilityLedger.transition_settled hs hnone
    have hcharge : a.recordChargeBytes.contains id = true := by
      rw [Dict.contains_iff, h.keys]
      exact hmem
    obtain ⟨hrel, hbud, hch⟩ := ResidentBudget.sound_release h.budget (h.ordinal_mem hmem)
    have heq : settle stage id a = (none, { a with
        ledger := (DurabilityLedger.transition id stage a.ledger).2
        budget := (ResidentBudget.release id.acceptanceOrdinal a.budget).2
        recordStages := a.recordStages.erase id
        recordChargeBytes := a.recordChargeBytes.erase id }) := by
      simp [settle, seq, onLedger, hnone, Proc.modify, require, hcharge, onBudget, hrel]
    rw [heq]
    refine ⟨rfl, ⟨hl, hbud, ?_, ?_, ?_, ?_⟩, hdur, _, _, _, _, rfl⟩
    · dsimp only
      rw [hent, Dict.mapValues_erase, h.stages]
    · dsimp only
      rw [hent, Dict.keys_erase, Dict.keys_erase, h.keys]
    · dsimp only
      rw [hch, Dict.entries_erase, Dict.entries_erase]
      have hfilter : (a.recordChargeBytes.entries.filter fun e => e.1 ≠ id) =
          a.recordChargeBytes.entries.filter fun e => e.1.acceptanceOrdinal ≠
            id.acceptanceOrdinal := by
        apply List.filter_congr
        intro e hin
        obtain ⟨e', hin', rfl⟩ := List.mem_map.mp (h.keys ▸ hmem : id ∈ a.recordChargeBytes.keys)
        have : e.1 = e'.1 ↔ e.1.acceptanceOrdinal = e'.1.acceptanceOrdinal :=
          ⟨fun heq => heq ▸ rfl, fun heq => by rw [h.ordinal_inj hin hin' heq]⟩
        simp [this]
      have hl : (a.budget.charges.entries.filter fun e => e.1 ≠ id.acceptanceOrdinal).map
          budgetCharge = (a.budget.charges.entries.map budgetCharge).filter fun e =>
            e.1 ≠ id.acceptanceOrdinal := by
        rw [List.filter_map]
        rfl
      have hr : (a.recordChargeBytes.entries.filter fun e =>
          e.1.acceptanceOrdinal ≠ id.acceptanceOrdinal).map recordCharge =
          (a.recordChargeBytes.entries.map recordCharge).filter fun e =>
            e.1 ≠ id.acceptanceOrdinal := by
        rw [List.filter_map]
        rfl
      rw [hfilter, hl, hr, h.charges]
    · dsimp only
      rw [hent]
      intro x hx
      exact h.bound x (Dict.mem_keys_erase.mp hx).1

theorem Sampled.sample {lags : List ((Option Market × String) × Nat)} {a : Accounts}
    (h : a.Sampled lags) (allowlist : List String) (id : Identity) {lag : Nat} (completed : Nat)
    (hl : lag ≤ maxSignedInt64) :
    (a.sample allowlist id lag completed).Sampled
      (lags ++ [(seriesOfStream allowlist id, lag)]) where
  histogram := by
    simpa [Accounts.sample] using h.histogram.add hl
  series k := by
    simp only [Accounts.sample, Dict.get?_set, List.filter_append, List.map_append]
    by_cases hk : k = seriesOfStream allowlist id
    · subst hk
      simpa using (h.series _).add hl
    · have : ¬ seriesOfStream allowlist id = k := fun heq => hk heq.symm
      simpa [hk, this] using h.series k
  present k := by
    simp only [Accounts.sample, Dict.mem_keys_set, h.present, List.mem_append, List.mem_singleton]
    constructor
    · rintro (⟨l, hl, rfl⟩ | rfl)
      · exact ⟨l, .inl hl, rfl⟩
      · exact ⟨_, .inr rfl, rfl⟩
    · rintro ⟨l, hl | rfl, rfl⟩
      · exact .inl ⟨l, hl, rfl⟩
      · exact .inr rfl

theorem keeps_mark {n : Nat} {stage : DurabilityStage} (hs : stage.live = true) (id : Identity) :
    Keeps (Books n) (mark stage id) := by
  rintro a ⟨hk, lags, hsam, hdur⟩
  rcases mark_cases hk hs id with ⟨e, he⟩ | ⟨-, hk', hd, l, stages, heq⟩
  · rw [he]
    exact ⟨hk, lags, hsam, hdur⟩
  · exact ⟨hk', lags, hsam.congr (by rw [heq]) (by rw [heq]), hd.trans hdur⟩

theorem keeps_settle_uncertain {n : Nat} (id : Identity) :
    Keeps (Books n) (settle .uncertain id) := by
  rintro a ⟨hk, lags, hsam, hdur⟩
  rcases settle_cases hk (.inr rfl) id with ⟨e, he⟩ | ⟨-, hk', hd, l, b, stages, charges, heq⟩
  · rw [he]
    exact ⟨hk, lags, hsam, hdur⟩
  · exact ⟨hk', lags, hsam.congr (by rw [heq]) (by rw [heq]), hd.trans hdur⟩

/-- A row becomes durable: it is settled and its lag enters the histograms. -/
theorem books_durable {n : Nat} {a : Accounts} (h : a.Books n) (allowlist : List String)
    (id : Identity) {lag : Nat} (completed : Nat) (hl : lag ≤ maxSignedInt64) :
    (∃ e, settle .durable id a = (some e, a)) ∨
    (settle .durable id a).1 = none ∧
      ((settle .durable id a).2.sample allowlist id lag completed).Books n := by
  obtain ⟨hk, lags, hsam, hdur⟩ := h
  rcases settle_cases hk (.inl rfl) id with ⟨e, he⟩ | ⟨hnone, hk', hd, l, b, stages, charges, heq⟩
  · exact .inl ⟨e, he⟩
  · have hsam' : (settle .durable id a).2.Sampled lags := hsam.congr (by rw [heq]) (by rw [heq])
    refine .inr ⟨hnone, ⟨hk'.ledger, hk'.budget, hk'.stages, hk'.keys, hk'.charges, hk'.bound⟩, _,
      hsam'.sample allowlist id completed hl, ?_⟩
    simpa [Accounts.sample, hdur] using hd

theorem keeps_markAllUncertain {n : Nat} : Keeps (Books n) markAllUncertain := by
  refine keeps_read fun a => keeps_forEach fun id _ => ?_
  intro a ha
  have hs := keeps_settle_uncertain id a ha
  -- outside of the error case the step leaves what `settle` leaves
  have heq : (seq (onLedger (DurabilityLedger.transition id .uncertain)) (modify fun a =>
      { a with
        recordStages := a.recordStages.erase id
        recordChargeBytes := a.recordChargeBytes.erase id
        budget := (ResidentBudget.release id.acceptanceOrdinal a.budget).2 }) a).2 =
      (settle .uncertain id a).2 := by
    rcases DurabilityLedger.transition_cases id .uncertain a.ledger with ⟨e, he⟩ | ⟨_, -, -, he⟩
    · simp [settle, seq, onLedger, he]
    · have hnone : (DurabilityLedger.transition id .uncertain a.ledger).1 = none := by rw [he]
      have hmem := (DurabilityLedger.transition_settled (.inr rfl) hnone).2.1
      have hcharge : a.recordChargeBytes.contains id = true := by
        rw [Dict.contains_iff, ha.kept.keys]
        exact hmem
      obtain ⟨hrel, -, -⟩ := ResidentBudget.sound_release ha.kept.budget (ha.kept.ordinal_mem hmem)
      simp [settle, seq, onLedger, hnone, Proc.modify, require, hcharge, onBudget, hrel]
  rw [heq]
  exact hs

end Accounts

/-! ## Admission -/

/-- An admission that leaves budget, ordinals and queues alone and returns no record. -/
structure Refused (w : Admission) (r : Except Err EnqueueResult × Admission) : Prop where
  record : r.1.toOption.bind (·.record) = none
  budget : r.2.budget = w.budget
  ordinal : r.2.ingress.nextAcceptanceOrdinal = w.ingress.nextAcceptanceOrdinal
  queues : r.2.ingress.queues = w.ingress.queues

/-- An admission that charges the next ordinal for a record, which enters the queue of its
shard. -/
structure Admitted (w : Admission) (shard : String) (record : Record)
    (r : Except Err EnqueueResult × Admission) : Prop where
  result : ∃ result, r.1 = .ok result ∧ result.record = some record
  budget : r.2.budget.Sound
  charges : ∃ charge, r.2.budget.charges.entries =
    w.budget.charges.entries ++ [(record.identity.acceptanceOrdinal, charge)]
  ordinal : r.2.ingress.nextAcceptanceOrdinal = w.ingress.nextAcceptanceOrdinal + 1
  queues : r.2.ingress.queues = w.ingress.queues.set shard (w.ingress.queue shard ++ [record])

theorem admitCandidate_cases (cfg : IngressConfig) (shard : String) (capacityClass : CapacityClass)
    (record : Record) (association : Option ControlAssociation) {charge : Nat} (hc : 0 < charge)
    (w : Admission) (hb : w.budget.Sound) :
    Refused w (RawIngress.admitCandidate cfg shard capacityClass record association charge w) ∨
    Admitted w shard record
      (RawIngress.admitCandidate cfg shard capacityClass record association charge w) := by
  unfold RawIngress.admitCandidate
  split
  · left
    cases capacityClass <;> exact ⟨rfl, rfl, rfl, rfl⟩
  split
  · rename_i e budget he
    left
    refine ⟨rfl, ?_, rfl, rfl⟩
    have : budget = (ResidentBudget.reserve _ _ _ w.budget).2 := (congrArg Prod.snd he).symm
    rw [this]
    unfold ResidentBudget.reserve at he ⊢
    split
    · rfl
    split
    · rfl
    · rename_i h1 h2
      simp [h1, h2] at he
  · rename_i budget he
    right
    obtain ⟨hs, hent⟩ := ResidentBudget.sound_reserve hb hc (congrArg Prod.fst he)
    rw [he] at hs hent
    refine ⟨⟨_, rfl, rfl⟩, hs, ⟨_, hent⟩, ?_, ?_⟩
    · dsimp only
      split <;> rfl
    · dsimp only
      split <;> rfl

/-- What `RawIngress.try_accept` can do. -/
theorem tryAccept_cases (cfg : IngressConfig) (resolve : LogicalKey → Option ControlTarget)
    (sortTargets : List ControlTarget → List ControlTarget) (d : Draft) (shard : String)
    (w : Admission) (hb : w.budget.Sound) :
    Refused w (RawIngress.tryAccept cfg resolve sortTargets d shard w) ∨
    Admitted w shard (w.ingress.buildCandidate w.clock d)
      (RawIngress.tryAccept cfg resolve sortTargets d shard w) := by
  unfold RawIngress.tryAccept
  split
  · exact .inl ⟨rfl, rfl, rfl, rfl⟩
  split
  · exact .inl ⟨rfl, rfl, rfl, rfl⟩
  split
  · exact .inl ⟨rfl, rfl, rfl, rfl⟩
  dsimp only
  split
  · exact .inl ⟨rfl, rfl, rfl, rfl⟩
  · have hpos : 0 < (w.ingress.buildCandidate w.clock d).size := d.line_pos
    rcases admitCandidate_cases cfg shard _ (w.ingress.buildCandidate w.clock d) _
      (Nat.add_pos_left hpos _) { w with clock := w.clock.afterTime.afterMonotonic } hb with h | h
    · exact .inl ⟨h.record, h.budget, h.ordinal, h.queues⟩
    · exact .inr ⟨h.result, h.budget, h.charges, h.ordinal, h.queues⟩

/-! ## The service -/

/-- The books of the service agree. -/
def Writer.Books (w : Writer) : Prop := w.acct.Books w.ingress.nextAcceptanceOrdinal

/-- Books do not depend on the counters that nothing is compared with. -/
theorem Accounts.Books.congr {n : Nat} {a a' : Accounts} (h : a.Books n)
    (hl : a'.ledger = a.ledger) (hb : a'.budget = a.budget) (hs : a'.recordStages = a.recordStages)
    (hc : a'.recordChargeBytes = a.recordChargeBytes) (hh : a'.histogram = a.histogram)
    (hm : a'.series = a.series) : a'.Books n := by
  obtain ⟨⟨h1, h2, h3, h4, h5, h6⟩, lags, hsam, hd⟩ := h
  refine ⟨⟨hl ▸ h1, hb ▸ h2, ?_, ?_, ?_, hl ▸ h6⟩, lags, hsam.congr hh hm, hl ▸ hd⟩
  · rw [hs, hl, h3]
  · rw [hc, hl, h4]
  · rw [hb, hc, h5]

namespace Writer

theorem books_of_quiet {f : Proc Err Writer} (h : Frame quiet f) : Keeps Books f := by
  intro w hw
  have := h.eq w
  simp only [quiet, Prod.mk.injEq] at this
  obtain ⟨-, ha, hn⟩ := this
  unfold Books
  rw [ha, hn]
  exact hw

theorem books_modify {f : Writer → Writer} (h : ∀ w, (f w).quiet = w.quiet) :
    Keeps Books (modify f : Proc Err Writer) := books_of_quiet (frame_modify h)

theorem books_onAcct {f : Proc Err Accounts} (h : ∀ n, Keeps (Accounts.Books n) f) :
    Keeps Books (onAcct f) := fun _ hw => h _ _ hw

theorem books_marks {α : Type} (rows : List α) (id : α → Identity) {stage : DurabilityStage}
    (hs : stage.live = true) :
    Keeps Books (onAcct (forEach rows fun r => Accounts.mark stage (id r))) :=
  books_onAcct fun _ => keeps_forEach fun _ _ => Accounts.keeps_mark hs _

theorem books_mark (id : Identity) {stage : DurabilityStage} (hs : stage.live = true) :
    Keeps Books (onAcct (Accounts.mark stage id)) :=
  books_onAcct fun _ => Accounts.keeps_mark hs _

theorem books_claimPart (g : GenerationId) : Keeps Books (claimPart g) :=
  keeps_read fun _ => keeps_seq (books_marks _ _ rfl) (books_modify fun _ => rfl)

theorem books_syncClaims (gs : List GenerationId) (trigger : DurabilityTrigger) :
    Keeps Books (syncClaims gs trigger) := by
  refine keeps_seq (keeps_forEach fun g _ => books_claimPart g) fun w hw => ?_
  dsimp only
  split <;> exact hw

theorem books_syncParts (gs : List GenerationId) (trigger : DurabilityTrigger) :
    Keeps Books (syncParts gs trigger) := by
  refine keeps_seq (books_modify fun _ => rfl) (keeps_seq ?_ (keeps_read fun _ => ?_))
  · exact keeps_forEach fun g _ => books_of_quiet (quiet_onPart g _)
  · exact keeps_ite (fun _ => keeps_skip) fun _ => books_syncClaims _ _

theorem books_appendAs (p : Params) (shard : String) (g : GenerationId) (r : Record)
    (k : AppendKind) : Keeps Books (appendAs p shard g r k) := by
  have hpart (f : Proc Err Part) := books_of_quiet (quiet_onPart g f)
  cases k with
  | defer => exact keeps_seq (books_mark _ rfl) (books_modify fun _ => rfl)
  | sizeSync => exact keeps_skip
  | append =>
    exact keeps_seq (hpart _) (keeps_seq (books_modify fun _ => rfl)
      (keeps_seq (books_mark _ rfl) (books_modify (quiet_pendHour shard))))
  | oversized =>
    exact keeps_seq (hpart _) (keeps_seq (books_modify fun _ => rfl)
      (keeps_seq (books_mark _ rfl) (books_syncClaims _ _)))

theorem books_appendDrained (p : Params) (shard : String) (allowStorageIo : Bool) :
    Keeps Books (appendDrained p shard allowStorageIo) := by
  refine keeps_read fun w => ?_
  split
  · exact keeps_skip
  · exact keeps_seq (books_modify fun _ => rfl) (books_appendAs p shard _ _ _)

theorem books_sealDeferred (p : Params) (g : GenerationId) : Keeps Books (sealDeferred p g) := by
  intro w hw
  unfold sealDeferred
  split
  · exact hw
  · refine Keeps.apply ?_ hw
    exact keeps_seq (books_of_quiet (quiet_onPart g _))
      (keeps_seq (books_modify fun _ => rfl) (books_syncClaims _ _))

/-! ### Completions -/

theorem books_evaluateSlo (p : Params) (observed : Nat) : Keeps Books (evaluateSlo p observed) := by
  intro w hw
  unfold evaluateSlo
  repeat' split
  all_goals exact Accounts.Books.congr hw rfl rfl rfl rfl rfl rfl

theorem books_accountRow (p : Params) (final : Bool) {completed : Nat}
    (hc : completed ≤ maxSignedInt64) (r : Record) :
    Keeps Books (accountRow p final completed r) := by
  refine keeps_seq (keeps_require _) (keeps_seq (keeps_read fun w => ?_) ?_)
  · split
    · exact keeps_ite (fun _ => keeps_skip) fun _ =>
        books_of_quiet (quiet_foldControlAssociation _)
    · exact keeps_skip
  · intro w hw
    have hl : completed - r.acceptedMonotonicNs ≤ maxSignedInt64 := by omega
    rcases Accounts.books_durable hw p.metricStreamAllowlist r.identity completed hl with
      ⟨e, he⟩ | ⟨hnone, hb⟩
    · have : onAcct (Accounts.settle .durable r.identity) w = (some e, w) := by
        simp [onAcct, he]
      simp only [seq, this]
      exact hw
    · have : (onAcct (Accounts.settle .durable r.identity) w) =
          (none, { w with acct := (Accounts.settle .durable r.identity w.acct).2 }) := by
        simp [onAcct, hnone]
      simp only [seq, this]
      exact hb

theorem books_accountDurable (p : Params) (claim : CompletionClaim)
    (result : FileDurabilityResult) : Keeps Books (accountDurable p claim result) := by
  unfold accountDurable
  split
  · exact keeps_fail _
  · split
    · exact keeps_fail _
    · rename_i completed hc
      have hle : completed ≤ maxSignedInt64 := result.fits completed hc
      refine keeps_seq (keeps_forEach fun r _ => books_accountRow p _ hle r) (keeps_seq ?_ ?_)
      · intro w hw
        exact Accounts.Books.congr hw rfl rfl rfl rfl rfl rfl
      · exact books_evaluateSlo p completed

theorem books_accountUncertain (claim : CompletionClaim) (e : Err) :
    Keeps Books (accountUncertain claim e) := by
  refine keeps_seq (keeps_forEach fun r _ => keeps_seq
    (books_onAcct fun _ => Accounts.keeps_settle_uncertain _) (books_modify fun _ => rfl)) ?_
  intro w hw
  have : ((w.acct.countFailure e).Books w.ingress.nextAcceptanceOrdinal) := by
    unfold Accounts.countFailure
    split <;> exact Accounts.Books.congr hw rfl rfl rfl rfl rfl rfl
  exact this

theorem books_thenAlways {f : Proc Err Writer} {g : Writer → Writer} (hf : Keeps Books f)
    (hg : ∀ w, (g w).quiet = w.quiet) : Keeps Books (thenAlways f g) := fun w hw =>
  books_modify hg _ (hf w hw)

theorem books_completeClaim (p : Params) (claim : CompletionClaim)
    (result : FileDurabilityResult) : Keeps Books (completeClaim p claim result) := by
  refine keeps_seq (keeps_ite (fun _ => ?_) fun _ => books_of_quiet (quiet_onPart _ _))
    (books_accountDurable p claim result)
  intro w hw
  refine books_of_quiet (quiet_toBarrier ..) _ ?_
  exact books_modify (f := fun w => (w.barrierError claim).2)
    (fun w => quiet_barrierError w claim) w hw

theorem books_failClaim (p : Params) (claim : CompletionClaim) (g : GenerationId) (e : Err) :
    Keeps Books (failClaim p claim g e) :=
  keeps_seq (keeps_ite (fun _ => books_of_quiet (quiet_toBarrier ..))
    fun _ => books_of_quiet (quiet_onPart _ _)) (books_accountUncertain claim e)

theorem books_handleCompletion (p : Params) (m : Message) : Keeps Books (handleCompletion p m) := by
  refine books_thenAlways (keeps_read fun w => ?_) fun _ => rfl
  split
  · split
    · exact books_of_quiet (quiet_toBarrier ..)
    · exact books_thenAlways (books_completeClaim p _ _) fun _ => rfl
  · split
    · exact books_of_quiet (quiet_toBarrier ..)
    · exact books_thenAlways (books_failClaim p _ _ _) fun _ => rfl
  · exact books_of_quiet (quiet_toBarrier ..)

theorem books_handleNext (p : Params) : Keeps Books (handleNext p) := by
  intro w hw
  unfold handleNext
  split
  · exact hw
  · exact books_handleCompletion p _ _ hw

/-! ### Status, metrics and errors -/

/-- A question about ages leaves the books as they are. -/
theorem books_age {w : Writer} (hw : w.Books) (c clock : Clock) :
    (w.withLedger (w.acct.ledger.oldestUnpersistedAgeNs c).1 clock).Books := by
  obtain ⟨hs, hent, -⟩ := DurabilityLedger.sound_oldestUnpersistedAgeNs hw.kept.ledger c
  have hdur : (w.acct.ledger.oldestUnpersistedAgeNs c).1.durableCount =
      w.acct.ledger.durableCount := by
    unfold DurabilityLedger.oldestUnpersistedAgeNs
    split <;> rfl
  obtain ⟨⟨h1, h2, h3, h4, h5, h6⟩, lags, hsam, hd⟩ := hw
  refine ⟨⟨hs, h2, ?_, ?_, h5, ?_⟩, lags, hsam.congr rfl rfl, hdur.trans hd⟩
  · exact h3.trans (by rw [← hent]; rfl)
  · exact h4.trans (by rw [← hent]; rfl)
  · exact hent.symm ▸ h6

theorem books_beginOldestCritical (p : Params) {w : Writer} (hw : w.Books) :
    (w.beginOldestCritical p).Books := by
  have hage (c : Clock) (clock : Clock) := books_age hw c clock
  have hledger : (w.acct.ledger.classifyCriticalAge w.core.clock
      p.writer.durabilityCriticalNs).1 = (w.acct.ledger.oldestUnpersistedAgeNs w.core.clock).1 := by
    unfold DurabilityLedger.classifyCriticalAge
    split <;> rename_i he <;> rw [he]
  unfold beginOldestCritical
  split
  · exact hw
  split
  · rename_i ledger clock he
    have hl : ledger = (w.acct.ledger.oldestUnpersistedAgeNs w.core.clock).1 := by
      rw [← hledger, he]
    rw [hl]
    exact hage _ _
  · rename_i ledger clock age he
    have hl : ledger = (w.acct.ledger.oldestUnpersistedAgeNs w.core.clock).1 := by
      rw [← hledger, he]
    rw [hl]
    exact hage w.core.clock clock

theorem books_buildStatus (p : Params) {w : Writer} (hw : w.Books) : (w.buildStatus p).2.Books := by
  unfold buildStatus
  split
  · split
    rename_i he
    have := books_age hw w.core.clock w.core.clock
    rw [he] at this
    exact this
  all_goals exact hw

theorem books_refreshMetricsCache (p : Params) : Keeps Books (refreshMetricsCache p) := by
  intro w hw
  have h := books_buildStatus p hw
  have hassemble : (w.assembleMetricsSnapshot p).2.Books := by
    unfold assembleMetricsSnapshot
    split
    · rename_i he
      rw [he] at h
      exact h
    · rename_i he
      rw [he] at h
      repeat' split
      all_goals exact h
  unfold refreshMetricsCache
  split
  · rename_i he
    rw [he] at hassemble
    exact hassemble
  · rename_i he
    rw [he] at hassemble
    exact hassemble

theorem books_metricsSnapshot (p : Params) {w : Writer} (hw : w.Books) :
    (w.metricsSnapshot p).2.Books := by
  have h := books_refreshMetricsCache p w hw
  unfold metricsSnapshot
  split
  · split
    · rename_i he
      rw [he] at h
      exact h
    · rename_i he
      rw [he] at h
      exact h
  · exact hw

theorem books_captureTerminalError (p : Params) (e : Err) {w : Writer} (hw : w.Books) :
    (w.captureTerminalError p e).Books := by
  have henter : Keeps Books (enterTerminalError p e) :=
    keeps_seq (fun _ h => h) (keeps_seq (books_onAcct fun _ => Accounts.keeps_markAllUncertain)
      (keeps_seq (books_modify fun _ => rfl) (books_refreshMetricsCache p)))
  have h := henter w hw
  unfold captureTerminalError
  split
  · exact hw
  split
  · rename_i he
    rw [he] at h
    exact h
  · rename_i w' he
    rw [he] at h
    exact books_refreshMetricsCache p w' h

theorem books_enterClose (p : Params) (members : List CloseMember) (trigger : DurabilityTrigger) :
    Keeps Books (enterClose p members trigger) := by
  refine keeps_seq (books_modify fun _ => rfl) (keeps_read fun w => ?_)
  split
  · exact keeps_fail _
  · refine keeps_seq (keeps_forEach fun g _ => keeps_read fun w => ?_) fun _ h => h
    exact keeps_ite (fun _ => keeps_skip) fun _ =>
      keeps_seq (books_marks _ _ rfl) (books_modify fun _ => rfl)

theorem books_publicationFailed (e : Err) {w : Writer} (hw : w.Books) :
    (w.publicationFailed e).Books := by
  unfold publicationFailed Books
  split
  · exact hw
  · exact Accounts.Books.congr hw rfl rfl rfl rfl rfl rfl

theorem books_appendRecovery (p : Params) : Keeps Books (appendRecovery p) := by
  intro w hw
  unfold appendRecovery
  repeat' split
  · exact hw
  · exact hw
  · refine Keeps.apply ?_ hw
    exact keeps_seq (books_of_quiet (quiet_onPart _ _)) (keeps_seq (books_modify fun _ => rfl)
      (keeps_seq (books_mark _ rfl) (books_modify fun _ => rfl)))

/-! ### Admission -/

/-- What an admission leaves behind: the books of before, or a charge to be registered. -/
theorem books_offerDraft (p : Params) (d : Draft) (shard : String) {w : Writer} (hw : w.Books) :
    (((w.offerDraft p d shard).1.toOption.bind (·.record)) = none ∧
      (w.withAdmission (w.offerDraft p d shard).2).Books) ∨
    ∃ result r, (w.offerDraft p d shard).1 = .ok result ∧ result.record = some r ∧
      (onAcct (Accounts.register r) (w.withAdmission (w.offerDraft p d shard).2)).1 = none ∧
      (onAcct (Accounts.register r) (w.withAdmission (w.offerDraft p d shard).2)).2.Books := by
  rcases tryAccept_cases p.ingress w.core.parts.activeTarget p.sortTargets d shard w.admissionOf
    hw.kept.budget with h | h
  · refine .inl ⟨h.record, ?_⟩
    have ha : (w.withAdmission (w.offerDraft p d shard).2).acct = w.acct := by
      have : (w.offerDraft p d shard).2.budget = w.acct.budget := h.budget
      simp [withAdmission, this]
    have hn : (w.withAdmission (w.offerDraft p d shard).2).ingress.nextAcceptanceOrdinal =
        w.ingress.nextAcceptanceOrdinal := h.ordinal
    unfold Books
    rw [ha, hn]
    exact hw
  · obtain ⟨result, hok, hrec⟩ := h.result
    obtain ⟨charge, hch⟩ := h.charges
    refine .inr ⟨result, _, hok, hrec, ?_⟩
    have hreg := Accounts.books_register hw h.budget
      (r := w.ingress.buildCandidate w.core.clock d) rfl hch
    refine ⟨hreg.1, ?_⟩
    have hn : (w.withAdmission (w.offerDraft p d shard).2).ingress.nextAcceptanceOrdinal =
        w.ingress.nextAcceptanceOrdinal + 1 := h.ordinal
    change Accounts.Books (w.withAdmission (w.offerDraft p d shard).2).ingress.nextAcceptanceOrdinal _
    rw [hn]
    exact hreg.2

theorem books_tryAccept (p : Params) (d : Draft) (shard : String) {w : Writer} (hw : w.Books) :
    (w.tryAccept p d shard).2.Books := by
  have hcases := books_offerDraft p d shard hw
  unfold tryAccept
  split
  · exact Accounts.Books.congr hw rfl rfl rfl rfl rfl rfl
  split
  · rename_i he
    rw [he] at hcases
    rcases hcases with ⟨-, h⟩ | ⟨_, _, h, -⟩
    · exact h
    · cases h
  · rename_i result a he
    rw [he] at hcases
    split
    · rename_i hr
      rcases hcases with ⟨-, h⟩ | ⟨_, _, h, h', -⟩
      · exact h
      · cases h
        rw [hr] at h'
        cases h'
    · rename_i r hr
      rcases hcases with ⟨h, -⟩ | ⟨_, _, h, h', hnone, hb⟩
      · simp [Except.toOption, hr] at h
      · cases h
        rw [hr] at h'
        cases h'
        split
        · rename_i hreg
          rw [hreg] at hnone
          cases hnone
        · rename_i hreg
          rw [hreg] at hb
          exact hb

theorem books_registerRecovery {w : Writer} {r : Record} {charge : ResidentCharge}
    (hpeek : w.ingress.peekOne "_control" = some r)
    (hget : w.acct.budget.charges.get? r.identity.acceptanceOrdinal = some charge)
    (hnone : (onAcct (Accounts.register r) w).1 = none)
    (hb : (onAcct (Accounts.register r) w).2.Books) : (registerRecovery r w).2.Books := by
  have htake : takeRecord "_control" w = (none, { w with
      ingress := w.ingress.drainOne "_control" charge.chargeBytes
      flow := { w.flow with hand := w.flow.hand.set "_control" { record := r } } }) := by
    simp [takeRecord, hpeek, hget]
  have hreg : (Accounts.register r w.acct).1 = none := hnone
  unfold registerRecovery
  simp only [seq, htake, require, Dict.get?_set_self, Option.map_some, ↓reduceIte, onAcct, hreg]
  exact hb

/-- A startup control is accepted while the queues are empty, so it is the record that is drained,
and it is registered. -/
theorem books_acceptRecovery (p : Params) (d : Draft) {w : Writer} (hw : w.Books)
    (hq : ∀ shard, w.ingress.queue shard = []) : (acceptRecovery p d w).2.Books := by
  have hoffer := tryAccept_cases p.ingress w.core.parts.activeTarget p.sortTargets d "_control"
    w.admissionOf hw.kept.budget
  have hcases := books_offerDraft p d "_control" hw
  unfold acceptRecovery
  split
  · rename_i he
    rw [he] at hcases
    rcases hcases with ⟨-, h⟩ | ⟨_, _, h, -⟩
    · exact h
    · cases h
  · rename_i result a he
    rw [he] at hcases
    split
    · rename_i hr
      rcases hcases with ⟨-, h⟩ | ⟨_, _, h, h', -⟩
      · exact h
      · cases h
        rw [hr] at h'
        cases h'
    · rename_i r hr
      rcases hcases with ⟨h, -⟩ | ⟨_, r', h, h', hnone, hb⟩
      · simp [Except.toOption, hr] at h
      cases h
      obtain rfl : r = r' := by
        rw [hr] at h'
        exact Option.some.inj h'
      have hadm : Admitted w.admissionOf "_control" (w.ingress.buildCandidate w.core.clock d)
          (.ok result, a) := by
        rcases hoffer with hn | ha
        · have := hn.record
          change (w.offerDraft p d "_control").1.toOption.bind (·.record) = none at this
          simp [he, Except.toOption, hr] at this
        · change Admitted w.admissionOf "_control" _ (w.offerDraft p d "_control") at ha
          rwa [he] at ha
      obtain ⟨result', hok, hrec⟩ := hadm.result
      cases hok
      obtain rfl : r = w.ingress.buildCandidate w.core.clock d := by
        rw [hr] at hrec
        exact Option.some.inj hrec
      have hpeek : (w.withAdmission a).ingress.peekOne "_control" =
          some (w.ingress.buildCandidate w.core.clock d) := by
        have hqueues : a.ingress.queues = w.ingress.queues.set "_control"
            (w.ingress.queue "_control" ++ [w.ingress.buildCandidate w.core.clock d]) := hadm.queues
        rw [hq] at hqueues
        simp [RawIngress.peekOne, RawIngress.queue, withAdmission, hqueues]
      obtain ⟨charge, hch⟩ := hadm.charges
      have hget : (w.withAdmission a).acct.budget.charges.get?
          (w.ingress.buildCandidate w.core.clock d).identity.acceptanceOrdinal = some charge := by
        rw [Dict.get?_eq_some]
        change _ ∈ a.budget.charges.entries
        rw [hch]
        simp
      exact books_registerRecovery hpeek hget hnone hb

end Writer

end CryptoCollector.Storage
