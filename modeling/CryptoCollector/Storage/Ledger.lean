import CryptoCollector.Lib.Dict
import CryptoCollector.Lib.Effect
import CryptoCollector.Storage.Types

/-!
# The durability ledger

`storage/stats.py: DurabilityLedger`. The heap of the oldest entries is kept as the bag of its
items; `heap[0]` is the least item by acceptance time and token. `Sound` says that the counters
count and that no live record is missing from the heap.
-/

namespace CryptoCollector.Storage

open Lib

variable {κ : Type}

/-- `DurabilityStage`. -/
inductive DurabilityStage where
  | queued
  | buffered
  | inFlight
  | durable
  | uncertain
  deriving DecidableEq

/-- The value in the messages of the ledger. -/
def DurabilityStage.value : DurabilityStage → String
  | .queued => "queued"
  | .buffered => "buffered"
  | .inFlight => "in_flight"
  | .durable => "durable"
  | .uncertain => "uncertain"

/-- The transitions that `_transition` allows. -/
def DurabilityStage.allows : DurabilityStage → DurabilityStage → Bool
  | .queued, .buffered => true
  | .buffered, .inFlight => true
  | .inFlight, .durable => true
  | .queued, .uncertain => true
  | .buffered, .uncertain => true
  | .inFlight, .uncertain => true
  | _, _ => false

/-- `_LedgerEntry`. -/
structure LedgerEntry where
  acceptedMonotonicNs : Nat
  stage : DurabilityStage
  token : Nat
  deriving DecidableEq

/-- One item of the heap of oldest entries. -/
structure HeapItem (κ : Type) where
  acceptedMonotonicNs : Nat
  token : Nat
  recordId : κ
  deriving DecidableEq

/-- The order of heap items: acceptance time, then token. -/
def HeapItem.before (a b : HeapItem κ) : Bool :=
  a.acceptedMonotonicNs < b.acceptedMonotonicNs ||
    (a.acceptedMonotonicNs == b.acceptedMonotonicNs && a.token ≤ b.token)

/-- The least item of a heap. -/
def heapMin : List (HeapItem κ) → Option (HeapItem κ)
  | [] => none
  | a :: h =>
    match heapMin h with
    | none => some a
    | some b => some (if a.before b then a else b)

theorem heapMin_eq_none {h : List (HeapItem κ)} : heapMin h = none ↔ h = [] := by
  cases h with
  | nil => simp [heapMin]
  | cons a h =>
    unfold heapMin
    split <;> simp

theorem heapMin_mem {h : List (HeapItem κ)} {a : HeapItem κ} (ha : heapMin h = some a) : a ∈ h := by
  induction h generalizing a with
  | nil => cases ha
  | cons b h ih =>
    unfold heapMin at ha
    split at ha
    · cases ha
      exact List.mem_cons_self
    · rename_i c hc
      cases ha
      split
      · exact List.mem_cons_self
      · exact List.mem_cons_of_mem _ (ih hc)

/-- `DurabilityLedger`. -/
structure DurabilityLedger (κ : Type) where
  entries : Dict κ LedgerEntry := Dict.empty
  oldestHeap : List (HeapItem κ) := []
  nextToken : Nat := 0
  acceptedCount : Nat := 0
  durableCount : Nat := 0
  uncertainCount : Nat := 0
  queuedCount : Nat := 0
  bufferedCount : Nat := 0
  inFlightCount : Nat := 0
  lastObservedMonotonicNs : Nat := 0
  deriving DecidableEq

variable [DecidableEq κ]

namespace DurabilityLedger

/-- `unpersisted_count`. -/
def unpersistedCount (l : DurabilityLedger κ) : Nat := l.entries.entries.length

/-- `stage_count`. -/
def stageCount (l : DurabilityLedger κ) : DurabilityStage → Nat
  | .queued => l.queuedCount
  | .buffered => l.bufferedCount
  | .inFlight => l.inFlightCount
  | .durable => l.durableCount
  | .uncertain => l.uncertainCount

/-- Change the count of one stage. -/
def mapCount (l : DurabilityLedger κ) (f : Nat → Nat) : DurabilityStage → DurabilityLedger κ
  | .queued => { l with queuedCount := f l.queuedCount }
  | .buffered => { l with bufferedCount := f l.bufferedCount }
  | .inFlight => { l with inFlightCount := f l.inFlightCount }
  | .durable => { l with durableCount := f l.durableCount }
  | .uncertain => { l with uncertainCount := f l.uncertainCount }

/-- `register_accepted`. -/
def registerAccepted (id : κ) (accepted : Nat) : Proc Err (DurabilityLedger κ) := fun l =>
  if l.entries.contains id then (some (.valueError "duplicate durability record_id"), l)
  else
    (none, { l with
      nextToken := l.nextToken + 1
      entries := l.entries.set id ⟨accepted, .queued, l.nextToken⟩
      oldestHeap := ⟨accepted, l.nextToken, id⟩ :: l.oldestHeap
      acceptedCount := l.acceptedCount + 1
      queuedCount := l.queuedCount + 1 })

/-- `_compact_oldest_heap_if_needed`. -/
def compactOldestHeapIfNeeded (l : DurabilityLedger κ) : DurabilityLedger κ :=
  if l.oldestHeap.length ≤ max 64 (2 * l.entries.entries.length) then l
  else
    { l with oldestHeap := l.entries.entries.map fun e =>
        ⟨e.2.acceptedMonotonicNs, e.2.token, e.1⟩ }

/-- `_transition`. -/
def transition (id : κ) (target : DurabilityStage) : Proc Err (DurabilityLedger κ) := fun l =>
  match l.entries.get? id with
  | none => (some (.keyError "unknown durability record_id"), l)
  | some entry =>
    if entry.stage.allows target then
      let l' := l.mapCount (· - 1) entry.stage
      if target = .durable ∨ target = .uncertain then
        (none, compactOldestHeapIfNeeded
          ({ l' with entries := l'.entries.erase id }.mapCount (· + 1) target))
      else
        (none, { l' with
          entries := l'.entries.update id fun e => { e with stage := target } }.mapCount
            (· + 1) target)
    else
      (some (.valueError s!"invalid durability transition {entry.stage.value} -> {target.value}"),
        l)

/-- `_oldest_entry`: the heap it leaves and the oldest live entry. -/
def oldestEntry (entries : Dict κ LedgerEntry) :
    Nat → List (HeapItem κ) → List (HeapItem κ) × Option LedgerEntry
  | 0, h => (h, none)
  | fuel + 1, h =>
    match heapMin h with
    | none => (h, none)
    | some item =>
      match entries.get? item.recordId with
      | some entry =>
        if entry.token = item.token then (h, some entry)
        else oldestEntry entries fuel (h.erase item)
      | none => oldestEntry entries fuel (h.erase item)

/-- `oldest_unpersisted_age_ns`, with the ledger and the clock it leaves. -/
def oldestUnpersistedAgeNs (l : DurabilityLedger κ) (c : Clock) :
    DurabilityLedger κ × Clock × Option Nat :=
  match oldestEntry l.entries (l.oldestHeap.length + 1) l.oldestHeap with
  | (h, none) => ({ l with oldestHeap := h }, c, none)
  | (h, some oldest) =>
    let observed := max c.monotonicNs l.lastObservedMonotonicNs
    ({ l with oldestHeap := h, lastObservedMonotonicNs := observed }, c.afterMonotonic,
      some (observed - oldest.acceptedMonotonicNs))

/-- `classify_critical_age`: the age of the oldest entry when it exceeds the threshold. -/
def classifyCriticalAge (l : DurabilityLedger κ) (c : Clock) (durabilityCriticalNs : Nat) :
    DurabilityLedger κ × Clock × Option Nat :=
  match l.oldestUnpersistedAgeNs c with
  | (l, c, some age) => (l, c, if age ≤ durabilityCriticalNs then none else some age)
  | (l, c, none) => (l, c, none)

end DurabilityLedger

/-! ## The books of the ledger -/

/-- One for a record in a stage. -/
def inStage (stage : DurabilityStage) (e : κ × LedgerEntry) : Nat :=
  if e.2.stage = stage then 1 else 0

/-- The stages of records that are not settled. -/
def DurabilityStage.live : DurabilityStage → Bool
  | .queued | .buffered | .inFlight => true
  | _ => false

namespace DurabilityLedger

/-- How many live records are in a stage. -/
def staged (l : DurabilityLedger κ) (stage : DurabilityStage) : Nat :=
  (l.entries.entries.map (inStage stage)).sum

/-- The counters of the ledger count, and the heap has an item for every live record. -/
structure Sound (l : DurabilityLedger κ) : Prop where
  queued : l.queuedCount = l.staged .queued
  buffered : l.bufferedCount = l.staged .buffered
  inFlight : l.inFlightCount = l.staged .inFlight
  accepted : l.acceptedCount = l.durableCount + l.entries.entries.length + l.uncertainCount
  live : ∀ e ∈ l.entries.entries, e.2.stage.live = true
  heap : ∀ e ∈ l.entries.entries, ⟨e.2.acceptedMonotonicNs, e.2.token, e.1⟩ ∈ l.oldestHeap

omit [DecidableEq κ] in
theorem sound_empty : Sound ({} : DurabilityLedger κ) := by
  constructor <;> simp [staged]

theorem sound_registerAccepted {l : DurabilityLedger κ} (h : l.Sound) {id : κ} (accepted : Nat)
    (hid : id ∉ l.entries.keys) : ((registerAccepted id accepted l).2).Sound := by
  have hc : l.entries.contains id = false := by
    rw [← Bool.not_eq_true, Dict.contains_iff]
    exact hid
  have hsum (stage : DurabilityStage) := Dict.sum_set_of_not_mem l.entries (inStage stage)
    ⟨accepted, .queued, l.nextToken⟩ hid
  have hent := Dict.entries_set_of_not_mem hid (⟨accepted, .queued, l.nextToken⟩ : LedgerEntry)
  obtain ⟨hq, hb, hi, ha, hlive, hheap⟩ := h
  simp only [registerAccepted, hc, Bool.false_eq_true, ↓reduceIte]
  constructor
  · simp only [staged, hsum]
    simp [hq, staged, inStage]
  · simp only [staged, hsum]
    simp [hb, staged, inStage]
  · simp only [staged, hsum]
    simp [hi, staged, inStage]
  · simp only [hent, ha]
    simp
    omega
  · simp only [hent]
    intro e he
    rcases List.mem_append.mp he with he | he
    · exact hlive e he
    · simp at he
      simp [he, DurabilityStage.live]
  · simp only [hent]
    intro e he
    rcases List.mem_append.mp he with he | he
    · exact List.mem_cons_of_mem _ (hheap e he)
    · simp at he
      simp [he]

omit [DecidableEq κ] in
theorem sound_compact {l : DurabilityLedger κ} (h : l.Sound) : l.compactOldestHeapIfNeeded.Sound := by
  unfold compactOldestHeapIfNeeded
  split
  · exact h
  · obtain ⟨hq, hb, hi, ha, hlive, -⟩ := h
    refine ⟨hq, hb, hi, ha, hlive, ?_⟩
    intro e he
    exact List.mem_map.mpr ⟨e, he, rfl⟩

/-- What `_transition` can do. -/
theorem transition_cases (id : κ) (target : DurabilityStage) (l : DurabilityLedger κ) :
    (∃ e, transition id target l = (some e, l)) ∨
    ∃ entry, l.entries.get? id = some entry ∧ entry.stage.allows target = true ∧
      transition id target l = (none,
        if target = .durable ∨ target = .uncertain then
          compactOldestHeapIfNeeded
            ({ l.mapCount (· - 1) entry.stage with entries := l.entries.erase id }.mapCount
              (· + 1) target)
        else
          { l.mapCount (· - 1) entry.stage with
            entries := l.entries.update id fun e => { e with stage := target } }.mapCount
              (· + 1) target) := by
  have hent (f : Nat → Nat) (stage : DurabilityStage) : (l.mapCount f stage).entries = l.entries := by
    cases stage <;> rfl
  unfold transition
  split
  · exact .inl ⟨_, rfl⟩
  · rename_i entry he
    split
    · rename_i ha
      refine .inr ⟨entry, he, ha, ?_⟩
      simp only [hent]
      split <;> rfl
    · exact .inl ⟨_, rfl⟩

theorem sound_erase {l : DurabilityLedger κ} (h : l.Sound) {id : κ} {entry : LedgerEntry}
    (hg : l.entries.get? id = some entry) {target : DurabilityStage}
    (ht : target = .durable ∨ target = .uncertain) :
    ({ l.mapCount (· - 1) entry.stage with entries := l.entries.erase id }.mapCount
      (· + 1) target).Sound := by
  have hq := Dict.sum_erase l.entries (inStage .queued) hg
  have hb := Dict.sum_erase l.entries (inStage .buffered) hg
  have hi := Dict.sum_erase l.entries (inStage .inFlight) hg
  have hlen := Dict.length_erase l.entries hg
  have hsub : ∀ e ∈ (l.entries.erase id).entries, e ∈ l.entries.entries := by
    intro e he
    exact (List.mem_filter.mp he).1
  have hstage := h.live _ (Dict.get?_eq_some.mp hg)
  have hlive := fun e he => h.live e (hsub e he)
  have hheap := fun e he => h.heap e (hsub e he)
  have hq' := h.queued
  have hb' := h.buffered
  have hi' := h.inFlight
  have ha' := h.accepted
  simp only [staged] at hq' hb' hi'
  cases hs : entry.stage <;> simp only [hs, inStage, DurabilityStage.live, reduceCtorEq,
    Bool.false_eq_true, ↓reduceIte] at hq hb hi hstage
  all_goals
    rcases ht with rfl | rfl
    all_goals
      refine ⟨?_, ?_, ?_, ?_, hlive, hheap⟩
      all_goals simp only [staged, mapCount]
      all_goals omega

theorem sound_move {l : DurabilityLedger κ} (h : l.Sound) {id : κ} {entry : LedgerEntry}
    (hg : l.entries.get? id = some entry) {target : DurabilityStage} (ht : target.live = true)
    (ha : entry.stage.allows target = true) :
    ({ l.mapCount (· - 1) entry.stage with
      entries := l.entries.update id fun e => { e with stage := target } }.mapCount
        (· + 1) target).Sound := by
  have hsum (stage : DurabilityStage) := Dict.sum_update l.entries (inStage stage)
    (fun e => { e with stage := target }) hg
  have hq := hsum .queued
  have hb := hsum .buffered
  have hi := hsum .inFlight
  have hlen := Dict.length_update l.entries id fun e => { e with stage := target }
  have hmem : ∀ e ∈ (l.entries.update id fun e => { e with stage := target }).entries,
      e.2.stage.live = true ∧ ⟨e.2.acceptedMonotonicNs, e.2.token, e.1⟩ ∈ l.oldestHeap := by
    intro e he
    obtain ⟨e', he', rfl⟩ := List.mem_map.mp he
    have h1 := h.live e' he'
    have h2 := h.heap e' he'
    dsimp only
    split
    · exact ⟨ht, h2⟩
    · exact ⟨h1, h2⟩
  have hlive := fun e he => (hmem e he).1
  have hheap := fun e he => (hmem e he).2
  have hq' := h.queued
  have hb' := h.buffered
  have hi' := h.inFlight
  have ha' := h.accepted
  simp only [staged] at hq' hb' hi'
  cases hs : entry.stage <;> cases target <;> simp only [hs, inStage, DurabilityStage.live,
    DurabilityStage.allows, reduceCtorEq, Bool.false_eq_true, ↓reduceIte] at hq hb hi ht ha
  all_goals
    refine ⟨?_, ?_, ?_, ?_, hlive, hheap⟩
    all_goals simp only [staged, mapCount]
    all_goals omega

theorem sound_transition {l : DurabilityLedger κ} (h : l.Sound) (id : κ)
    (target : DurabilityStage) : ((transition id target l).2).Sound := by
  rcases transition_cases id target l with ⟨e, he⟩ | ⟨entry, hg, hallow, he⟩
  · rw [he]
    exact h
  · rw [he]
    dsimp only
    split
    · rename_i ht
      exact sound_compact (sound_erase h hg ht)
    · rename_i ht
      refine sound_move h hg ?_ hallow
      cases target <;> simp_all [DurabilityStage.live]

theorem transition_live {id : κ} {target : DurabilityStage} {l : DurabilityLedger κ}
    (ht : target.live = true) (h : (transition id target l).1 = none) :
    (transition id target l).2.entries =
        l.entries.update id (fun e => { e with stage := target }) ∧
      id ∈ l.entries.keys ∧ (transition id target l).2.durableCount = l.durableCount := by
  rcases transition_cases id target l with ⟨e, he⟩ | ⟨entry, hg, hallow, he⟩
  · simp [he] at h
  · rw [he]
    have hn : ¬ (target = .durable ∨ target = .uncertain) := by
      rintro (rfl | rfl) <;> cases ht
    simp only [hn, ↓reduceIte]
    refine ⟨?_, Dict.mem_keys_of_get? hg, ?_⟩
    · cases target <;> rfl
    · cases hs : entry.stage <;> rw [hs] at hallow <;> cases target <;>
        first | rfl | exact absurd hallow (by decide) | exact absurd ht (by decide)

theorem transition_settled {id : κ} {target : DurabilityStage} {l : DurabilityLedger κ}
    (ht : target = .durable ∨ target = .uncertain) (h : (transition id target l).1 = none) :
    (transition id target l).2.entries = l.entries.erase id ∧ id ∈ l.entries.keys ∧
      (transition id target l).2.durableCount =
        l.durableCount + if target = .durable then 1 else 0 := by
  have hcompact (l : DurabilityLedger κ) : l.compactOldestHeapIfNeeded.entries = l.entries ∧
      l.compactOldestHeapIfNeeded.durableCount = l.durableCount := by
    unfold compactOldestHeapIfNeeded
    split <;> exact ⟨rfl, rfl⟩
  rcases transition_cases id target l with ⟨e, he⟩ | ⟨entry, hg, hallow, he⟩
  · simp [he] at h
  · rw [he]
    simp only [ht, ↓reduceIte, hcompact]
    refine ⟨?_, Dict.mem_keys_of_get? hg, ?_⟩
    · rcases ht with rfl | rfl <;> rfl
    · cases hs : entry.stage <;> rw [hs] at hallow <;> rcases ht with rfl | rfl <;>
        first | rfl | exact absurd hallow (by decide)

/-- `_oldest_entry` drops only stale items, and finds an entry exactly when there is one. -/
theorem oldestEntry_spec (entries : Dict κ LedgerEntry) (fuel : Nat) (h : List (HeapItem κ))
    (hf : h.length < fuel)
    (hh : ∀ e ∈ entries.entries, ⟨e.2.acceptedMonotonicNs, e.2.token, e.1⟩ ∈ h) :
    (∀ e ∈ entries.entries,
      ⟨e.2.acceptedMonotonicNs, e.2.token, e.1⟩ ∈ (oldestEntry entries fuel h).1) ∧
    ((oldestEntry entries fuel h).2 = none ↔ entries.entries = []) := by
  induction fuel generalizing h with
  | zero => omega
  | succ fuel ih =>
    unfold oldestEntry
    split
    · rename_i hm
      rw [heapMin_eq_none] at hm
      subst hm
      refine ⟨hh, iff_of_true rfl ?_⟩
      rw [List.eq_nil_iff_forall_not_mem]
      intro e he
      simpa using hh e he
    · rename_i item hm
      have hmem := heapMin_mem hm
      -- a stale item is the item of no entry, so the entries keep theirs
      have hnext (hs : ∀ e ∈ entries.entries, (⟨e.2.acceptedMonotonicNs, e.2.token, e.1⟩ : HeapItem κ) ≠
          item) := ih (h.erase item) (by
            have := List.length_erase_of_mem hmem
            have := List.length_pos_of_mem hmem
            omega) fun e he => (List.mem_erase_of_ne (hs e he)).mpr (hh e he)
      split
      · rename_i entry hg
        split
        · refine ⟨hh, iff_of_false (by simp) ?_⟩
          intro hn
          have := Dict.get?_eq_some.mp hg
          simp [hn] at this
        · rename_i ht
          apply hnext
          rintro e he rfl
          have := Dict.get?_eq_some.mpr he
          simp only [this, Option.some.injEq] at hg
          exact ht (hg ▸ rfl)
      · rename_i hg
        apply hnext
        rintro e he rfl
        have := Dict.get?_eq_some.mpr he
        simp [this] at hg

theorem sound_oldestUnpersistedAgeNs {l : DurabilityLedger κ} (h : l.Sound) (c : Clock) :
    (l.oldestUnpersistedAgeNs c).1.Sound ∧
      (l.oldestUnpersistedAgeNs c).1.entries = l.entries ∧
      ((l.oldestUnpersistedAgeNs c).2.2 = none ↔ l.entries.entries = []) := by
  obtain ⟨hheap, hnone⟩ := oldestEntry_spec l.entries (l.oldestHeap.length + 1) l.oldestHeap
    (by omega) h.heap
  unfold oldestUnpersistedAgeNs
  split
  · rename_i ho
    rw [ho] at hheap hnone
    refine ⟨⟨h.queued, h.buffered, h.inFlight, h.accepted, h.live, hheap⟩, rfl, ?_⟩
    simpa using hnone
  · rename_i ho
    rw [ho] at hheap hnone
    refine ⟨⟨h.queued, h.buffered, h.inFlight, h.accepted, h.live, hheap⟩, rfl, ?_⟩
    simpa using hnone

end DurabilityLedger

end CryptoCollector.Storage
