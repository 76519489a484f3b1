import Mathlib.Data.List.Induction
import CryptoCollector.Storage.Ledger

/-!
# The oldest unpersisted record

Terminal entries of the ledger leave the heap late: when they come to its top, or when the heap is
rebuilt. A record id may be registered again meanwhile, so the heap can hold several items of one
id.

* `Tracked`: the items of a live entry are told from the stale ones by their tokens.
* `oldestEntry_least`: what `_oldest_entry` finds is the least live entry.
* `run_accounted`: the counters, the age and the size of the heap after every run.
-/

namespace CryptoCollector.Storage

open Lib

variable {κ : Type}

theorem HeapItem.before_iff {a b : HeapItem κ} : a.before b = true ↔
    a.acceptedMonotonicNs < b.acceptedMonotonicNs ∨
      a.acceptedMonotonicNs = b.acceptedMonotonicNs ∧ a.token ≤ b.token := by
  simp [HeapItem.before]

theorem heapMin_before {h : List (HeapItem κ)} {a : HeapItem κ} (ha : heapMin h = some a) :
    ∀ b ∈ h, a.before b = true := by
  induction h generalizing a with
  | nil => cases ha
  | cons c h ih =>
    intro b hb
    unfold heapMin at ha
    cases hm : heapMin h with
    | none =>
      rw [hm, Option.some.injEq] at ha
      rw [heapMin_eq_none.mp hm, List.mem_singleton] at hb
      rw [hb, ha, HeapItem.before_iff]
      exact .inr ⟨rfl, le_rfl⟩
    | some d =>
      rw [hm, Option.some.injEq] at ha
      have hd : ∀ e ∈ h, d.before e = true := fun e he => ih hm e he
      simp only [HeapItem.before_iff] at hd ⊢
      split at ha
      · next hcd =>
        rw [HeapItem.before_iff] at hcd
        subst ha
        obtain rfl | hb := List.mem_cons.mp hb
        · exact .inr ⟨rfl, le_rfl⟩
        · have := hd b hb
          omega
      · next hcd =>
        rw [HeapItem.before_iff] at hcd
        subst ha
        obtain rfl | hb := List.mem_cons.mp hb
        · omega
        · exact hd b hb

variable [DecidableEq κ]

namespace DurabilityLedger

/-- An item of the heap carries the acceptance time of the live entry with its id and token. -/
def Matches (entries : Dict κ LedgerEntry) (item : HeapItem κ) : Prop :=
  ∀ entry, entries.get? item.recordId = some entry → entry.token = item.token →
    entry.acceptedMonotonicNs = item.acceptedMonotonicNs

/-- The books are right, and tokens tell the items of live entries from stale ones. -/
structure Tracked (l : DurabilityLedger κ) : Prop where
  sound : l.Sound
  items : ∀ item ∈ l.oldestHeap, Matches l.entries item
  item_tokens : ∀ item ∈ l.oldestHeap, item.token < l.nextToken
  entry_tokens : ∀ e ∈ l.entries.entries, e.2.token < l.nextToken

theorem tracked_empty : Tracked ({} : DurabilityLedger κ) := by
  refine ⟨sound_empty, ?_, ?_, ?_⟩ <;> simp

/-! ## Registration -/

/-- `register_accepted` of any integer, with the check of `_integer`. -/
def registerChecked (id : κ) (accepted : Int) : Proc Err (DurabilityLedger κ) := fun l =>
  if l.entries.contains id then (some (.valueError "duplicate durability record_id"), l)
  else if accepted < 0 then
    (some (.valueError "accepted_monotonic_ns must be non-negative"), l)
  else if (maxSignedInt64 : Int) < accepted then
    (some (.valueError "accepted_monotonic_ns must fit a signed 64-bit integer"), l)
  else registerAccepted id accepted.toNat l

/-- What `register_accepted` can do. -/
theorem registerChecked_cases (id : κ) (accepted : Int) (l : DurabilityLedger κ) :
    (∃ e, registerChecked id accepted l = (some e, l)) ∨
    id ∉ l.entries.keys ∧ registerChecked id accepted l = (none,
      (registerAccepted id accepted.toNat l).2) := by
  unfold registerChecked
  split
  · exact .inl ⟨_, rfl⟩
  next hid =>
  split
  · exact .inl ⟨_, rfl⟩
  split
  · exact .inl ⟨_, rfl⟩
  · rw [Dict.contains_iff] at hid
    refine .inr ⟨hid, ?_⟩
    simp [registerAccepted, hid]

theorem registerAccepted_eq {l : DurabilityLedger κ} {id : κ} (accepted : Nat)
    (h : id ∉ l.entries.keys) : (registerAccepted id accepted l).2 = { l with
      nextToken := l.nextToken + 1
      entries := l.entries.set id ⟨accepted, .queued, l.nextToken⟩
      oldestHeap := ⟨accepted, l.nextToken, id⟩ :: l.oldestHeap
      acceptedCount := l.acceptedCount + 1
      queuedCount := l.queuedCount + 1 } := by
  simp [registerAccepted, h]

theorem Tracked.registerAccepted {l : DurabilityLedger κ} (h : l.Tracked) {id : κ} (accepted : Nat)
    (hid : id ∉ l.entries.keys) : (registerAccepted id accepted l).2.Tracked := by
  have hsound := sound_registerAccepted h.sound accepted hid
  rw [registerAccepted_eq accepted hid] at hsound ⊢
  refine ⟨hsound, ?_, ?_, ?_⟩
  · intro item hitem entry hentry htoken
    simp only [Dict.get?_set] at hentry
    obtain rfl | hitem := List.mem_cons.mp hitem
    · rw [if_pos rfl] at hentry
      cases hentry
      rfl
    · split at hentry
      · -- the token of the new entry is on no item yet
        cases hentry
        exact absurd htoken (h.item_tokens item hitem).ne'
      · exact h.items item hitem entry hentry htoken
  · intro item hitem
    obtain rfl | hitem := List.mem_cons.mp hitem
    · exact Nat.lt_succ_self _
    · exact (h.item_tokens item hitem).trans (Nat.lt_succ_self _)
  · intro e he
    rw [Dict.entries_set_of_not_mem hid] at he
    obtain he | he := List.mem_append.mp he
    · exact (h.entry_tokens e he).trans (Nat.lt_succ_self _)
    · rw [List.mem_singleton.mp he]
      exact Nat.lt_succ_self _

/-! ## Transitions -/

omit [DecidableEq κ] in
@[simp] theorem mapCount_entries (l : DurabilityLedger κ) (f : Nat → Nat) (s : DurabilityStage) :
    (l.mapCount f s).entries = l.entries := by cases s <;> rfl

omit [DecidableEq κ] in
@[simp] theorem mapCount_oldestHeap (l : DurabilityLedger κ) (f : Nat → Nat)
    (s : DurabilityStage) : (l.mapCount f s).oldestHeap = l.oldestHeap := by cases s <;> rfl

omit [DecidableEq κ] in
@[simp] theorem mapCount_nextToken (l : DurabilityLedger κ) (f : Nat → Nat)
    (s : DurabilityStage) : (l.mapCount f s).nextToken = l.nextToken := by cases s <;> rfl

omit [DecidableEq κ] in
@[simp] theorem compact_entries (l : DurabilityLedger κ) :
    l.compactOldestHeapIfNeeded.entries = l.entries := by
  unfold compactOldestHeapIfNeeded
  split <;> rfl

omit [DecidableEq κ] in
/-- Compaction bounds the heap. -/
theorem length_compact (l : DurabilityLedger κ) :
    l.compactOldestHeapIfNeeded.oldestHeap.length ≤ max 64 (2 * l.entries.entries.length) := by
  unfold compactOldestHeapIfNeeded
  split
  · assumption
  · simp only [List.length_map]
    omega

/-- A rebuilt heap holds the items of the live entries only. -/
theorem Tracked.compact {l : DurabilityLedger κ} (h : l.Tracked) :
    l.compactOldestHeapIfNeeded.Tracked := by
  have hsound := sound_compact h.sound
  unfold compactOldestHeapIfNeeded at hsound ⊢
  split at hsound
  · next hle =>
    rw [if_pos hle]
    exact h
  · next hle =>
    rw [if_neg hle]
    refine ⟨hsound, ?_, ?_, h.entry_tokens⟩
    · intro item hitem entry hentry _
      obtain ⟨e, he, rfl⟩ := List.mem_map.mp hitem
      have := Dict.get?_eq_some.mpr he
      rw [this, Option.some.injEq] at hentry
      rw [← hentry]
    · intro item hitem
      obtain ⟨e, he, rfl⟩ := List.mem_map.mp hitem
      exact h.entry_tokens e he

theorem Tracked.transition {l : DurabilityLedger κ} (h : l.Tracked) (id : κ)
    (target : DurabilityStage) : (transition id target l).2.Tracked := by
  obtain ⟨e, he⟩ | ⟨entry, hg, hallow, he⟩ := transition_cases id target l
  · rw [he]
    exact h
  rw [he]
  dsimp only
  split
  · next ht =>
    refine Tracked.compact ⟨sound_erase h.sound hg ht, ?_, by simpa using h.item_tokens, ?_⟩
    · intro item hitem entry hentry
      simp only [mapCount_entries, mapCount_oldestHeap, Dict.get?_erase] at hitem hentry
      split at hentry
      · cases hentry
      · exact h.items item hitem entry hentry
    · intro e he
      simp only [mapCount_entries, mapCount_nextToken] at he ⊢
      exact h.entry_tokens e (List.mem_filter.mp he).1
  · next ht =>
    refine ⟨sound_move h.sound hg ?_ hallow, ?_, by simpa using h.item_tokens, ?_⟩
    · cases target <;> simp_all [DurabilityStage.live]
    · intro item hitem entry hentry htoken
      simp only [mapCount_entries, mapCount_oldestHeap, Dict.get?_update] at hitem hentry
      split at hentry
      · obtain ⟨entry', hentry', rfl⟩ := Option.map_eq_some_iff.mp hentry
        exact h.items item hitem entry' hentry' htoken
      · exact h.items item hitem entry hentry htoken
    · intro e he
      simp only [mapCount_entries, mapCount_nextToken] at he ⊢
      obtain ⟨e', he', rfl⟩ := List.mem_map.mp he
      have := h.entry_tokens e' he'
      dsimp only
      split <;> exact this

/-! ## The oldest entry -/

/-- `_oldest_entry` drops items, and finds a live entry that no live entry precedes. -/
theorem oldestEntry_least (entries : Dict κ LedgerEntry) (fuel : Nat) (h : List (HeapItem κ))
    (hheap : ∀ e ∈ entries.entries, ⟨e.2.acceptedMonotonicNs, e.2.token, e.1⟩ ∈ h)
    (hitems : ∀ item ∈ h, Matches entries item) :
    (oldestEntry entries fuel h).1.Sublist h ∧
      ∀ entry, (oldestEntry entries fuel h).2 = some entry →
        (∃ id, entries.get? id = some entry) ∧
          ∀ e ∈ entries.entries, entry.acceptedMonotonicNs ≤ e.2.acceptedMonotonicNs := by
  induction fuel generalizing h with
  | zero => exact ⟨.refl _, fun entry he => by cases he⟩
  | succ fuel ih =>
    unfold oldestEntry
    cases hm : heapMin h with
    | none => exact ⟨.refl _, fun entry he => by cases he⟩
    | some item =>
      have hnext (hstale : ∀ e ∈ entries.entries,
          (⟨e.2.acceptedMonotonicNs, e.2.token, e.1⟩ : HeapItem κ) ≠ item) :=
        ih (h.erase item) (fun e he => (List.mem_erase_of_ne (hstale e he)).mpr (hheap e he))
          fun item' hitem' => hitems item' (List.mem_of_mem_erase hitem')
      dsimp only
      cases hg : entries.get? item.recordId with
      | none =>
        obtain ⟨hsub, hleast⟩ := hnext (by
          rintro e he rfl
          rw [Dict.get?_eq_some.mpr he] at hg
          cases hg)
        exact ⟨hsub.trans (List.erase_sublist ..), hleast⟩
      | some current =>
        dsimp only
        split
        · next htoken =>
          refine ⟨.refl _, fun entry he => ?_⟩
          cases he
          refine ⟨⟨_, hg⟩, fun e he => ?_⟩
          have hmatch := hitems item (heapMin_mem hm) _ hg htoken
          have hbefore := HeapItem.before_iff.mp (heapMin_before hm _ (hheap e he))
          dsimp only at hbefore
          omega
        · next htoken =>
          obtain ⟨hsub, hleast⟩ := hnext (by
            rintro e he rfl
            rw [Dict.get?_eq_some.mpr he, Option.some.injEq] at hg
            exact htoken (hg ▸ rfl))
          exact ⟨hsub.trans (List.erase_sublist ..), hleast⟩

omit [DecidableEq κ] in
/-- The acceptance times of the live entries. -/
def acceptedTimes (l : DurabilityLedger κ) : List Nat :=
  l.entries.entries.map fun e => e.2.acceptedMonotonicNs

/-- The age is that of the least acceptance time. -/
theorem Tracked.age {l : DurabilityLedger κ} (h : l.Tracked) (c : Clock) :
    (l.oldestUnpersistedAgeNs c).2.2 = l.acceptedTimes.min?.map
      (max c.monotonicNs l.lastObservedMonotonicNs - ·) := by
  obtain ⟨-, hnone⟩ := oldestEntry_spec l.entries (l.oldestHeap.length + 1) l.oldestHeap
    (by omega) h.sound.heap
  obtain ⟨-, hleast⟩ := oldestEntry_least l.entries (l.oldestHeap.length + 1) l.oldestHeap
    h.sound.heap h.items
  unfold oldestUnpersistedAgeNs
  split
  · next ho =>
    rw [ho] at hnone
    simp [acceptedTimes, hnone.mp rfl]
  · next entry ho =>
    rw [ho] at hleast
    obtain ⟨⟨id, hid⟩, hle⟩ := hleast entry rfl
    have hmin : l.acceptedTimes.min? = some entry.acceptedMonotonicNs := by
      rw [List.min?_eq_some_iff]
      refine ⟨List.mem_map.mpr ⟨_, Dict.get?_eq_some.mp hid, rfl⟩, ?_⟩
      intro time htime
      obtain ⟨e, he, rfl⟩ := List.mem_map.mp htime
      exact hle e he
    rw [hmin]
    rfl

/-- What looking for the age leaves. -/
theorem oldestUnpersistedAgeNs_frame {l : DurabilityLedger κ} (h : l.Tracked) (c : Clock) :
    (l.oldestUnpersistedAgeNs c).1.Tracked ∧
      (l.oldestUnpersistedAgeNs c).1.entries = l.entries ∧
      (l.oldestUnpersistedAgeNs c).1.oldestHeap.length ≤ l.oldestHeap.length := by
  obtain ⟨hsound, hentries, -⟩ := sound_oldestUnpersistedAgeNs h.sound c
  obtain ⟨hsub, -⟩ := oldestEntry_least l.entries (l.oldestHeap.length + 1) l.oldestHeap
    h.sound.heap h.items
  unfold oldestUnpersistedAgeNs at hsound hentries ⊢
  split
  all_goals
    next ho =>
    rw [ho] at hsub
    simp only [ho] at hsound
    exact ⟨⟨hsound, fun item hitem => h.items item (hsub.subset hitem),
      fun item hitem => h.item_tokens item (hsub.subset hitem), h.entry_tokens⟩, rfl, hsub.length_le⟩

/-! ## Runs -/

/-- A call of the ledger, with the clock that it reads. -/
inductive Op (κ : Type) where
  | registerAccepted (id : κ) (acceptedMonotonicNs : Int)
  | markBuffered (id : κ)
  | markInFlight (id : κ)
  | markDurable (id : κ)
  | markUncertain (id : κ)
  | oldestUnpersistedAgeNs (clock : Clock)
  | classifyCriticalAge (clock : Clock) (durabilityCriticalNs : Nat)

/-- What a call raises, and the ledger after it. -/
def Op.exec : Op κ → Proc Err (DurabilityLedger κ)
  | .registerAccepted id accepted => registerChecked id accepted
  | .markBuffered id => transition id .buffered
  | .markInFlight id => transition id .inFlight
  | .markDurable id => transition id .durable
  | .markUncertain id => transition id .uncertain
  | .oldestUnpersistedAgeNs clock => fun l => (none, (l.oldestUnpersistedAgeNs clock).1)
  | .classifyCriticalAge clock threshold =>
    fun l => (none, (l.classifyCriticalAge clock threshold).1)

/-- The ledger after some calls, whatever they raise. -/
def run (l : DurabilityLedger κ) : List (Op κ) → DurabilityLedger κ
  | [] => l
  | op :: ops => (op.exec l).2.run ops

/-- The registrations since the last terminal transition: `n` of them before these calls. -/
def sinceTerminal (l : DurabilityLedger κ) (n : Nat) : List (Op κ) → Nat
  | [] => n
  | op :: ops =>
    (op.exec l).2.sinceTerminal
      (match op, (op.exec l).1 with
      | _, some _ => n
      | .registerAccepted _ _, none => n + 1
      | .markDurable _, none => 0
      | .markUncertain _, none => 0
      | _, none => n) ops

/-- A call that raises changes nothing. -/
theorem exec_error {op : Op κ} {l : DurabilityLedger κ} {e : Err} (h : (op.exec l).1 = some e) :
    (op.exec l).2 = l := by
  have htransition (id : κ) (target : DurabilityStage)
      (h : (transition id target l).1 = some e) : (transition id target l).2 = l := by
    obtain ⟨e', he⟩ | ⟨entry, -, -, he⟩ := transition_cases id target l
    · rw [he]
    · rw [he] at h
      cases h
  cases op with
  | registerAccepted id accepted =>
    simp only [Op.exec] at h ⊢
    obtain ⟨e', he⟩ | ⟨-, he⟩ := registerChecked_cases id accepted l
    · rw [he]
    · rw [he] at h
      cases h
  | markBuffered id => exact htransition id _ h
  | markInFlight id => exact htransition id _ h
  | markDurable id => exact htransition id _ h
  | markUncertain id => exact htransition id _ h
  | oldestUnpersistedAgeNs clock => cases h
  | classifyCriticalAge clock threshold => cases h

/-- The heap is at most `n` items larger than compaction leaves it. -/
def Bounded (l : DurabilityLedger κ) (n : Nat) : Prop :=
  l.oldestHeap.length ≤ max 64 (2 * l.entries.entries.length) + n

theorem Bounded.registerAccepted {l : DurabilityLedger κ} {n : Nat} (h : l.Bounded n) {id : κ}
    (accepted : Nat) (hid : id ∉ l.entries.keys) :
    (registerAccepted id accepted l).2.Bounded (n + 1) := by
  rw [registerAccepted_eq accepted hid]
  unfold Bounded at h ⊢
  simp only [List.length_cons, Dict.entries_set_of_not_mem hid, List.length_append,
    List.length_nil]
  omega

/-- A terminal transition compacts, and another one keeps the heap. -/
theorem Bounded.transition {l : DurabilityLedger κ} {n : Nat} (h : l.Bounded n) {id : κ}
    {target : DurabilityStage} (hok : (transition id target l).1 = none) :
    (transition id target l).2.Bounded
      (if target = .durable ∨ target = .uncertain then 0 else n) := by
  obtain ⟨e, he⟩ | ⟨entry, hg, -, he⟩ := transition_cases id target l
  · rw [he] at hok
    cases hok
  rw [he]
  dsimp only
  split
  · unfold Bounded
    rw [compact_entries]
    exact length_compact _
  · unfold Bounded at h ⊢
    simpa [Dict.length_update] using h

theorem classifyCriticalAge_fst (l : DurabilityLedger κ) (c : Clock) (threshold : Nat) :
    (l.classifyCriticalAge c threshold).1 = (l.oldestUnpersistedAgeNs c).1 := by
  unfold classifyCriticalAge
  split <;> next he => rw [he]

theorem Tracked.exec {l : DurabilityLedger κ} (h : l.Tracked) (op : Op κ) :
    (op.exec l).2.Tracked := by
  cases op with
  | registerAccepted id accepted =>
    simp only [Op.exec]
    obtain ⟨e, he⟩ | ⟨hid, he⟩ := registerChecked_cases id accepted l
    · rw [he]; exact h
    · rw [he]; exact h.registerAccepted _ hid
  | markBuffered id => exact h.transition id _
  | markInFlight id => exact h.transition id _
  | markDurable id => exact h.transition id _
  | markUncertain id => exact h.transition id _
  | oldestUnpersistedAgeNs clock => exact (oldestUnpersistedAgeNs_frame h clock).1
  | classifyCriticalAge clock threshold =>
    simp only [Op.exec, classifyCriticalAge_fst]
    exact (oldestUnpersistedAgeNs_frame h clock).1

theorem Tracked.run {l : DurabilityLedger κ} (h : l.Tracked) (ops : List (Op κ)) :
    (l.run ops).Tracked := by
  induction ops generalizing l with
  | nil => exact h
  | cons op ops ih => exact ih (h.exec op)

theorem Bounded.run {l : DurabilityLedger κ} (h : l.Tracked) {n : Nat} (hn : l.Bounded n)
    (ops : List (Op κ)) : (l.run ops).Bounded (l.sinceTerminal n ops) := by
  induction ops generalizing l n with
  | nil => exact hn
  | cons op ops ih =>
    apply ih (h.exec op)
    have hage (clock : Clock) : (l.oldestUnpersistedAgeNs clock).1.Bounded n := by
      obtain ⟨-, hentries, hlen⟩ := oldestUnpersistedAgeNs_frame h clock
      unfold Bounded at hn ⊢
      rw [hentries]
      exact hlen.trans hn
    cases hraise : (op.exec l).1 with
    | some e =>
      rw [exec_error hraise]
      cases op <;> exact hn
    | none =>
      cases op with
      | registerAccepted id accepted =>
        simp only [Op.exec] at hraise ⊢
        obtain ⟨e, he⟩ | ⟨hid, he⟩ := registerChecked_cases id accepted l
        · rw [he] at hraise
          cases hraise
        · rw [he]; exact hn.registerAccepted _ hid
      | markBuffered id => exact hn.transition hraise
      | markInFlight id => exact hn.transition hraise
      | markDurable id => exact hn.transition hraise
      | markUncertain id => exact hn.transition hraise
      | oldestUnpersistedAgeNs clock => exact hage clock
      | classifyCriticalAge clock threshold =>
        simp only [Op.exec, classifyCriticalAge_fst]
        exact hage clock

omit [DecidableEq κ] in
theorem staged_eq_countP (l : DurabilityLedger κ) (stage : DurabilityStage) :
    l.staged stage = l.entries.entries.countP fun e => e.2.stage = stage := by
  unfold staged
  generalize l.entries.entries = entries
  induction entries with
  | nil => rfl
  | cons e entries ih =>
    rw [List.map_cons, List.sum_cons, ih, List.countP_cons, inStage, Nat.add_comm]
    simp

/-- What the ledger accounts for, with `n` registrations since the last terminal transition. -/
structure Accounted (l : DurabilityLedger κ) (n : Nat) : Prop where
  accepted : l.acceptedCount = l.durableCount + l.uncertainCount + l.unpersistedCount
  live : ∀ e ∈ l.entries.entries, e.2.stage.live = true
  staged : ∀ stage : DurabilityStage, stage.live = true →
    l.stageCount stage = l.entries.entries.countP fun e => e.2.stage = stage
  age : ∀ clock : Clock, (l.oldestUnpersistedAgeNs clock).2.2 =
    l.acceptedTimes.min?.map (max clock.monotonicNs l.lastObservedMonotonicNs - ·)
  heap : l.oldestHeap.length ≤ max 64 (2 * l.unpersistedCount) + n
  rejected : ∀ (op : Op κ) (e : Err), (op.exec l).1 = some e → (op.exec l).2 = l

/-- In every run the counters count, the age is that of the least live acceptance time, the heap
stays small, and a rejected call changes nothing. -/
theorem run_accounted (ops : List (Op κ)) :
    Accounted (({} : DurabilityLedger κ).run ops) (({} : DurabilityLedger κ).sinceTerminal 0 ops) := by
  have h := tracked_empty.run ops
  have hbounded : ({} : DurabilityLedger κ).Bounded 0 := Nat.zero_le _
  refine ⟨?_, h.sound.live, ?_, h.age, hbounded.run tracked_empty ops, fun op e he => exec_error he⟩
  · have := h.sound.accepted
    unfold unpersistedCount
    omega
  · intro stage hstage
    rw [← staged_eq_countP]
    cases stage with
    | queued => exact h.sound.queued
    | buffered => exact h.sound.buffered
    | inFlight => exact h.sound.inFlight
    | durable => cases hstage
    | uncertain => cases hstage

end DurabilityLedger

end CryptoCollector.Storage
