import CryptoCollector.Scheduler.Rest

/-!
# The tables of the REST scheduler stay in step

The table of pending jobs, the logical index and the two heaps describe the same jobs in every
state of every run (`run_consistent`), also after calls that raise.

`Kept` is the invariant that carries the proof. Its second argument are the entries that the loop
of `_next_ready` holds outside of the heaps: it takes an entry (`Kept.pop`), drops its job
(`Kept.drop`) or keeps the entry for later. Removal of any set of jobs is one lemma
(`Kept.remove`), and so is the entry of a new one (`Kept.enqueue`).
-/

namespace CryptoCollector.Scheduler

open Lib Network

variable {κ : Type}

/-- The id and the sequence number of an entry. -/
def HeapEntry.tag (e : HeapEntry) : String × Nat := (e.id, e.sequence)

theorem HeapEntry.perm_push (e : HeapEntry) (heap : List HeapEntry) :
    (e.push heap).Perm (e :: heap) := List.perm_orderedInsert _ _ _

theorem RestJob.mem_keysOf {routes : List RestBudgetRoute} {k : BudgetKey} :
    k ∈ keysOf routes ↔ ∃ r ∈ routes, r.budgetKey = k := by
  simp [keysOf]

theorem RestJob.mem_of_mem_eligibleRoutes {job : RestJob κ} {r : RestBudgetRoute}
    (h : r ∈ job.eligibleRoutes) : r ∈ job.routes := by
  unfold eligibleRoutes at h
  split at h
  · exact h
  · exact (List.mem_filter.mp h).1

namespace RestScheduler

/-- The invariant of the scheduler, with `held` entries outside of the heaps. -/
structure Kept (s : RestScheduler κ) (held : List HeapEntry) : Prop where
  keyed : ∀ id p, s.jobs.get? id = some p → p.job.id = id
  heaps : ((s.future ++ (s.ready ++ held)).map HeapEntry.tag).Perm
    (s.jobs.entries.map fun e => (e.1, e.2.sequence))
  ranked : ∀ e ∈ s.ready ++ held, ∀ p, s.jobs.get? e.id = some p →
    e.rank = p.job.priority.value
  index : ∀ key id, s.logicalIndex.get? key = some id ↔
    ∃ p, s.jobs.get? id = some p ∧ p.job.replaceable = true ∧ p.job.logicalKey = some key
  bounded : s.jobs.entries.length ≤ s.maxPending
  payable : ∀ id p, s.jobs.get? id = some p →
    ∀ k ∈ p.job.budgetKeys, s.budgets.Payable k p.job.endpointCost

section Entries

variable {s : RestScheduler κ} {held : List HeapEntry}

/-- An entry has a pending job with its sequence number. -/
theorem Kept.job_of_mem (h : s.Kept held) {e : HeapEntry} (he : e ∈ s.future ++ (s.ready ++ held)) :
    ∃ p, s.jobs.get? e.id = some p ∧ p.sequence = e.sequence := by
  have hm : e.tag ∈ s.jobs.entries.map fun e => (e.1, e.2.sequence) :=
    h.heaps.mem_iff.mp (List.mem_map_of_mem he)
  obtain ⟨⟨id, p⟩, hp, heq⟩ := List.mem_map.mp hm
  obtain ⟨hid, hseq⟩ := Prod.mk.inj heq
  subst hid
  exact ⟨p, Dict.get?_eq_some.mpr hp, hseq⟩

theorem Kept.nodup_ids (h : s.Kept held) :
    ((s.future ++ (s.ready ++ held)).map (·.id)).Nodup := by
  have hperm := h.heaps.map Prod.fst
  rw [List.map_map, List.map_map] at hperm
  exact hperm.nodup_iff.mpr s.jobs.nodup

theorem Kept.held_perm {held' : List HeapEntry} (h : s.Kept held) (hp : held.Perm held') :
    s.Kept held' where
  keyed := h.keyed
  heaps := (((hp.append_left _).append_left _).map _).symm.trans h.heaps
  ranked e he := h.ranked e (((hp.append_left _).mem_iff).mpr he)
  index := h.index
  bounded := h.bounded
  payable := h.payable

/-- A heap entry moves out of `ready`. -/
theorem Kept.pop {e : HeapEntry} {ready : List HeapEntry} (h : s.Kept held)
    (he : s.ready = e :: ready) : ({ s with ready } : RestScheduler κ).Kept (e :: held) where
  keyed := h.keyed
  heaps := by
    have hperm : (ready ++ e :: held).Perm (s.ready ++ held) := by
      rw [he]
      exact List.perm_middle
    exact ((hperm.append_left _).map _).trans h.heaps
  ranked a ha := by
    apply h.ranked a
    rw [he]
    exact List.perm_middle.mem_iff.mp ha
  index := h.index
  bounded := h.bounded
  payable := h.payable

end Entries

/-! ## Removal -/

theorem get?_dropIndex {index : Dict (List String) String} {p : Pending κ} {key : List String}
    {id : String} : (dropIndex index p).get? key = some id ↔
      index.get? key = some id ∧ ¬ (p.job.id = id ∧ p.job.logicalKey = some key) := by
  unfold dropIndex
  cases hk : p.job.logicalKey with
  | none => simp
  | some k =>
    dsimp only
    by_cases hi : index.get? k = some p.job.id
    · rw [if_pos hi]
      by_cases hkey : key = k
      · subst hkey
        rw [Dict.get?_erase_self, hi]
        simp
      · rw [Dict.get?_erase_ne _ hkey]
        simp [Ne.symm hkey]
    · rw [if_neg hi]
      constructor
      · intro hget
        refine ⟨hget, ?_⟩
        rintro ⟨rfl, hkey⟩
        cases hkey
        exact hi hget
      · exact And.left

theorem get?_foldl_dropIndex {index : Dict (List String) String} {ps : List (Pending κ)}
    {key : List String} {id : String} : (ps.foldl dropIndex index).get? key = some id ↔
      index.get? key = some id ∧ ∀ p ∈ ps, ¬ (p.job.id = id ∧ p.job.logicalKey = some key) := by
  induction ps generalizing index with
  | nil => simp
  | cons p ps ih =>
    rw [List.foldl_cons, ih, get?_dropIndex]
    simp only [List.forall_mem_cons]
    tauto

/-- All jobs of a set leave the table, the index and the heaps together. -/
theorem Kept.remove {s s' : RestScheduler κ} {held held' : List HeapEntry} (h : s.Kept held)
    (gone : String → Bool)
    (hjobs : s'.jobs.entries = s.jobs.entries.filter fun e => !gone e.1)
    (hfuture : s'.future = s.future.filter fun e => !gone e.id)
    (hready : s'.ready = s.ready.filter fun e => !gone e.id)
    (hheld : held' = held.filter fun e => !gone e.id)
    (hindex : ∀ key id, s'.logicalIndex.get? key = some id ↔
      s.logicalIndex.get? key = some id ∧ gone id = false)
    (hmax : s'.maxPending = s.maxPending) (hbudgets : s.budgets.Within s'.budgets) :
    s'.Kept held' := by
  have hget (id : String) (p : Pending κ) :
      s'.jobs.get? id = some p ↔ s.jobs.get? id = some p ∧ gone id = false := by
    rw [Dict.get?_eq_some, Dict.get?_eq_some, hjobs, List.mem_filter]
    simp
  refine ⟨?_, ?_, ?_, ?_, ?_, ?_⟩
  · intro id p hp
    exact h.keyed id p ((hget id p).mp hp).1
  · have hfilter := h.heaps.filter fun t => !gone t.1
    rw [List.filter_map, List.filter_map] at hfilter
    have hleft : s'.future ++ (s'.ready ++ held') =
        (s.future ++ (s.ready ++ held)).filter fun e => !gone e.id := by
      rw [hfuture, hready, hheld, List.filter_append, List.filter_append]
    rw [hleft, hjobs]
    exact hfilter
  · intro e he p hp
    have hmem : e ∈ s.ready ++ held := by
      rw [hready, hheld, ← List.filter_append] at he
      exact (List.mem_filter.mp he).1
    exact h.ranked e hmem p ((hget _ p).mp hp).1
  · intro key id
    rw [hindex, h.index]
    constructor
    · rintro ⟨⟨p, hp, hr, hk⟩, hg⟩
      exact ⟨p, (hget id p).mpr ⟨hp, hg⟩, hr, hk⟩
    · rintro ⟨p, hp, hr, hk⟩
      obtain ⟨hp, hg⟩ := (hget id p).mp hp
      exact ⟨⟨p, hp, hr, hk⟩, hg⟩
  · rw [hmax, hjobs]
    exact (List.length_filter_le _ _).trans h.bounded
  · intro id p hp k hk
    exact (h.payable id p ((hget id p).mp hp).1 k hk).mono hbudgets

/-- The logical index without one job, in the words of `Kept.remove`. -/
theorem Kept.index_drop {s : RestScheduler κ} {held : List HeapEntry} (h : s.Kept held)
    {p : Pending κ} {id : String} (hp : s.jobs.get? id = some p) (key : List String)
    (id' : String) : (dropIndex s.logicalIndex p).get? key = some id' ↔
      s.logicalIndex.get? key = some id' ∧ decide (id' = id) = false := by
  rw [get?_dropIndex, h.keyed id p hp, decide_eq_false_iff_not]
  constructor
  · rintro ⟨hget, hne⟩
    refine ⟨hget, ?_⟩
    rintro rfl
    obtain ⟨p', hp', -, hk⟩ := (h.index key id').mp hget
    rw [hp] at hp'
    cases hp'
    exact hne ⟨rfl, hk⟩
  · rintro ⟨hget, hne⟩
    exact ⟨hget, fun hc => hne hc.1.symm⟩

theorem Kept.removePending {s : RestScheduler κ} {held : List HeapEntry} (h : s.Kept held)
    (id : String) : (s.removePending id).Kept (held.filter (·.id ≠ id)) := by
  cases hp : s.jobs.get? id with
  | none =>
    have hs : s.removePending id = s := by simp [RestScheduler.removePending, hp]
    have hheld : held.filter (·.id ≠ id) = held := by
      apply List.filter_eq_self.mpr
      intro e he
      obtain ⟨p, hp', -⟩ := h.job_of_mem (List.mem_append_right _ (List.mem_append_right _ he))
      simp only [ne_eq, decide_eq_true_eq]
      rintro rfl
      rw [hp] at hp'
      cases hp'
    rw [hs, hheld]
    exact h
  | some p =>
    have hs : s.removePending id = { s with
        jobs := s.jobs.erase id
        logicalIndex := dropIndex s.logicalIndex p
        future := s.future.filter (·.id ≠ id)
        ready := s.ready.filter (·.id ≠ id) } := by simp [RestScheduler.removePending, hp]
    rw [hs]
    refine h.remove (fun a => decide (a = id)) ?_ ?_ ?_ ?_ (h.index_drop hp) rfl
      (BudgetRegistry.Within.refl _)
    all_goals simp

/-- The job of a held entry leaves the table; the heaps have no other entry of it. -/
theorem Kept.drop {s s' : RestScheduler κ} {e : HeapEntry} {held : List HeapEntry}
    (h : s.Kept (e :: held)) {p : Pending κ} (hp : s.jobs.get? e.id = some p)
    (hjobs : s'.jobs = s.jobs.erase e.id)
    (hindex : s'.logicalIndex = dropIndex s.logicalIndex p)
    (hfuture : s'.future = s.future ∨ s'.future = s.future.filter (·.id ≠ e.id))
    (hready : s'.ready = s.ready ∨ s'.ready = s.ready.filter (·.id ≠ e.id))
    (hmax : s'.maxPending = s.maxPending) (hbudgets : s.budgets.Within s'.budgets) :
    s'.Kept held := by
  have hnodup := h.nodup_ids
  have hperm : (s.future ++ (s.ready ++ e :: held)).Perm
      (e :: (s.future ++ (s.ready ++ held))) :=
    (List.perm_middle.append_left _).trans List.perm_middle
  have hne : ∀ a ∈ s.future ++ (s.ready ++ held), a.id ≠ e.id := by
    intro a ha heq
    have := (hperm.map (·.id)).nodup_iff.mp hnodup
    rw [List.map_cons, List.nodup_cons] at this
    exact this.1 (heq ▸ List.mem_map_of_mem ha)
  have hself (l : List HeapEntry) (hl : ∀ a ∈ l, a ∈ s.future ++ (s.ready ++ held)) :
      l.filter (·.id ≠ e.id) = l := by
    apply List.filter_eq_self.mpr
    intro a ha
    simpa using hne a (hl a ha)
  have hff := hself s.future fun a ha => List.mem_append_left _ ha
  have hrr := hself s.ready fun a ha => List.mem_append_right _ (List.mem_append_left _ ha)
  have hhh := hself held fun a ha => List.mem_append_right _ (List.mem_append_right _ ha)
  refine h.remove (fun a => decide (a = e.id)) ?_ ?_ ?_ ?_ ?_ hmax hbudgets
  · rw [hjobs]
    simp
  · rcases hfuture with hf | hf
    · rw [hf]
      simpa using hff.symm
    · rw [hf]
      simp
  · rcases hready with hr | hr
    · rw [hr]
      simpa using hrr.symm
    · rw [hr]
      simp
  · simpa using hhh.symm
  · rw [hindex]
    exact h.index_drop hp

/-- What the invariant says nothing about may change. -/
theorem Kept.congr {s s' : RestScheduler κ} {held : List HeapEntry} (h : s.Kept held)
    (hjobs : s'.jobs = s.jobs) (hindex : s'.logicalIndex = s.logicalIndex)
    (hfuture : s'.future = s.future) (hready : s'.ready = s.ready)
    (hmax : s'.maxPending = s.maxPending) (hbudgets : s.budgets.Within s'.budgets) :
    s'.Kept held := by
  obtain ⟨h1, h2, h3, h4, h5, h6⟩ := h
  refine ⟨?_, ?_, ?_, ?_, ?_, ?_⟩
  · rwa [hjobs]
  · rwa [hjobs, hfuture, hready]
  · rwa [hjobs, hready]
  · rwa [hjobs, hindex]
  · rwa [hjobs, hmax]
  · intro id p hp k hk
    rw [hjobs] at hp
    exact (h6 id p hp k hk).mono hbudgets

theorem Kept.expire {s : RestScheduler κ} {e : HeapEntry} {held : List HeapEntry}
    (h : s.Kept (e :: held)) {p : Pending κ} (hp : s.jobs.get? e.id = some p) :
    (s.expire p).Kept held := by
  have hid : p.job.id = e.id := h.keyed e.id p hp
  have hs : s.expire p = noteExpired e.id { s with
      jobs := s.jobs.erase e.id
      logicalIndex := dropIndex s.logicalIndex p
      future := s.future.filter (·.id ≠ e.id)
      ready := s.ready.filter (·.id ≠ e.id) } := by
    simp [RestScheduler.expire, RestScheduler.removePending, hid, hp]
  rw [hs]
  exact h.drop hp rfl rfl (.inr rfl) (.inr rfl) rfl (BudgetRegistry.Within.refl _)

theorem mem_overdue {s : RestScheduler κ} {now : Nat} {p : Pending κ}
    (h : p ∈ s.overdue now) : p ∈ s.jobs.values :=
  (List.mem_filter.mp ((List.perm_insertionSort _ _).mem_iff.mp h)).1

theorem Kept.expireAll {s : RestScheduler κ} (h : s.Kept []) (now : Nat) :
    (s.expireAll now).Kept [] := by
  have hnot (id : String) : decide (id ∉ (s.overdue now).map (·.job.id)) =
      !decide (id ∈ (s.overdue now).map (·.job.id)) := decide_not
  refine h.remove (fun a => decide (a ∈ (s.overdue now).map (·.job.id))) ?_ ?_ ?_ rfl ?_ rfl
    (BudgetRegistry.Within.refl _)
  · change (((s.overdue now).map (·.job.id)).foldl Dict.erase s.jobs).entries = _
    rw [Dict.entries_foldl_erase]
    exact List.filter_congr fun e _ => hnot e.1
  · exact List.filter_congr fun e _ => hnot e.id
  · exact List.filter_congr fun e _ => hnot e.id
  · intro key id
    change ((s.overdue now).foldl dropIndex s.logicalIndex).get? key = some id ↔ _
    rw [get?_foldl_dropIndex, decide_eq_false_iff_not]
    apply and_congr_right
    intro hget
    obtain ⟨p, hp, -, hkey⟩ := (h.index key id).mp hget
    constructor
    · intro hnone hmem
      obtain ⟨p', hp', hid⟩ := List.mem_map.mp hmem
      obtain ⟨⟨id', p''⟩, hentry, hpeq⟩ := List.mem_map.mp (mem_overdue hp')
      have hpeq : p'' = p' := hpeq
      subst hpeq
      have hget' := Dict.get?_eq_some.mpr hentry
      have hid' : id' = id := (h.keyed id' p'' hget').symm.trans hid
      rw [hid', hp] at hget'
      cases hget'
      exact hnone p hp' ⟨hid, hkey⟩
    · intro hnot p' hp' hc
      exact hnot (List.mem_map.mpr ⟨p', hp', hc.1⟩)

/-! ## A new job -/

/-- A job whose id and, if it is replaceable, whose logical key are free. -/
structure Fresh (s : RestScheduler κ) (job : RestJob κ) : Prop where
  id : s.jobs.get? job.id = none
  key : job.replaceable = true → ∀ key ∈ job.logicalKey, s.logicalIndex.get? key = none
  payable : ∀ k ∈ job.budgetKeys, s.budgets.Payable k job.endpointCost

/-- A new job enters the table, the index and one of the heaps. -/
theorem Kept.enqueue {s : RestScheduler κ} (h : s.Kept []) {job : RestJob κ} (hf : s.Fresh job)
    (hroom : s.jobs.entries.length < s.maxPending) (now : Nat) : (s.enqueue job now).Kept [] := by
  have hid : job.id ∉ s.jobs.keys := Dict.get?_eq_none.mp hf.id
  have hjobs : (s.enqueue job now).jobs = s.jobs.set job.id ⟨job, s.sequence + 1⟩ := by
    unfold RestScheduler.enqueue bump
    dsimp only
    split <;> rfl
  have hindex : (s.enqueue job now).logicalIndex =
      job.logicalKey.elim s.logicalIndex fun key =>
        if job.replaceable then s.logicalIndex.set key job.id else s.logicalIndex := by
    unfold RestScheduler.enqueue bump
    cases job.logicalKey <;> dsimp only <;> split <;> rfl
  have hmax : (s.enqueue job now).maxPending = s.maxPending := by
    unfold RestScheduler.enqueue bump
    dsimp only
    split <;> rfl
  have hbudgets : (s.enqueue job now).budgets = s.budgets := by
    unfold RestScheduler.enqueue bump
    dsimp only
    split <;> rfl
  have hheaps : ∃ e : HeapEntry, e.tag = (job.id, s.sequence + 1) ∧
      ((s.enqueue job now).future ++ (s.enqueue job now).ready).Perm
        (e :: (s.future ++ s.ready)) ∧
      ∀ a ∈ (s.enqueue job now).ready, a ∈ s.ready ∨
        a.id = job.id ∧ a.rank = job.priority.value := by
    unfold RestScheduler.enqueue bump
    dsimp only
    split
    · refine ⟨_, rfl, ((HeapEntry.perm_push _ _).append_left _).trans List.perm_middle, ?_⟩
      intro a ha
      rcases List.mem_cons.mp ((HeapEntry.perm_push _ _).mem_iff.mp ha) with rfl | ha
      · exact .inr ⟨rfl, rfl⟩
      · exact .inl ha
    · exact ⟨_, rfl, (HeapEntry.perm_push _ _).append_right _, fun a ha => .inl ha⟩
  have hget (id : String) : (s.enqueue job now).jobs.get? id =
      if id = job.id then some ⟨job, s.sequence + 1⟩ else s.jobs.get? id := by
    rw [hjobs, Dict.get?_set]
  obtain ⟨e, htag, hperm, hranked⟩ := hheaps
  refine ⟨?_, ?_, ?_, ?_, ?_, ?_⟩
  · intro id p hp
    rw [hget] at hp
    split at hp
    · rename_i heq
      cases hp
      exact heq.symm
    · exact h.keyed id p hp
  · have h1 := hperm.map HeapEntry.tag
    have h2 := h.heaps
    rw [List.append_nil] at h2 ⊢
    rw [hjobs, Dict.entries_set_of_not_mem hid]
    rw [List.map_cons, htag] at h1
    have h3 := (List.perm_append_singleton (job.id, ⟨job, s.sequence + 1⟩)
      s.jobs.entries).symm.map fun e : String × Pending κ => (e.1, e.2.sequence)
    exact h1.trans ((h2.cons _).trans h3)
  · intro a ha p hp
    rw [List.append_nil] at ha
    rw [hget] at hp
    rcases hranked a ha with ha | ⟨haid, harank⟩
    · obtain ⟨p', hp', -⟩ := h.job_of_mem
        (List.mem_append_right _ (List.mem_append_left _ ha))
      rw [if_neg] at hp
      · exact h.ranked a (List.mem_append_left _ ha) p hp
      · intro heq
        rw [heq, hf.id] at hp'
        cases hp'
    · rw [if_pos haid] at hp
      cases hp
      exact harank
  · intro key id
    rw [hindex, hget]
    by_cases hidj : id = job.id
    · rw [if_pos hidj]
      subst hidj
      have hold (key : List String) : s.logicalIndex.get? key ≠ some job.id := by
        intro hget
        obtain ⟨p, hp, -⟩ := (h.index key job.id).mp hget
        rw [hf.id] at hp
        cases hp
      cases hk : job.logicalKey with
      | none =>
        rw [Option.elim_none]
        constructor
        · intro hget
          exact absurd hget (hold key)
        · rintro ⟨p, hp, -, hkey⟩
          cases hp
          rw [hk] at hkey
          cases hkey
      | some k =>
        rw [Option.elim_some]
        by_cases hr : job.replaceable = true
        · rw [if_pos hr, Dict.get?_set]
          split
          · rename_i heq
            subst heq
            simp [hr, hk]
          · rename_i hne
            constructor
            · intro hget
              exact absurd hget (hold key)
            · rintro ⟨p, hp, -, hkey⟩
              cases hp
              rw [hk] at hkey
              cases hkey
              exact absurd rfl hne
        · rw [if_neg hr]
          constructor
          · intro hget
            exact absurd hget (hold key)
          · rintro ⟨p, hp, hr', -⟩
            cases hp
            exact absurd hr' hr
    · rw [if_neg hidj, ← h.index]
      cases hk : job.logicalKey with
      | none => rfl
      | some k =>
        rw [Option.elim_some]
        by_cases hr : job.replaceable = true
        · rw [if_pos hr, Dict.get?_set]
          split
          · rename_i heq
            subst heq
            rw [hf.key hr key hk]
            simp [Ne.symm hidj]
          · rfl
        · rw [if_neg hr]
  · rw [hmax, hjobs, Dict.entries_set_of_not_mem hid, List.length_append]
    exact hroom
  · intro id p hp k hk
    rw [hget] at hp
    rw [hbudgets]
    split at hp
    · cases hp
      exact hf.payable k hk
    · exact h.payable id p hp k hk

/-! ## Submission -/

/-- What leaves the table leaves the index, and nothing enters either. -/
structure Shrinks (s s' : RestScheduler κ) : Prop where
  jobs : ∀ id p, s'.jobs.get? id = some p → s.jobs.get? id = some p
  index : ∀ key id, s'.logicalIndex.get? key = some id → s.logicalIndex.get? key = some id
  budgets : s'.budgets = s.budgets

theorem Fresh.mono {s s' : RestScheduler κ} {job : RestJob κ} (h : s.Fresh job)
    (hs : s.Shrinks s') : s'.Fresh job where
  id := by
    rw [Option.eq_none_iff_forall_ne_some]
    intro p hp
    have := hs.jobs _ _ hp
    rw [h.id] at this
    cases this
  key hr key hk := by
    rw [Option.eq_none_iff_forall_ne_some]
    intro id hid
    have := hs.index _ _ hid
    rw [h.key hr key hk] at this
    cases this
  payable := hs.budgets ▸ h.payable

theorem shrinks_removePending (s : RestScheduler κ) (id : String) :
    s.Shrinks (s.removePending id) := by
  unfold RestScheduler.removePending
  split
  · exact ⟨fun _ _ h => h, fun _ _ h => h, rfl⟩
  · refine ⟨?_, fun key id' h => (get?_dropIndex.mp h).1, rfl⟩
    intro id' p hp
    rw [Dict.get?_erase] at hp
    split at hp
    · cases hp
    · exact hp

theorem shrinks_expireFirst (s : RestScheduler κ) (now : Nat) :
    s.Shrinks (s.expireFirst now) := by
  unfold expireFirst
  split
  · exact ⟨fun _ _ h => h, fun _ _ h => h, rfl⟩
  · refine ⟨?_, fun key id h => (get?_foldl_dropIndex.mp h).1, rfl⟩
    intro id p hp
    have hmem := Dict.get?_eq_some.mp hp
    change (id, p) ∈ (((s.overdue now).map (·.job.id)).foldl Dict.erase s.jobs).entries at hmem
    rw [Dict.entries_foldl_erase] at hmem
    exact Dict.get?_eq_some.mpr (List.mem_filter.mp hmem).1

theorem Kept.expireFirst {s : RestScheduler κ} (h : s.Kept []) (now : Nat) :
    (s.expireFirst now).Kept [] := by
  unfold RestScheduler.expireFirst
  split
  · exact h
  · exact (h.expireAll now).congr rfl rfl rfl rfl rfl (BudgetRegistry.Within.refl _)

theorem payable_of_checkBudgets {s : RestScheduler κ} {job : RestJob κ}
    (h : s.checkBudgets job = none) :
    ∀ k ∈ job.budgetKeys, s.budgets.Payable k job.endpointCost := by
  intro k hk
  have := List.findSome?_eq_none_iff.mp h k hk
  cases hb : s.budgets.bucket k with
  | error e => simp [hb] at this
  | ok b =>
    simp only [hb] at this
    refine ⟨b, hb, job.cost_pos, ?_⟩
    by_contra hc
    simp [not_le.mp hc] at this

/-- What the comparison with the pending job of the same key has found. -/
theorem replacement_spec {s : RestScheduler κ} {job : RestJob κ} {replaced : Option String}
    (h : s.replacement job = .ok (.replaces replaced)) (hr : job.replaceable = true) :
    ∀ key ∈ job.logicalKey, s.logicalIndex.get? key = replaced := by
  intro key hkey
  unfold replacement at h
  rw [hr, show job.logicalKey = some key from hkey] at h
  dsimp only at h
  cases hi : s.logicalIndex.get? key with
  | none =>
    simp [hi] at h
    exact h
  | some id =>
    cases hj : s.jobs.get? id with
    | none => simp [hi, hj] at h
    | some p =>
      simp only [hi, hj, Bool.not_true, Bool.false_eq_true, if_false] at h
      split at h
      · cases h
      split at h
      · cases h
      · cases h
        rfl

/-- After the removal of the job that it replaces, a new job is fresh. -/
theorem fresh_of_replacement {s s' : RestScheduler κ} {job : RestJob κ}
    {replaced : Option String} (hs : s.Shrinks s') (hid : s.jobs.get? job.id = none)
    (hpay : ∀ k ∈ job.budgetKeys, s.budgets.Payable k job.endpointCost)
    (hrep : job.replaceable = true → ∀ key ∈ job.logicalKey, s.logicalIndex.get? key = replaced)
    (hgone : ∀ key id, s'.logicalIndex.get? key = some id → some id ≠ replaced) :
    s'.Fresh job where
  id := by
    rw [Option.eq_none_iff_forall_ne_some]
    intro p hp
    have := hs.jobs _ _ hp
    rw [hid] at this
    cases this
  key hr key hk := by
    rw [Option.eq_none_iff_forall_ne_some]
    intro id hget
    exact hgone key id hget ((hs.index key id hget).symm.trans (hrep hr key hk))
  payable := hs.budgets ▸ hpay

theorem Shrinks.trans {s s' s'' : RestScheduler κ} (h : s.Shrinks s') (h' : s'.Shrinks s'') :
    s.Shrinks s'' where
  jobs id p hp := h.jobs id p (h'.jobs id p hp)
  index key id hk := h.index key id (h'.index key id hk)
  budgets := h'.budgets.trans h.budgets

/-- A job that is removed makes room for one. -/
theorem Kept.room_of_removePending {s : RestScheduler κ} (h : s.Kept []) {id : String}
    {p : Pending κ} (hp : s.jobs.get? id = some p) :
    (s.removePending id).jobs.entries.length < (s.removePending id).maxPending := by
  have hlen := Dict.length_erase s.jobs hp
  have hjobs : (s.removePending id).jobs = s.jobs.erase id := by
    simp [RestScheduler.removePending, hp]
  have hmax : (s.removePending id).maxPending = s.maxPending := by
    simp [RestScheduler.removePending, hp]
  have hb := h.bounded
  rw [hjobs, hmax]
  omega

theorem evictionCandidate_mem {s : RestScheduler κ} {job : RestJob κ} {id : String}
    (h : s.evictionCandidate job = some id) :
    ∃ p ∈ s.jobs.values, p.job.id = id ∧ p.job.replaceable = true ∧
      job.priority.value < p.job.priority.value := by
  unfold evictionCandidate at h
  split at h
  · cases h
  split at h
  · cases h
  · rename_i p ps hps
    cases h
    have hfold : ∀ (ps : List (Pending κ)) (p : Pending κ),
        ps.foldl laterCandidate p ∈ p :: ps := by
      intro ps
      induction ps with
      | nil => simp
      | cons q ps ih =>
        intro p
        rw [List.foldl_cons]
        have hlater : laterCandidate p q = p ∨ laterCandidate p q = q := by
          unfold laterCandidate
          split
          · exact .inr rfl
          · exact .inl rfl
        rcases hlater with hl | hl <;> rw [hl]
        · rcases List.mem_cons.mp (ih p) with heq | hmem
          · rw [heq]
            exact List.mem_cons_self
          · exact List.mem_cons_of_mem _ (List.mem_cons_of_mem _ hmem)
        · exact List.mem_cons_of_mem _ (ih q)
    have hmem := hfold ps p
    rw [← hps] at hmem
    obtain ⟨hmem, hprop⟩ := List.mem_filter.mp hmem
    simp only [Bool.and_eq_true, decide_eq_true_eq] at hprop
    exact ⟨_, hmem, rfl, hprop.1, hprop.2⟩

/-- Room is made for a fresh job. -/
theorem Kept.makeRoom {s s' : RestScheduler κ} {job : RestJob κ} {result : SubmitResult}
    (h : s.Kept []) (hf : s.Fresh job) (hm : s.makeRoom job = .ok (result, s')) :
    s'.Kept [] ∧ s'.Fresh job ∧ s'.jobs.entries.length < s'.maxPending := by
  unfold RestScheduler.makeRoom at hm
  split at hm
  · cases hm
    exact ⟨h, hf, ‹_›⟩
  split at hm
  · cases hm
  · rename_i id hc
    obtain ⟨p, hp, hid, -⟩ := evictionCandidate_mem hc
    obtain ⟨⟨id', p'⟩, hentry, hpeq⟩ := List.mem_map.mp hp
    have hpeq : p' = p := hpeq
    subst hpeq
    have hget := Dict.get?_eq_some.mpr hentry
    have hid' : id' = id := (h.keyed id' p' hget).symm.trans hid
    subst hid'
    cases hm
    refine ⟨?_, ?_, h.room_of_removePending hget⟩
    · exact (h.removePending id').congr rfl rfl rfl rfl rfl (BudgetRegistry.Within.refl _)
    · have hf' := hf.mono (shrinks_removePending s id')
      exact ⟨hf'.id, hf'.key, hf'.payable⟩

theorem Kept.submitLive {s s' : RestScheduler κ} {job : RestJob κ} {replaced : Option String}
    (h : s'.Kept []) (hs : s.Shrinks s') (hid : s.jobs.get? job.id = none)
    (hpay : ∀ k ∈ job.budgetKeys, s.budgets.Payable k job.endpointCost)
    (hrep : job.replaceable = true → ∀ key ∈ job.logicalKey, s.logicalIndex.get? key = replaced)
    (now : Nat) : (s'.submitLive job replaced now).2.Kept [] := by
  unfold RestScheduler.submitLive
  cases hr : replaced.filter s'.jobs.contains with
  | some id =>
    obtain ⟨hreplaced, hmem⟩ := Option.filter_eq_some_iff.mp hr
    obtain ⟨p, hp⟩ := Dict.exists_of_mem_keys (Dict.contains_iff.mp hmem)
    refine (h.removePending id).enqueue ?_ (h.room_of_removePending hp) now
    refine fresh_of_replacement (hs.trans (shrinks_removePending s' id)) hid hpay hrep ?_
    intro key id' hget heq
    rw [hreplaced] at heq
    cases heq
    obtain ⟨p', hp', -⟩ := ((h.removePending id).index key id).mp hget
    have hnone : (s'.removePending id).jobs.get? id = none := by
      simp [RestScheduler.removePending, hp]
    rw [hnone] at hp'
    cases hp'
  | none =>
    have hf : s'.Fresh job := by
      refine fresh_of_replacement hs hid hpay hrep ?_
      intro key id hget heq
      obtain ⟨p, hp, -⟩ := (h.index key id).mp hget
      rw [← heq, Option.filter_some] at hr
      rw [if_pos (Dict.contains_iff.mpr (Dict.mem_keys_of_get? hp))] at hr
      cases hr
    dsimp only
    split
    · exact h
    · rename_i result s'' hm
      obtain ⟨hk, hf', hroom⟩ := h.makeRoom hf hm
      exact hk.enqueue hf' hroom now

theorem Kept.submitNowait [BEq κ] {s : RestScheduler κ} (h : s.Kept []) (job : RestJob κ)
    (clock : Int) : (s.submitNowait job clock).2.Kept [] := by
  unfold RestScheduler.submitNowait
  split
  · exact h
  split
  · split <;> exact h
  rename_i hid
  split
  · exact h
  rename_i hbudgets
  split
  · exact h
  · exact h
  rename_i replaced hrep
  unfold observeNow
  by_cases hc : clock < 0
  · rw [if_pos hc]
    exact h
  · rw [if_neg hc]
    dsimp only
    unfold submitAt
    split
    · unfold submitExpired
      split
      · exact h.congr rfl rfl rfl rfl rfl (BudgetRegistry.Within.refl _)
      · rename_i id
        have hk : ({ s with lastNowNs := max s.lastNowNs clock.toNat } : RestScheduler κ).Kept [] :=
          h.congr rfl rfl rfl rfl rfl (BudgetRegistry.Within.refl _)
        exact (hk.removePending id).congr rfl rfl rfl rfl rfl (BudgetRegistry.Within.refl _)
    · have hk : ({ s with lastNowNs := max s.lastNowNs clock.toNat } : RestScheduler κ).Kept [] :=
        h.congr rfl rfl rfl rfl rfl (BudgetRegistry.Within.refl _)
      refine (hk.expireFirst _).submitLive (shrinks_expireFirst _ _) hid ?_ ?_ _
      · exact payable_of_checkBudgets hbudgets
      · exact fun hr => replacement_spec hrep hr

/-! ## Dispatch -/

theorem Kept.promote {s : RestScheduler κ} (h : s.Kept []) (now n : Nat) :
    (s.promote now n).Kept [] := by
  induction n generalizing s with
  | zero => exact h
  | succ n ih =>
    unfold RestScheduler.promote
    split
    · exact h
    rename_i e future he
    split
    · exact h
    dsimp only
    obtain ⟨p, hp, hseq⟩ := h.job_of_mem (e := e) (by simp [he])
    -- the first entry of `future` is in the hands of the loop, with the priority of its job
    have hheld : ({ s with future } : RestScheduler κ).Kept
        [⟨p.job.priority.value, e.sequence, e.id⟩] := by
      have hperm (a : HeapEntry) (ha : a.tag = e.tag) :
          ((future ++ (s.ready ++ [a])).map HeapEntry.tag).Perm
            ((s.future ++ (s.ready ++ [])).map HeapEntry.tag) := by
        rw [he, List.append_nil]
        simp only [List.map_append, List.map_cons, List.map_nil, List.cons_append, ha]
        rw [← List.append_assoc]
        exact List.perm_append_singleton _ _
      refine ⟨h.keyed, (hperm ⟨p.job.priority.value, e.sequence, e.id⟩ rfl).trans h.heaps, ?_,
        h.index, h.bounded, h.payable⟩
      intro a ha q hq
      rcases List.mem_append.mp ha with ha | ha
      · exact h.ranked a (List.mem_append_left _ ha) q hq
      · rw [List.mem_singleton.mp ha] at hq ⊢
        have : q = p := Option.some.inj (hq.symm.trans hp)
        rw [this]
    simp only [hp]
    rw [if_neg (not_not.mpr hseq)]
    split
    · exact ih (hheld.expire hp)
    · apply ih
      refine ⟨h.keyed, ?_, ?_, h.index, h.bounded, h.payable⟩
      · refine .trans ?_ hheld.heaps
        rw [List.append_nil]
        refine ((HeapEntry.perm_push _ _).trans ?_).append_left _ |>.map _
        exact (List.perm_append_singleton _ _).symm
      · intro a ha q hq
        rw [List.append_nil] at ha
        apply hheld.ranked a ?_ q hq
        exact (List.perm_append_singleton _ _).mem_iff.mpr
          ((HeapEntry.perm_push _ _).mem_iff.mp ha)

theorem earliestReady_ok {cost : ℚ} (now : Nat) (keys : List BudgetKey) (earliest : Option Int)
    {r : BudgetRegistry} (h : ∀ k ∈ keys, r.Payable k cost) :
    ∃ next r', earliestReady cost now keys earliest r = (.ok next, r') ∧ r.Within r' := by
  induction keys generalizing earliest r with
  | nil => exact ⟨earliest, r, rfl, BudgetRegistry.Within.refl r⟩
  | cons k keys ih =>
    obtain ⟨ready, r', hready, hw⟩ := BudgetRegistry.readyAtNs_ok now (h k List.mem_cons_self)
    have hrest : ∀ a ∈ keys, r'.Payable a cost :=
      fun a ha => (h a (List.mem_cons_of_mem _ ha)).mono hw
    cases ready with
    | none =>
      obtain ⟨next, r'', he, hw'⟩ := ih earliest hrest
      refine ⟨next, r'', ?_, hw.trans hw'⟩
      rw [earliestReady, hready]
      exact he
    | some t =>
      obtain ⟨next, r'', he, hw'⟩ := ih (some (earliest.elim t (min · t))) hrest
      refine ⟨next, r'', ?_, hw.trans hw'⟩
      rw [earliestReady, hready]
      exact he

/-- The loop of `_next_ready` does not raise, and keeps the invariant with the blocked entries in
its hands. -/
theorem Kept.select {t : Selection κ} (h : t.scheduler.Kept t.blocked) (now n : Nat) :
    ∃ dispatch t', RestScheduler.select now n t = (.ok dispatch, t') ∧
      t'.scheduler.Kept t'.blocked := by
  induction n generalizing t with
  | zero => exact ⟨none, t, rfl, h⟩
  | succ n ih =>
    unfold RestScheduler.select
    cases hr : t.scheduler.ready with
    | nil => exact ⟨none, t, rfl, h⟩
    | cons e ready =>
      have hpop := h.pop hr
      obtain ⟨p, hp, hseq⟩ := h.job_of_mem (e := e) (by simp [hr])
      have hblock := hpop.held_perm (List.perm_append_singleton e t.blocked).symm
      simp only [hp]
      rw [if_neg (not_not.mpr hseq)]
      split
      · exact ih (hpop.expire hp)
      split
      · exact ih hblock
      · rename_i hne
        have hpay : ∀ k ∈ (RestJob.keysOf p.job.eligibleRoutes).filter (· ∉ t.blockedBudgets),
            t.scheduler.budgets.Payable k p.job.endpointCost := by
          intro k hk
          obtain ⟨r, hr', hkey⟩ := RestJob.mem_keysOf.mp (List.mem_filter.mp hk).1
          apply h.payable e.id p hp k
          exact RestJob.mem_keysOf.mpr ⟨r, RestJob.mem_of_mem_eligibleRoutes hr', hkey⟩
        obtain ⟨key?, budgets, hacq, hw, hkey⟩ := BudgetRegistry.tryAcquireOne_ok now
          (by simpa using hne) hpay
        rw [hacq]
        cases key? with
        | none =>
          obtain ⟨next, budgets', hnext, hw'⟩ := earliestReady_ok now _ t.nextBudgetReadyNs
            fun k hk => (hpay k hk).mono hw
          simp only [hnext]
          apply ih
          exact hblock.congr rfl rfl rfl rfl rfl (hw.trans hw')
        | some key =>
          obtain ⟨r, hr', hkeyr⟩ := RestJob.mem_keysOf.mp (List.mem_filter.mp (hkey key rfl)).1
          have hfound : (p.job.eligibleRoutes.find? (·.budgetKey = key)).isSome = true :=
            List.find?_isSome.mpr ⟨r, hr', by simpa using hkeyr⟩
          obtain ⟨route, hroute⟩ := Option.isSome_iff_exists.mp hfound
          simp only [hroute]
          refine ⟨_, _, rfl, ?_⟩
          have hid : p.job.id = e.id := h.keyed e.id p hp
          refine hpop.drop hp ?_ rfl (.inl rfl) (.inl rfl) rfl hw
          change t.scheduler.jobs.erase p.job.id = t.scheduler.jobs.erase e.id
          rw [hid]

theorem perm_foldl_push (blocked heap : List HeapEntry) :
    (blocked.foldl (fun heap e => HeapEntry.push e heap) heap).Perm (heap ++ blocked) := by
  induction blocked generalizing heap with
  | nil => simp
  | cons e blocked ih =>
    refine (ih _).trans ?_
    exact ((HeapEntry.perm_push e heap).append_right _).trans List.perm_middle.symm

theorem Kept.finish {t : Selection κ} (h : t.scheduler.Kept t.blocked) : t.finish.Kept [] := by
  have hperm := perm_foldl_push t.blocked t.scheduler.ready
  refine ⟨h.keyed, ?_, ?_, h.index, h.bounded, h.payable⟩
  · refine .trans ?_ h.heaps
    rw [List.append_nil]
    exact (hperm.append_left _).map _
  · intro e he
    rw [List.append_nil] at he
    exact h.ranked e (hperm.mem_iff.mp he)

/-- `_next_ready` raises only when the scheduler is closed or the clock is negative, and keeps
the invariant. -/
theorem Kept.nextReadyAt {s : RestScheduler κ} (h : s.Kept []) :
    ∃ dispatch, s.nextReadyAt.1 = .ok dispatch ∧ s.nextReadyAt.2.Kept [] := by
  have hp : s.prepared.Kept [] := (h.expireAll _).promote _ _
  obtain ⟨dispatch, t, hsel, ht⟩ :=
    Kept.select (t := { scheduler := s.prepared }) hp s.lastNowNs s.prepared.ready.length
  refine ⟨dispatch, ?_, ?_⟩
  · simp only [RestScheduler.nextReadyAt, hsel]
  · simp only [RestScheduler.nextReadyAt, hsel]
    exact ht.finish

theorem Kept.exec [BEq κ] {s : RestScheduler κ} (h : s.Kept []) (op : Op κ) :
    (op.exec s).Kept [] := by
  have hnow (clock : Int) (s' : RestScheduler κ) (hs : s.observeNow clock = .ok s') :
      s'.Kept [] := by
    unfold observeNow at hs
    split at hs
    · cases hs
    · cases hs
      exact h.congr rfl rfl rfl rfl rfl (BudgetRegistry.Within.refl _)
  cases op with
  | submit job clock => exact h.submitNowait job clock
  | nextReady clock =>
    change (s.nextReady clock).2.Kept []
    unfold RestScheduler.nextReady
    split
    · exact h
    split
    · exact h
    · rename_i s' hs
      obtain ⟨-, -, hk⟩ := (hnow clock s' hs).nextReadyAt
      exact hk
  | observeNow clock =>
    simp only [Op.exec]
    split
    · rename_i s' hs
      exact hnow clock s' hs
    · exact h
  | notifyResourcesChanged =>
    change s.notifyResourcesChanged.Kept []
    unfold notifyResourcesChanged
    split
    · exact h
    · exact h.congr rfl rfl rfl rfl rfl (BudgetRegistry.Within.refl _)
  | close =>
    change s.close.Kept []
    unfold close
    split
    · exact h
    · exact h.congr rfl rfl rfl rfl rfl (BudgetRegistry.Within.refl _)
  | addBudget k capacity refill clock =>
    simp only [Op.exec]
    split
    · rename_i budgets hadd
      exact h.congr rfl rfl rfl rfl rfl (BudgetRegistry.within_add hadd)
    · exact h
  | budget k op =>
    exact h.congr rfl rfl rfl rfl rfl (BudgetRegistry.within_onBucket _ k op)

theorem kept_new {budgets : BudgetRegistry} {clock maxPending maxHistory : Int}
    {s : RestScheduler κ} (h : new budgets clock maxPending maxHistory = .ok s) : s.Kept [] := by
  unfold new observeNow at h
  cases hp : boundedCollectionSize maxPending "max_pending" with
  | error e =>
    rw [hp] at h
    cases h
  | ok m =>
    cases hh : boundedCollectionSize maxHistory "max_history" with
    | error e =>
      rw [hp, hh] at h
      cases h
    | ok k =>
      rw [hp, hh] at h
      simp only [bind, Except.bind] at h
      split at h
      · cases h
      · cases h
        refine ⟨?_, ?_, ?_, ?_, ?_, ?_⟩ <;> simp

theorem Kept.run [BEq κ] {s : RestScheduler κ} (h : s.Kept []) (ops : List (Op κ)) :
    (s.run ops).Kept [] := by
  induction ops generalizing s with
  | nil => exact h
  | cons op ops ih => exact ih (h.exec op)

/-! ## The tables -/

/-- The four tables of the scheduler describe the same jobs. -/
structure Consistent (s : RestScheduler κ) : Prop where
  /-- A pending job has its own sequence number in exactly one entry of the two heaps. -/
  one_entry : ∀ id p, s.jobs.get? id = some p → p.job.id = id ∧
    ((s.future ++ s.ready).filter (·.id = id)).map (·.sequence) = [p.sequence]
  /-- An entry of a heap has a pending job. -/
  owned : ∀ e ∈ s.future ++ s.ready, e.id ∈ s.jobs.keys
  /-- An entry of `ready` carries the priority of its job. -/
  priority : ∀ e ∈ s.ready, ∀ p, s.jobs.get? e.id = some p → e.rank = p.job.priority.value
  /-- The index maps the logical keys of the pending replaceable jobs to their ids. -/
  index : ∀ key id, s.logicalIndex.get? key = some id ↔
    ∃ p, s.jobs.get? id = some p ∧ p.job.replaceable = true ∧ p.job.logicalKey = some key
  bounded : s.jobs.entries.length ≤ s.maxPending

theorem Kept.consistent {s : RestScheduler κ} (h : s.Kept []) : s.Consistent where
  one_entry id p hp := by
    refine ⟨h.keyed id p hp, ?_⟩
    have hfilter := (h.heaps.filter fun t => decide (t.1 = id)).map Prod.snd
    rw [List.append_nil, List.filter_map, List.map_map, List.filter_map, List.map_map] at hfilter
    obtain ⟨l, l', hsplit, hl, hl'⟩ := Dict.get?_eq_some_split hp
    have hone : s.jobs.entries.filter ((fun t : String × Nat => decide (t.1 = id)) ∘
        fun e => (e.1, e.2.sequence)) = [(id, p)] := by
      have hnone (m : List (String × Pending κ)) (hm : ∀ e ∈ m, e.1 ≠ id) :
          m.filter ((fun t : String × Nat => decide (t.1 = id)) ∘
            fun e => (e.1, e.2.sequence)) = [] := by
        apply List.filter_eq_nil_iff.mpr
        intro e he
        simpa using hm e he
      rw [hsplit, List.filter_append, hnone l hl, List.nil_append, List.filter_cons,
        hnone l' hl']
      simp
    rw [hone] at hfilter
    exact List.perm_singleton.mp hfilter
  owned e he := by
    obtain ⟨p, hp, -⟩ := h.job_of_mem (e := e) (by simpa using he)
    exact Dict.mem_keys_of_get? hp
  priority e he := h.ranked e (by simpa using he)
  index := h.index
  bounded := h.bounded

/-- In every state of every run of a scheduler its tables describe the same jobs. -/
theorem run_consistent [BEq κ] {budgets : BudgetRegistry} {clock maxPending maxHistory : Int}
    {s : RestScheduler κ} (h : new budgets clock maxPending maxHistory = .ok s)
    (ops : List (Op κ)) : (s.run ops).Consistent :=
  ((kept_new h).run ops).consistent

/-- A scheduler for two pending jobs, without budgets yet. -/
def forTwo : RestScheduler Unit :=
  { budgets := {}, maxPending := 2, maxHistory := 5, lastNowNs := 7 }

/-- A key of the reference budget. -/
def referenceKey : BudgetKey := ⟨"binance", "weight", "exchangeInfo"⟩

/-- A replaceable job of one logical key. -/
def referenceJob (id : String) (scheduledNs : Nat) : RestJob Unit where
  id := id
  priority := .referenceData
  routes := [⟨"direct", referenceKey⟩]
  endpointCost := 1
  readyMonotonicNs := 20
  deadlineNs := none
  logicalKey := some ["reference"]
  replaceable := true
  scheduledNs := scheduledNs
  controlContext := ()
  routes_ne := by simp
  cost_pos := by norm_num
  source_egress := by simp
  replaceable_key _ := rfl

/-- Two jobs of one logical key and a dispatch before either is ready. -/
def forTwoOps : List (Op Unit) :=
  [.addBudget referenceKey (.int 10) (.int 1) 8, .submit (referenceJob "a" 1) 9,
    .submit (referenceJob "b" 2) 10, .nextReady 11]

theorem forTwo_consistent :
    (new {} 7 2 5 : Except SchedulerError (RestScheduler Unit)) = .ok forTwo ∧
      (forTwo.run forTwoOps).jobs.keys = ["b"] ∧ (forTwo.run forTwoOps).Consistent := by
  have h : new {} 7 2 5 = .ok forTwo := rfl
  exact ⟨h, by decide +kernel, run_consistent h forTwoOps⟩

end RestScheduler

end CryptoCollector.Scheduler
