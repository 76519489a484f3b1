import CryptoCollector.Scheduler.Consistency
import Mathlib.Data.String.Basic

/-!
# No priority bypass

The heaps are sorted in every state of every run (`Ordered`). While `_next_ready` scans `ready`,
the budgets of every job that it has passed over are blocked (`Scans`), so the job that it
dispatches pays from a bucket that no earlier job could have used (`run_no_bypass`).
-/

namespace CryptoCollector.Scheduler

open Lib Network

variable {κ : Type}

namespace HeapEntry

instance : Std.Total HeapEntry.le where
  total a b := by
    unfold le
    rcases Nat.lt_trichotomy a.rank b.rank with h | h | h
    · exact .inl (.inl h)
    · rcases Nat.lt_trichotomy a.sequence b.sequence with h' | h' | h'
      · exact .inl (.inr ⟨h, .inl h'⟩)
      · rcases le_total a.id b.id with h'' | h''
        · exact .inl (.inr ⟨h, .inr ⟨h', h''⟩⟩)
        · exact .inr (.inr ⟨h.symm, .inr ⟨h'.symm, h''⟩⟩)
      · exact .inr (.inr ⟨h.symm, .inl h'⟩)
    · exact .inr (.inl h)

instance : IsTrans HeapEntry HeapEntry.le where
  trans a b c h h' := by
    rcases h with h | ⟨h, hs⟩
    · rcases h' with h' | ⟨h', -⟩
      · exact .inl (h.trans h')
      · exact .inl (h' ▸ h)
    · rcases h' with h' | ⟨h', hs'⟩
      · exact .inl (h ▸ h')
      · refine .inr ⟨h.trans h', ?_⟩
        rcases hs with hs | ⟨hs, hid⟩
        · rcases hs' with hs' | ⟨hs', -⟩
          · exact .inl (hs.trans hs')
          · exact .inl (hs' ▸ hs)
        · rcases hs' with hs' | ⟨hs', hid'⟩
          · exact .inl (hs ▸ hs')
          · exact .inr ⟨hs.trans hs', hid.trans hid'⟩

theorem eq_of_le_of_le {a b : HeapEntry} (h : a.le b) (h' : b.le a) : a = b := by
  obtain ⟨rank, sequence, id⟩ := a
  obtain ⟨rank', sequence', id'⟩ := b
  simp only [le] at h h'
  have hrank : rank = rank' := by omega
  have hsequence : sequence = sequence' := by omega
  have hid : id = id' := by
    rcases h with h | ⟨-, h | ⟨-, h⟩⟩
    · omega
    · omega
    rcases h' with h' | ⟨-, h' | ⟨-, h'⟩⟩
    · omega
    · omega
    exact le_antisymm h h'
  rw [hrank, hsequence, hid]

theorem sorted_push (e : HeapEntry) {heap : List HeapEntry} (h : heap.Pairwise le) :
    (e.push heap).Pairwise le := h.orderedInsert e heap

theorem sorted_foldl_push (entries : List HeapEntry) {heap : List HeapEntry}
    (h : heap.Pairwise le) : (entries.foldl (fun heap e => e.push heap) heap).Pairwise le := by
  induction entries generalizing heap with
  | nil => exact h
  | cons e entries ih => exact ih (sorted_push e h)

/-- The first entry of a sorted heap comes before the others. -/
theorem not_lt_of_le {a b : HeapEntry} (h : a.le b) :
    ¬ (b.rank < a.rank ∨ b.rank = a.rank ∧ b.sequence < a.sequence) := by
  rcases h with h | ⟨h, h' | ⟨h', -⟩⟩ <;> omega

end HeapEntry

/-- The routes of a job that is bound to a source lead over the egress of that source. -/
theorem RestJob.sticky_of_mem_eligibleRoutes {job : RestJob κ} {r : RestBudgetRoute}
    (h : r ∈ job.eligibleRoutes) :
    ∀ source ∈ job.generationSource, some r.egressId = source.egressId := by
  intro source hsource
  unfold eligibleRoutes at h
  rw [show job.generationSource = some source from hsource] at h
  simpa using (List.mem_filter.mp h).2

namespace RestScheduler

/-- The heaps are sorted, and `future` by the times at which its jobs become ready. -/
structure Ordered (s : RestScheduler κ) : Prop where
  ready : s.ready.Pairwise HeapEntry.le
  future : s.future.Pairwise HeapEntry.le
  timed : ∀ e ∈ s.future, ∀ p, s.jobs.get? e.id = some p → e.rank = p.job.readyMonotonicNs

/-- Entries and jobs may leave. -/
theorem Ordered.shrink {s s' : RestScheduler κ} (h : s.Ordered)
    (hready : s'.ready.Sublist s.ready) (hfuture : s'.future.Sublist s.future)
    (hjobs : ∀ id p, s'.jobs.get? id = some p → s.jobs.get? id = some p) : s'.Ordered where
  ready := h.ready.sublist hready
  future := h.future.sublist hfuture
  timed e he p hp := h.timed e (hfuture.subset he) p (hjobs _ _ hp)

theorem future_removePending (s : RestScheduler κ) (id : String) :
    (s.removePending id).future.Sublist s.future := by
  unfold RestScheduler.removePending
  split
  · exact List.Sublist.refl _
  · exact List.filter_sublist

theorem ready_removePending (s : RestScheduler κ) (id : String) :
    (s.removePending id).ready.Sublist s.ready := by
  unfold RestScheduler.removePending
  split
  · exact List.Sublist.refl _
  · exact List.filter_sublist

theorem jobs_removePending (s : RestScheduler κ) (id : String) :
    (s.removePending id).jobs = s.jobs.erase id := by
  unfold RestScheduler.removePending
  cases h : s.jobs.get? id with
  | none => exact (Dict.erase_of_not_mem (Dict.get?_eq_none.mp h)).symm
  | some p => rfl

theorem Ordered.removePending {s : RestScheduler κ} (h : s.Ordered) (id : String) :
    (s.removePending id).Ordered :=
  h.shrink (ready_removePending s id) (future_removePending s id) (shrinks_removePending s id).jobs

theorem Ordered.expire {s : RestScheduler κ} (h : s.Ordered) (p : Pending κ) :
    (s.expire p).Ordered :=
  h.shrink (ready_removePending s _) (future_removePending s _) (shrinks_removePending s _).jobs

/-- The expiry of an overdue job leaves the others. -/
theorem get?_expire {s : RestScheduler κ} {p q : Pending κ} {id : String} {now : Nat}
    (hp : s.jobs.get? p.job.id = some p) (hdead : p.job.pastDeadline now = true)
    (hq : s.jobs.get? id = some q) (hlive : q.job.pastDeadline now = false) :
    (s.expire p).jobs.get? id = some q := by
  change (s.removePending p.job.id).jobs.get? id = some q
  rw [jobs_removePending, Dict.get?_erase_ne _ fun heq => ?_]
  · exact hq
  · subst heq
    rw [hp] at hq
    cases hq
    rw [hdead] at hlive
    cases hlive

theorem get?_expireAll {s : RestScheduler κ} {now : Nat} {id : String} {p : Pending κ}
    (h : (s.expireAll now).jobs.get? id = some p) :
    s.jobs.get? id = some p ∧ id ∉ (s.overdue now).map (·.job.id) := by
  have hmem := Dict.get?_eq_some.mp h
  change (id, p) ∈ (((s.overdue now).map (·.job.id)).foldl Dict.erase s.jobs).entries at hmem
  rw [Dict.entries_foldl_erase] at hmem
  obtain ⟨hmem, hout⟩ := List.mem_filter.mp hmem
  exact ⟨Dict.get?_eq_some.mpr hmem, by simpa using hout⟩

theorem Ordered.expireAll {s : RestScheduler κ} (h : s.Ordered) (now : Nat) :
    (s.expireAll now).Ordered :=
  h.shrink List.filter_sublist List.filter_sublist fun _ _ hp => (get?_expireAll hp).1

/-- A fresh job enters one of the heaps. -/
theorem Ordered.enqueue {s : RestScheduler κ} (h : s.Ordered) (hk : s.Kept []) {job : RestJob κ}
    (hid : s.jobs.get? job.id = none) (now : Nat) : (s.enqueue job now).Ordered := by
  have hold : ∀ e ∈ s.future, e.id ≠ job.id := by
    intro e he heq
    obtain ⟨p, hp, -⟩ := hk.job_of_mem (List.mem_append_left _ he)
    rw [heq, hid] at hp
    cases hp
  have htimed : ∀ e ∈ s.future, ∀ p,
      (s.jobs.set job.id ⟨job, s.sequence + 1⟩).get? e.id = some p →
        e.rank = p.job.readyMonotonicNs := by
    intro e he p hp
    rw [Dict.get?_set_ne _ _ (hold e he)] at hp
    exact h.timed e he p hp
  unfold RestScheduler.enqueue bump
  dsimp only
  split
  · exact ⟨HeapEntry.sorted_push _ h.ready, h.future, htimed⟩
  · refine ⟨h.ready, HeapEntry.sorted_push _ h.future, ?_⟩
    intro e he p hp
    rcases List.mem_cons.mp ((HeapEntry.perm_push _ _).mem_iff.mp he) with rfl | he
    · have hp : some (⟨job, s.sequence + 1⟩ : Pending κ) = some p :=
        (Dict.get?_set_self _ _ _).symm.trans hp
      cases hp
      rfl
    · exact htimed e he p hp

/-- What the order says nothing about may change. -/
theorem Ordered.congr {s s' : RestScheduler κ} (h : s.Ordered) (hready : s'.ready = s.ready)
    (hfuture : s'.future = s.future) (hjobs : s'.jobs = s.jobs) : s'.Ordered := by
  refine h.shrink ?_ ?_ ?_
  · rw [hready]
  · rw [hfuture]
  · rw [hjobs]
    exact fun _ _ hp => hp

theorem Ordered.submitLive {s' : RestScheduler κ} {job : RestJob κ} {replaced : Option String}
    (h : s'.Ordered) (hk : s'.Kept []) (hid : s'.jobs.get? job.id = none) (now : Nat) :
    (s'.submitLive job replaced now).2.Ordered := by
  unfold RestScheduler.submitLive
  split
  · next id _ =>
    refine (h.removePending id).enqueue (hk.removePending id) ?_ now
    rw [Option.eq_none_iff_forall_ne_some]
    intro p hp
    have := (shrinks_removePending s' id).jobs _ _ hp
    rw [hid] at this
    cases this
  · split
    · exact h
    · next result s'' hm =>
      unfold RestScheduler.makeRoom at hm
      split at hm
      · cases hm
        exact h.enqueue hk hid now
      · split at hm
        · cases hm
        · next id _ =>
          cases hm
          have hnone : (s'.removePending id).jobs.get? job.id = none := by
            rw [Option.eq_none_iff_forall_ne_some]
            intro p hp
            have := (shrinks_removePending s' id).jobs _ _ hp
            rw [hid] at this
            cases this
          have ho : ({ s'.removePending id with
              evicted := appendBounded s'.maxHistory s'.evicted id } : RestScheduler κ).Ordered :=
            (h.removePending id).congr rfl rfl rfl
          refine ho.enqueue ?_ hnone now
          exact (hk.removePending id).congr rfl rfl rfl rfl rfl (BudgetRegistry.Within.refl _)

theorem Ordered.expireFirst {s : RestScheduler κ} (h : s.Ordered) (now : Nat) :
    (s.expireFirst now).Ordered := by
  unfold RestScheduler.expireFirst
  split
  · exact h
  · exact (h.expireAll now).congr rfl rfl rfl

theorem Ordered.submitNowait [BEq κ] {s : RestScheduler κ} (h : s.Ordered) (hk : s.Kept [])
    (job : RestJob κ) (clock : Int) : (s.submitNowait job clock).2.Ordered := by
  unfold RestScheduler.submitNowait
  split
  · exact h
  split
  · split <;> exact h
  next hid =>
    split
    · exact h
    split
    · exact h
    · exact h
    next replaced _ =>
      unfold observeNow
      by_cases hc : clock < 0
      · rw [if_pos hc]
        exact h
      · rw [if_neg hc]
        dsimp only
        unfold submitAt
        split
        · unfold submitExpired
          split
          · exact h.congr rfl rfl rfl
          · next id _ =>
            have ho : ({ s with lastNowNs := max s.lastNowNs clock.toNat } :
                RestScheduler κ).Ordered := h.congr rfl rfl rfl
            exact (ho.removePending id).congr rfl rfl rfl
        · have ho : ({ s with lastNowNs := max s.lastNowNs clock.toNat } :
              RestScheduler κ).Ordered := h.congr rfl rfl rfl
          have hk' : ({ s with lastNowNs := max s.lastNowNs clock.toNat } :
              RestScheduler κ).Kept [] :=
            hk.congr rfl rfl rfl rfl rfl (BudgetRegistry.Within.refl _)
          refine (ho.expireFirst _).submitLive (hk'.expireFirst _) ?_ _
          rw [Option.eq_none_iff_forall_ne_some]
          intro p hp
          have := (shrinks_expireFirst _ _).jobs _ _ hp
          rw [hid] at this
          cases this

/-! ## Dispatch -/

/-- After `_promote_ready` the jobs in `future` are not ready, and only overdue jobs have left. -/
theorem Ordered.promote {s : RestScheduler κ} (h : s.Ordered) (hk : s.Kept []) (now n : Nat)
    (hn : s.future.length ≤ n) :
    (s.promote now n).Ordered ∧ (∀ e ∈ (s.promote now n).future, now < e.rank) ∧
      (s.promote now n).budgets = s.budgets ∧
      ∀ id p, s.jobs.get? id = some p → p.job.pastDeadline now = false →
        (s.promote now n).jobs.get? id = some p := by
  induction n generalizing s with
  | zero =>
    have hnil : s.future = [] := List.length_eq_zero_iff.mp (Nat.le_zero.mp hn)
    refine ⟨h, fun e he => ?_, rfl, fun _ _ hp _ => hp⟩
    have he : e ∈ s.future := he
    rw [hnil] at he
    cases he
  | succ n ih =>
    unfold RestScheduler.promote
    cases hf : s.future with
    | nil => exact ⟨h, by simp [hf], rfl, fun _ _ hp _ => hp⟩
    | cons e future =>
      have hsorted := h.future
      rw [hf] at hsorted
      dsimp only
      split
      · next hlt =>
        refine ⟨h, fun a ha => ?_, rfl, fun _ _ hp _ => hp⟩
        rw [hf] at ha
        rcases List.mem_cons.mp ha with rfl | ha
        · exact hlt
        · have hle := HeapEntry.not_lt_of_le (List.rel_of_pairwise_cons hsorted ha)
          omega
      · next hle =>
        obtain ⟨p, hp, hseq⟩ := hk.job_of_mem (e := e) (by simp [hf])
        have hone := hk.promote now 1
        simp only [RestScheduler.promote, hf, hp, hle, hseq, ne_eq, not_true, if_false] at hone ⊢
        have ho : ({ s with future } : RestScheduler κ).Ordered :=
          h.shrink (List.Sublist.refl _) (hf ▸ List.sublist_cons_self _ _) fun _ _ hp => hp
        have hlen : future.length ≤ n := by
          rw [hf, List.length_cons] at hn
          omega
        split
        · next hdead =>
          rw [if_pos hdead] at hone
          have hid : p.job.id = e.id := hk.keyed _ _ hp
          have hlen' := (future_removePending ({ s with future } : RestScheduler κ)
            p.job.id).length_le.trans hlen
          obtain ⟨h1, h2, h3, h4⟩ := ih (ho.expire p) hone hlen'
          refine ⟨h1, h2, h3.trans ?_, fun id q hq hlive => h4 id q ?_ hlive⟩
          · exact (shrinks_removePending ({ s with future } : RestScheduler κ) p.job.id).budgets
          · exact get?_expire (s := { s with future }) (hid ▸ hp) hdead hq hlive
        · next hlive =>
          rw [if_neg hlive] at hone
          refine ih (s := { s with
            future
            ready := HeapEntry.push ⟨p.job.priority.value, e.sequence, e.id⟩ s.ready }) ?_ hone hlen
          exact ⟨HeapEntry.sorted_push _ ho.ready, ho.future, ho.timed⟩

theorem Ordered.select {t : Selection κ} (h : t.scheduler.Ordered) (now n : Nat) :
    (RestScheduler.select now n t).2.scheduler.Ordered := by
  induction n generalizing t with
  | zero => exact h
  | succ n ih =>
    unfold RestScheduler.select
    cases hr : t.scheduler.ready with
    | nil => exact h
    | cons e ready =>
      have ho : ({ t.scheduler with ready } : RestScheduler κ).Ordered :=
        h.shrink (hr ▸ List.sublist_cons_self _ _) (List.Sublist.refl _) fun _ _ hp => hp
      dsimp only
      split
      · exact ih ho
      · next p hp =>
        split
        · exact ih ho
        split
        · exact ih (ho.expire p)
        split
        · exact ih ho
        split
        · exact ho.congr rfl rfl rfl
        · split
          · exact ho.congr rfl rfl rfl
          · exact ih (ho.congr rfl rfl rfl)
        · have hdone : ∀ budgets, ((({ t.scheduler with ready } : RestScheduler κ).withBudgets
              budgets).completePending p).Ordered := by
            intro budgets
            refine ho.shrink (List.Sublist.refl _) (List.Sublist.refl _) fun id q hq => ?_
            have hq : (t.scheduler.jobs.erase p.job.id).get? id = some q := hq
            rw [Dict.get?_erase] at hq
            split at hq
            · cases hq
            · exact hq
          split <;> exact hdone _

theorem Ordered.finish {t : Selection κ} (h : t.scheduler.Ordered) : t.finish.Ordered where
  ready := HeapEntry.sorted_foldl_push t.blocked h.ready
  future := h.future
  timed := h.timed

theorem Ordered.prepared {s : RestScheduler κ} (h : s.Ordered) (hk : s.Kept []) :
    s.prepared.Ordered :=
  ((h.expireAll _).promote (hk.expireAll _) _ _ le_rfl).1

theorem Ordered.nextReadyAt {s : RestScheduler κ} (h : s.Ordered) (hk : s.Kept []) :
    s.nextReadyAt.2.Ordered := by
  have hselect := Ordered.select (t := { scheduler := s.prepared }) (h.prepared hk) s.lastNowNs
    s.prepared.ready.length
  unfold RestScheduler.nextReadyAt
  split
  · next hs =>
    rw [hs] at hselect
    exact hselect
  · next hs =>
    rw [hs] at hselect
    exact hselect.finish

theorem kept_observeNow {s s' : RestScheduler κ} {clock : Int} (hk : s.Kept [])
    (h : s.observeNow clock = .ok s') :
    s'.Kept [] ∧ s'.jobs = s.jobs ∧ s'.budgets = s.budgets ∧ s'.ready = s.ready ∧
      s'.future = s.future ∧ s'.lastNowNs = max s.lastNowNs clock.toNat := by
  unfold observeNow at h
  split at h
  · cases h
  · cases h
    exact ⟨hk.congr rfl rfl rfl rfl rfl (BudgetRegistry.Within.refl _), rfl, rfl, rfl, rfl, rfl⟩

/-- Every operation keeps the heaps sorted. -/
theorem Ordered.exec [BEq κ] {s : RestScheduler κ} (h : s.Ordered) (hk : s.Kept []) (op : Op κ) :
    (op.exec s).Ordered := by
  cases op with
  | submit job clock => exact h.submitNowait hk job clock
  | nextReady clock =>
    change (s.nextReady clock).2.Ordered
    unfold RestScheduler.nextReady
    split
    · exact h
    split
    · exact h
    · next s' hs =>
      obtain ⟨hk', hjobs, -, hready, hfuture, -⟩ := kept_observeNow hk hs
      exact (h.congr hready hfuture hjobs).nextReadyAt hk'
  | observeNow clock =>
    simp only [Op.exec]
    split
    · next s' hs =>
      obtain ⟨-, hjobs, -, hready, hfuture, -⟩ := kept_observeNow hk hs
      exact h.congr hready hfuture hjobs
    · exact h
  | notifyResourcesChanged =>
    change s.notifyResourcesChanged.Ordered
    unfold notifyResourcesChanged
    split
    · exact h
    · exact h.congr rfl rfl rfl
  | close =>
    change s.close.Ordered
    unfold close
    split
    · exact h
    · exact h.congr rfl rfl rfl
  | addBudget k capacity refill clock =>
    simp only [Op.exec]
    split
    · exact h.congr rfl rfl rfl
    · exact h
  | budget k op => exact h.congr rfl rfl rfl

theorem ordered_new {budgets : BudgetRegistry} {clock maxPending maxHistory : Int}
    {s : RestScheduler κ} (h : new budgets clock maxPending maxHistory = .ok s) : s.Ordered := by
  unfold new observeNow at h
  cases hp : boundedCollectionSize maxPending "max_pending" with
  | error e =>
    rw [hp] at h
    cases h
  | ok m =>
    cases hh : boundedCollectionSize maxHistory "max_history" with
    | error e =>
      rw [hp, hh] at h
      cases h
    | ok k =>
      rw [hp, hh] at h
      simp only [bind, Except.bind] at h
      split at h
      · cases h
      · cases h
        exact ⟨.nil, .nil, by simp⟩

theorem Ordered.run [BEq κ] {s : RestScheduler κ} (h : s.Ordered) (hk : s.Kept [])
    (ops : List (Op κ)) : (s.run ops).Ordered := by
  induction ops generalizing s with
  | nil => exact h
  | cons op ops ih => exact ih (h.exec hk op) (hk.exec op)

/-! ## The scan -/

/-- A job comes before another one in the order of dispatch. -/
def Before (q p : Pending κ) : Prop :=
  q.job.priority.value < p.job.priority.value ∨
    q.job.priority.value = p.job.priority.value ∧ q.sequence < p.sequence

/-- A dispatch at the time `now` that leads from `s` to `s'` bypasses no job. -/
structure Fair (s s' : RestScheduler κ) (now : Nat) (p : Pending κ) (d : RestDispatch κ) :
    Prop where
  pending : s.jobs.get? d.job.id = some p
  job : d.job = p.job
  time : d.dispatchedMonotonicNs = now
  live : d.job.pastDeadline now = false
  eligible : d.route ∈ d.job.eligibleRoutes
  sticky : ∀ source ∈ d.job.generationSource, some d.route.egressId = source.egressId
  paid : s.budgets.Paid now d.route.budgetKey d.job.endpointCost s'.budgets
  first : ∀ q ∈ s.jobs.values, q.job.readyMonotonicNs ≤ now → q.job.pastDeadline now = false →
    Before q p → ∀ r ∈ q.job.eligibleRoutes, r.budgetKey ≠ d.route.budgetKey

/-- The loop of `_next_ready` that started from `s`: the jobs that are not past their deadline are
still there, and the budgets of those that it has passed over are blocked. -/
structure Scans (now : Nat) (s : RestScheduler κ) (t : Selection κ) : Prop where
  kept : t.scheduler.Kept t.blocked
  ordered : t.scheduler.Ordered
  late : ∀ e ∈ t.scheduler.future, now < e.rank
  refilled : s.budgets.Refilled now t.scheduler.budgets
  passed : ∀ e ∈ t.blocked, ∀ p, t.scheduler.jobs.get? e.id = some p →
    ∀ r ∈ p.job.eligibleRoutes, r.budgetKey ∈ t.blockedBudgets
  stays : ∀ id p, s.jobs.get? id = some p → p.job.pastDeadline now = false →
    t.scheduler.jobs.get? id = some p
  from_start : ∀ id p, t.scheduler.jobs.get? id = some p →
    s.jobs.get? id = some p ∧ p.job.pastDeadline now = false

theorem pastDeadline_of_mem_overdue {s : RestScheduler κ} {now : Nat} {p : Pending κ}
    (h : p ∈ s.overdue now) : p.job.pastDeadline now = true :=
  (List.mem_filter.mp ((List.perm_insertionSort _ _).mem_iff.mp h)).2

theorem get?_expireAll_live {s : RestScheduler κ} (hk : s.Kept []) {now : Nat} {id : String}
    {p : Pending κ} (hp : s.jobs.get? id = some p) (hlive : p.job.pastDeadline now = false) :
    (s.expireAll now).jobs.get? id = some p := by
  rw [Dict.get?_eq_some]
  change (id, p) ∈ (((s.overdue now).map (·.job.id)).foldl Dict.erase s.jobs).entries
  rw [Dict.entries_foldl_erase]
  refine List.mem_filter.mpr ⟨Dict.get?_eq_some.mp hp, ?_⟩
  simp only [decide_eq_true_eq]
  intro hmem
  obtain ⟨q, hq, hqid⟩ := List.mem_map.mp hmem
  have hdead := pastDeadline_of_mem_overdue hq
  obtain ⟨⟨id', q'⟩, hentry, hqeq⟩ := List.mem_map.mp (mem_overdue hq)
  have hqeq : q' = q := hqeq
  subst hqeq
  have hget := Dict.get?_eq_some.mpr hentry
  have hid : id' = id := (hk.keyed id' q' hget).symm.trans hqid
  rw [hid, hp] at hget
  cases hget
  rw [hdead] at hlive
  cases hlive

theorem mem_overdue_of_get? {s : RestScheduler κ} {now : Nat} {id : String} {p : Pending κ}
    (hp : s.jobs.get? id = some p) (hdead : p.job.pastDeadline now = true) : p ∈ s.overdue now := by
  refine (List.perm_insertionSort _ _).mem_iff.mpr (List.mem_filter.mpr ⟨?_, hdead⟩)
  exact List.mem_map.mpr ⟨(id, p), Dict.get?_eq_some.mp hp, rfl⟩

/-- The jobs that `_expire_all` leaves are those that are not past their deadline. -/
theorem get?_expireAll_iff {s : RestScheduler κ} (hk : s.Kept []) {now : Nat} {id : String}
    {p : Pending κ} : (s.expireAll now).jobs.get? id = some p ↔
      s.jobs.get? id = some p ∧ p.job.pastDeadline now = false := by
  constructor
  · intro h
    obtain ⟨hp, hout⟩ := get?_expireAll h
    refine ⟨hp, ?_⟩
    by_contra hdead
    rw [Bool.not_eq_false] at hdead
    exact hout (List.mem_map.mpr ⟨p, mem_overdue_of_get? hp hdead, hk.keyed id p hp⟩)
  · exact fun ⟨hp, hlive⟩ => get?_expireAll_live hk hp hlive

theorem get?_promote {s : RestScheduler κ} {now n : Nat} {id : String} {p : Pending κ}
    (h : (s.promote now n).jobs.get? id = some p) : s.jobs.get? id = some p := by
  induction n generalizing s with
  | zero => exact h
  | succ n ih =>
    unfold RestScheduler.promote at h
    split at h
    · exact h
    · next e future hf =>
      split at h
      · exact h
      dsimp only at h
      split at h
      · have := ih h
        exact this
      · next q hq =>
        split at h
        · have := ih h
          exact this
        split at h
        · have := ih h
          exact (shrinks_removePending ({ s with future } : RestScheduler κ) _).jobs id p this
        · have := ih h
          exact this

theorem scans_prepared {s : RestScheduler κ} (hk : s.Kept []) (ho : s.Ordered) :
    Scans s.lastNowNs s { scheduler := s.prepared } := by
  obtain ⟨h1, h2, h3, h4⟩ :=
    (ho.expireAll s.lastNowNs).promote (hk.expireAll _) s.lastNowNs _ le_rfl
  refine ⟨(hk.expireAll _).promote _ _, h1, h2, ?_, by simp, ?_, ?_⟩
  · change s.budgets.Refilled _ s.prepared.budgets
    rw [show s.prepared.budgets = s.budgets from h3]
    exact BudgetRegistry.Refilled.refl _ _
  · exact fun id p hp hlive => h4 id p (get?_expireAll_live hk hp hlive) hlive
  · intro id p hp
    exact (get?_expireAll_iff hk).mp (get?_promote hp)

/-- No other entry comes before the first one and waits for the same budget. -/
theorem Scans.first {s : RestScheduler κ} {t : Selection κ} {now : Nat} (h : Scans now s t)
    {e : HeapEntry} {ready : List HeapEntry} (hr : t.scheduler.ready = e :: ready)
    {p : Pending κ} (hp : t.scheduler.jobs.get? e.id = some p) (hseq : p.sequence = e.sequence)
    {q : Pending κ} (hq : q ∈ s.jobs.values) (hready : q.job.readyMonotonicNs ≤ now)
    (hlive : q.job.pastDeadline now = false) (hbefore : Before q p) :
    ∀ r ∈ q.job.eligibleRoutes, r.budgetKey ∈ t.blockedBudgets := by
  obtain ⟨⟨id, q'⟩, hentry, hqeq⟩ := List.mem_map.mp hq
  have hqeq : q' = q := hqeq
  subst hqeq
  have hget := h.stays id q' (Dict.get?_eq_some.mpr hentry) hlive
  -- the job still has its entry
  have htag : (id, q'.sequence) ∈ (t.scheduler.future ++
      (t.scheduler.ready ++ t.blocked)).map HeapEntry.tag :=
    h.kept.heaps.mem_iff.mpr (List.mem_map.mpr ⟨(id, q'), Dict.get?_eq_some.mp hget, rfl⟩)
  obtain ⟨a, ha, heq⟩ := List.mem_map.mp htag
  obtain ⟨hid, haseq⟩ := Prod.mk.inj heq
  subst hid
  rcases List.mem_append.mp ha with ha | ha
  · have hlate := h.late a ha
    rw [h.ordered.timed a ha q' hget] at hlate
    omega
  · have harank := h.kept.ranked a ha q' hget
    rcases List.mem_append.mp ha with ha | ha
    · have herank := h.kept.ranked e (by simp [hr]) p hp
      have hsorted := h.ordered.ready
      rw [hr] at ha hsorted
      rcases List.mem_cons.mp ha with rfl | ha
      · rw [hp] at hget
        cases hget
        rcases hbefore with hlt | ⟨-, hlt⟩
        · exact absurd hlt (lt_irrefl _)
        · exact absurd hlt (lt_irrefl _)
      · have hle := HeapEntry.not_lt_of_le (List.rel_of_pairwise_cons hsorted ha)
        rw [harank, herank, haseq, ← hseq] at hle
        exact absurd hbefore hle
    · exact h.passed a ha q' hget

/-- The first entry is passed over. -/
theorem Scans.block {s : RestScheduler κ} {t : Selection κ} {now : Nat} (h : Scans now s t)
    {e : HeapEntry} {ready : List HeapEntry} (hr : t.scheduler.ready = e :: ready)
    {p : Pending κ} (hp : t.scheduler.jobs.get? e.id = some p) {budgets : BudgetRegistry}
    {blockedBudgets : List BudgetKey} {next : Option Int}
    (hrefilled : t.scheduler.budgets.Refilled now budgets)
    (hwithin : t.scheduler.budgets.Within budgets)
    (hgrows : ∀ k ∈ t.blockedBudgets, k ∈ blockedBudgets)
    (hblocked : ∀ r ∈ p.job.eligibleRoutes, r.budgetKey ∈ blockedBudgets) :
    Scans now s
      { scheduler := ({ t.scheduler with ready } : RestScheduler κ).withBudgets budgets
        blocked := t.blocked ++ [e]
        blockedBudgets
        nextBudgetReadyNs := next } := by
  have hheld := (h.kept.pop hr).held_perm (List.perm_append_singleton e t.blocked).symm
  refine ⟨hheld.congr rfl rfl rfl rfl rfl hwithin, ?_, h.late, h.refilled.trans hrefilled, ?_,
    h.stays, h.from_start⟩
  · exact h.ordered.shrink (hr ▸ List.sublist_cons_self _ _) (List.Sublist.refl _)
      fun _ _ hq => hq
  · intro a ha q hq
    rcases List.mem_append.mp ha with ha | ha
    · exact fun r hr => hgrows _ (h.passed a ha q hq r hr)
    · rw [List.mem_singleton.mp ha] at hq
      have hq : some q = some p := hq.symm.trans hp
      cases hq
      exact hblocked

/-- The first entry is expired. -/
theorem Scans.expire {s : RestScheduler κ} {t : Selection κ} {now : Nat} (h : Scans now s t)
    {e : HeapEntry} {ready : List HeapEntry} (hr : t.scheduler.ready = e :: ready)
    {p : Pending κ} (hp : t.scheduler.jobs.get? e.id = some p)
    (hdead : p.job.pastDeadline now = true) :
    Scans now s { t with
      scheduler := ({ t.scheduler with ready } : RestScheduler κ).expire p } := by
  have hid : p.job.id = e.id := h.kept.keyed _ _ hp
  have ho : ({ t.scheduler with ready } : RestScheduler κ).Ordered :=
    h.ordered.shrink (hr ▸ List.sublist_cons_self _ _) (List.Sublist.refl _) fun _ _ hq => hq
  have hsub : ∀ id q, (({ t.scheduler with ready } : RestScheduler κ).expire p).jobs.get? id =
      some q → t.scheduler.jobs.get? id = some q :=
    (shrinks_removePending ({ t.scheduler with ready } : RestScheduler κ) p.job.id).jobs
  refine ⟨(h.kept.pop hr).expire hp, ho.expire p, ?_, ?_, ?_, ?_, ?_⟩
  · intro a ha
    exact h.late a ((future_removePending ({ t.scheduler with ready } : RestScheduler κ)
      p.job.id).subset ha)
  · change s.budgets.Refilled now (({ t.scheduler with ready } :
      RestScheduler κ).removePending p.job.id).budgets
    rw [(shrinks_removePending _ _).budgets]
    exact h.refilled
  · exact fun a ha q hq => h.passed a ha q (hsub _ _ hq)
  · intro id q hq hlive
    exact get?_expire (s := { t.scheduler with ready }) (hid ▸ hp) hdead (h.stays id q hq hlive)
      hlive
  · exact fun id q hq => h.from_start id q (hsub id q hq)

theorem earliestReady_refilled {cost : ℚ} {now : Nat} {keys : List BudgetKey}
    {earliest next : Option Int} {r r' : BudgetRegistry}
    (h : earliestReady cost now keys earliest r = (.ok next, r')) : r.Refilled now r' := by
  induction keys generalizing earliest r with
  | nil =>
    cases h
    exact BudgetRegistry.Refilled.refl now _
  | cons k keys ih =>
    unfold earliestReady at h
    cases hready : r.readyAtNs k (.finite cost) now with
    | mk result r₁ =>
      rw [hready] at h
      cases result with
      | error e => cases h
      | ok ready =>
        have hfirst := BudgetRegistry.readyAtNs_refilled hready
        cases ready with
        | none => exact hfirst.trans (ih h)
        | some t => exact hfirst.trans (ih h)

/-- The loop of `_next_ready` passes over jobs, or it dispatches one that bypasses none. -/
theorem Scans.select {s : RestScheduler κ} {t t' : Selection κ} {now n : Nat}
    (h : Scans now s t) {dispatch : Option (RestDispatch κ)}
    (hd : RestScheduler.select now n t = (.ok dispatch, t')) :
    (dispatch = none → Scans now s t') ∧ ∀ d, dispatch = some d →
      ∃ p, Fair s t'.scheduler now p d ∧ ∃ t₁ : Selection κ, Scans now s t₁ ∧
        t'.scheduler.jobs = t₁.scheduler.jobs.erase d.job.id := by
  induction n generalizing t with
  | zero =>
    cases hd
    exact ⟨fun _ => h, fun d hd => by cases hd⟩
  | succ n ih =>
    unfold RestScheduler.select at hd
    cases hr : t.scheduler.ready with
    | nil =>
      rw [hr] at hd
      cases hd
      exact ⟨fun _ => h, fun d hd => by cases hd⟩
    | cons e ready =>
      obtain ⟨p, hp, hseq⟩ := h.kept.job_of_mem (e := e) (by simp [hr])
      simp only [hr, hp] at hd
      rw [if_neg (not_not.mpr hseq)] at hd
      split at hd
      · next hdead => exact ih (h.expire hr hp hdead) hd
      · next hlive =>
        have hlive : p.job.pastDeadline now = false := by simpa using hlive
        split at hd
        · next hempty =>
          -- every budget of the job is blocked already
          refine ih ?_ hd
          refine h.block hr hp (BudgetRegistry.Refilled.refl _ _) (BudgetRegistry.Within.refl _)
            (fun _ hk => hk) fun r hr' => ?_
          by_contra hk
          have hmem : r.budgetKey ∈ (RestJob.keysOf p.job.eligibleRoutes).filter
              (· ∉ t.blockedBudgets) :=
            List.mem_filter.mpr ⟨RestJob.mem_keysOf.mpr ⟨r, hr', rfl⟩, by simpa using hk⟩
          rw [List.isEmpty_iff.mp hempty] at hmem
          cases hmem
        · next hne =>
          have hpay : ∀ k ∈ (RestJob.keysOf p.job.eligibleRoutes).filter (· ∉ t.blockedBudgets),
              t.scheduler.budgets.Payable k p.job.endpointCost := by
            intro k hk
            obtain ⟨r, hr', hkey⟩ := RestJob.mem_keysOf.mp (List.mem_filter.mp hk).1
            apply h.kept.payable e.id p hp k
            exact RestJob.mem_keysOf.mpr ⟨r, RestJob.mem_of_mem_eligibleRoutes hr', hkey⟩
          obtain ⟨key?, budgets, hacq, hw, -⟩ := BudgetRegistry.tryAcquireOne_ok now
            (by simpa using hne) hpay
          have hspec := BudgetRegistry.tryAcquireOne_spec hacq
          rw [hacq] at hd
          cases key? with
          | none =>
            obtain ⟨next, budgets', hnext, hw'⟩ := earliestReady_ok now _ t.nextBudgetReadyNs
              fun k hk => (hpay k hk).mono hw
            simp only [hnext] at hd
            refine ih ?_ hd
            refine h.block hr hp ((hspec.1 rfl).trans (earliestReady_refilled hnext)) (hw.trans hw')
              (fun _ hk => List.mem_append_left _ hk) fun r hr' => ?_
            by_cases hk : r.budgetKey ∈ t.blockedBudgets
            · exact List.mem_append_left _ hk
            · exact List.mem_append_right _ (List.mem_filter.mpr
                ⟨RestJob.mem_keysOf.mpr ⟨r, hr', rfl⟩, by simpa using hk⟩)
          | some key =>
            obtain ⟨hmem, hpaid⟩ := hspec.2 key rfl
            dsimp only at hd
            split at hd
            · cases hd
            · next route hroute =>
              cases hd
              have hkey : route.budgetKey = key := by simpa using List.find?_some hroute
              have hid : p.job.id = e.id := h.kept.keyed _ _ hp
              have hmem' := List.mem_of_find?_eq_some hroute
              refine ⟨fun hd => (by cases hd), fun d hd => ?_⟩
              cases hd
              refine ⟨p, ?_, t, h, rfl⟩
              refine ⟨(h.from_start _ _ (hid ▸ hp)).1, rfl, rfl, hlive, hmem',
                RestJob.sticky_of_mem_eligibleRoutes hmem', ?_, ?_⟩
              · rw [hkey]
                exact h.refilled.paid hpaid
              · intro q hq hready hqlive hbefore r hr' heq
                have hblocked := h.first hr hp hseq hq hready hqlive hbefore r hr'
                rw [heq, hkey] at hblocked
                exact absurd hblocked (by simpa using (List.mem_filter.mp hmem).2)

theorem fair_nextReadyAt {s : RestScheduler κ} (hk : s.Kept []) (ho : s.Ordered)
    {d : RestDispatch κ} (hd : s.nextReadyAt.1 = .ok (some d)) :
    ∃ p, Fair s s.nextReadyAt.2 s.lastNowNs p d := by
  unfold RestScheduler.nextReadyAt at hd ⊢
  split at hd
  · cases hd
  · next dispatch t hsel =>
    cases hd
    obtain ⟨p, hfair, -⟩ := ((scans_prepared hk ho).select hsel).2 d rfl
    exact ⟨p, hfair.pending, hfair.job, hfair.time, hfair.live, hfair.eligible, hfair.sticky,
      hfair.paid, hfair.first⟩

/-- In every run no job is dispatched on a budget that an earlier job waits for: a dispatched job
is not past its deadline, it pays its cost from the bucket of an eligible route and from no other
bucket, and no ready job that comes before it could use that bucket. -/
theorem run_no_bypass [BEq κ] {budgets : BudgetRegistry} {clock maxPending maxHistory : Int}
    {s : RestScheduler κ} (h : new budgets clock maxPending maxHistory = .ok s)
    (ops : List (Op κ)) (sample : Int) {d : RestDispatch κ}
    (hd : ((s.run ops).nextReady sample).1 = .ok (some d)) :
    ∃ p, Fair (s.run ops) ((s.run ops).nextReady sample).2
      (max (s.run ops).lastNowNs sample.toNat) p d := by
  have hk := (kept_new h).run ops
  have ho := (ordered_new h).run (kept_new h) ops
  generalize s.run ops = s at hk ho hd ⊢
  unfold RestScheduler.nextReady at hd ⊢
  split at hd
  · cases hd
  next hopen =>
    rw [if_neg hopen]
    split at hd
    · cases hd
    · next s' hs =>
      obtain ⟨hk', hjobs, hbudgets, hready, hfuture, hnow⟩ := kept_observeNow hk hs
      obtain ⟨p, hfair⟩ := fair_nextReadyAt hk' (ho.congr hready hfuture hjobs) hd
      rw [← hnow]
      refine ⟨p, ?_, hfair.job, hfair.time, hfair.live, hfair.eligible, hfair.sticky, ?_, ?_⟩
      · rw [← hjobs]
        exact hfair.pending
      · rw [← hbudgets]
        exact hfair.paid
      · rw [← hjobs]
        exact hfair.first

theorem forTwo_no_bypass :
    ∃ d p, d.job.id = "b" ∧ ((forTwo.run forTwoOps).nextReady 25).1 = .ok (some d) ∧
      Fair (forTwo.run forTwoOps) ((forTwo.run forTwoOps).nextReady 25).2
        (max (forTwo.run forTwoOps).lastNowNs (25 : Int).toNat) p d := by
  have h : new {} 7 2 5 = .ok forTwo := rfl
  have hid : ((forTwo.run forTwoOps).nextReady 25).1.toOption.join.map (·.job.id) = some "b" := by
    decide +kernel
  obtain ⟨d, hd, hid⟩ := Option.map_eq_some_iff.mp hid
  have hd : ((forTwo.run forTwoOps).nextReady 25).1 = .ok (some d) := by
    generalize ((forTwo.run forTwoOps).nextReady 25).1 = result at hd
    cases result with
    | error e => cases hd
    | ok dispatch => exact congrArg Except.ok hd
  obtain ⟨p, hp⟩ := run_no_bypass h forTwoOps 25 hd
  exact ⟨d, p, hid, hd, hp⟩

end RestScheduler

end CryptoCollector.Scheduler
