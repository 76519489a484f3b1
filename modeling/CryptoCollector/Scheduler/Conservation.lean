import CryptoCollector.Scheduler.Priority

/-!
# Conservation of jobs

A job that a scheduler accepts stays pending until it is dispatched, expired, evicted or
superseded (`Fate`). `submitNowait_cases` lists what a submission does to the table, and
`nextReady_jobs` what a dispatch does. Sequence numbers tell the jobs of one id apart: a job that
has left does not come back (`run_conserves`).
-/

namespace CryptoCollector.Scheduler.RestScheduler

open Lib Network

variable {κ : Type}

/-! ## Expiry -/

theorem get?_expireFirst_iff {s : RestScheduler κ} (hk : s.Kept []) {now : Nat} {id : String}
    {p : Pending κ} : (s.expireFirst now).jobs.get? id = some p ↔
      s.jobs.get? id = some p ∧ p.job.pastDeadline now = false := by
  unfold expireFirst
  split
  · next hempty =>
    refine ⟨fun hp => ⟨hp, ?_⟩, And.left⟩
    by_contra hdead
    rw [Bool.not_eq_false] at hdead
    have := mem_overdue_of_get? hp hdead
    rw [List.isEmpty_iff.mp hempty] at this
    cases this
  · exact get?_expireAll_iff hk

theorem entries_expireFirst {s : RestScheduler κ} (hk : s.Kept []) (now : Nat) :
    (s.expireFirst now).jobs.entries =
      s.jobs.entries.filter fun e => !e.2.job.pastDeadline now := by
  unfold expireFirst
  split
  · next hempty =>
    refine (List.filter_eq_self.mpr fun e he => ?_).symm
    by_contra hdead
    rw [Bool.not_eq_true, Bool.not_eq_false'] at hdead
    have := mem_overdue_of_get? (Dict.get?_eq_some.mpr he) hdead
    rw [List.isEmpty_iff.mp hempty] at this
    cases this
  · change (((s.overdue now).map (·.job.id)).foldl Dict.erase s.jobs).entries = _
    rw [Dict.entries_foldl_erase]
    refine List.filter_congr fun e he => ?_
    have hget : s.jobs.get? e.1 = some e.2 := Dict.get?_eq_some.mpr he
    cases hdead : e.2.job.pastDeadline now with
    | true =>
      have hmem : e.1 ∈ (s.overdue now).map (·.job.id) :=
        List.mem_map.mpr ⟨e.2, mem_overdue_of_get? hget hdead, hk.keyed _ _ hget⟩
      simpa using hmem
    | false =>
      simp only [Bool.not_false, decide_eq_true_eq]
      intro hmem
      obtain ⟨q, hq, hid⟩ := List.mem_map.mp hmem
      obtain ⟨⟨id, q'⟩, hentry, hqeq⟩ := List.mem_map.mp (mem_overdue hq)
      have hqeq : q' = q := hqeq
      subst hqeq
      have hget' := Dict.get?_eq_some.mpr hentry
      have hid' : id = e.1 := (hk.keyed id q' hget').symm.trans hid
      rw [hid', hget] at hget'
      cases hget'
      rw [pastDeadline_of_mem_overdue hq] at hdead
      cases hdead

/-! ## What a submission does -/

/-- A job takes the place of a pending job. -/
structure Supersedes (job : RestJob κ) (p : Pending κ) : Prop where
  replaceable : job.replaceable = true
  pending : p.job.replaceable = true
  key : ∃ key, job.logicalKey = some key ∧ p.job.logicalKey = some key
  later : p.job.scheduledNs < job.scheduledNs

/-- A pending job may be evicted for a job. -/
structure Evicts (job : RestJob κ) (p : Pending κ) : Prop where
  replaceable : job.replaceable = false
  pending : p.job.replaceable = true
  priority : job.priority.value < p.job.priority.value

/-- The table of a scheduler after a submission at the time `now`; `live` are the jobs that are
not past their deadline. -/
inductive Submits (s : RestScheduler κ) (job : RestJob κ) (now : Nat)
    (jobs : Dict String (Pending κ)) (sequence : Nat) :
    Except SchedulerError SubmitResult → Prop
  | unchanged (result : Except SchedulerError SubmitResult)
      (refused : ∀ r, result = .ok r → r ≠ .enqueued ∧ r ≠ .replaced ∧ r ≠ .evictedAndEnqueued)
      (hjobs : jobs = s.jobs) (hsequence : sequence = s.sequence) : Submits s job now jobs sequence result
  | dropped (p : Pending κ) (hp : s.jobs.get? p.job.id = some p) (supersedes : Supersedes job p)
      (hjobs : jobs = s.jobs.erase p.job.id) (hsequence : sequence = s.sequence) :
      Submits s job now jobs sequence (.ok .expired)
  | full (e : SchedulerError) (hjobs : jobs = (s.expireFirst now).jobs)
      (hsequence : sequence = s.sequence) : Submits s job now jobs sequence (.error e)
  | enqueued (hjobs : jobs = (s.expireFirst now).jobs.set job.id ⟨job, s.sequence + 1⟩)
      (hsequence : sequence = s.sequence + 1) : Submits s job now jobs sequence (.ok .enqueued)
  | replaced (p : Pending κ) (hp : (s.expireFirst now).jobs.get? p.job.id = some p)
      (supersedes : Supersedes job p)
      (hjobs : jobs = ((s.expireFirst now).jobs.erase p.job.id).set job.id ⟨job, s.sequence + 1⟩)
      (hsequence : sequence = s.sequence + 1) : Submits s job now jobs sequence (.ok .replaced)
  | evicted (p : Pending κ) (hp : (s.expireFirst now).jobs.get? p.job.id = some p)
      (evicts : Evicts job p) (full : s.maxPending ≤ (s.expireFirst now).jobs.entries.length)
      (hjobs : jobs = ((s.expireFirst now).jobs.erase p.job.id).set job.id ⟨job, s.sequence + 1⟩)
      (hsequence : sequence = s.sequence + 1) :
      Submits s job now jobs sequence (.ok .evictedAndEnqueued)

theorem jobs_enqueue (s : RestScheduler κ) (job : RestJob κ) (now : Nat) :
    (s.enqueue job now).jobs = s.jobs.set job.id ⟨job, s.sequence + 1⟩ ∧
      (s.enqueue job now).sequence = s.sequence + 1 ∧
      (s.enqueue job now).lastNowNs = s.lastNowNs := by
  unfold RestScheduler.enqueue bump
  dsimp only
  split <;> exact ⟨rfl, rfl, rfl⟩

theorem sequence_removePending (s : RestScheduler κ) (id : String) :
    (s.removePending id).sequence = s.sequence ∧
      (s.removePending id).lastNowNs = s.lastNowNs := by
  unfold RestScheduler.removePending
  split <;> exact ⟨rfl, rfl⟩

theorem sequence_expireFirst (s : RestScheduler κ) (now : Nat) :
    (s.expireFirst now).sequence = s.sequence ∧ (s.expireFirst now).lastNowNs = s.lastNowNs ∧
      (s.expireFirst now).maxPending = s.maxPending := by
  unfold expireFirst
  split <;> exact ⟨rfl, rfl, rfl⟩

/-- The job that a new job would replace. -/
theorem replacement_supersedes {s : RestScheduler κ} (hk : s.Kept []) {job : RestJob κ}
    {id : String} (h : s.replacement job = .ok (.replaces (some id))) :
    ∃ p, s.jobs.get? id = some p ∧ p.job.id = id ∧ Supersedes job p := by
  unfold replacement at h
  cases hr : job.replaceable with
  | false => simp [hr] at h
  | true =>
    cases hkey : job.logicalKey with
    | none => simp [hr, hkey] at h
    | some key =>
      simp only [hr, hkey, Bool.not_true, Bool.false_eq_true, if_false] at h
      cases hi : s.logicalIndex.get? key with
      | none => simp [hi] at h
      | some id' =>
        obtain ⟨p, hp, hprep, hpkey⟩ := (hk.index key id').mp hi
        simp only [hi, hp] at h
        split at h
        · cases h
        · next hlt =>
          split at h
          · cases h
          · next hne =>
            cases h
            refine ⟨p, hp, hk.keyed _ _ hp, hr, hprep, ⟨key, hkey, hpkey⟩, ?_⟩
            omega

theorem evictionCandidate_evicts {s : RestScheduler κ} (hk : s.Kept []) {job : RestJob κ}
    {id : String} (h : s.evictionCandidate job = some id) :
    ∃ p, s.jobs.get? id = some p ∧ p.job.id = id ∧ Evicts job p := by
  obtain ⟨p, hp, hid, hrep, hlt⟩ := evictionCandidate_mem h
  obtain ⟨⟨id', p'⟩, hentry, hpeq⟩ := List.mem_map.mp hp
  have hpeq : p' = p := hpeq
  subst hpeq
  have hget := Dict.get?_eq_some.mpr hentry
  have hid' : id' = id := (hk.keyed id' p' hget).symm.trans hid
  refine ⟨p', hid' ▸ hget, hid, ?_, hrep, hlt⟩
  unfold evictionCandidate at h
  cases hr : job.replaceable with
  | false => rfl
  | true => simp [hr] at h

/-- The end of a submission, once the jobs that are past their deadline have left. -/
theorem submitLive_cases {s : RestScheduler κ} (hk : s.Kept []) {job : RestJob κ}
    {replaced : Option String} {now : Nat}
    (hreplaced : ∀ id, replaced = some id →
      ∃ p, s.jobs.get? id = some p ∧ p.job.id = id ∧ Supersedes job p) :
    Submits s job now ((s.expireFirst now).submitLive job replaced now).2.jobs
      ((s.expireFirst now).submitLive job replaced now).2.sequence
      ((s.expireFirst now).submitLive job replaced now).1 := by
  have hk' : (s.expireFirst now).Kept [] := hk.expireFirst now
  obtain ⟨hseq, -, hmax⟩ := sequence_expireFirst s now
  unfold RestScheduler.submitLive
  cases hr : replaced.filter (s.expireFirst now).jobs.contains with
  | some id =>
    obtain ⟨hrep, hmem⟩ := Option.filter_eq_some_iff.mp hr
    obtain ⟨q, hq⟩ := Dict.exists_of_mem_keys (Dict.contains_iff.mp hmem)
    obtain ⟨p, hp, hid, hsup⟩ := hreplaced id hrep
    have hqs := ((get?_expireFirst_iff hk).mp hq).1
    rw [hp] at hqs
    cases hqs
    obtain ⟨hjobs, hsequence, -⟩ :=
      jobs_enqueue ((s.expireFirst now).removePending id) job now
    refine .replaced q (hid ▸ hq) hsup ?_ ?_
    · dsimp only
      rw [hjobs, jobs_removePending, (sequence_removePending _ _).1, hseq, hid]
    · dsimp only
      rw [hsequence, (sequence_removePending _ _).1, hseq]
  | none =>
    dsimp only
    unfold RestScheduler.makeRoom
    by_cases hroom : (s.expireFirst now).jobs.entries.length < (s.expireFirst now).maxPending
    · rw [if_pos hroom]
      obtain ⟨hjobs, hsequence, -⟩ := jobs_enqueue (s.expireFirst now) job now
      refine .enqueued ?_ ?_
      · dsimp only
        rw [hjobs, hseq]
      · dsimp only
        rw [hsequence, hseq]
    · rw [if_neg hroom]
      cases hc : (s.expireFirst now).evictionCandidate job with
      | none => exact .full _ rfl hseq
      | some id =>
        obtain ⟨p, hp, hid, hevicts⟩ := evictionCandidate_evicts hk' hc
        obtain ⟨hjobs, hsequence, -⟩ := jobs_enqueue { (s.expireFirst now).removePending id with
          evicted := appendBounded (s.expireFirst now).maxHistory
            (s.expireFirst now).evicted id } job now
        refine .evicted p (hid ▸ hp) hevicts ?_ ?_ ?_
        · rw [hmax] at hroom
          omega
        · dsimp only
          rw [hjobs]
          dsimp only
          rw [jobs_removePending, (sequence_removePending _ _).1, hseq, hid]
        · dsimp only
          rw [hsequence]
          dsimp only
          rw [(sequence_removePending _ _).1, hseq]

theorem jobs_expireFirst_congr {s s' : RestScheduler κ} (h : s'.jobs = s.jobs) (now : Nat) :
    (s'.expireFirst now).jobs = (s.expireFirst now).jobs := by
  have hoverdue : s'.overdue now = s.overdue now := by
    unfold overdue
    rw [h]
  unfold expireFirst
  rw [hoverdue]
  split
  · exact h
  · change ((s'.overdue now).map (·.job.id)).foldl Dict.erase s'.jobs = _
    rw [hoverdue, h]
    rfl

/-- The time of the scheduler does not matter for its table. -/
theorem Submits.congr {s s' : RestScheduler κ} {job : RestJob κ} {now : Nat}
    {jobs : Dict String (Pending κ)} {sequence : Nat} {r : Except SchedulerError SubmitResult}
    (h : Submits s' job now jobs sequence r) (hjobs : s'.jobs = s.jobs)
    (hseq : s'.sequence = s.sequence) (hmax : s'.maxPending = s.maxPending) :
    Submits s job now jobs sequence r := by
  have hexpire := jobs_expireFirst_congr hjobs now
  cases h with
  | unchanged _ refused hj hs => exact .unchanged _ refused (hj.trans hjobs) (hs.trans hseq)
  | dropped p hp hsup hj hs =>
    exact .dropped p (hjobs ▸ hp) hsup (hj.trans (by rw [hjobs])) (hs.trans hseq)
  | full e hj hs => exact .full e (hj.trans hexpire) (hs.trans hseq)
  | enqueued hj hs =>
    exact .enqueued (hj.trans (by rw [hexpire, hseq])) (hs.trans (by rw [hseq]))
  | replaced p hp hsup hj hs =>
    exact .replaced p (hexpire ▸ hp) hsup (hj.trans (by rw [hexpire, hseq]))
      (hs.trans (by rw [hseq]))
  | evicted p hp hev hfull hj hs =>
    exact .evicted p (hexpire ▸ hp) hev (by rw [← hexpire, ← hmax]; exact hfull)
      (hj.trans (by rw [hexpire, hseq])) (hs.trans (by rw [hseq]))

theorem lastNowNs_submitLive (s : RestScheduler κ) (job : RestJob κ) (replaced : Option String)
    (now : Nat) : (s.submitLive job replaced now).2.lastNowNs = s.lastNowNs := by
  unfold RestScheduler.submitLive
  split
  · rw [(jobs_enqueue _ _ _).2.2, (sequence_removePending _ _).2]
  · unfold RestScheduler.makeRoom
    split
    · rfl
    · next h =>
      split at h
      · cases h
        rw [(jobs_enqueue _ _ _).2.2]
      · split at h
        · cases h
        · cases h
          rw [(jobs_enqueue _ _ _).2.2]
          exact (sequence_removePending _ _).2

/-- What a submission does to the table. -/
theorem submitNowait_cases [BEq κ] {s : RestScheduler κ} (hk : s.Kept []) (job : RestJob κ)
    (clock : Int) :
    Submits s job (s.submitNowait job clock).2.lastNowNs (s.submitNowait job clock).2.jobs
      (s.submitNowait job clock).2.sequence (s.submitNowait job clock).1 := by
  have hrefused : ∀ result : Except SchedulerError SubmitResult,
      (∀ r, result = .ok r → r ≠ .enqueued ∧ r ≠ .replaced ∧ r ≠ .evictedAndEnqueued) →
        Submits s job s.lastNowNs s.jobs s.sequence result :=
    fun result h => .unchanged result h rfl rfl
  unfold RestScheduler.submitNowait
  split
  · exact hrefused _ fun r h => by cases h
  split
  · split
    · exact hrefused _ fun r h => by cases h; simp
    · exact hrefused _ fun r h => by cases h
  split
  · exact hrefused _ fun r h => by cases h
  split
  · exact hrefused _ fun r h => by cases h
  · exact hrefused _ fun r h => by cases h; simp
  next replaced hrep =>
    split
    · exact hrefused _ fun r h => by cases h
    next s' hs =>
      obtain ⟨hk', hjobs, -, -, -, -⟩ := kept_observeNow hk hs
      have hsame : s'.sequence = s.sequence ∧ s'.maxPending = s.maxPending ∧
          s'.replacement job = s.replacement job := by
        unfold observeNow at hs
        split at hs
        · cases hs
        · cases hs
          exact ⟨rfl, rfl, rfl⟩
      obtain ⟨hseq, hmax, hsame⟩ := hsame
      have hreplaced : ∀ id, replaced = some id →
          ∃ p, s'.jobs.get? id = some p ∧ p.job.id = id ∧ Supersedes job p := by
        rintro id rfl
        exact replacement_supersedes hk' (hsame.trans hrep)
      refine Submits.congr ?_ hjobs hseq hmax
      unfold submitAt
      split
      · cases replaced with
        | none => exact .unchanged _ (fun r h => by cases h; simp) rfl rfl
        | some id =>
          obtain ⟨p, hp, hid, hsup⟩ := hreplaced id rfl
          refine .dropped p (hid ▸ hp) hsup ?_ (sequence_removePending s' id).1
          rw [hid]
          exact jobs_removePending s' id
      · rw [lastNowNs_submitLive, (sequence_expireFirst s' _).2.1]
        exact submitLive_cases hk' hreplaced

/-! ## What a dispatch does -/

theorem lastNowNs_promote (s : RestScheduler κ) (now n : Nat) :
    (s.promote now n).lastNowNs = s.lastNowNs ∧ (s.promote now n).sequence = s.sequence := by
  induction n generalizing s with
  | zero => exact ⟨rfl, rfl⟩
  | succ n ih =>
    unfold RestScheduler.promote
    split
    · exact ⟨rfl, rfl⟩
    · next e future hf =>
      split
      · exact ⟨rfl, rfl⟩
      dsimp only
      split
      · exact ih _
      · next q hq =>
        split
        · exact ih _
        split
        · have hremove := sequence_removePending ({ s with future } : RestScheduler κ) q.job.id
          obtain ⟨h1, h2⟩ := ih (({ s with future } : RestScheduler κ).expire q)
          exact ⟨h1.trans hremove.2, h2.trans hremove.1⟩
        · exact ih _

theorem lastNowNs_select (t : Selection κ) (now n : Nat) :
    (select now n t).2.scheduler.lastNowNs = t.scheduler.lastNowNs ∧
      (select now n t).2.scheduler.sequence = t.scheduler.sequence := by
  induction n generalizing t with
  | zero => exact ⟨rfl, rfl⟩
  | succ n ih =>
    unfold select
    split
    · exact ⟨rfl, rfl⟩
    · next e ready hr =>
      dsimp only
      split
      · exact ih _
      · next p hp =>
        split
        · exact ih _
        split
        · have hremove := sequence_removePending ({ t.scheduler with ready } : RestScheduler κ)
            p.job.id
          obtain ⟨h1, h2⟩ := ih { t with
            scheduler := ({ t.scheduler with ready } : RestScheduler κ).expire p }
          exact ⟨h1.trans hremove.2, h2.trans hremove.1⟩
        split
        · exact ih _
        split
        · exact ⟨rfl, rfl⟩
        · split
          · exact ⟨rfl, rfl⟩
          · exact ih _
        · split <;> exact ⟨rfl, rfl⟩

theorem lastNowNs_nextReadyAt (s : RestScheduler κ) :
    s.nextReadyAt.2.lastNowNs = s.lastNowNs ∧ s.nextReadyAt.2.sequence = s.sequence := by
  have hpromote := lastNowNs_promote (s.expireAll s.lastNowNs) s.lastNowNs
    (s.expireAll s.lastNowNs).future.length
  have hselect := lastNowNs_select { scheduler := s.prepared } s.lastNowNs s.prepared.ready.length
  have h1 := hselect.1.trans hpromote.1
  have h2 := hselect.2.trans hpromote.2
  unfold RestScheduler.nextReadyAt
  split
  · next hs =>
    rw [hs] at h1 h2
    exact ⟨h1, h2⟩
  · next hs =>
    rw [hs] at h1 h2
    exact ⟨h1, h2⟩

/-- A dispatch takes one job, and the jobs that are past their deadline leave. -/
theorem nextReadyAt_jobs {s : RestScheduler κ} (hk : s.Kept []) (ho : s.Ordered) :
    ∃ dispatch, s.nextReadyAt.1 = .ok dispatch ∧
      (∀ d, dispatch = some d → ∃ p, s.jobs.get? d.job.id = some p ∧ d.job = p.job) ∧
      ∀ id p, s.nextReadyAt.2.jobs.get? id = some p ↔
        s.jobs.get? id = some p ∧ p.job.pastDeadline s.lastNowNs = false ∧
          ∀ d, dispatch = some d → d.job.id ≠ id := by
  have hscan := scans_prepared hk ho
  obtain ⟨dispatch, t, hsel, -⟩ := Kept.select hscan.kept s.lastNowNs s.prepared.ready.length
  have hok : s.nextReadyAt = (.ok dispatch, t.finish) := by
    unfold RestScheduler.nextReadyAt
    rw [hsel]
  obtain ⟨hnone, hsome⟩ := hscan.select hsel
  refine ⟨dispatch, by rw [hok], fun d hd => ?_, fun id p => ?_⟩
  · obtain ⟨p, hfair, -⟩ := hsome d hd
    exact ⟨p, hfair.pending, hfair.job⟩
  · rw [hok]
    change t.scheduler.jobs.get? id = some p ↔ _
    cases dispatch with
    | none =>
      have ht := hnone rfl
      refine ⟨fun hp => ?_, fun ⟨hp, hlive, _⟩ => ht.stays id p hp hlive⟩
      obtain ⟨hp, hlive⟩ := ht.from_start id p hp
      exact ⟨hp, hlive, fun d hd => by cases hd⟩
    | some d =>
      obtain ⟨q, hfair, t₁, ht, hjobs⟩ := hsome d rfl
      rw [hjobs, Dict.get?_erase]
      constructor
      · intro hp
        split at hp
        · cases hp
        · next hne =>
          obtain ⟨hp, hlive⟩ := ht.from_start id p hp
          refine ⟨hp, hlive, fun d' hd => ?_⟩
          cases hd
          exact Ne.symm hne
      · rintro ⟨hp, hlive, hne⟩
        rw [if_neg (Ne.symm (hne d rfl))]
        exact ht.stays id p hp hlive

/-- What `_next_ready` does to the table. -/
theorem nextReady_cases {s : RestScheduler κ} (hk : s.Kept []) (ho : s.Ordered) (clock : Int) :
    (∃ e, s.nextReady clock = (.error e, s)) ∨
      ∃ dispatch, (s.nextReady clock).1 = .ok dispatch ∧
        (s.nextReady clock).2.sequence = s.sequence ∧
        (∀ d, dispatch = some d → ∃ p, s.jobs.get? d.job.id = some p ∧ d.job = p.job) ∧
        ∀ id p, (s.nextReady clock).2.jobs.get? id = some p ↔
          s.jobs.get? id = some p ∧
            p.job.pastDeadline (s.nextReady clock).2.lastNowNs = false ∧
            ∀ d, dispatch = some d → d.job.id ≠ id := by
  unfold RestScheduler.nextReady
  split
  · exact .inl ⟨_, rfl⟩
  split
  · exact .inl ⟨_, rfl⟩
  · next s' hs =>
    obtain ⟨hk', hjobs, -, hready, hfuture, -⟩ := kept_observeNow hk hs
    have hseq : s'.sequence = s.sequence := by
      unfold observeNow at hs
      split at hs
      · cases hs
      · cases hs
        rfl
    obtain ⟨dispatch, hok, hpending, hiff⟩ :=
      nextReadyAt_jobs hk' (ho.congr hready hfuture hjobs)
    obtain ⟨hnow, hsequence⟩ := lastNowNs_nextReadyAt s'
    rw [hjobs] at hpending hiff
    rw [hnow]
    exact .inr ⟨dispatch, hok, hsequence.trans hseq, hpending, hiff⟩

/-! ## Fates -/

/-- How a job leaves the table. -/
inductive Fate where
  | dispatched
  | expired
  | evicted
  | superseded
  deriving DecidableEq

/-- What an operation has done to a job that was pending before it; none if it is still pending.
A submission that finds its own job expired only removes the job that it would replace. -/
def Op.fate [BEq κ] (s : RestScheduler κ) (p : Pending κ) (op : Op κ) : Option Fate :=
  if ((op.exec s).jobs.get? p.job.id).map (·.sequence) = some p.sequence then none
  else
    match op with
    | .submit job clock =>
      match (s.submitNowait job clock).1 with
      | .ok .expired => some .superseded
      | result =>
        if p.job.pastDeadline (s.submitNowait job clock).2.lastNowNs then some .expired
        else
          match result with
          | .ok .replaced => some .superseded
          | _ => some .evicted
    | .nextReady clock =>
      match (s.nextReady clock).1 with
      | .ok (some d) => if d.job.id = p.job.id then some .dispatched else some .expired
      | _ => some .expired
    | _ => some .expired

/-- The operations that work on the table. -/
def Op.schedules : Op κ → Bool
  | .submit _ _ => true
  | .nextReady _ => true
  | _ => false

/-- What the claim of a fate rests on. -/
def Justified [BEq κ] (s : RestScheduler κ) (op : Op κ) (p : Pending κ) : Fate → Prop
  | .dispatched => ∃ clock d, op = .nextReady clock ∧ (s.nextReady clock).1 = .ok (some d) ∧
      d.job = p.job
  | .expired => p.job.pastDeadline (op.exec s).lastNowNs = true
  | .evicted => ∃ job clock, op = .submit job clock ∧
      (s.submitNowait job clock).1 = .ok .evictedAndEnqueued ∧ Evicts job p ∧
      s.maxPending ≤ (s.jobs.entries.filter fun e =>
        !e.2.job.pastDeadline (op.exec s).lastNowNs).length
  | .superseded => ∃ job clock, op = .submit job clock ∧
      ((s.submitNowait job clock).1 = .ok .replaced ∨
        (s.submitNowait job clock).1 = .ok .expired) ∧ Supersedes job p

/-- The pending job with the sequence number `n` is `p`, and later jobs have larger numbers. -/
structure Numbered (s : RestScheduler κ) (p : Pending κ) : Prop where
  le : p.sequence ≤ s.sequence
  unique : ∀ id q, s.jobs.get? id = some q → q.sequence = p.sequence → q = p

/-- After an operation the table has old jobs, and at most one with a new sequence number. -/
structure Extends (s s' : RestScheduler κ) : Prop where
  sequence : s.sequence ≤ s'.sequence
  jobs : ∀ id q, s'.jobs.get? id = some q →
    s.jobs.get? id = some q ∨ s.sequence < q.sequence ∧ q.sequence ≤ s'.sequence

theorem extends_of_jobs {s s' : RestScheduler κ} (hjobs : s'.jobs = s.jobs)
    (hseq : s'.sequence = s.sequence) : Extends s s' :=
  ⟨hseq.ge, fun _ _ hq => .inl (hjobs ▸ hq)⟩

theorem extends_nextReady {s : RestScheduler κ} (hk : s.Kept []) (ho : s.Ordered) (clock : Int) :
    Extends s (s.nextReady clock).2 := by
  rcases nextReady_cases hk ho clock with ⟨e, he⟩ | ⟨dispatch, -, hseq, -, hiff⟩
  · rw [he]
    exact extends_of_jobs rfl rfl
  · exact ⟨hseq.ge, fun id q hq => .inl ((hiff id q).mp hq).1⟩

section Step

variable [BEq κ] {s : RestScheduler κ} {p : Pending κ}

theorem extends_submit (hk : s.Kept []) (job : RestJob κ) (clock : Int) :
    Extends s (s.submitNowait job clock).2 := by
  have hsub : ∀ {now : Nat} {id : String} {q : Pending κ},
      (s.expireFirst now).jobs.get? id = some q → s.jobs.get? id = some q :=
    fun h => ((get?_expireFirst_iff hk).mp h).1
  have herase : ∀ {d : Dict String (Pending κ)} {a id : String} {q : Pending κ},
      (d.erase a).get? id = some q → d.get? id = some q := by
    intro d a id q hq
    rw [Dict.get?_erase] at hq
    split at hq
    · cases hq
    · exact hq
  have hset : ∀ {d : Dict String (Pending κ)} {sequence : Nat} {id : String} {q : Pending κ},
      sequence = s.sequence + 1 → (d.set job.id ⟨job, s.sequence + 1⟩).get? id = some q →
        d.get? id = some q ∨ s.sequence < q.sequence ∧ q.sequence ≤ sequence := by
    intro d sequence id q hseq hq
    rw [Dict.get?_set] at hq
    split at hq
    · cases hq
      exact .inr ⟨Nat.lt_succ_self _, hseq.ge⟩
    · exact .inl hq
  have hcases := submitNowait_cases hk job clock
  generalize (s.submitNowait job clock).1 = result at hcases
  generalize hs : (s.submitNowait job clock).2 = s' at hcases ⊢
  cases hcases with
  | unchanged _ _ hjobs hseq => exact extends_of_jobs hjobs hseq
  | dropped q hq _ hjobs hseq =>
    exact ⟨hseq.ge, fun id r hr => .inl (herase (hjobs ▸ hr))⟩
  | full e hjobs hseq => exact ⟨hseq.ge, fun id r hr => .inl (hsub (hjobs ▸ hr))⟩
  | enqueued hjobs hseq =>
    exact ⟨by omega, fun id r hr => (hset hseq (hjobs ▸ hr)).imp_left hsub⟩
  | replaced q hq _ hjobs hseq =>
    exact ⟨by omega, fun id r hr => (hset hseq (hjobs ▸ hr)).imp_left fun h => hsub (herase h)⟩
  | evicted q hq _ _ hjobs hseq =>
    exact ⟨by omega, fun id r hr => (hset hseq (hjobs ▸ hr)).imp_left fun h => hsub (herase h)⟩

/-- The other operations leave the table alone. -/
theorem exec_other {op : Op κ} (h : op.schedules = false) :
    (op.exec s).jobs = s.jobs ∧ (op.exec s).sequence = s.sequence := by
  cases op with
  | submit job clock => cases h
  | nextReady clock => cases h
  | observeNow clock =>
    simp only [Op.exec, observeNow]
    by_cases hc : clock < 0
    · rw [if_pos hc]
      exact ⟨rfl, rfl⟩
    · rw [if_neg hc]
      exact ⟨rfl, rfl⟩
  | notifyResourcesChanged =>
    change s.notifyResourcesChanged.jobs = s.jobs ∧ s.notifyResourcesChanged.sequence = _
    unfold notifyResourcesChanged
    split <;> exact ⟨rfl, rfl⟩
  | close =>
    change s.close.jobs = _ ∧ s.close.sequence = _
    unfold close
    split <;> exact ⟨rfl, rfl⟩
  | addBudget k capacity refill clock =>
    simp only [Op.exec]
    split <;> exact ⟨rfl, rfl⟩
  | budget k op => exact ⟨rfl, rfl⟩

theorem extends_exec (hk : s.Kept []) (ho : s.Ordered) (op : Op κ) : Extends s (op.exec s) := by
  cases op with
  | submit job clock => exact extends_submit hk job clock
  | nextReady clock => exact extends_nextReady hk ho clock
  | _ => exact extends_of_jobs (exec_other rfl).1 (exec_other rfl).2

/-- An id that is pending already is not accepted again. -/
theorem submitNowait_pending {q : Pending κ} {job : RestJob κ} (clock : Int)
    (hq : s.jobs.get? job.id = some q) : (s.submitNowait job clock).2.jobs = s.jobs := by
  unfold RestScheduler.submitNowait
  split
  · rfl
  · rw [hq]
    dsimp only
    split <;> rfl

/-- Why a pending job leaves the table in a submission. -/
theorem submit_leaves (hk : s.Kept []) (hp : s.jobs.get? p.job.id = some p) (job : RestJob κ)
    (clock : Int) (hgone : (s.submitNowait job clock).2.jobs.get? p.job.id ≠ some p) :
    (s.submitNowait job clock).1 = .ok .expired ∧ Supersedes job p ∨
      (s.submitNowait job clock).1 ≠ .ok .expired ∧
        p.job.pastDeadline (s.submitNowait job clock).2.lastNowNs = true ∨
      p.job.pastDeadline (s.submitNowait job clock).2.lastNowNs = false ∧
        ((s.submitNowait job clock).1 = .ok .replaced ∧ Supersedes job p ∨
          (s.submitNowait job clock).1 = .ok .evictedAndEnqueued ∧ Evicts job p ∧
            s.maxPending ≤ (s.jobs.entries.filter fun e =>
              !e.2.job.pastDeadline (s.submitNowait job clock).2.lastNowNs).length) := by
  have hid : p.job.id ≠ job.id := by
    intro heq
    rw [submitNowait_pending clock (heq ▸ hp)] at hgone
    exact hgone hp
  have hcases := submitNowait_cases hk job clock
  generalize (s.submitNowait job clock).1 = result at hcases ⊢
  generalize (s.submitNowait job clock).2.jobs = jobs at hcases hgone
  generalize (s.submitNowait job clock).2.lastNowNs = now at hcases ⊢
  generalize (s.submitNowait job clock).2.sequence = sequence at hcases
  have hlive : p.job.pastDeadline now = false → (s.expireFirst now).jobs.get? p.job.id = some p :=
    fun h => (get?_expireFirst_iff hk).mpr ⟨hp, h⟩
  -- the job that is removed to let the new one in
  have hremoved : ∀ q : Pending κ, (s.expireFirst now).jobs.get? q.job.id = some q →
      jobs = ((s.expireFirst now).jobs.erase q.job.id).set job.id ⟨job, s.sequence + 1⟩ →
      p.job.pastDeadline now = false → p = q := by
    intro q hq hjobs h
    rw [hjobs, Dict.get?_set_ne _ _ hid, Dict.get?_erase] at hgone
    by_cases heq : p.job.id = q.job.id
    · have hpq := hlive h
      rw [heq, hq] at hpq
      exact (Option.some.inj hpq).symm
    · rw [if_neg heq] at hgone
      exact absurd (hlive h) hgone
  cases hcases with
  | unchanged _ _ hjobs _ =>
    rw [hjobs] at hgone
    exact absurd hp hgone
  | dropped q hq hsup hjobs _ =>
    refine .inl ⟨rfl, ?_⟩
    rw [hjobs, Dict.get?_erase] at hgone
    by_cases heq : p.job.id = q.job.id
    · rw [heq, hq] at hp
      exact Option.some.inj hp ▸ hsup
    · rw [if_neg heq] at hgone
      exact absurd hp hgone
  | full e hjobs _ =>
    cases h : p.job.pastDeadline now with
    | true => exact .inr (.inl ⟨by simp, rfl⟩)
    | false =>
      rw [hjobs] at hgone
      exact absurd (hlive h) hgone
  | enqueued hjobs _ =>
    cases h : p.job.pastDeadline now with
    | true => exact .inr (.inl ⟨by simp, rfl⟩)
    | false =>
      rw [hjobs, Dict.get?_set_ne _ _ hid] at hgone
      exact absurd (hlive h) hgone
  | replaced q hq hsup hjobs _ =>
    cases h : p.job.pastDeadline now with
    | true => exact .inr (.inl ⟨by simp, rfl⟩)
    | false => exact .inr (.inr ⟨rfl, .inl ⟨rfl, hremoved q hq hjobs h ▸ hsup⟩⟩)
  | evicted q hq hev hfull hjobs _ =>
    cases h : p.job.pastDeadline now with
    | true => exact .inr (.inl ⟨by simp, rfl⟩)
    | false =>
      rw [entries_expireFirst hk] at hfull
      exact .inr (.inr ⟨rfl, .inr ⟨rfl, hremoved q hq hjobs h ▸ hev, hfull⟩⟩)

/-- A job that was pending before an operation is still pending after it, or it has left with a
fate that is justified. -/
theorem fate_cases (hk : s.Kept []) (ho : s.Ordered) (hn : s.Numbered p)
    (hp : s.jobs.get? p.job.id = some p) (op : Op κ) :
    op.fate s p = none ∧ (op.exec s).jobs.get? p.job.id = some p ∨
      ∃ f, op.fate s p = some f ∧ Justified s op p f ∧
        (op.exec s).jobs.get? p.job.id ≠ some p := by
  by_cases hstay : (op.exec s).jobs.get? p.job.id = some p
  · refine .inl ⟨?_, hstay⟩
    unfold Op.fate
    rw [if_pos (by rw [hstay]; rfl)]
  · right
    have hgone : ¬ ((op.exec s).jobs.get? p.job.id).map (·.sequence) = some p.sequence := by
      intro h
      obtain ⟨q, hq, hseq⟩ := Option.map_eq_some_iff.mp h
      rcases (extends_exec hk ho op).jobs _ q hq with hold | hnew
      · rw [hn.unique _ q hold hseq] at hq
        exact hstay hq
      · have := hn.le
        omega
    have hop : op.schedules = true := by
      by_contra hother
      refine hstay ?_
      rw [(exec_other (by simpa using hother)).1]
      exact hp
    cases op with
    | submit job clock =>
      unfold Op.fate
      rw [if_neg hgone]
      dsimp only
      rcases submit_leaves hk hp job clock hstay with ⟨hr, hsup⟩ | ⟨hr, hdead⟩ |
        ⟨hlive, ⟨hr, hsup⟩ | ⟨hr, hev, hfull⟩⟩
      · exact ⟨.superseded, by rw [hr], ⟨job, clock, rfl, .inr hr, hsup⟩, hstay⟩
      · refine ⟨.expired, ?_, hdead, hstay⟩
        split
        · next h => exact absurd h hr
        · rw [if_pos hdead]
      · exact ⟨.superseded, by rw [hr]; simp [hlive], ⟨job, clock, rfl, .inl hr, hsup⟩, hstay⟩
      · exact ⟨.evicted, by rw [hr]; simp [hlive], ⟨job, clock, rfl, hr, hev, hfull⟩, hstay⟩
    | nextReady clock =>
      unfold Op.fate
      rw [if_neg hgone]
      dsimp only
      rcases nextReady_cases hk ho clock with ⟨e, he⟩ | ⟨dispatch, hr, -, hpending, hiff⟩
      · change (s.nextReady clock).2.jobs.get? p.job.id ≠ some p at hstay
        rw [he] at hstay
        exact absurd hp hstay
      · change (s.nextReady clock).2.jobs.get? p.job.id ≠ some p at hstay
        rw [hr]
        have hout : p.job.pastDeadline (s.nextReady clock).2.lastNowNs = true ∨
            ∃ d, dispatch = some d ∧ d.job.id = p.job.id := by
          by_contra hnot
          rw [not_or] at hnot
          exact hstay ((hiff _ _).mpr ⟨hp, by simpa using hnot.1,
            fun d hd heq => hnot.2 ⟨d, hd, heq⟩⟩)
        by_cases hd : ∃ d, dispatch = some d ∧ d.job.id = p.job.id
        · obtain ⟨d, rfl, hid⟩ := hd
          obtain ⟨q, hq, hjob⟩ := hpending d rfl
          rw [hid, hp] at hq
          cases hq
          exact ⟨.dispatched, by simp [hid], ⟨clock, d, rfl, hr, hjob⟩, hstay⟩
        · refine ⟨.expired, ?_, hout.resolve_right hd, hstay⟩
          cases dispatch with
          | none => rfl
          | some d =>
            dsimp only
            rw [if_neg fun heq => hd ⟨d, rfl, heq⟩]
    | _ => cases hop

end Step

/-! ## Runs -/

/-- The clock sample of an operation of the scheduler. -/
def Op.sample : Op κ → Option Int
  | .submit _ clock => some clock
  | .nextReady clock => some clock
  | .observeNow clock => some clock
  | _ => none

theorem lastNowNs_nextReady (s : RestScheduler κ) (clock : Int) :
    (s.nextReady clock).2.lastNowNs = s.lastNowNs ∨
      ((s.nextReady clock).2.lastNowNs : Int) = clock := by
  unfold RestScheduler.nextReady
  split
  · exact .inl rfl
  · unfold observeNow
    by_cases hc : clock < 0
    · rw [if_pos hc]
      exact .inl rfl
    · rw [if_neg hc]
      dsimp only
      rw [(lastNowNs_nextReadyAt _).1]
      dsimp only
      omega

theorem lastNowNs_new {budgets : BudgetRegistry} {clock maxPending maxHistory : Int}
    {s : RestScheduler κ} (h : new budgets clock maxPending maxHistory = .ok s) :
    (s.lastNowNs : Int) = clock ∧ s.jobs = Dict.empty := by
  unfold new observeNow at h
  cases hp : boundedCollectionSize maxPending "max_pending" with
  | error e =>
    rw [hp] at h
    cases h
  | ok m =>
    cases hh : boundedCollectionSize maxHistory "max_history" with
    | error e =>
      rw [hp, hh] at h
      cases h
    | ok k =>
      rw [hp, hh] at h
      simp only [bind, Except.bind] at h
      split at h
      · cases h
      · cases h
        exact ⟨Int.toNat_of_nonneg (not_lt.mp ‹_›), rfl⟩

/-- The sequence number of the job that an operation dispatches. -/
def Op.dispatchedSequence (s : RestScheduler κ) : Op κ → Option Nat
  | .nextReady clock =>
    match (s.nextReady clock).1 with
    | .ok (some d) => (s.jobs.get? d.job.id).map (·.sequence)
    | _ => none
  | _ => none

/-- No job with the sequence number `n` is pending, and none will be. -/
def Gone (s : RestScheduler κ) (n : Nat) : Prop :=
  n ≤ s.sequence ∧ ∀ id q, s.jobs.get? id = some q → q.sequence ≠ n

theorem dispatchedSequence_ne {s : RestScheduler κ} {n : Nat} (h : s.Gone n) (op : Op κ) :
    op.dispatchedSequence s ≠ some n := by
  unfold Op.dispatchedSequence
  split
  · split
    · intro heq
      obtain ⟨q, hq, hn⟩ := Option.map_eq_some_iff.mp heq
      exact h.2 _ q hq hn
    · simp
  · simp

theorem Numbered.gone {s : RestScheduler κ} {p : Pending κ} (h : s.Numbered p) (hk : s.Kept [])
    (hout : s.jobs.get? p.job.id ≠ some p) : s.Gone p.sequence := by
  refine ⟨h.le, fun id q hq heq => ?_⟩
  obtain rfl := h.unique id q hq heq
  rw [← hk.keyed id q hq] at hq
  exact hout hq

section Run

variable [BEq κ]

/-- How often a run dispatches the job with a sequence number. -/
def dispatches (s : RestScheduler κ) : List (Op κ) → Nat → Nat
  | [], _ => 0
  | op :: ops, n =>
    (if op.dispatchedSequence s = some n then 1 else 0) + (op.exec s).dispatches ops n

/-- The fate of a pending job in a run; none if it is still pending. -/
def fateOf (s : RestScheduler κ) (p : Pending κ) : List (Op κ) → Option Fate
  | [] => none
  | op :: ops =>
    match op.fate s p with
    | some f => some f
    | none => (op.exec s).fateOf p ops

theorem run_append (s : RestScheduler κ) (ops ops' : List (Op κ)) :
    s.run (ops ++ ops') = (s.run ops).run ops' := List.foldl_append

theorem Gone.exec {s : RestScheduler κ} {n : Nat} (h : s.Gone n) (hk : s.Kept [])
    (ho : s.Ordered) (op : Op κ) : (op.exec s).Gone n := by
  have hext := extends_exec hk ho op
  refine ⟨h.1.trans hext.sequence, fun id q hq heq => ?_⟩
  rcases hext.jobs id q hq with hold | hnew
  · exact h.2 id q hold heq
  · have := h.1
    omega

theorem Gone.dispatches {s : RestScheduler κ} {n : Nat} (h : s.Gone n) (hk : s.Kept [])
    (ho : s.Ordered) (ops : List (Op κ)) : s.dispatches ops n = 0 ∧ (s.run ops).Gone n := by
  induction ops generalizing s with
  | nil => exact ⟨rfl, h⟩
  | cons op ops ih =>
    obtain ⟨hzero, hgone⟩ := ih (h.exec hk ho op) (hk.exec op) (ho.exec hk op)
    refine ⟨?_, hgone⟩
    rw [RestScheduler.dispatches, if_neg (dispatchedSequence_ne h op), hzero]

theorem Numbered.exec {s : RestScheduler κ} {p : Pending κ} (h : s.Numbered p) (hk : s.Kept [])
    (ho : s.Ordered) (op : Op κ) : (op.exec s).Numbered p := by
  have hext := extends_exec hk ho op
  refine ⟨h.le.trans hext.sequence, fun id q hq heq => ?_⟩
  rcases hext.jobs id q hq with hold | hnew
  · exact h.unique id q hold heq
  · have := h.le
    omega

/-- An operation dispatches a pending job exactly when that is the fate of the job. -/
theorem dispatchedSequence_iff {s : RestScheduler κ} {p : Pending κ} (h : s.Numbered p)
    (hk : s.Kept []) (ho : s.Ordered) (hp : s.jobs.get? p.job.id = some p) (op : Op κ) :
    op.dispatchedSequence s = some p.sequence ↔ op.fate s p = some .dispatched := by
  constructor
  · intro heq
    cases op with
    | nextReady clock =>
      unfold Op.dispatchedSequence at heq
      dsimp only at heq
      split at heq
      · next d hd =>
        obtain ⟨q, hq, hseq⟩ := Option.map_eq_some_iff.mp heq
        obtain rfl := h.unique _ q hq hseq
        have hid := hk.keyed _ q hq
        rcases fate_cases hk ho h hp (.nextReady clock) with ⟨-, hstay⟩ | ⟨f, hf, -, -⟩
        · rcases nextReady_cases hk ho clock with ⟨e, he⟩ | ⟨dispatch, hr, -, -, hiff⟩
          · rw [he] at hd
            cases hd
          · rw [hr] at hd
            cases hd
            exact absurd hid.symm (((hiff _ _).mp hstay).2.2 d rfl)
        · rw [hf]
          unfold Op.fate at hf
          split at hf
          · cases hf
          · dsimp only at hf
            rw [hd] at hf
            dsimp only at hf
            rw [if_pos hid.symm] at hf
            exact hf.symm
      · cases heq
    | _ => cases heq
  · intro hf
    rcases fate_cases hk ho h hp op with ⟨hnone, -⟩ | ⟨f, hf', hjust, -⟩
    · rw [hf] at hnone
      cases hnone
    · rw [hf] at hf'
      cases hf'
      obtain ⟨clock, d, rfl, hd, hjob⟩ := hjust
      unfold Op.dispatchedSequence
      dsimp only
      rw [hd]
      dsimp only
      rw [hjob, hp]
      rfl

/-- A pending job has exactly one fate, or it is still pending after the run. -/
theorem run_fate {s : RestScheduler κ} {p : Pending κ} (h : s.Numbered p) (hk : s.Kept [])
    (ho : s.Ordered) (hp : s.jobs.get? p.job.id = some p) (ops : List (Op κ)) :
    (s.fateOf p ops = none ↔ (s.run ops).jobs.get? p.job.id = some p) ∧
      s.dispatches ops p.sequence = (if s.fateOf p ops = some .dispatched then 1 else 0) ∧
      ∀ f, s.fateOf p ops = some f → ∃ before op after, ops = before ++ op :: after ∧
        (s.run before).jobs.get? p.job.id = some p ∧ Justified (s.run before) op p f := by
  induction ops generalizing s with
  | nil => exact ⟨⟨fun _ => hp, fun _ => rfl⟩, rfl, fun f hf => by cases hf⟩
  | cons op ops ih =>
    have hk' := hk.exec op
    have ho' := ho.exec hk op
    have hn' := h.exec hk ho op
    have hiff := dispatchedSequence_iff h hk ho hp op
    unfold fateOf RestScheduler.dispatches
    rcases fate_cases hk ho h hp op with ⟨hnone, hstay⟩ | ⟨f, hf, hjust, hleft⟩
    · obtain ⟨h1, h2, h3⟩ := ih hn' hk' ho' hstay
      rw [hnone] at hiff ⊢
      refine ⟨h1, ?_, fun f hf => ?_⟩
      · rw [if_neg (by simpa using hiff), h2, Nat.zero_add]
      · obtain ⟨before, op', after, rfl, hpending, hjust⟩ := h3 f hf
        exact ⟨op :: before, op', after, rfl, hpending, hjust⟩
    · obtain ⟨hzero, hgone⟩ := (hn'.gone hk' hleft).dispatches hk' ho' ops
      rw [hf] at hiff ⊢
      refine ⟨⟨fun hc => (by cases hc), fun hc => ?_⟩, ?_, fun f' hf' => ?_⟩
      · exact absurd rfl (hgone.2 _ p hc)
      · rw [hzero, Nat.add_zero]
        simp only [hiff]
      · cases hf'
        exact ⟨[], op, ops, rfl, hp, hjust⟩

/-! ## Clock samples -/

theorem lastNowNs_submit (s : RestScheduler κ) (job : RestJob κ) (clock : Int) :
    (s.submitNowait job clock).2.lastNowNs = s.lastNowNs ∨
      ((s.submitNowait job clock).2.lastNowNs : Int) = clock := by
  have hobserve : ∀ s', s.observeNow clock = .ok s' →
      s'.lastNowNs = s.lastNowNs ∨ (s'.lastNowNs : Int) = clock := by
    intro s' hs
    unfold observeNow at hs
    split at hs
    · cases hs
    · cases hs
      dsimp only
      omega
  unfold RestScheduler.submitNowait
  split
  · exact .inl rfl
  split
  · split <;> exact .inl rfl
  split
  · exact .inl rfl
  split
  · exact .inl rfl
  · exact .inl rfl
  split
  · exact .inl rfl
  · next s' hs =>
    unfold submitAt
    split
    · unfold submitExpired
      split
      · exact hobserve s' hs
      · change (s'.removePending _).lastNowNs = _ ∨ ((s'.removePending _).lastNowNs : Int) = _
        rw [(sequence_removePending s' _).2]
        exact hobserve s' hs
    · rw [lastNowNs_submitLive, (sequence_expireFirst s' _).2.1]
      exact hobserve s' hs

/-- The time of the scheduler changes to a clock sample. -/
theorem lastNowNs_exec (s : RestScheduler κ) (op : Op κ) :
    (op.exec s).lastNowNs = s.lastNowNs ∨ op.sample = some ((op.exec s).lastNowNs : Int) := by
  cases op with
  | submit job clock =>
    exact (lastNowNs_submit s job clock).imp_right fun h => congrArg some h.symm
  | nextReady clock =>
    exact (lastNowNs_nextReady s clock).imp_right fun h => congrArg some h.symm
  | observeNow clock =>
    simp only [Op.exec, observeNow, Op.sample]
    by_cases hc : clock < 0
    · rw [if_pos hc]
      exact .inl rfl
    · rw [if_neg hc]
      dsimp only
      rcases le_total clock.toNat s.lastNowNs with hle | hle
      · exact .inl (max_eq_left hle)
      · right
        rw [max_eq_right hle, Int.toNat_of_nonneg (not_lt.mp hc)]
  | notifyResourcesChanged =>
    left
    change s.notifyResourcesChanged.lastNowNs = _
    unfold notifyResourcesChanged
    split <;> rfl
  | close =>
    left
    change s.close.lastNowNs = _
    unfold close
    split <;> rfl
  | addBudget k capacity refill clock =>
    left
    simp only [Op.exec]
    split <;> rfl
  | budget k op => exact .inl rfl

/-- The time after a run is the time before it or one of its clock samples. -/
theorem lastNowNs_run (s : RestScheduler κ) (ops : List (Op κ)) :
    (s.run ops).lastNowNs = s.lastNowNs ∨
      ∃ op ∈ ops, op.sample = some ((s.run ops).lastNowNs : Int) := by
  induction ops generalizing s with
  | nil => exact .inl rfl
  | cons op ops ih =>
    rcases ih (op.exec s) with h | ⟨op', hop', h⟩
    · rcases lastNowNs_exec s op with h' | h'
      · exact .inl (h.trans h')
      · refine .inr ⟨op, List.mem_cons_self, ?_⟩
        change op.sample = some (((op.exec s).run ops).lastNowNs : Int)
        rw [h]
        exact h'
    · exact .inr ⟨op', List.mem_cons_of_mem _ hop', h⟩

/-! ## Conservation -/

/-- A submission that has taken its job in. -/
def Accepted (r : SubmitResult) : Prop :=
  r = .enqueued ∨ r = .replaced ∨ r = .evictedAndEnqueued

/-- An accepted job is pending under a new sequence number. -/
theorem submit_accepted {s : RestScheduler κ} (hk : s.Kept []) (hle : ∀ id q,
    s.jobs.get? id = some q → q.sequence ≤ s.sequence) {job : RestJob κ} {clock : Int}
    {r : SubmitResult} (h : (s.submitNowait job clock).1 = .ok r) (hr : Accepted r) :
    (s.submitNowait job clock).2.jobs.get? job.id =
        some ⟨job, (s.submitNowait job clock).2.sequence⟩ ∧
      (s.submitNowait job clock).2.Numbered ⟨job, (s.submitNowait job clock).2.sequence⟩ := by
  have hcases := submitNowait_cases hk job clock
  have hext := extends_submit hk job clock
  have hkept := hk.submitNowait job clock
  rw [h] at hcases
  generalize (s.submitNowait job clock).2 = s' at hcases hext hkept ⊢
  have hnew : s'.jobs.get? job.id = some ⟨job, s.sequence + 1⟩ ∧ s'.sequence = s.sequence + 1 ∧
      ∀ id q, s'.jobs.get? id = some q → id ≠ job.id → q.sequence ≤ s.sequence := by
    have hset : ∀ d : Dict String (Pending κ), s'.jobs = d.set job.id ⟨job, s.sequence + 1⟩ →
        (∀ id q, d.get? id = some q → q.sequence ≤ s.sequence) → s'.sequence = s.sequence + 1 →
        s'.jobs.get? job.id = some ⟨job, s.sequence + 1⟩ ∧ s'.sequence = s.sequence + 1 ∧
          ∀ id q, s'.jobs.get? id = some q → id ≠ job.id → q.sequence ≤ s.sequence := by
      intro d hd hold hseq
      refine ⟨by rw [hd, Dict.get?_set_self], hseq, fun id q hq hne => ?_⟩
      rw [hd, Dict.get?_set_ne _ _ hne] at hq
      exact hold id q hq
    have hexpired : ∀ id q, (s.expireFirst s'.lastNowNs).jobs.get? id = some q →
        q.sequence ≤ s.sequence :=
      fun id q hq => hle id q ((get?_expireFirst_iff hk).mp hq).1
    have herased : ∀ a id q, ((s.expireFirst s'.lastNowNs).jobs.erase a).get? id = some q →
        q.sequence ≤ s.sequence := by
      intro a id q hq
      rw [Dict.get?_erase] at hq
      split at hq
      · cases hq
      · exact hexpired id q hq
    cases hcases with
    | unchanged _ refused _ _ =>
      obtain ⟨h1, h2, h3⟩ := refused r rfl
      rcases hr with hr | hr | hr
      · exact absurd hr h1
      · exact absurd hr h2
      · exact absurd hr h3
    | dropped => rcases hr with hr | hr | hr <;> cases hr
    | enqueued hjobs hseq => exact hset _ hjobs hexpired hseq
    | replaced q _ _ hjobs hseq => exact hset _ hjobs (herased _) hseq
    | evicted q _ _ _ hjobs hseq => exact hset _ hjobs (herased _) hseq
  obtain ⟨hget, hseq, hold⟩ := hnew
  rw [hseq]
  refine ⟨hget, hseq.ge, fun id q hq heq => ?_⟩
  have heq : q.sequence = s.sequence + 1 := heq
  by_cases hid : id = job.id
  · rw [hid, hget] at hq
    exact (Option.some.inj hq).symm
  · have := hold id q hq hid
    omega

/-- Pending jobs have old sequence numbers. -/
theorem sequence_le_run {s : RestScheduler κ} (hk : s.Kept []) (ho : s.Ordered)
    (h : ∀ id q, s.jobs.get? id = some q → q.sequence ≤ s.sequence) (ops : List (Op κ)) :
    ∀ id q, (s.run ops).jobs.get? id = some q → q.sequence ≤ (s.run ops).sequence := by
  induction ops generalizing s with
  | nil => exact h
  | cons op ops ih =>
    have hext := extends_exec hk ho op
    refine ih (hk.exec op) (ho.exec hk op) fun id q hq => ?_
    rcases hext.jobs id q hq with hold | ⟨-, hle⟩
    · exact (h id q hold).trans hext.sequence
    · exact hle

/-- What becomes of a job `p` that is pending in `s`, in the run `ops`; `samples` are the clock
samples before that run. -/
structure Conserved (s : RestScheduler κ) (p : Pending κ) (samples : List Int)
    (ops : List (Op κ)) : Prop where
  pending : s.jobs.get? p.job.id = some p
  stays : s.fateOf p ops = none ↔ (s.run ops).jobs.get? p.job.id = some p
  dispatched : s.dispatches ops p.sequence = if s.fateOf p ops = some .dispatched then 1 else 0
  fate : ∀ f, s.fateOf p ops = some f → ∃ before op after, ops = before ++ op :: after ∧
    (s.run before).jobs.get? p.job.id = some p ∧ Justified (s.run before) op p f ∧
      (f = .expired → ∃ deadline ∈ p.job.deadlineNs, ∃ sample ∈
        samples ++ (before ++ [op]).filterMap Op.sample, (deadline : Int) < sample)

/-- In every run a job that is accepted is still pending afterwards, or it has left in exactly one
of four ways: it was dispatched, once; it was past its deadline; the full table evicted it, as a
replaceable job, for a job of a higher priority that is not replaceable; or a later job of its
logical key took its place. A submission that raises only removes jobs that are past their
deadline. -/
theorem run_conserves {budgets : BudgetRegistry} {clock maxPending maxHistory : Int}
    {s : RestScheduler κ} (h : new budgets clock maxPending maxHistory = .ok s)
    (before : List (Op κ)) (job : RestJob κ) (sample : Int) :
    (∀ result, ((s.run before).submitNowait job sample).1 = .ok result → Accepted result →
      ∀ after, Conserved ((s.run before).submitNowait job sample).2
        ⟨job, ((s.run before).submitNowait job sample).2.sequence⟩
        (clock :: before.filterMap Op.sample ++ [sample]) after) ∧
    (∀ e, ((s.run before).submitNowait job sample).1 = .error e → ∀ id p,
      (((s.run before).submitNowait job sample).2.jobs.get? id = some p →
        (s.run before).jobs.get? id = some p) ∧
      ((s.run before).jobs.get? id = some p →
        ((s.run before).submitNowait job sample).2.jobs.get? id = some p ∨
          p.job.pastDeadline ((s.run before).submitNowait job sample).2.lastNowNs = true)) := by
  obtain ⟨hclock, hempty⟩ := lastNowNs_new h
  have hnone : ∀ id q, s.jobs.get? id = some q → q.sequence ≤ s.sequence := by
    intro id q hq
    rw [hempty] at hq
    cases hq
  have hk := (kept_new h).run before
  have ho := (ordered_new h).run (kept_new h) before
  have hle := sequence_le_run (kept_new h) (ordered_new h) hnone before
  constructor
  · intro result hr hacc after
    obtain ⟨hget, hnumbered⟩ := submit_accepted hk hle hr hacc
    have hk₁ := hk.submitNowait job sample
    have ho₁ := ho.submitNowait hk job sample
    obtain ⟨h1, h2, h3⟩ := run_fate hnumbered hk₁ ho₁ hget after
    refine ⟨hget, h1, h2, fun f hf => ?_⟩
    obtain ⟨mid, op, rest, hsplit, hpending, hjust⟩ := h3 f hf
    refine ⟨mid, op, rest, hsplit, hpending, hjust, ?_⟩
    rintro rfl
    -- the time of the expiry is one of the samples so far
    have hdead : job.pastDeadline (s.run (before ++ .submit job sample :: (mid ++ [op]))).lastNowNs
        = true := by
      have hrun : s.run (before ++ .submit job sample :: (mid ++ [op])) =
          op.exec (((s.run before).submitNowait job sample).2.run mid) := by
        rw [run_append]
        change ((Op.submit job sample).exec (s.run before)).run (mid ++ [op]) = _
        rw [run_append]
        rfl
      rw [hrun]
      exact hjust
    obtain ⟨deadline, hdeadline, hlt⟩ := (Option.any_eq_true _ _).mp hdead
    refine ⟨deadline, hdeadline,
      (s.run (before ++ .submit job sample :: (mid ++ [op]))).lastNowNs, ?_, ?_⟩
    swap
    · exact_mod_cast of_decide_eq_true hlt
    rcases lastNowNs_run s (before ++ .submit job sample :: (mid ++ [op])) with hnow |
      ⟨op', hop', hsample⟩
    · rw [hnow, hclock]
      simp
    · have hmem : ((s.run (before ++ .submit job sample :: (mid ++ [op]))).lastNowNs : Int) ∈
          (before ++ .submit job sample :: (mid ++ [op])).filterMap Op.sample :=
        List.mem_filterMap.mpr ⟨op', hop', hsample⟩
      rw [List.filterMap_append, List.filterMap_cons] at hmem
      simp only [Op.sample] at hmem
      simp only [List.mem_append, List.mem_cons] at hmem ⊢
      tauto
  · intro e he id p
    have hcases := submitNowait_cases hk job sample
    rw [he] at hcases
    generalize ((s.run before).submitNowait job sample).2 = s' at hcases ⊢
    cases hcases with
    | unchanged _ _ hjobs _ =>
      rw [hjobs]
      exact ⟨fun hp => hp, fun hp => .inl hp⟩
    | full _ hjobs _ =>
      rw [hjobs, get?_expireFirst_iff hk]
      refine ⟨And.left, fun hp => ?_⟩
      cases hdead : p.job.pastDeadline s'.lastNowNs with
      | true => exact .inr rfl
      | false => exact .inl ⟨hp, rfl⟩

end Run

/-- The first of two jobs of one logical key is superseded by the second. -/
theorem forTwo_conserves :
    let s := ((forTwo.run [.addBudget referenceKey (.int 10) (.int 1) 8]).submitNowait
      (referenceJob "a" 1) 9).2
    s.fateOf ⟨referenceJob "a" 1, s.sequence⟩ [.submit (referenceJob "b" 2) 10] =
        some .superseded ∧
      Conserved s ⟨referenceJob "a" 1, s.sequence⟩ [7, 9]
        [.submit (referenceJob "b" 2) 10] := by
  have h : new {} 7 2 5 = .ok forTwo := rfl
  have hr : ((forTwo.run [.addBudget referenceKey (.int 10) (.int 1) 8]).submitNowait
      (referenceJob "a" 1) 9).1 = .ok .enqueued := by decide +kernel
  refine ⟨by decide +kernel, ?_⟩
  exact (run_conserves h [.addBudget referenceKey (.int 10) (.int 1) 8] (referenceJob "a" 1)
    9).1 .enqueued hr (.inl rfl) [.submit (referenceJob "b" 2) 10]

end CryptoCollector.Scheduler.RestScheduler
