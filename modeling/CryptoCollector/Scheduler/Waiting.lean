import CryptoCollector.Network.Polling
import CryptoCollector.Scheduler.Priority

/-!
# The scheduler does not sleep past work

`scheduler/rest.py: RestScheduler._next_wait_deadline_ns`. A call of `_next_ready` that dispatches
nothing is followed by a wait until the earliest of three kinds of times: the one at which a budget
that was tried can pay, the one at which a job becomes ready, and those just after the deadlines.

* `Round`: what a round of the loop of `_next_ready` does.
* `Passes`: the loop passes over a list of entries, since no budget that it tries can pay.
* `run_never_oversleeps`: until the named time the next call passes over the same entries, however
  the budgets are spent by others at their present rates.
-/

namespace CryptoCollector.Network

open Lib

namespace TokenBucket

/-! ## Spent buckets -/

/-- A call that does not raise the rate and whose sample is not past a time. -/
def Op.Spends (time : Nat) (b : TokenBucket) (op : Op) : Prop :=
  (∀ now ∈ (op.exec b).sampled, now ≤ time) ∧
    (op.exec b).bucket.refillPerSecond ≤ b.refillPerSecond

/-- A bucket that holds no more than another one at a time. -/
structure NoRicher (time : Nat) (b b' : TokenBucket) : Prop where
  sound : b'.Sound
  hardCapacity : b'.hardCapacity = b.hardCapacity
  tokens : (b'.refillAt time).tokens ≤ (b.refillAt time).tokens

theorem NoRicher.trans {time : Nat} {b b' b'' : TokenBucket} (h : NoRicher time b b')
    (h' : NoRicher time b' b'') : NoRicher time b b'' where
  sound := h'.sound
  hardCapacity := h'.hardCapacity.trans h.hardCapacity
  tokens := h'.tokens.trans h.tokens

theorem tokens_lt_of_tryAcquire {b b' : TokenBucket} {cost : ℚ} {now : Nat}
    (h : b.tryAcquire (.finite cost) (some now) 0 = .ok (false, b')) :
    (b.refillAt now).tokens < cost := by
  cases hc : b.checkCost (.finite cost) with
  | error e =>
    rw [tryAcquire, hc] at h
    cases h
  | ok q =>
    obtain ⟨b'', hacq⟩ := tryAcquire_fst hc now 0
    rw [h] at hacq
    have hq : decide (q ≤ (b.refillAt now).tokens) = false :=
      (congrArg Prod.fst (Except.ok.inj hacq)).symm
    rw [checkCost_eq hc] at hq
    exact not_le.mp (of_decide_eq_false hq)

/-- An operation refills the bucket, takes tokens away and may set another rate. -/
theorem exists_exec_bucket (b : TokenBucket) (op : Op) : ∃ tokens rate,
    tokens ≤ (b.refillAt ((op.exec b).sampled.getD 0)).tokens ∧
      (op.exec b).bucket = { b.refillAt ((op.exec b).sampled.getD 0) with
        tokens, refillPerSecond := rate } := by
  have hraise : b.refillAt 0 = b := refillAt_of_le (Nat.zero_le _)
  have hsame : ∃ tokens rate, tokens ≤ (b.refillAt 0).tokens ∧
      b = { b.refillAt 0 with tokens, refillPerSecond := rate } := by
    rw [hraise]
    exact ⟨_, _, le_rfl, rfl⟩
  cases op with
  | tryAcquire cost nowNs clock =>
    simp only [Op.exec, tryAcquire]
    cases hc : b.checkCost cost with
    | error e => exact hsame
    | ok q =>
      cases hs : sampleNs clock nowNs with
      | error e => exact hsame
      | ok now =>
        simp only [bind, Except.bind, pure, Except.pure, Except.toOption, take]
        by_cases hlt : (b.refillAt now).tokens < q
        · rw [if_pos hlt]
          exact ⟨_, _, le_rfl, rfl⟩
        · rw [if_neg hlt]
          exact ⟨_, _, sub_le_self _ (checkCost_nonneg hc), rfl⟩
  | readyAtNs cost nowNs clock =>
    simp only [Op.exec, readyAtNs]
    cases hc : b.checkCost cost with
    | error e => exact hsame
    | ok q =>
      cases hs : sampleNs clock nowNs with
      | error e => exact hsame
      | ok now => exact ⟨_, _, le_rfl, rfl⟩
  | tokens clock =>
    simp only [Op.exec]
    cases hs : sampleNs clock none with
    | error e => exact hsame
    | ok now => exact ⟨_, _, le_rfl, rfl⟩
  | observeAvailable rawAvailable clock =>
    simp only [Op.exec, observeAvailable]
    cases hp : parseDecimalText rawAvailable with
    | none => exact hsame
    | some observed =>
      cases hs : sampleNs clock none with
      | error e => exact hsame
      | ok now => exact ⟨_, _, (min_le_left _ _).trans (min_le_left _ _), rfl⟩
  | shrink multiplier floor clock =>
    simp only [Op.exec, shrink]
    cases hc : b.checkMultiplier multiplier floor with
    | error e => exact hsame
    | ok mf =>
      cases hs : sampleNs clock none with
      | error e => exact hsame
      | ok now => exact ⟨_, _, le_rfl, rfl⟩
  | setRefillMultiplier multiplier floor clock =>
    simp only [Op.exec, setRefillMultiplier]
    cases hc : b.checkMultiplier multiplier floor with
    | error e => exact hsame
    | ok mf =>
      cases hs : sampleNs clock none with
      | error e => exact hsame
      | ok now => exact ⟨_, _, le_rfl, rfl⟩

theorem noRicher_exec {time : Nat} {b : TokenBucket} (h : b.Sound) {op : Op}
    (hop : op.Spends time b) : NoRicher time b (op.exec b).bucket := by
  have hm := moved_exec h op
  refine ⟨hm.sound, hm.hardCapacity, ?_⟩
  obtain ⟨hsampled, hrate⟩ := hop
  obtain ⟨tokens, rate, hle, hbucket⟩ := exists_exec_bucket b op
  have hnow : (op.exec b).sampled.getD 0 ≤ time := by
    cases hs : (op.exec b).sampled with
    | none => exact Nat.zero_le _
    | some now => exact hsampled now hs
  rw [hbucket] at hrate
  rw [← refillAt_trans h hnow, tokens_refillAt hm.sound, tokens_refillAt (h.refillAt _), hbucket]
  have hrate : rate ≤ (b.refillAt ((op.exec b).sampled.getD 0)).refillPerSecond := by
    rw [refillPerSecond_refillAt]
    exact hrate
  refine min_le_min le_rfl (add_le_add hle ?_)
  unfold replenished
  gcongr

end TokenBucket

namespace BudgetRegistry

/-! ## Registries of sound buckets -/

/-- Every bucket is within its limits. -/
def Sound (r : BudgetRegistry) : Prop := ∀ k b, r.buckets.get? k = some b → b.Sound

/-- The registries that calls build. -/
inductive Built : BudgetRegistry → Prop where
  | empty : Built {}
  | add {r r' : BudgetRegistry} {k : BudgetKey} {capacity refillPerSecond : DecimalInput}
      {clock : Int} (h : Built r) (hadd : r.add k capacity refillPerSecond clock = .ok r') : Built r'
  | onBucket {r : BudgetRegistry} (h : Built r) (k : BudgetKey) (op : TokenBucket.Op) :
      Built (r.onBucket k op)

theorem Sound.withBucket {r : BudgetRegistry} (h : r.Sound) (k : BudgetKey) {b : TokenBucket}
    (hb : b.Sound) : (r.withBucket k b).Sound := by
  intro a c hc
  by_cases ha : a = k
  · subst ha
    cases (Dict.get?_set_self _ _ _).symm.trans hc
    exact hb
  · exact h a c ((Dict.get?_set_ne _ _ ha).symm.trans hc)

theorem Sound.onBucket {r : BudgetRegistry} (h : r.Sound) (k : BudgetKey) (op : TokenBucket.Op) :
    (r.onBucket k op).Sound := by
  unfold BudgetRegistry.onBucket
  cases hb : r.bucket k with
  | error e => exact h
  | ok b =>
    exact h.withBucket k (TokenBucket.moved_exec (h k b (bucket_ok.mp hb).2) op).sound

theorem Sound.add {r r' : BudgetRegistry} (h : r.Sound) {k : BudgetKey}
    {capacity refillPerSecond : DecimalInput} {clock : Int}
    (hadd : r.add k capacity refillPerSecond clock = .ok r') : r'.Sound := by
  unfold BudgetRegistry.add at hadd
  obtain ⟨k', -, hadd⟩ := bind_eq_ok.1 hadd
  split at hadd
  · cases hadd
  · obtain ⟨b, hb, hadd⟩ := bind_eq_ok.1 hadd
    cases hadd
    exact h.withBucket k' (TokenBucket.sound_new hb).1

theorem Built.sound {r : BudgetRegistry} (h : r.Built) : r.Sound := by
  induction h with
  | empty => nofun
  | add _ hadd ih => exact ih.add hadd
  | onBucket _ k op ih => exact ih.onBucket k op

theorem Refilled.sound {now : Nat} {r r' : BudgetRegistry} (h : r.Refilled now r')
    (hr : r.Sound) : r'.Sound := by
  intro k b hb
  rcases h k with hk | hk
  · exact hr k b (hk.symm.trans hb)
  · obtain ⟨c, hc, rfl⟩ := Option.map_eq_some_iff.mp (hk.symm.trans hb)
    exact (hr k c hc).refillAt now

theorem Paid.sound {now : Nat} {k : BudgetKey} {cost : ℚ} {r r' : BudgetRegistry}
    (h : r.Paid now k cost r') (hcost : 0 ≤ cost) (hr : r.Sound) : r'.Sound := by
  obtain ⟨⟨b, hb, hle, hget⟩, hother⟩ := h
  intro a c hc
  by_cases ha : a = k
  · subst ha
    cases hget.symm.trans hc
    have hsound := (hr a b hb).refillAt now
    exact { hsound with
      tokens_nonneg := sub_nonneg.mpr hle
      tokens_le := (sub_le_self _ hcost).trans hsound.tokens_le }
  · rcases hother a ha with hk | hk
    · exact hr a c (hk.symm.trans hc)
    · obtain ⟨b', hb', rfl⟩ := Option.map_eq_some_iff.mp (hk.symm.trans hc)
      exact (hr a b' hb').refillAt now

/-- A registry whose buckets hold no more than those of another one at a time. -/
def NoRicher (time : Nat) (r r' : BudgetRegistry) : Prop :=
  ∀ k, Option.Rel (TokenBucket.NoRicher time) (r.buckets.get? k) (r'.buckets.get? k)

theorem NoRicher.refl (time : Nat) {r : BudgetRegistry} (h : r.Sound) : r.NoRicher time r := by
  intro k
  cases hb : r.buckets.get? k with
  | none => exact .none
  | some b => exact .some ⟨h k b hb, rfl, le_rfl⟩

theorem NoRicher.exists_before {time : Nat} {r r' : BudgetRegistry} (h : r.NoRicher time r')
    {k : BudgetKey} {b' : TokenBucket} (hb' : r'.buckets.get? k = some b') :
    ∃ b, r.buckets.get? k = some b ∧ b.NoRicher time b' := by
  have hk := h k
  rw [hb'] at hk
  generalize r.buckets.get? k = b at hk
  cases hk with
  | some hb => exact ⟨_, rfl, hb⟩

theorem NoRicher.exists_after {time : Nat} {r r' : BudgetRegistry} (h : r.NoRicher time r')
    {k : BudgetKey} {b : TokenBucket} (hb : r.buckets.get? k = some b) :
    ∃ b', r'.buckets.get? k = some b' ∧ b.NoRicher time b' := by
  have hk := h k
  rw [hb] at hk
  generalize r'.buckets.get? k = b' at hk
  cases hk with
  | some hb => exact ⟨_, rfl, hb⟩

theorem NoRicher.trans {time : Nat} {r r' r'' : BudgetRegistry} (h : r.NoRicher time r')
    (h' : r'.NoRicher time r'') : r.NoRicher time r'' := by
  intro k
  cases hb'' : r''.buckets.get? k with
  | some b'' =>
    obtain ⟨b', hb', hle'⟩ := h'.exists_before hb''
    obtain ⟨b, hb, hle⟩ := h.exists_before hb'
    rw [hb]
    exact .some (hle.trans hle')
  | none =>
    cases hb : r.buckets.get? k with
    | none => exact .none
    | some b =>
      obtain ⟨b', hb', -⟩ := h.exists_after hb
      obtain ⟨b'', hb, -⟩ := h'.exists_after hb'
      cases hb''.symm.trans hb

theorem NoRicher.sound {time : Nat} {r r' : BudgetRegistry} (h : r.NoRicher time r') :
    r'.Sound := by
  intro k b' hb'
  obtain ⟨b, -, hle⟩ := h.exists_before hb'
  exact hle.sound

theorem NoRicher.within {time : Nat} {r r' : BudgetRegistry} (h : r.NoRicher time r') :
    r.Within r' := by
  intro k b hb
  obtain ⟨b', hb', hle⟩ := h.exists_after hb
  exact ⟨b', hb', hle.hardCapacity⟩

theorem noRicher_withBucket {time : Nat} {r : BudgetRegistry} (h : r.Sound) {k : BudgetKey}
    {b b' : TokenBucket} (hb : r.buckets.get? k = some b) (hb' : b.NoRicher time b') :
    r.NoRicher time (r.withBucket k b') := by
  intro a
  by_cases ha : a = k
  · subst ha
    rw [hb]
    change Option.Rel _ _ ((r.buckets.set a b').get? a)
    rw [Dict.get?_set_self]
    exact .some hb'
  · change Option.Rel _ _ ((r.buckets.set k b').get? a)
    rw [Dict.get?_set_ne _ _ ha]
    exact NoRicher.refl time h a

/-- The registry after calls of other users. -/
def spend (r : BudgetRegistry) (calls : List (BudgetKey × TokenBucket.Op)) : BudgetRegistry :=
  calls.foldl (fun r call => r.onBucket call.1 call.2) r

/-- No call raises the rate of its bucket, and no sample is past a time. -/
def SpendsUntil (time : Nat) (r : BudgetRegistry) : List (BudgetKey × TokenBucket.Op) → Prop
  | [] => True
  | (k, op) :: calls =>
    (∀ b, r.bucket k = .ok b → op.Spends time b) ∧ SpendsUntil time (r.onBucket k op) calls

theorem noRicher_onBucket {time : Nat} {r : BudgetRegistry} (h : r.Sound) {k : BudgetKey}
    {op : TokenBucket.Op} (hop : ∀ b, r.bucket k = .ok b → op.Spends time b) :
    r.NoRicher time (r.onBucket k op) := by
  unfold onBucket
  cases hb : r.bucket k with
  | error e => exact NoRicher.refl time h
  | ok b =>
    have hget := (bucket_ok.mp hb).2
    exact noRicher_withBucket h hget (TokenBucket.noRicher_exec (h k b hget) (hop b hb))

theorem noRicher_spend {time : Nat} {r : BudgetRegistry} (h : r.Sound)
    {calls : List (BudgetKey × TokenBucket.Op)} (hcalls : r.SpendsUntil time calls) :
    r.NoRicher time (r.spend calls) := by
  induction calls generalizing r with
  | nil => exact NoRicher.refl time h
  | cons call calls ih =>
    obtain ⟨k, op⟩ := call
    have hfirst := noRicher_onBucket h hcalls.1
    exact hfirst.trans (ih hfirst.sound hcalls.2)

theorem noRicher_refilled {now time : Nat} (hle : now ≤ time) {r r' : BudgetRegistry}
    (h : r.Sound) (hr : r.Refilled now r') : r.NoRicher time r' := by
  intro k
  rcases hr k with hk | hk
  · rw [hk]
    exact NoRicher.refl time h k
  · rw [hk]
    cases hb : r.buckets.get? k with
    | none => exact .none
    | some b =>
      have hsound := h k b hb
      exact .some ⟨hsound.refillAt now, TokenBucket.hardCapacity_refillAt now b,
        (congrArg TokenBucket.tokens (TokenBucket.refillAt_trans hsound hle)).le⟩

/-! ## Refused acquisitions -/

/-- The bucket of a key holds less than a cost at a time. -/
def Short (time : Nat) (r : BudgetRegistry) (k : BudgetKey) (cost : ℚ) : Prop :=
  ∀ b, r.buckets.get? k = some b → (b.refillAt time).tokens < cost

theorem Short.mono {time : Nat} {r r' : BudgetRegistry} {k : BudgetKey} {cost : ℚ}
    (h : r.Short time k cost) (hr : r.NoRicher time r') : r'.Short time k cost := by
  intro b' hb'
  obtain ⟨b, hb, hle⟩ := hr.exists_before hb'
  exact hle.tokens.trans_lt (h b hb)

theorem readyAtNs_spec {cost : ℚ} {now : Nat} {k : BudgetKey} {r r' : BudgetRegistry}
    {ready : Option Int} (h : r.readyAtNs k (.finite cost) now = (.ok ready, r')) :
    ∃ b, r.buckets.get? k = some b ∧ ready = (b.refillAt now).waitUntil cost ∧
      r' = r.withBucket k (b.refillAt now) := by
  unfold readyAtNs at h
  cases hb : r.bucket k with
  | error e =>
    rw [hb] at h
    cases h
  | ok b =>
    rw [hb] at h
    dsimp only at h
    cases hc : b.checkCost (.finite cost) with
    | error e =>
      rw [TokenBucket.readyAtNs, hc] at h
      cases h
    | ok q =>
      rw [TokenBucket.readyAtNs, hc, TokenBucket.sampleNs_now, TokenBucket.checkCost_eq hc] at h
      cases h
      exact ⟨b, (bucket_ok.mp hb).2, rfl, rfl⟩

/-- An acquisition is refused when no bucket that it tries can pay. -/
theorem short_of_acquireFirst {cost : ℚ} {now : Nat} {keys seen : List BudgetKey}
    {r r' : BudgetRegistry} (h : acquireFirst (.finite cost) now keys seen r = (.ok none, r')) :
    ∀ k ∈ keys, k ∉ seen → r.Short now k cost := by
  induction keys generalizing seen r with
  | nil => nofun
  | cons a keys ih =>
    rw [acquireFirst] at h
    by_cases hseen : a ∈ seen
    · rw [if_pos hseen] at h
      intro k hk hout
      rcases List.mem_cons.mp hk with rfl | hk
      · exact absurd hseen hout
      · exact ih h k hk hout
    · rw [if_neg hseen] at h
      cases hb : r.bucket a with
      | error e =>
        rw [hb] at h
        cases h
      | ok b =>
        rw [hb] at h
        dsimp only at h
        cases hacq : b.tryAcquire (.finite cost) (some now) 0 with
        | error e =>
          rw [hacq] at h
          cases h
        | ok result =>
          obtain ⟨acquired, b'⟩ := result
          rw [hacq] at h
          cases acquired with
          | true => cases h
          | false =>
            have hget := (bucket_ok.mp hb).2
            intro k hk hout c hc
            by_cases hka : k = a
            · subst hka
              cases hget.symm.trans hc
              exact TokenBucket.tokens_lt_of_tryAcquire hacq
            · have hk := (List.mem_cons.mp hk).resolve_left hka
              refine ih h k hk ?_ c ((Dict.get?_set_ne _ _ hka).trans hc)
              exact fun hmem => (List.mem_cons.mp hmem).elim hka hout

theorem short_of_tryAcquireOne {cost : ℚ} {now : Nat} {keys : List BudgetKey}
    {r r' : BudgetRegistry} (h : r.tryAcquireOne keys (.finite cost) now = (.ok none, r')) :
    ∀ k ∈ keys, r.Short now k cost := by
  unfold tryAcquireOne at h
  split at h
  · cases h
  · exact fun k hk => short_of_acquireFirst h k hk (by simp)

end BudgetRegistry

end CryptoCollector.Network

namespace CryptoCollector.Scheduler

open Lib Network

variable {κ : Type}

/-- The budgets of a job that are not blocked. -/
def RestJob.openKeys (job : RestJob κ) (blocked : List BudgetKey) : List BudgetKey :=
  (keysOf job.eligibleRoutes).filter (· ∉ blocked)

namespace RestScheduler

/-- `_next_wait_deadline_ns`. -/
def nextWaitDeadlineNs (now : Nat) (s : RestScheduler κ) : Option Int :=
  ((s.nextBudgetReadyNs.map (max (now : Int))).toList ++
    (s.future.head?.map fun e => max (now : Int) e.rank).toList ++
    s.jobs.values.filterMap fun p => p.job.deadlineNs.map fun d => (d : Int) + 1).min?

/-! ## Rounds of the loop -/

/-- A round of the loop of `_next_ready` that goes on. -/
inductive Round (now : Nat) (t : Selection κ) : Selection κ → Prop where
  | stale {e : HeapEntry} {ready : List HeapEntry} (hready : t.scheduler.ready = e :: ready)
      (hstale : ∀ p, t.scheduler.jobs.get? e.id = some p → p.sequence ≠ e.sequence) :
      Round now t { t with scheduler := { t.scheduler with ready } }
  | expire {e : HeapEntry} {ready : List HeapEntry} {p : Pending κ}
      (hready : t.scheduler.ready = e :: ready) (hp : t.scheduler.jobs.get? e.id = some p)
      (hdead : p.job.pastDeadline now = true) :
      Round now t { t with scheduler := ({ t.scheduler with ready } : RestScheduler κ).expire p }
  | pass {e : HeapEntry} {ready : List HeapEntry} {p : Pending κ}
      (hready : t.scheduler.ready = e :: ready) (hp : t.scheduler.jobs.get? e.id = some p)
      (hopen : p.job.openKeys t.blockedBudgets = []) :
      Round now t { t with
        scheduler := { t.scheduler with ready }
        blocked := t.blocked ++ [e] }
  | block {e : HeapEntry} {ready : List HeapEntry} {p : Pending κ}
      {budgets budgets' : BudgetRegistry} {next : Option Int}
      (hready : t.scheduler.ready = e :: ready) (hp : t.scheduler.jobs.get? e.id = some p)
      (hacq : t.scheduler.budgets.tryAcquireOne (p.job.openKeys t.blockedBudgets)
        (.finite p.job.endpointCost) now = (.ok none, budgets))
      (hnext : earliestReady p.job.endpointCost now (p.job.openKeys t.blockedBudgets)
        t.nextBudgetReadyNs budgets = (.ok next, budgets')) :
      Round now t {
        scheduler := ({ t.scheduler with ready } : RestScheduler κ).withBudgets budgets'
        blocked := t.blocked ++ [e]
        blockedBudgets := t.blockedBudgets ++ p.job.openKeys t.blockedBudgets
        nextBudgetReadyNs := next }

/-- The loop ends with an empty heap, goes on after a round, or dispatches the first job. -/
theorem select_succ {now n : Nat} {t t' : Selection κ} {dispatch : Option (RestDispatch κ)}
    (h : RestScheduler.select now (n + 1) t = (.ok dispatch, t')) :
    (t.scheduler.ready = [] ∧ dispatch = none ∧ t' = t) ∨
      (∃ t₁, Round now t t₁ ∧ RestScheduler.select now n t₁ = (.ok dispatch, t')) ∨
      ∃ e ready p key budgets, t.scheduler.ready = e :: ready ∧
        t.scheduler.jobs.get? e.id = some p ∧
        t.scheduler.budgets.tryAcquireOne (p.job.openKeys t.blockedBudgets)
          (.finite p.job.endpointCost) now = (.ok (some key), budgets) ∧
        dispatch.isSome = true := by
  unfold RestScheduler.select at h
  split at h
  · next hready =>
    cases h
    exact .inl ⟨hready, rfl, rfl⟩
  · next e ready hready =>
    dsimp only at h
    split at h
    · next hp =>
      exact .inr (.inl ⟨_, .stale hready (by simp [hp]), h⟩)
    · next p hp =>
      split at h
      · next hseq =>
        refine .inr (.inl ⟨_, .stale hready fun q hq => ?_, h⟩)
        cases hp.symm.trans hq
        exact hseq
      split at h
      · next hdead => exact .inr (.inl ⟨_, .expire hready hp hdead, h⟩)
      split at h
      · next hopen => exact .inr (.inl ⟨_, .pass hready hp (List.isEmpty_iff.mp hopen), h⟩)
      split at h
      · cases h
      · next budgets hacq =>
        split at h
        · cases h
        · next next budgets' hnext =>
          exact .inr (.inl ⟨_, .block hready hp hacq hnext, h⟩)
      · next key budgets hacq =>
        split at h
        · cases h
        · cases h
          exact .inr (.inr ⟨e, ready, p, key, budgets, hready, hp, hacq, rfl⟩)

/-! ## Entries that are passed over -/

/-- The loop of `_next_ready` passes over entries, since no budget that it tries can pay. It starts
with some blocked budgets and ends with others. -/
def Passes (jobs : Dict String (Pending κ)) (poor : BudgetKey → ℚ → Prop) :
    List BudgetKey → List HeapEntry → List BudgetKey → Prop
  | blocked, [], blocked' => blocked = blocked'
  | blocked, e :: entries, blocked' =>
    ∃ p, jobs.get? e.id = some p ∧ p.sequence = e.sequence ∧
      (∀ k ∈ p.job.openKeys blocked, poor k p.job.endpointCost) ∧
      Passes jobs poor (blocked ++ p.job.openKeys blocked) entries blocked'

theorem Passes.mono {jobs : Dict String (Pending κ)} {poor poor' : BudgetKey → ℚ → Prop}
    (hpoor : ∀ k cost, poor k cost → poor' k cost) {entries : List HeapEntry}
    {blocked blocked' : List BudgetKey} (h : Passes jobs poor blocked entries blocked') :
    Passes jobs poor' blocked entries blocked' := by
  induction entries generalizing blocked with
  | nil => exact h
  | cons e entries ih =>
    obtain ⟨p, hp, hseq, hkeys, hrest⟩ := h
    exact ⟨p, hp, hseq, fun k hk => hpoor k _ (hkeys k hk), ih hrest⟩

theorem Passes.snoc {jobs : Dict String (Pending κ)} {poor : BudgetKey → ℚ → Prop}
    {entries : List HeapEntry} {blocked blocked' : List BudgetKey}
    (h : Passes jobs poor blocked entries blocked') {e : HeapEntry} {p : Pending κ}
    (hp : jobs.get? e.id = some p) (hseq : p.sequence = e.sequence)
    (hkeys : ∀ k ∈ p.job.openKeys blocked', poor k p.job.endpointCost) :
    Passes jobs poor blocked (entries ++ [e]) (blocked' ++ p.job.openKeys blocked') := by
  induction entries generalizing blocked with
  | nil =>
    cases h
    exact ⟨p, hp, hseq, hkeys, rfl⟩
  | cons a entries ih =>
    obtain ⟨q, hq, hqseq, hqkeys, hrest⟩ := h
    exact ⟨q, hq, hqseq, hqkeys, ih hrest⟩

/-- A round passes over the first entry. -/
theorem Passes.round {now : Nat} {t t' : Selection κ} (hsound : t.scheduler.budgets.Sound)
    (hlive : ∀ id p, t.scheduler.jobs.get? id = some p → p.job.pastDeadline now = false)
    {blocked : List BudgetKey} (hpasses : Passes t.scheduler.jobs (t.scheduler.budgets.Short now)
      t.blockedBudgets t.scheduler.ready blocked) (hround : Round now t t') :
    t'.scheduler.jobs = t.scheduler.jobs ∧ t'.scheduler.expired = t.scheduler.expired ∧
      t'.scheduler.budgets.Sound ∧ Passes t.scheduler.jobs (t'.scheduler.budgets.Short now)
        t'.blockedBudgets t'.scheduler.ready blocked := by
  cases hround with
  | stale hready hstale =>
    rw [hready] at hpasses
    obtain ⟨p, hp, hseq, -⟩ := hpasses
    exact absurd hseq (hstale p hp)
  | expire hready hp hdead =>
    rw [hlive _ _ hp] at hdead
    cases hdead
  | pass hready hp hopen =>
    rw [hready] at hpasses
    obtain ⟨q, hq, -, -, hrest⟩ := hpasses
    cases hp.symm.trans hq
    rw [hopen, List.append_nil] at hrest
    exact ⟨rfl, rfl, hsound, hrest⟩
  | block hready hp hacq hnext =>
    rw [hready] at hpasses
    obtain ⟨q, hq, -, -, hrest⟩ := hpasses
    cases hp.symm.trans hq
    have hrefilled := ((BudgetRegistry.tryAcquireOne_spec hacq).1 rfl).trans
      (earliestReady_refilled hnext)
    have hricher := BudgetRegistry.noRicher_refilled le_rfl hsound hrefilled
    exact ⟨rfl, rfl, hricher.sound, hrest.mono fun k cost hk => hk.mono hricher⟩

/-- The loop dispatches nothing and expires nothing when it passes over every entry. -/
theorem select_of_passes {now n : Nat} {t t' : Selection κ} {dispatch : Option (RestDispatch κ)}
    (hsound : t.scheduler.budgets.Sound)
    (hlive : ∀ id p, t.scheduler.jobs.get? id = some p → p.job.pastDeadline now = false)
    {blocked : List BudgetKey} (hpasses : Passes t.scheduler.jobs (t.scheduler.budgets.Short now)
      t.blockedBudgets t.scheduler.ready blocked)
    (h : RestScheduler.select now n t = (.ok dispatch, t')) :
    dispatch = none ∧ t'.scheduler.jobs = t.scheduler.jobs ∧
      t'.scheduler.expired = t.scheduler.expired := by
  induction n generalizing t with
  | zero =>
    cases h
    exact ⟨rfl, rfl, rfl⟩
  | succ n ih =>
    rcases select_succ h with ⟨-, rfl, rfl⟩ | ⟨t₁, hround, h⟩ |
      ⟨e, ready, p, key, budgets, hready, hp, hacq, -⟩
    · exact ⟨rfl, rfl, rfl⟩
    · obtain ⟨hjobs, hexpired, hsound₁, hpasses₁⟩ := hpasses.round hsound hlive hround
      rw [← hjobs] at hlive hpasses₁ ⊢
      rw [← hexpired]
      exact ih hsound₁ hlive hpasses₁ h
    · rw [hready] at hpasses
      obtain ⟨q, hq, -, hkeys, -⟩ := hpasses
      cases hp.symm.trans hq
      obtain ⟨hmem, ⟨b, hb, hle, -⟩, -⟩ := (BudgetRegistry.tryAcquireOne_spec hacq).2 key rfl
      exact absurd (hkeys key hmem b hb) (not_lt.mpr hle)

/-! ## The named time -/

/-- A bucket that was refilled at a time holds less than a cost, and it names no time before
`next`. -/
def Poor (now : Nat) (next : Option Int) (r : BudgetRegistry) (k : BudgetKey) (cost : ℚ) : Prop :=
  ∀ b, r.buckets.get? k = some b → now ≤ b.lastRefillNs ∧ b.tokens < cost ∧
    ∀ ready ∈ b.waitUntil cost, ∃ time ∈ next, time ≤ ready

theorem Poor.mono {now : Nat} {next next' : Option Int} {r r' : BudgetRegistry} {k : BudgetKey}
    {cost : ℚ} (h : Poor now next r k cost) (hr : r.Refilled now r')
    (hnext : ∀ time ∈ next, ∃ time' ∈ next', time' ≤ time) : Poor now next' r' k cost := by
  intro b' hb'
  have hsame : r.buckets.get? k = some b' := by
    rcases hr k with hk | hk
    · exact hk.symm.trans hb'
    · obtain ⟨b, hb, rfl⟩ := Option.map_eq_some_iff.mp (hk.symm.trans hb')
      rw [TokenBucket.refillAt_of_le (h b hb).1, hb]
  obtain ⟨hnow, hlt, hwait⟩ := h b' hsame
  refine ⟨hnow, hlt, fun ready hready => ?_⟩
  obtain ⟨time, htime, hle⟩ := hwait ready hready
  obtain ⟨time', htime', hle'⟩ := hnext time htime
  exact ⟨time', htime', hle'.trans hle⟩

/-- A poor bucket cannot pay before the named time. -/
theorem Poor.short {now later : Nat} {next : Option Int} {r : BudgetRegistry} {k : BudgetKey}
    {cost : ℚ} (h : Poor now next r k cost) (hr : r.Sound)
    (hlater : ∀ time ∈ next, (later : Int) < time) : r.Short later k cost := by
  intro b hb
  have hsound := hr k b hb
  obtain ⟨-, hlt, hwait⟩ := h b hb
  by_cases hcost : cost ≤ b.capacity
  · rcases hsound.refill_nonneg.eq_or_lt with hzero | hrate
    · rw [TokenBucket.tokens_refillAt hsound, TokenBucket.replenished, ← hzero, zero_mul, zero_div,
        add_zero]
      exact (min_le_right _ _).trans_lt hlt
    · obtain ⟨ready, hready, -, -, hspec⟩ := TokenBucket.waitUntil_spec hsound hrate hcost
      obtain ⟨time, htime, hle⟩ := hwait ready hready
      have hbefore := hlater time htime
      rw [← not_le, hspec later]
      rintro (hpay | hpast)
      · exact absurd hpay (not_le.mpr hlt)
      · omega
  · have hle := (hsound.refillAt later).tokens_le
    rw [TokenBucket.capacity_refillAt] at hle
    exact hle.trans_lt (not_le.mp hcost)

/-- The times that the buckets name are not before the earliest one. -/
theorem earliestReady_spec {cost : ℚ} {now : Nat} {keys : List BudgetKey}
    {earliest next : Option Int} {r r' : BudgetRegistry}
    (h : earliestReady cost now keys earliest r = (.ok next, r')) :
    (∀ time ∈ earliest, ∃ time' ∈ next, time' ≤ time) ∧
      ∀ k ∈ keys, ∀ b, r'.buckets.get? k = some b → now ≤ b.lastRefillNs ∧
        ∀ ready ∈ b.waitUntil cost, ∃ time ∈ next, time ≤ ready := by
  induction keys generalizing earliest r with
  | nil =>
    cases h
    exact ⟨fun time htime => ⟨time, htime, le_rfl⟩, by simp⟩
  | cons a keys ih =>
    unfold earliestReady at h
    cases hready : r.readyAtNs a (.finite cost) now with
    | mk result r₁ =>
      rw [hready] at h
      cases result with
      | error e => cases h
      | ok ready =>
        obtain ⟨b, hb, rfl, rfl⟩ := BudgetRegistry.readyAtNs_spec hready
        obtain ⟨first, hfirst, hearliest, hnamed⟩ : ∃ first,
            earliestReady cost now keys first (r.withBucket a (b.refillAt now)) =
              (.ok next, r') ∧
            (∀ time ∈ earliest, ∃ time' ∈ first, time' ≤ time) ∧
            ∀ ready ∈ (b.refillAt now).waitUntil cost, ∃ time ∈ first, time ≤ ready := by
          cases hwait : (b.refillAt now).waitUntil cost with
          | none =>
            rw [hwait] at h
            exact ⟨earliest, h, fun time htime => ⟨time, htime, le_rfl⟩, by simp⟩
          | some ready =>
            rw [hwait] at h
            refine ⟨_, h, fun time htime => ⟨_, rfl, ?_⟩, fun ready' hready' => ⟨_, rfl, ?_⟩⟩
            · rw [Option.mem_def.mp htime]
              exact min_le_left _ _
            · cases hready'
              cases earliest with
              | none => exact le_rfl
              | some time => exact min_le_right _ _
        obtain ⟨hrest, hkeys⟩ := ih hfirst
        have hbefore : ∀ time ∈ first, ∃ time' ∈ next, time' ≤ time := hrest
        refine ⟨fun time htime => ?_, fun k hk c hc => ?_⟩
        · obtain ⟨time', htime', hle⟩ := hearliest time htime
          obtain ⟨time'', htime'', hle'⟩ := hrest time' htime'
          exact ⟨time'', htime'', hle'.trans hle⟩
        · rcases List.mem_cons.mp hk with rfl | hk
          · -- the bucket that was asked is not refilled again
            have hset : (r.withBucket k (b.refillAt now)).buckets.get? k =
                some (b.refillAt now) := Dict.get?_set_self _ _ _
            obtain rfl : c = b.refillAt now := by
              rcases earliestReady_refilled hfirst k with hk | hk
              · rw [hset, hc] at hk
                exact Option.some.inj hk
              · rw [hset, hc] at hk
                exact (Option.some.inj hk).trans (TokenBucket.refillAt_refillAt now b)
            refine ⟨?_, fun ready hready => ?_⟩
            · rw [TokenBucket.lastRefillNs_refillAt]
              exact le_max_right _ _
            · obtain ⟨time, htime, hle⟩ := hnamed ready hready
              obtain ⟨time', htime', hle'⟩ := hrest time htime
              exact ⟨time', htime', hle'.trans hle⟩
          · exact hkeys k hk c hc

/-- The budgets of a blocked job are poor. -/
theorem poor_of_block {cost : ℚ} {now : Nat} {keys : List BudgetKey} {earliest next : Option Int}
    {r r₁ r₂ : BudgetRegistry} (hr : r.Sound)
    (hacq : r.tryAcquireOne keys (.finite cost) now = (.ok none, r₁))
    (hnext : earliestReady cost now keys earliest r₁ = (.ok next, r₂)) :
    ∀ k ∈ keys, Poor now next r₂ k cost := by
  intro k hk b hb
  have hrefilled := ((BudgetRegistry.tryAcquireOne_spec hacq).1 rfl).trans
    (earliestReady_refilled hnext)
  obtain ⟨hnow, hwait⟩ := (earliestReady_spec hnext).2 k hk b hb
  have hshort := (BudgetRegistry.short_of_tryAcquireOne hacq k hk).mono
    (BudgetRegistry.noRicher_refilled le_rfl hr hrefilled) b hb
  rw [TokenBucket.refillAt_of_le hnow] at hshort
  exact ⟨hnow, hshort, hwait⟩

/-- The loop that started from `s` has passed over the blocked entries, and only the heap and the
budgets have changed. -/
structure Rests (now : Nat) (s : RestScheduler κ) (t : Selection κ) : Prop where
  same : t.scheduler = { s with ready := t.scheduler.ready, budgets := t.scheduler.budgets }
  sound : t.scheduler.budgets.Sound
  order : t.blocked ++ t.scheduler.ready = s.ready
  passes : Passes s.jobs (Poor now t.nextBudgetReadyNs t.scheduler.budgets) [] t.blocked
    t.blockedBudgets

theorem Rests.jobs {now : Nat} {s : RestScheduler κ} {t : Selection κ} (h : Rests now s t) :
    t.scheduler.jobs = s.jobs := by
  rw [h.same]

theorem Rests.round {now : Nat} {s : RestScheduler κ} {t t' : Selection κ} (h : Rests now s t)
    (hk : s.Kept []) (hlive : ∀ id p, s.jobs.get? id = some p → p.job.pastDeadline now = false)
    (hround : Round now t t') : Rests now s t' := by
  have hjob {e : HeapEntry} {ready : List HeapEntry} (hready : t.scheduler.ready = e :: ready) :
      ∃ p, s.jobs.get? e.id = some p ∧ p.sequence = e.sequence := by
    refine hk.job_of_mem (List.mem_append_right _ (List.mem_append_left _ ?_))
    rw [← h.order, hready]
    simp
  have horder {e : HeapEntry} {ready : List HeapEntry}
      (hready : t.scheduler.ready = e :: ready) : (t.blocked ++ [e]) ++ ready = s.ready := by
    rw [← h.order, hready, List.append_assoc, List.singleton_append]
  cases hround with
  | stale hready hstale =>
    obtain ⟨p, hp, hseq⟩ := hjob hready
    exact absurd hseq (hstale p (h.jobs ▸ hp))
  | expire hready hp hdead =>
    rw [hlive _ _ (h.jobs ▸ hp)] at hdead
    cases hdead
  | pass hready hp hopen =>
    obtain ⟨q, hq, hseq⟩ := hjob hready
    cases hq.symm.trans (h.jobs ▸ hp)
    refine ⟨?_, h.sound, horder hready, ?_⟩
    · rw [h.same]
    · have hsnoc := h.passes.snoc hq hseq (by simp [hopen])
      rwa [hopen, List.append_nil] at hsnoc
  | block hready hp hacq hnext =>
    obtain ⟨q, hq, hseq⟩ := hjob hready
    cases hq.symm.trans (h.jobs ▸ hp)
    have hrefilled := ((BudgetRegistry.tryAcquireOne_spec hacq).1 rfl).trans
      (earliestReady_refilled hnext)
    refine ⟨?_, hrefilled.sound h.sound, horder hready, ?_⟩
    · rw [h.same]
      rfl
    · refine Passes.snoc ?_ hq hseq (poor_of_block h.sound hacq hnext)
      exact h.passes.mono fun k cost hpoor => hpoor.mono hrefilled (earliestReady_spec hnext).1

theorem length_round {now : Nat} {t t' : Selection κ} (h : Round now t t') :
    t'.scheduler.ready.length < t.scheduler.ready.length := by
  cases h with
  | stale hready => simp [hready]
  | @expire e ready p hready hp hdead =>
    have hle := (ready_removePending ({ t.scheduler with ready } : RestScheduler κ)
      p.job.id).length_le
    rw [hready, List.length_cons]
    exact Nat.lt_succ_of_le hle
  | pass hready => simp [hready]
  | block hready => simp [hready, withBudgets]

/-- A loop that dispatches nothing has passed over every entry. -/
theorem Rests.select {now n : Nat} {s : RestScheduler κ} {t t' : Selection κ} (h : Rests now s t)
    (hk : s.Kept []) (hlive : ∀ id p, s.jobs.get? id = some p → p.job.pastDeadline now = false)
    (hn : t.scheduler.ready.length ≤ n)
    (hsel : RestScheduler.select now n t = (.ok none, t')) :
    Rests now s t' ∧ t'.scheduler.ready = [] := by
  induction n generalizing t with
  | zero =>
    cases hsel
    exact ⟨h, List.eq_nil_of_length_eq_zero (Nat.le_zero.mp hn)⟩
  | succ n ih =>
    rcases select_succ hsel with ⟨hnil, -, rfl⟩ | ⟨t₁, hround, hsel⟩ |
      ⟨e, ready, p, key, budgets, -, -, -, hsome⟩
    · exact ⟨h, hnil⟩
    · refine ih (h.round hk hlive hround) ?_ hsel
      have := length_round hround
      omega
    · cases hsome

/-! ## The budgets of a run -/

theorem budgets_submitLive (s : RestScheduler κ) (job : RestJob κ) (replaced : Option String)
    (now : Nat) : (s.submitLive job replaced now).2.budgets = s.budgets := by
  have henqueue (s : RestScheduler κ) : (s.enqueue job now).budgets = s.budgets := by
    unfold RestScheduler.enqueue
    dsimp only
    split <;> rfl
  unfold RestScheduler.submitLive
  split
  · rw [henqueue, (shrinks_removePending s _).budgets]
  · split
    · rfl
    · next result s' hroom =>
      rw [henqueue]
      unfold RestScheduler.makeRoom at hroom
      split at hroom
      · cases hroom
        rfl
      split at hroom
      · cases hroom
      · cases hroom
        exact (shrinks_removePending s _).budgets

theorem budgets_submitNowait [BEq κ] (s : RestScheduler κ) (job : RestJob κ) (clock : Int) :
    (s.submitNowait job clock).2.budgets = s.budgets := by
  unfold RestScheduler.submitNowait
  split
  · rfl
  split
  · split <;> rfl
  split
  · rfl
  split
  · rfl
  · rfl
  next replaced hreplaced =>
    unfold observeNow
    by_cases hclock : clock < 0
    · rw [if_pos hclock]
    · rw [if_neg hclock]
      dsimp only
      unfold submitAt
      split
      · unfold submitExpired
        split
        · rfl
        · exact (shrinks_removePending _ _).budgets
      · rw [budgets_submitLive, (shrinks_expireFirst _ _).budgets]

theorem sound_nextReadyAt {s : RestScheduler κ} (hk : s.Kept []) (ho : s.Ordered)
    (hs : s.budgets.Sound) : s.nextReadyAt.2.budgets.Sound := by
  obtain ⟨dispatch, hd, -⟩ := hk.nextReadyAt
  unfold RestScheduler.nextReadyAt at hd ⊢
  split
  · next hsel =>
    rw [hsel] at hd
    cases hd
  · next dispatch t hsel =>
    obtain ⟨hnone, hsome⟩ := (scans_prepared hk ho).select hsel
    change t.scheduler.budgets.Sound
    cases dispatch with
    | none => exact (hnone rfl).refilled.sound hs
    | some d =>
      obtain ⟨p, hfair, -⟩ := hsome d rfl
      exact hfair.paid.sound d.job.cost_pos.le hs

theorem sound_exec [BEq κ] {s : RestScheduler κ} (hk : s.Kept []) (ho : s.Ordered)
    (hs : s.budgets.Sound) (op : Op κ) : (op.exec s).budgets.Sound := by
  cases op with
  | submit job clock =>
    change (s.submitNowait job clock).2.budgets.Sound
    rw [budgets_submitNowait]
    exact hs
  | nextReady clock =>
    change (s.nextReady clock).2.budgets.Sound
    unfold RestScheduler.nextReady
    split
    · exact hs
    split
    · exact hs
    · next s' hs' =>
      obtain ⟨hk', hjobs, hbudgets, hready, hfuture, -⟩ := kept_observeNow hk hs'
      exact sound_nextReadyAt hk' (ho.congr hready hfuture hjobs) (hbudgets ▸ hs)
  | observeNow clock =>
    simp only [Op.exec]
    split
    · next s' hs' =>
      obtain ⟨-, -, hbudgets, -⟩ := kept_observeNow hk hs'
      exact hbudgets ▸ hs
    · exact hs
  | notifyResourcesChanged =>
    change s.notifyResourcesChanged.budgets.Sound
    unfold notifyResourcesChanged
    split <;> exact hs
  | close =>
    change s.close.budgets.Sound
    unfold close
    split <;> exact hs
  | addBudget k capacity refill clock =>
    simp only [Op.exec]
    split
    · next budgets hadd => exact hs.add hadd
    · exact hs
  | budget k op => exact hs.onBucket k op

theorem sound_run [BEq κ] {s : RestScheduler κ} (hk : s.Kept []) (ho : s.Ordered)
    (hs : s.budgets.Sound) (ops : List (Op κ)) : (s.run ops).budgets.Sound := by
  induction ops generalizing s with
  | nil => exact hs
  | cons op ops ih => exact ih (hk.exec op) (ho.exec hk op) (sound_exec hk ho hs op)

theorem budgets_new {budgets : BudgetRegistry} {clock maxPending maxHistory : Int}
    {s : RestScheduler κ} (h : new budgets clock maxPending maxHistory = .ok s) :
    s.budgets = budgets := by
  unfold new at h
  obtain ⟨pending, -, h⟩ := bind_eq_ok.1 h
  obtain ⟨history, -, h⟩ := bind_eq_ok.1 h
  unfold observeNow at h
  split at h
  · cases h
  · cases h
    rfl

/-! ## The wait -/

/-- The times that the scheduler waits for are after every time before the named one. -/
theorem lt_of_lt_deadline {s : RestScheduler κ} {now later : Nat} (hle : now ≤ later)
    (h : ∀ d ∈ s.nextWaitDeadlineNs now, (later : Int) < d) :
    (∀ time ∈ s.nextBudgetReadyNs, (later : Int) < time) ∧
      (∀ e ∈ s.future.head?, later < e.rank) ∧
      ∀ p ∈ s.jobs.values, p.job.pastDeadline later = false := by
  have hall : ∀ x ∈ ((s.nextBudgetReadyNs.map (max (now : Int))).toList ++
      (s.future.head?.map fun e => max (now : Int) e.rank).toList ++
      s.jobs.values.filterMap fun p => p.job.deadlineNs.map fun d => (d : Int) + 1),
      (later : Int) < x := by
    intro x hx
    obtain ⟨d, hd⟩ := Option.isSome_iff_exists.mp (List.isSome_min?_of_mem hx)
    exact (h d hd).trans_le ((List.min?_eq_some_iff.mp hd).2 x hx)
  refine ⟨fun time htime => ?_, fun e he => ?_, fun p hp => ?_⟩
  · have hlt := hall (max (now : Int) time) (by simp [Option.mem_def.mp htime])
    omega
  · have hlt := hall (max (now : Int) e.rank) (by simp [Option.mem_def.mp he])
    omega
  · unfold RestJob.pastDeadline
    cases hdeadline : p.job.deadlineNs with
    | none => rfl
    | some d =>
      have hlt := hall ((d : Int) + 1) (List.mem_append_right _
        (List.mem_filterMap.mpr ⟨p, hp, by simp [hdeadline]⟩))
      simp only [Option.any_some, decide_eq_false_iff_not]
      omega

/-- The blocked entries go back to the empty heap in their order. -/
theorem foldl_push_sorted {blocked : List HeapEntry} (h : blocked.Pairwise HeapEntry.le) :
    blocked.foldl (fun heap e => HeapEntry.push e heap) [] = blocked :=
  (perm_foldl_push blocked []).eq_of_pairwise
    (fun _ _ _ _ hle hle' => HeapEntry.eq_of_le_of_le hle hle')
    (HeapEntry.sorted_foldl_push blocked List.Pairwise.nil) h

/-- Nothing is overdue and nothing becomes ready. -/
theorem prepared_eq_self {s : RestScheduler κ}
    (hlive : ∀ p ∈ s.jobs.values, p.job.pastDeadline s.lastNowNs = false)
    (hlate : ∀ e ∈ s.future.head?, s.lastNowNs < e.rank) : s.prepared = s := by
  have hoverdue : s.overdue s.lastNowNs = [] := by
    unfold overdue
    rw [List.filter_eq_nil_iff.mpr fun p hp => by simp [hlive p hp]]
    rfl
  have hexpire : s.expireAll s.lastNowNs = s := by
    simp [expireAll, hoverdue]
  unfold prepared
  rw [hexpire, promoteReady]
  cases hfuture : s.future with
  | nil =>
    simp [promote]
  | cons e future =>
    have hlt := hlate e (by simp [hfuture])
    simp [promote, hfuture, hlt]

theorem promote_frame (s : RestScheduler κ) (now n : Nat) :
    (s.promote now n).closed = s.closed ∧ (s.promote now n).lastNowNs = s.lastNowNs := by
  have hremove (s : RestScheduler κ) (id : String) : (s.removePending id).closed = s.closed ∧
      (s.removePending id).lastNowNs = s.lastNowNs := by
    unfold RestScheduler.removePending
    split <;> exact ⟨rfl, rfl⟩
  induction n generalizing s with
  | zero => exact ⟨rfl, rfl⟩
  | succ n ih =>
    unfold RestScheduler.promote
    split
    · exact ⟨rfl, rfl⟩
    split
    · exact ⟨rfl, rfl⟩
    dsimp only
    split
    · exact ih _
    split
    · exact ih _
    split
    · obtain ⟨hclosed, hnow⟩ := ih (RestScheduler.expire _ _)
      exact ⟨hclosed.trans (hremove _ _).1, hnow.trans (hremove _ _).2⟩
    · exact ih _

/-- A call that dispatches nothing has passed over every entry. -/
theorem rests_nextReadyAt {s : RestScheduler κ} (hk : s.Kept []) (ho : s.Ordered)
    (hs : s.budgets.Sound) (hnone : s.nextReadyAt.1 = .ok none) :
    ∃ t, s.nextReadyAt.2 = t.finish ∧ Rests s.lastNowNs s.prepared t ∧
      t.scheduler.ready = [] := by
  have hscans := scans_prepared hk ho
  have hstart : Rests s.lastNowNs s.prepared { scheduler := s.prepared } :=
    ⟨rfl, hscans.refilled.sound hs, rfl, rfl⟩
  unfold RestScheduler.nextReadyAt at hnone ⊢
  split at hnone
  · cases hnone
  · next dispatch t hsel =>
    cases hnone
    obtain ⟨hrests, hready⟩ := hstart.select ((hk.expireAll _).promote _ _)
      (fun id p hp => (hscans.from_start id p hp).2) le_rfl hsel
    exact ⟨t, rfl, hrests, hready⟩

/-- The next call finds the scheduler as it was, at a time before the named one. -/
theorem nextReadyAt_rests {s s' : RestScheduler κ} {t : Selection κ} {now : Nat}
    (hk : s'.Kept []) (ho : s.Ordered) (hrests : Rests now s t) (hready : t.scheduler.ready = [])
    (hs' : s' = { t.finish with lastNowNs := s'.lastNowNs, budgets := s'.budgets })
    (hbudgets : t.scheduler.budgets.NoRicher s'.lastNowNs s'.budgets)
    (htimes : ∀ time ∈ s'.nextBudgetReadyNs, (s'.lastNowNs : Int) < time)
    (hlate : ∀ e ∈ s'.future.head?, s'.lastNowNs < e.rank)
    (hlive : ∀ p ∈ s'.jobs.values, p.job.pastDeadline s'.lastNowNs = false) :
    s'.nextReadyAt.1 = .ok none ∧ s'.nextReadyAt.2.jobs = s'.jobs ∧
      s'.nextReadyAt.2.expired = s'.expired := by
  have hjobs : s'.jobs = s.jobs := by
    rw [hs']
    exact hrests.jobs
  have hheap : s'.ready = t.blocked := by
    have hsorted := ho.ready
    rw [← hrests.order, hready, List.append_nil] at hsorted
    rw [← foldl_push_sorted hsorted, hs', ← hready]
    rfl
  have hpasses : Passes s'.jobs (s'.budgets.Short s'.lastNowNs) [] s'.ready t.blockedBudgets := by
    rw [hjobs, hheap]
    refine hrests.passes.mono fun k cost hpoor => ?_
    refine (hpoor.short hrests.sound ?_).mono hbudgets
    rw [hs'] at htimes
    exact htimes
  obtain ⟨dispatch, t', hsel, -⟩ := Kept.select (t := { scheduler := s' }) hk s'.lastNowNs
    s'.ready.length
  obtain ⟨rfl, hjobs', hexpired⟩ := select_of_passes (t := { scheduler := s' }) hbudgets.sound
    (fun id p hp => hlive p (List.mem_map.mpr ⟨(id, p), Dict.get?_eq_some.mp hp, rfl⟩))
    hpasses hsel
  unfold RestScheduler.nextReadyAt
  rw [prepared_eq_self hlive hlate, hsel]
  exact ⟨rfl, hjobs', hexpired⟩

theorem observeNow_natCast (s : RestScheduler κ) (now : Nat) :
    s.observeNow (now : Int) = .ok { s with lastNowNs := max s.lastNowNs now } := by
  unfold observeNow
  rw [if_neg (by omega), Int.toNat_natCast]

/-- A call that dispatches nothing, once the clock is read. -/
theorem rests_nextReady {s : RestScheduler κ} (hk : s.Kept []) (ho : s.Ordered)
    (hs : s.budgets.Sound) {sample : Int} (hnone : (s.nextReady sample).1 = .ok none) :
    ∃ (s₁ : RestScheduler κ) (t : Selection κ) (now : Nat), s₁.Ordered ∧ Rests now s₁ t ∧
      t.scheduler.ready = [] ∧ (s.nextReady sample).2 = t.finish ∧ t.finish.closed = false ∧
      t.finish.lastNowNs = max s.lastNowNs sample.toNat := by
  unfold RestScheduler.nextReady at hnone ⊢
  split at hnone
  · cases hnone
  next hopen =>
    rw [if_neg hopen]
    split at hnone
    · cases hnone
    · next s' hs' =>
      obtain ⟨hk', hjobs, hbudgets, hready, hfuture, hnow⟩ := kept_observeNow hk hs'
      have ho' := ho.congr hready hfuture hjobs
      obtain ⟨t, hfinish, hrests, hnil⟩ := rests_nextReadyAt hk' ho' (hbudgets ▸ hs) hnone
      have hframe := promote_frame (s'.expireAll s'.lastNowNs) s'.lastNowNs
        (s'.expireAll s'.lastNowNs).future.length
      have hclosed : s'.closed = s.closed := by
        unfold observeNow at hs'
        split at hs'
        · cases hs'
        · cases hs'
          rfl
      refine ⟨s'.prepared, t, s'.lastNowNs, ho'.prepared hk', hrests, hnil, hfinish, ?_, ?_⟩
      · change t.scheduler.closed = false
        rw [hrests.same]
        refine (hframe.1.trans hclosed).trans ?_
        simpa using hopen
      · change t.scheduler.lastNowNs = _
        rw [hrests.same]
        exact hframe.2.trans hnow

/-- The scheduler does not sleep past work: in every run, when a call of `_next_ready` dispatches
nothing, a later call before the named time dispatches nothing as well and expires no job, whoever
else has spent the budgets since then at rates that are not raised. The deadline may be taken at
the time of the call or later. -/
theorem run_never_oversleeps [BEq κ] {budgets : BudgetRegistry} (hbuilt : budgets.Built)
    {clock maxPending maxHistory : Int} {s : RestScheduler κ}
    (hnew : new budgets clock maxPending maxHistory = .ok s) (ops : List (Op κ)) (sample : Int)
    (hnone : ((s.run ops).nextReady sample).1 = .ok none) :
    let s' := ((s.run ops).nextReady sample).2
    s'.lastNowNs = max (s.run ops).lastNowNs sample.toNat ∧
      ∀ (now later : Nat) (calls : List (BudgetKey × TokenBucket.Op)),
        s'.lastNowNs ≤ now → now ≤ later →
        (∀ d ∈ s'.nextWaitDeadlineNs now, (later : Int) < d) →
        s'.budgets.SpendsUntil later calls →
        let next := (s'.withBudgets (s'.budgets.spend calls)).nextReady later
        next.1 = .ok none ∧ next.2.jobs = s'.jobs ∧ next.2.expired = s'.expired := by
  have hk := (kept_new hnew).run ops
  have ho := (ordered_new hnew).run (kept_new hnew) ops
  have hs := sound_run (kept_new hnew) (ordered_new hnew)
    (budgets_new hnew ▸ hbuilt.sound) ops
  generalize s.run ops = s at hk ho hs hnone
  intro s'
  have hk' : s'.Kept [] := hk.exec (.nextReady sample)
  have hs' : s'.budgets.Sound := sound_exec hk ho hs (.nextReady sample)
  obtain ⟨s₁, t, asked, ho₁, hrests, hready, hfinish, hopen, hnow⟩ :=
    rests_nextReady hk ho hs hnone
  change s' = t.finish at hfinish
  rw [← hfinish] at hopen hnow
  refine ⟨hnow, fun now later calls hle hlater hdeadline hcalls => ?_⟩
  obtain ⟨htimes, hlate, hlive⟩ := lt_of_lt_deadline hlater hdeadline
  have hricher := BudgetRegistry.noRicher_spend hs' hcalls
  -- the scheduler that the later call works on
  let s'' : RestScheduler κ := { s' with lastNowNs := later, budgets := s'.budgets.spend calls }
  have hnext : (s'.withBudgets (s'.budgets.spend calls)).nextReady later = s''.nextReadyAt := by
    have hmax : max s'.lastNowNs later = later := max_eq_right (hle.trans hlater)
    unfold RestScheduler.nextReady
    rw [observeNow_natCast]
    change (if s'.closed = true then _ else _) = _
    rw [hopen, if_neg Bool.false_ne_true]
    change RestScheduler.nextReadyAt { s' with
      lastNowNs := max s'.lastNowNs later
      budgets := s'.budgets.spend calls } = _
    rw [hmax]
  intro next
  have hcall : s''.nextReadyAt.1 = .ok none ∧ s''.nextReadyAt.2.jobs = s''.jobs ∧
      s''.nextReadyAt.2.expired = s''.expired := by
    refine nextReadyAt_rests ?_ ho₁ hrests hready ?_ ?_ htimes hlate hlive
    · exact hk'.congr rfl rfl rfl rfl rfl hricher.within
    · have hsame : s'' = { t.finish with
          lastNowNs := later
          budgets := s'.budgets.spend calls } := by
        rw [← hfinish]
      exact hsame
    · have hsame : t.scheduler.budgets = s'.budgets := by
        rw [hfinish]
        rfl
      rw [hsame]
      exact hricher
  change (RestScheduler.nextReady _ _).1 = _ ∧ (RestScheduler.nextReady _ _).2.jobs = _ ∧
    (RestScheduler.nextReady _ _).2.expired = _
  rw [hnext]
  exact hcall

/-- The reference budget is spent before a job for it is ready. -/
def spentOps : List (Op Unit) :=
  [.addBudget referenceKey (.int 10) (.int 1) 8,
    .budget referenceKey (.tryAcquire (.int 10) (some 9) 0), .submit (referenceJob "a" 1) 30]

/-- The scheduler names the second after the budget was spent, and it dispatches then. -/
theorem forTwo_never_oversleeps :
    let s' := ((forTwo.run spentOps).nextReady 40).2
    let calls := [(referenceKey, TokenBucket.Op.tokens 500)]
    s'.nextWaitDeadlineNs 41 = some 1000000009 ∧
      ((s'.withBudgets (s'.budgets.spend calls)).nextReady (1000000008 : Nat)).1 = .ok none ∧
      (s'.nextReady 1000000009).1.toOption.join.isSome = true := by
  intro s' calls
  have hnew : new {} 7 2 5 = .ok forTwo := rfl
  have hnone : ((forTwo.run spentOps).nextReady 40).1 = .ok none := by
    have hmap : ((forTwo.run spentOps).nextReady 40).1.toOption.map Option.isNone = some true := by
      decide +kernel
    obtain ⟨selected, hselected, hisNone⟩ := ok_of_map hmap
    rw [hselected, Option.isNone_iff_eq_none.mp hisNone]
  have hnamed : s'.nextWaitDeadlineNs 41 = some 1000000009 := by decide +kernel
  have hspends : s'.budgets.SpendsUntil 1000000008 calls := by
    refine ⟨fun b _ => ⟨fun now hnow => ?_, (TokenBucket.refillPerSecond_refillAt 500 b).le⟩,
      trivial⟩
    cases hnow
    norm_num
  have hsleeps := (run_never_oversleeps .empty hnew spentOps 40 hnone).2 41 1000000008 calls
    (by decide +kernel) (by norm_num) (by
      intro d hd
      rw [hnamed] at hd
      cases hd
      norm_num) hspends
  exact ⟨hnamed, hsleeps.1, by decide +kernel⟩

end RestScheduler

end CryptoCollector.Scheduler
