import CryptoCollector.Network.RateLimit
import Mathlib.Data.List.Sort

/-!
# The REST scheduler

`scheduler/models.py: RestJob` and `scheduler/rest.py: RestScheduler`. Jobs wait in two heaps:
`future` by the time at which they become ready, `ready` by priority. A heap of `heapq` is the
sorted list of its entries here; what `heappop` returns and what `heap[0]` is does not depend on
anything else.
-/

namespace CryptoCollector.Scheduler

open Lib Network

/-- `RestPriority`. -/
inductive RestPriority where
  | liveBootstrap
  | catalogStatusTime
  | coreDerivative
  | deepSnapshot
  | referenceData
  deriving DecidableEq

/-- `int(priority)`. -/
def RestPriority.value : RestPriority → Nat
  | .liveBootstrap => 0
  | .catalogStatusTime => 1
  | .coreDerivative => 2
  | .deepSnapshot => 3
  | .referenceData => 4

/-- `RestBudgetRoute`. -/
structure RestBudgetRoute where
  egressId : String
  budgetKey : BudgetKey
  deriving DecidableEq

/-- `RestIntervalContext`. -/
structure RestIntervalContext where
  requestedIntervalNs : Nat
  effectiveIntervalNs : Nat
  changeEventId : Option String
  deriving DecidableEq

/-- `envelope.py: SourceContext`. -/
structure SourceContext where
  connectionId : Option String
  connectionGeneration : Option Nat
  egressId : Option String
  deriving DecidableEq

/-- `RestJob`, with the checks of `__post_init__` that later code relies on. `κ` is the type of
the control context, which the scheduler only compares. -/
structure RestJob (κ : Type) where
  id : String
  priority : RestPriority
  routes : List RestBudgetRoute
  endpointCost : ℚ
  readyMonotonicNs : Nat
  deadlineNs : Option Nat
  interval : Option RestIntervalContext := none
  generationSource : Option SourceContext := none
  attempt : Nat := 1
  logicalKey : Option (List String)
  replaceable : Bool
  scheduledNs : Nat
  controlContext : κ
  routes_ne : routes ≠ []
  cost_pos : 0 < endpointCost
  source_egress : ∀ source ∈ generationSource, ∃ r ∈ routes, some r.egressId = source.egressId
  replaceable_key : replaceable = true → logicalKey.isSome = true

namespace RestJob

variable {κ : Type}

/-- `RestJob.__eq__`. -/
def same [BEq κ] (a b : RestJob κ) : Bool :=
  a.id = b.id && a.priority = b.priority && a.routes = b.routes &&
    a.endpointCost = b.endpointCost && a.readyMonotonicNs = b.readyMonotonicNs &&
    a.deadlineNs = b.deadlineNs && a.interval = b.interval &&
    a.generationSource = b.generationSource && a.attempt = b.attempt &&
    a.logicalKey = b.logicalKey && a.replaceable = b.replaceable &&
    a.scheduledNs = b.scheduledNs && a.controlContext == b.controlContext

/-- The distinct budget keys of a list of routes, in their order. -/
def keysOf (routes : List RestBudgetRoute) : List BudgetKey :=
  (routes.map (·.budgetKey)).reverse.dedup.reverse

/-- `budget_keys`. -/
def budgetKeys (job : RestJob κ) : List BudgetKey := keysOf job.routes

/-- `_eligible_routes`. -/
def eligibleRoutes (job : RestJob κ) : List RestBudgetRoute :=
  match job.generationSource with
  | none => job.routes
  | some source => job.routes.filter fun r => some r.egressId = source.egressId

/-- A time is past the deadline of the job. -/
def pastDeadline (job : RestJob κ) (now : Nat) : Bool := job.deadlineNs.any (· < now)

end RestJob

/-- An entry of a heap: the time or the priority it is sorted by, the sequence number of its job
and the job's id. -/
structure HeapEntry where
  rank : Nat
  sequence : Nat
  id : String
  deriving DecidableEq

namespace HeapEntry

/-- The order of tuples. -/
def le (a b : HeapEntry) : Prop :=
  a.rank < b.rank ∨ a.rank = b.rank ∧
    (a.sequence < b.sequence ∨ a.sequence = b.sequence ∧ a.id ≤ b.id)

instance : DecidableRel HeapEntry.le := fun _ _ => inferInstanceAs (Decidable (_ ∨ _))

/-- `heapq.heappush`. -/
def push (e : HeapEntry) (heap : List HeapEntry) : List HeapEntry := heap.orderedInsert le e

end HeapEntry

/-- `_Pending`. -/
structure Pending (κ : Type) where
  job : RestJob κ
  sequence : Nat

/-- `RestDispatch`. -/
structure RestDispatch (κ : Type) where
  job : RestJob κ
  route : RestBudgetRoute
  dispatchedMonotonicNs : Nat

/-- `SubmitResult`. -/
inductive SubmitResult where
  | enqueued
  | replaced
  | staleIgnored
  | idempotent
  | evictedAndEnqueued
  | expired
  deriving DecidableEq

/-- The exceptions of the scheduler. -/
inductive SchedulerError where
  | closed
  | valueError (message : String)
  | capacity (message : String)
  | keyError
  | stopIteration
  | budget (e : BudgetError)
  deriving DecidableEq

/-- `RestScheduler`. -/
structure RestScheduler (κ : Type) where
  budgets : BudgetRegistry
  maxPending : Nat
  maxHistory : Nat
  lastNowNs : Nat
  sequence : Nat := 0
  jobs : Dict String (Pending κ) := Dict.empty
  logicalIndex : Dict (List String) String := Dict.empty
  future : List HeapEntry := []
  ready : List HeapEntry := []
  expired : List String := []
  evicted : List String := []
  nextBudgetReadyNs : Option Int := none
  revision : Nat := 0
  changed : Bool := false
  closed : Bool := false

/-- `deque.append` of a deque with a bounded length. -/
def appendBounded (limit : Nat) (history : List String) (x : String) : List String :=
  (history ++ [x]).drop (history.length + 1 - limit)

namespace RestScheduler

variable {κ : Type}

/-- `_bounded_collection_size`. -/
def boundedCollectionSize (value : Int) (field : String) : Except SchedulerError Nat :=
  if value ≤ 0 then .error (.valueError (field ++ " must be a positive integer"))
  else if 1000000 < value then .error (.valueError (field ++ " must not exceed 1000000"))
  else .ok value.toNat

/-- `_now_ns`: the clock does not go backwards for the scheduler. -/
def observeNow (clock : Int) (s : RestScheduler κ) : Except SchedulerError (RestScheduler κ) :=
  if clock < 0 then
    .error (.valueError "clock.monotonic_ns() must be a non-negative integer")
  else .ok { s with lastNowNs := max s.lastNowNs clock.toNat }

/-- `RestScheduler.__init__`. -/
def new (budgets : BudgetRegistry) (clock maxPending maxHistory : Int) :
    Except SchedulerError (RestScheduler κ) := do
  let maxPending ← boundedCollectionSize maxPending "max_pending"
  let maxHistory ← boundedCollectionSize maxHistory "max_history"
  observeNow clock { budgets, maxPending, maxHistory, lastNowNs := 0 }

/-- The revision changes and waiters wake up. -/
def bump (s : RestScheduler κ) : RestScheduler κ :=
  { s with revision := s.revision + 1, changed := true }

/-- `close`. -/
def close (s : RestScheduler κ) : RestScheduler κ :=
  if s.closed then s else { s with closed := true }.bump

/-- `notify_resources_changed`. -/
def notifyResourcesChanged (s : RestScheduler κ) : RestScheduler κ :=
  if s.closed then s else s.bump

/-! ## Removal -/

/-- The logical index without a job, if it points to that job. -/
def dropIndex (index : Dict (List String) String) (p : Pending κ) : Dict (List String) String :=
  match p.job.logicalKey with
  | none => index
  | some key => if index.get? key = some p.job.id then index.erase key else index

/-- `_remove_pending`; every caller has looked the job up. -/
def removePending (id : String) (s : RestScheduler κ) : RestScheduler κ :=
  match s.jobs.get? id with
  | none => s
  | some p => { s with
      jobs := s.jobs.erase id
      logicalIndex := dropIndex s.logicalIndex p
      future := s.future.filter (·.id ≠ id)
      ready := s.ready.filter (·.id ≠ id) }

/-- `_complete_pending`. -/
def completePending (p : Pending κ) (s : RestScheduler κ) : RestScheduler κ :=
  { s with
    jobs := s.jobs.erase p.job.id
    logicalIndex := dropIndex s.logicalIndex p }

/-- An id enters the history of expired jobs. -/
def noteExpired (id : String) (s : RestScheduler κ) : RestScheduler κ :=
  { s with expired := appendBounded s.maxHistory s.expired id }

/-- `_expire`. -/
def expire (p : Pending κ) (s : RestScheduler κ) : RestScheduler κ :=
  (s.removePending p.job.id).noteExpired p.job.id

/-- The jobs that are past their deadline, by their sequence numbers. -/
def overdue (s : RestScheduler κ) (now : Nat) : List (Pending κ) :=
  (s.jobs.values.filter (·.job.pastDeadline now)).insertionSort (·.sequence ≤ ·.sequence)

/-- `_expire_all`. -/
def expireAll (now : Nat) (s : RestScheduler κ) : RestScheduler κ :=
  let ids := (s.overdue now).map (·.job.id)
  { s with
    jobs := ids.foldl Dict.erase s.jobs
    logicalIndex := (s.overdue now).foldl dropIndex s.logicalIndex
    expired := ids.foldl (appendBounded s.maxHistory) s.expired
    future := s.future.filter (·.id ∉ ids)
    ready := s.ready.filter (·.id ∉ ids) }

/-! ## Submission -/

/-- The check of `submit_nowait` on the budgets of a job. -/
def checkBudgets (s : RestScheduler κ) (job : RestJob κ) : Option SchedulerError :=
  job.budgetKeys.findSome? fun k =>
    match s.budgets.bucket k with
    | .error e => some (.budget e)
    | .ok b =>
      if b.hardCapacity < job.endpointCost then
        some (.capacity "job endpoint cost exceeds a route budget hard capacity")
      else none

/-- What a new job does to the pending job with its logical key. -/
inductive Replacement where
  | stale
  | replaces (id : Option String)

/-- The comparison of `submit_nowait` with the pending job of the same logical key. -/
def replacement (s : RestScheduler κ) (job : RestJob κ) : Except SchedulerError Replacement :=
  if !job.replaceable then .ok (.replaces none)
  else
    match job.logicalKey with
    | none => .error (.valueError "replaceable jobs require a logical key")
    | some key =>
      match s.logicalIndex.get? key with
      | none => .ok (.replaces none)
      | some id =>
        match s.jobs.get? id with
        | none => .error .keyError
        | some replaced =>
          if job.scheduledNs < replaced.job.scheduledNs then .ok .stale
          else if job.scheduledNs = replaced.job.scheduledNs then
            .error (.valueError "conflicting jobs share one logical occurrence")
          else .ok (.replaces (some id))

/-- The candidate with the largest priority value and sequence number. -/
def laterCandidate (a b : Pending κ) : Pending κ :=
  if a.job.priority.value < b.job.priority.value ∨
      a.job.priority.value = b.job.priority.value ∧ a.sequence < b.sequence then b else a

/-- `_eviction_candidate`. -/
def evictionCandidate (s : RestScheduler κ) (incoming : RestJob κ) : Option String :=
  if incoming.replaceable then none
  else
    match s.jobs.values.filter fun p =>
        p.job.replaceable && incoming.priority.value < p.job.priority.value with
    | [] => none
    | p :: ps => some (ps.foldl laterCandidate p).job.id

/-- The end of `submit_nowait`: the job enters the table, the index and a heap. -/
def enqueue (job : RestJob κ) (now : Nat) (s : RestScheduler κ) : RestScheduler κ :=
  let sequence := s.sequence + 1
  let s := { s with
    sequence
    jobs := s.jobs.set job.id ⟨job, sequence⟩
    logicalIndex :=
      match job.logicalKey with
      | none => s.logicalIndex
      | some key => if job.replaceable then s.logicalIndex.set key job.id else s.logicalIndex }
  (if job.readyMonotonicNs ≤ now then
    { s with ready := HeapEntry.push ⟨job.priority.value, sequence, job.id⟩ s.ready }
  else { s with future := HeapEntry.push ⟨job.readyMonotonicNs, sequence, job.id⟩ s.future }).bump

/-- `submit_nowait` of a job that is past its deadline: the job it would replace is dropped. -/
def submitExpired (job : RestJob κ) (replaced : Option String) (s : RestScheduler κ) :
    RestScheduler κ :=
  (match replaced with
    | none => s
    | some id => (s.removePending id).bump).noteExpired job.id

/-- `submit_nowait` makes room for a job that replaces none: the result, or an error when the
table is full of jobs that cannot be evicted. -/
def makeRoom (job : RestJob κ) (s : RestScheduler κ) :
    Except SchedulerError (SubmitResult × RestScheduler κ) :=
  if s.jobs.entries.length < s.maxPending then .ok (.enqueued, s)
  else
    match s.evictionCandidate job with
    | none => .error (.capacity "REST scheduler pending capacity is exhausted")
    | some id =>
      .ok (.evictedAndEnqueued,
        { s.removePending id with evicted := appendBounded s.maxHistory s.evicted id })

/-- `submit_nowait` of a job that is not past its deadline, after `_expire_all`. -/
def submitLive (job : RestJob κ) (replaced : Option String) (now : Nat) (s : RestScheduler κ) :
    Except SchedulerError SubmitResult × RestScheduler κ :=
  match replaced.filter s.jobs.contains with
  | some id => (.ok .replaced, (s.removePending id).enqueue job now)
  | none =>
    match s.makeRoom job with
    | .error e => (.error e, s)
    | .ok (result, s) => (.ok result, s.enqueue job now)

/-- The expiry of `submit_nowait`. -/
def expireFirst (now : Nat) (s : RestScheduler κ) : RestScheduler κ :=
  if (s.overdue now).isEmpty then s else (s.expireAll now).bump

/-- `submit_nowait` once the clock is read. -/
def submitAt (job : RestJob κ) (replaced : Option String) (s : RestScheduler κ) :
    Except SchedulerError SubmitResult × RestScheduler κ :=
  if job.pastDeadline s.lastNowNs then (.ok .expired, s.submitExpired job replaced)
  else (s.expireFirst s.lastNowNs).submitLive job replaced s.lastNowNs

/-- `submit_nowait`. -/
def submitNowait [BEq κ] (job : RestJob κ) (clock : Int) (s : RestScheduler κ) :
    Except SchedulerError SubmitResult × RestScheduler κ :=
  if s.closed then (.error .closed, s)
  else
    match s.jobs.get? job.id with
    | some pending =>
      if pending.job.same job then (.ok .idempotent, s)
      else (.error (.valueError "job id is already pending"), s)
    | none =>
      match s.checkBudgets job with
      | some e => (.error e, s)
      | none =>
        match s.replacement job with
        | .error e => (.error e, s)
        | .ok .stale => (.ok .staleIgnored, s)
        | .ok (.replaces replaced) =>
          match s.observeNow clock with
          | .error e => (.error e, s)
          | .ok s => s.submitAt job replaced

/-! ## Dispatch -/

/-- The loop of `_promote_ready`; every round takes one entry from `future`. -/
def promote (now : Nat) : Nat → RestScheduler κ → RestScheduler κ
  | 0, s => s
  | n + 1, s =>
    match s.future with
    | [] => s
    | e :: future =>
      if now < e.rank then s
      else
        let s := { s with future }
        match s.jobs.get? e.id with
        | none => promote now n s
        | some p =>
          if p.sequence ≠ e.sequence then promote now n s
          else if p.job.pastDeadline now then promote now n (s.expire p)
          else promote now n { s with
            ready := HeapEntry.push ⟨p.job.priority.value, e.sequence, e.id⟩ s.ready }

/-- `_promote_ready`. -/
def promoteReady (now : Nat) (s : RestScheduler κ) : RestScheduler κ :=
  s.promote now s.future.length

/-- The local variables of `_next_ready`, with the scheduler. -/
structure Selection (κ : Type) where
  scheduler : RestScheduler κ
  blocked : List HeapEntry := []
  blockedBudgets : List BudgetKey := []
  nextBudgetReadyNs : Option Int := none

/-- The earliest time at which one of the budgets can pay a cost. -/
def earliestReady (cost : ℚ) (now : Nat) :
    List BudgetKey → Option Int → BudgetRegistry →
      Except BudgetError (Option Int) × BudgetRegistry
  | [], earliest, r => (.ok earliest, r)
  | k :: keys, earliest, r =>
    match r.readyAtNs k (.finite cost) now with
    | (.error e, r) => (.error e, r)
    | (.ok none, r) => earliestReady cost now keys earliest r
    | (.ok (some ready), r) =>
      earliestReady cost now keys (some (earliest.elim ready (min · ready))) r

/-- A scheduler with other budgets. -/
def withBudgets (budgets : BudgetRegistry) (s : RestScheduler κ) : RestScheduler κ :=
  { s with budgets }

/-- The loop of `_next_ready`; every round takes one entry from `ready`. An entry that is taken
or blocked is in no heap when a round raises. -/
def select (now : Nat) :
    Nat → Selection κ → Except SchedulerError (Option (RestDispatch κ)) × Selection κ
  | 0, t => (.ok none, t)
  | n + 1, t =>
    match t.scheduler.ready with
    | [] => (.ok none, t)
    | e :: ready =>
      let s := { t.scheduler with ready }
      match s.jobs.get? e.id with
      | none => select now n { t with scheduler := s }
      | some p =>
        if p.sequence ≠ e.sequence then select now n { t with scheduler := s }
        else if p.job.pastDeadline now then select now n { t with scheduler := s.expire p }
        else
          let available :=
            (RestJob.keysOf p.job.eligibleRoutes).filter (· ∉ t.blockedBudgets)
          if available.isEmpty then
            select now n { t with scheduler := s, blocked := t.blocked ++ [e] }
          else
            match s.budgets.tryAcquireOne available (.finite p.job.endpointCost) now with
            | (.error err, budgets) =>
              (.error (.budget err), { t with scheduler := s.withBudgets budgets })
            | (.ok none, budgets) =>
              match earliestReady p.job.endpointCost now available t.nextBudgetReadyNs budgets with
              | (.error err, budgets) =>
                (.error (.budget err), { t with scheduler := s.withBudgets budgets })
              | (.ok next, budgets) =>
                select now n
                  { scheduler := s.withBudgets budgets
                    blocked := t.blocked ++ [e]
                    blockedBudgets := t.blockedBudgets ++ available
                    nextBudgetReadyNs := next }
            | (.ok (some key), budgets) =>
              let t := { t with scheduler := (s.withBudgets budgets).completePending p }
              match p.job.eligibleRoutes.find? (·.budgetKey = key) with
              | none => (.error .stopIteration, t)
              | some route => (.ok (some ⟨p.job, route, now⟩), t)

/-- The end of `_next_ready`: the blocked entries go back to their heap. -/
def Selection.finish (t : Selection κ) : RestScheduler κ :=
  { t.scheduler with
    ready := t.blocked.foldl (fun heap e => HeapEntry.push e heap) t.scheduler.ready
    nextBudgetReadyNs := t.nextBudgetReadyNs }

/-- What `_next_ready` selects from: nothing is overdue, and what is ready is in `ready`. -/
def prepared (s : RestScheduler κ) : RestScheduler κ :=
  (s.expireAll s.lastNowNs).promoteReady s.lastNowNs

/-- `_next_ready` once the clock is read. -/
def nextReadyAt (s : RestScheduler κ) :
    Except SchedulerError (Option (RestDispatch κ)) × RestScheduler κ :=
  match select s.lastNowNs s.prepared.ready.length { scheduler := s.prepared } with
  | (.error e, t) => (.error e, t.scheduler)
  | (.ok dispatch, t) => (.ok dispatch, t.finish)

/-- `_next_ready`. -/
def nextReady (clock : Int) (s : RestScheduler κ) :
    Except SchedulerError (Option (RestDispatch κ)) × RestScheduler κ :=
  if s.closed then (.error .closed, s)
  else
    match s.observeNow clock with
    | .error e => (.error e, s)
    | .ok s => s.nextReadyAt

/-! ## Runs -/

/-- What happens to a scheduler and to the registry it shares: calls with the clock samples they
read, and changes of the budgets by their other users. -/
inductive Op (κ : Type) where
  | submit (job : RestJob κ) (clock : Int)
  | nextReady (clock : Int)
  | observeNow (clock : Int)
  | notifyResourcesChanged
  | close
  | addBudget (k : BudgetKey) (capacity refillPerSecond : DecimalInput) (clock : Int)
  | budget (k : BudgetKey) (op : TokenBucket.Op)

/-- What an operation leaves behind, also when it raises. -/
def Op.exec [BEq κ] (s : RestScheduler κ) : Op κ → RestScheduler κ
  | .submit job clock => (s.submitNowait job clock).2
  | .nextReady clock => (s.nextReady clock).2
  | .observeNow clock =>
    match s.observeNow clock with
    | .ok s => s
    | .error _ => s
  | .notifyResourcesChanged => s.notifyResourcesChanged
  | .close => s.close
  | .addBudget k capacity refillPerSecond clock =>
    match s.budgets.add k capacity refillPerSecond clock with
    | .ok budgets => s.withBudgets budgets
    | .error _ => s
  | .budget k op => s.withBudgets (s.budgets.onBucket k op)

/-- The scheduler after a run. -/
def run [BEq κ] (s : RestScheduler κ) (ops : List (Op κ)) : RestScheduler κ :=
  ops.foldl (fun s op => op.exec s) s

end RestScheduler

end CryptoCollector.Scheduler
