import CryptoCollector.Storage.Service.Metrics

/-!
# Accounting of the service

The functions of `RawWriterService` that do not suspend and that move records between the stages
of the ledger: registration, buffering, claims, completions and the terminal error. Each is a
procedure on the service, so a failing statement keeps what was done before it.
-/

namespace CryptoCollector.Storage

open Lib Proc

/-- `stats.py: OTHER_DURABILITY_METRIC_STREAM_LABEL`. -/
def otherStreamLabel : String := "_other"

/-- Whether a rolling snapshot breaches the objective. -/
def HistogramSnapshot.breaches (s : HistogramSnapshot) (durabilitySloNs : Nat) : Bool :=
  s.lagMaxNs.any (durabilitySloNs < ·) || s.lagP99Ns.any (durabilitySloNs < ·)

namespace Accounts

/-- Run a procedure of the ledger. -/
def onLedger (f : Proc Err (DurabilityLedger Identity)) : Proc Err Accounts := fun a =>
  ((f a.ledger).1, { a with ledger := (f a.ledger).2 })

/-- Run a procedure of the resident budget. -/
def onBudget (f : Proc Err ResidentBudget) : Proc Err Accounts := fun a =>
  ((f a.budget).1, { a with budget := (f a.budget).2 })

/-- The registration of an accepted record: ledger, charge and stage. -/
def register (r : Record) : Proc Err Accounts :=
  seq (onLedger (DurabilityLedger.registerAccepted r.identity r.acceptedMonotonicNs)) fun a =>
    match a.budget.charges.get? r.identity.acceptanceOrdinal with
    | none => (some (.keyError "unknown resident charge identity"), a)
    | some charge => (none, { a with
        recordChargeBytes := a.recordChargeBytes.set r.identity charge.chargeBytes
        recordStages := a.recordStages.set r.identity .queued })

/-- `_mark_buffered`, and the same for the in-flight stage. -/
def mark (stage : DurabilityStage) (id : Identity) : Proc Err Accounts :=
  seq (onLedger (DurabilityLedger.transition id stage)) (modify fun a =>
    { a with recordStages := a.recordStages.set id stage })

/-- The common part of `_account_durable` and `_account_uncertain` for one row: the record leaves
the ledger, the stages, the charges and the budget. -/
def settle (stage : DurabilityStage) (id : Identity) : Proc Err Accounts :=
  seq (onLedger (DurabilityLedger.transition id stage)) <|
  seq (modify fun a => { a with recordStages := a.recordStages.erase id }) <|
  seq (require (fun a => a.recordChargeBytes.contains id) (.keyError "unknown record")) <|
  seq (modify fun a => { a with recordChargeBytes := a.recordChargeBytes.erase id }) <|
  onBudget (ResidentBudget.release id.acceptanceOrdinal)

/-- The series that a record is counted in. -/
def seriesOfStream (allowlist : List String) (id : Identity) : Option Market × String :=
  (id.key.market,
    if id.key.logicalStream ∈ allowlist then id.key.logicalStream else otherStreamLabel)

/-- The histograms of `_account_durable` for one row. -/
def sample (allowlist : List String) (id : Identity) (lag completed : Nat) (a : Accounts) :
    Accounts :=
  let key := seriesOfStream allowlist id
  { a with
    histogram := a.histogram.add lag
    rollingHistogram := a.rollingHistogram.add lag completed
    series := a.series.set key (((a.series.get? key).getD {}).add lag) }

/-- The sync counters of `_account_durable`. -/
def countSync (duration : Nat) (a : Accounts) : Accounts :=
  { a with
    syncCount := a.syncCount + 1
    syncDurationTotalNs := a.syncDurationTotalNs + duration
    syncDurationMaxNs := max a.syncDurationMaxNs duration }

/-- The failure counters of `_account_uncertain`. -/
def countFailure (e : Err) (a : Accounts) : Accounts :=
  if e = .filePersistence .writeFailed then
    { a with writeFailureCount := a.writeFailureCount + 1 }
  else { a with syncFailureCount := a.syncFailureCount + 1 }

/-- The loop of `_enter_terminal_error` over the records that have a stage. -/
def markAllUncertain : Proc Err Accounts :=
  read fun a => forEach a.recordStages.keys fun id =>
    seq (onLedger (DurabilityLedger.transition id .uncertain)) (modify fun a =>
      { a with
        recordStages := a.recordStages.erase id
        recordChargeBytes := a.recordChargeBytes.erase id
        budget := (ResidentBudget.release id.acceptanceOrdinal a.budget).2 })

end Accounts

namespace Writer

/-- Run a procedure of the accounts. -/
def onAcct (f : Proc Err Accounts) : Proc Err Writer := fun w =>
  ((f w.acct).1, { w with acct := (f w.acct).2 })

/-- Run a procedure of the storage core. -/
def onCore (f : Proc Err Core) : Proc Err Writer := fun w =>
  ((f w.core).1, { w with core := (f w.core).2 })

/-- Run a procedure of the active part set. -/
def onParts (f : Proc Err ActivePartSet) : Proc Err Writer := onCore (Core.onParts f)

/-- Run a procedure of a part. -/
def onPart (g : GenerationId) (f : Proc Err Part) : Proc Err Writer :=
  onParts (ActivePartSet.onPart g f)

/-- `_owned_part_for_generation`. -/
def ownedPart (w : Writer) (g : GenerationId) : Option Part :=
  if w.core.parts.isActiveGeneration g ∨ g ∈ w.flow.retiring then w.core.parts.part? g else none

/-! ## Control associations -/

/-- `_fold_control_association`. -/
def foldControlAssociation (association : ControlAssociation) : Proc Err Writer :=
  forEach association.targets fun t => read fun w =>
    if (w.ownedPart t.generationId).map (·.path) = some t.path then
      onPart t.generationId (Part.foldDurableControl association)
    else fail (.valueError "associated control target is no longer owned")

/-- Whether a part holds the row of an identity that is not durable. -/
def holds (q : Part) (id : Identity) : Bool :=
  q.pending.any (·.identity = id) || (q.claimed.any fun c => c.rows.any (·.identity = id))

/-- `_control_part_for_identity`. -/
def controlPartForIdentity (p : Params) (w : Writer) (id : Identity) :
    Except Err GenerationId :=
  match (w.ownedParts p).filter (holds · id) with
  | [q] => .ok q.generationId
  | _ => .error (.valueError "associated control identity must belong to one owned generation")

/-- `_control_dependencies_for_close`. -/
def controlDependenciesForClose (p : Params) (w : Writer) (closing : List GenerationId) :
    Except Err (List ControlDependency) :=
  (w.flow.controlAssociations.entries.filter fun e =>
    e.2.targets.any (·.generationId ∈ closing)).mapM fun e =>
      if e.2.targets.any fun t => (w.ownedPart t.generationId).map (·.path) ≠ some t.path then
        .error (.valueError "associated close target is no longer owned")
      else
        match w.controlPartForIdentity p e.1 with
        | .error err => .error err
        | .ok controlPart =>
          .ok ⟨controlPart, e.1, e.2, e.2.targets.map (·.generationId)⟩

/-! ## Service level objective and age -/

/-- Replace the rolling histogram. -/
def setRolling (rolling : RollingHistogram) (w : Writer) : Writer :=
  { w with acct := { w.acct with rollingHistogram := rolling } }

/-- The objective is breached, or met again. -/
def setBreached (breached : Bool) (w : Writer) : Writer :=
  { w with acct := { w.acct with
    sloBreached := breached
    sloBreachCount := if breached then w.acct.sloBreachCount + 1 else w.acct.sloBreachCount } }

/-- `_evaluate_slo`. -/
def evaluateSlo (p : Params) (observed : Nat) : Proc Err Writer := fun w =>
  match w.acct.rollingHistogram.snapshot observed with
  | (rolling, .error e) => (some e, w.setRolling rolling)
  | (rolling, .ok s) =>
    if s.breaches p.writer.durabilitySloNs = w.acct.sloBreached then (none, w.setRolling rolling)
    else
      ((if p.sloCallbackRaises
          ⟨s.breaches p.writer.durabilitySloNs, observed, s.lagP99Ns, s.lagMaxNs⟩ then
        some (.writerCritical .sloTransitionCallbackFailed (w.ownedIds p)
          "durability SLO transition callback failed")
      else none),
        (w.setRolling rolling).setBreached (s.breaches p.writer.durabilitySloNs))

/-- `_evaluate_slo(observed_monotonic_ns=self._sample_monotonic())`. -/
def evaluateSloNow (p : Params) : Proc Err Writer := fun w =>
  evaluateSlo p w.sampleMonotonic.1 w.sampleMonotonic.2

/-- Put back the ledger and the clock after a question about ages. -/
def withLedger (ledger : DurabilityLedger Identity) (clock : Clock) (w : Writer) : Writer :=
  { w with acct := { w.acct with ledger }, core := { w.core with clock } }

/-- The writer is past its oldest age. -/
def becomeCritical (affected : List GenerationId) (w : Writer) : Writer :=
  { w with
    life := { w.life with
      pendingOldestError := some (.writerCritical .oldestUnpersistedAge affected
        "oldest raw record exceeded its durability deadline")
      criticalReason := some .oldestUnpersistedAge
      lifecycle := .critical
      admission := .closed
      incompleteReason := some CriticalReason.oldestUnpersistedAge.value } }.invalidate

/-- `_begin_oldest_critical`; the error it returns is the pending one. -/
def beginOldestCritical (p : Params) (w : Writer) : Writer :=
  if w.life.pendingOldestError.isSome then w
  else
    match w.acct.ledger.classifyCriticalAge w.core.clock p.writer.durabilityCriticalNs with
    | (ledger, clock, none) => w.withLedger ledger clock
    | (ledger, clock, some _) => (w.withLedger ledger clock).becomeCritical (w.ownedIds p)

/-! ## Completions -/

/-- The loop body of `_account_durable`. -/
def accountRow (p : Params) (finalBarrier : Bool) (completed : Nat) (r : Record) :
    Proc Err Writer :=
  seq (require (fun _ => r.acceptedMonotonicNs ≤ completed)
    (.valueError "file completion precedes record acceptance")) <|
  seq (read fun w =>
    match w.flow.controlAssociations.get? r.identity with
    | some association => if finalBarrier then skip else foldControlAssociation association
    | none => skip) <|
  seq (onAcct (Accounts.settle .durable r.identity)) <|
  modify fun w =>
    { w with
      acct := w.acct.sample p.metricStreamAllowlist r.identity
        (completed - r.acceptedMonotonicNs) completed
      flow := { w.flow with
        controlAssociations := w.flow.controlAssociations.erase r.identity } }

/-- `_account_durable`. -/
def accountDurable (p : Params) (claim : CompletionClaim) (result : FileDurabilityResult) :
    Proc Err Writer :=
  if result.recordCount ≠ claim.rows.length then
    fail (.valueError "file completion count does not match service claims")
  else
    match result.syncCompletedMonotonicNs with
    | none => fail (.valueError "file completion lacks its monotonic timestamp")
    | some completed =>
      seq (forEach claim.rows (accountRow p claim.finalBarrier completed)) <|
      seq (modify fun w => { w with acct := w.acct.countSync result.syncDurationNs }) <|
      evaluateSlo p completed

/-- `_account_uncertain`. -/
def accountUncertain (claim : CompletionClaim) (e : Err) : Proc Err Writer :=
  seq (forEach claim.rows fun r =>
    seq (onAcct (Accounts.settle .uncertain r.identity)) <|
    modify fun w => { w with flow := { w.flow with
      controlAssociations := w.flow.controlAssociations.erase r.identity } }) <|
  modify fun w => { w with acct := w.acct.countFailure e }

/-- A message goes to the barrier, which must know it. -/
def toBarrier (p : Params) (m : Message) (unknown : String) : Proc Err Writer := fun w =>
  match w.core.handleMessage p.writer.durabilitySloNs m with
  | (.ok true, core) => (none, { w with core })
  | (.ok false, core) => (some (.valueError unknown), { w with core })
  | (.error e, core) => (some e, { w with core })

/-- The error that a completed file of a final barrier is turned into, if the writer is past its
oldest age or past its close deadline. -/
def barrierError (w : Writer) (claim : CompletionClaim) : Option Err × Writer :=
  match w.life.pendingOldestError with
  | some e => (some e, w)
  | none =>
    match w.life.activeCloseDeadlineNs with
    | none => (none, w)
    | some deadline =>
      if claim.rows.isEmpty then (none, w)
      else
        (if deadline ≤ w.sampleMonotonic.1 then
          some (.writerCritical .closeDeadline w.flow.retiring
            "raw writer close deadline elapsed")
        else none, w.sampleMonotonic.2)

/-- The claim of a generation is settled, whatever the outcome. -/
def dropClaim (g : GenerationId) (w : Writer) : Writer :=
  { w with flow := { w.flow with completionClaims := w.flow.completionClaims.erase g } }

/-- Run a procedure, then change the state also when it failed. -/
def thenAlways (f : Proc Err Writer) (g : Writer → Writer) : Proc Err Writer := fun w =>
  ((f w).1, g (f w).2)

/-- What the barrier is told of a completed file. -/
def barrierMessage (result : FileDurabilityResult) : Option Err → Message
  | some e => .failed result.generationId e
  | none => .completed result

/-- The completion of a file goes to the barrier, or its failure when the writer is too late. -/
def completeFinal (p : Params) (claim : CompletionClaim) (result : FileDurabilityResult) :
    Proc Err Writer := fun w =>
  toBarrier p (barrierMessage result (w.barrierError claim).1)
    "final barrier rejected its file completion" (w.barrierError claim).2

/-- The completion of a file that the service has a claim on. -/
def completeClaim (p : Params) (claim : CompletionClaim) (result : FileDurabilityResult) :
    Proc Err Writer :=
  seq
    (if claim.finalBarrier then completeFinal p claim result
    else onPart result.generationId (Part.applyCompletion p.writer.durabilitySloNs result))
    (accountDurable p claim result)

/-- The failure of a file that the service has a claim on. -/
def failClaim (p : Params) (claim : CompletionClaim) (g : GenerationId) (e : Err) :
    Proc Err Writer :=
  seq
    (if claim.finalBarrier then toBarrier p (.failed g e) "final barrier rejected its file failure"
    else onPart g (Part.applyFailure e))
    (accountUncertain claim e)

/-- `_handle_completion`. -/
def handleCompletion (p : Params) (m : Message) : Proc Err Writer :=
  thenAlways (read fun w =>
    match m with
    | .completed result =>
      match w.flow.completionClaims.get? result.generationId with
      | none => toBarrier p m "unknown file sync completion"
      | some claim =>
        thenAlways (completeClaim p claim result) (dropClaim result.generationId)
    | .failed g e =>
      match w.flow.completionClaims.get? g with
      | none => toBarrier p m "unknown file sync failure"
      | some claim => thenAlways (failClaim p claim g e) (dropClaim g)
    | _ => toBarrier p m "unknown storage completion message") invalidate

/-! ## The terminal error -/

/-- The critical error that `_enter_terminal_error` makes of an error. -/
def criticalError (p : Params) (w : Writer) (e : Err) : Err :=
  match e with
  | .writerCritical reason affected message => .writerCritical reason affected message
  | .osError => .writerCritical .writeFailed (w.ownedIds p) "raw writer service failed"
  | _ => .writerCritical .syncFailed (w.ownedIds p) "raw writer service failed"

/-- The reason of a critical error. -/
def criticalReasonOf : Err → CriticalReason
  | .writerCritical reason _ _ => reason
  | .osError => .writeFailed
  | _ => .syncFailed

/-- `_enter_terminal_error`, past the check for a blocked recovery. -/
def enterTerminalError (p : Params) (e : Err) : Proc Err Writer :=
  seq (modify fun w => { w with life := { w.life with
    criticalReason := some (criticalReasonOf e)
    lifecycle := .critical
    admission := .closed
    incompleteReason := some (w.life.incompleteReason.getD (criticalReasonOf e).value) } }) <|
  seq (onAcct Accounts.markAllUncertain) <|
  seq (modify fun w => { w with flow := { w.flow with deferred := Dict.empty } }) <|
  refreshMetricsCache p

/-- The terminal error is known. -/
def terminate (e : Err) (w : Writer) : Writer :=
  { w with life := { w.life with terminalError := some e } }

/-- A recovery that was blocked before any record was accepted leaves the service as it is. -/
def blocked (w : Writer) (e : Err) : Bool :=
  match e with
  | .recoveryBlocked _ => w.acct.ledger.acceptedCount = 0
  | _ => false

/-- `_capture_terminal_error`. When `_enter_terminal_error` fails the metrics are assembled
again. -/
def captureTerminalError (p : Params) (e : Err) (w : Writer) : Writer :=
  if w.blocked e then w.terminate e
  else
    match enterTerminalError p e w with
    | (none, w') => w'.terminate (criticalError p w e)
    | (some captureError, w') => (refreshMetricsCache p w').2.terminate captureError

end Writer

end CryptoCollector.Storage
