import CryptoCollector.Storage.Service.Accounting

/-!
# Calls from outside

What a client of `RawWriterService` can do between two steps of the actor: offer a record and
enqueue a command. A call acts at once up to its wait for the actor; lifecycle and admission are
written here, not by the actor.
-/

namespace CryptoCollector.Storage

open Lib Proc

namespace Writer

/-! ## Admission -/

/-- The ingress, the budget and the clock, as `RawIngress.try_accept` sees them. -/
def admissionOf (w : Writer) : Admission := ⟨w.ingress, w.acct.budget, w.core.clock⟩

/-- Put back what `RawIngress.try_accept` changed. -/
def withAdmission (w : Writer) (a : Admission) : Writer :=
  { w with
    ingress := a.ingress
    acct := { w.acct with budget := a.budget }
    core := { w.core with clock := a.clock } }

/-- `RawIngress.try_accept` with the service's resolver. -/
def offerDraft (p : Params) (d : Draft) (shard : String) (w : Writer) :
    Except Err EnqueueResult × Admission :=
  RawIngress.tryAccept p.ingress w.core.parts.activeTarget p.sortTargets d shard w.admissionOf

/-- `try_accept`. -/
def tryAccept (p : Params) (d : Draft) (shard : String) (w : Writer) :
    Except Err EnqueueResult × Writer :=
  if w.life.admission ≠ .opened ∨ !d.ownExchange then
    (.ok ⟨.notAccepting, none⟩,
      { w with acct := { w.acct with
        notAcceptingCount := w.acct.notAcceptingCount + 1 } }.invalidate)
  else
    match w.offerDraft p d shard with
    | (.error e, a) => (.error e, w.withAdmission a)
    | (.ok result, a) =>
      match result.record with
      | none => (.ok result, (w.withAdmission a).invalidate)
      | some r =>
        match onAcct (Accounts.register r) (w.withAdmission a) with
        | (some e, w) => (.error e, w)
        | (none, w) =>
          (.ok result, { w with
            loop := { w.loop with workEvent := true }
            history := { w.history with accepted := w.history.accepted ++ [r] } }.invalidate)

/-! ## Commands -/

/-- `_enqueue_command`. -/
def enqueueCommand (kind : CommandKind) (w : Writer) : Writer :=
  let id := w.loop.nextCommand
  if w.life.stopping then
    { w with loop := { w.loop with
      nextCommand := id + 1
      answers := w.loop.answers ++
        [(id, some (w.life.terminalError.getD
          (.runtimeError "raw writer service has stopped")))] } }
  else
    { w with loop := { w.loop with
      nextCommand := id + 1
      commands := w.loop.commands ++ [⟨id, kind, w.ingress.acceptanceOrdinalHighWater⟩]
      workEvent := true } }

/-- `rotate_for_config`. -/
def rotateForConfig (sha : String) (generation : Nat) : Proc Err Writer := fun w =>
  if !isSha256 sha then (some (.valueError "config_sha256 must be lowercase SHA-256"), w)
  else if generation ≤ w.configGeneration then
    (some (.valueError "config_generation must be strictly greater"), w)
  else if w.life.stopping then (none, w.enqueueCommand (.rotateConfig sha generation))
  else if w.life.lifecycle ≠ .accepting then
    (some (.runtimeError "config rotation requires an accepting writer"), w)
  else
    let w := if w.life.admission = .opened then
        { w with life := { w.life with
          admission := .closed, lifecycle := .rotating } }.invalidate
      else w
    (none, w.enqueueCommand (.rotateConfig sha generation))

/-- `close_all`, up to its wait for the close future. -/
def closeAll (reason : CloseReason) (deadlineNs : Nat) : Proc Err Writer := fun w =>
  if reason = .recovery ∨ reason = .recoveryControl then
    (some (.valueError "close_all requires a normal close reason"), w)
  else if w.life.closeFuture then (none, w)
  else
    match w.life.terminalError with
    | some e => (some e, w)
    | none =>
      if w.life.closedManifests.isSome then (none, w)
      else
        (none, { w with
          life := { w.life with
            admission := .closed
            lifecycle := if w.life.lifecycle = WriterLifecycle.critical then .critical else .closing
            closeFuture := !w.life.stopping }
          history := { w.history with stopRequested := true } }.invalidate.enqueueCommand
            (.close reason deadlineNs))

/-- `mark_incomplete`, up to its wait. -/
def markIncomplete (reason : String) : Proc Err Writer := fun w =>
  if !normalized reason then
    (some (.valueError "reason must be a normalized nonempty string"), w)
  else
    let w := if w.life.stopping then w
      else { w with
        life := { w.life with
          admission := .closed
          lifecycle :=
            if w.life.lifecycle = WriterLifecycle.accepting then .closing else w.life.lifecycle }
        history := { w.history with stopRequested := true } }.invalidate
    (none, w.enqueueCommand (.incomplete reason))

/-- One round of `_periodic_timer`. -/
def tick (w : Writer) : Writer :=
  if w.loop.tickerRunning ∧ !w.life.stopping then
    { w with loop := { w.loop with periodicDue := true, workEvent := true } }
  else w

/-- A call of a client has an effect only once `open` has returned the service. -/
def whenOpened (f : Proc Err Writer) : Proc Err Writer :=
  read fun w => if w.loop.opened then f else skip

end Writer

end CryptoCollector.Storage
