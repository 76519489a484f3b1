import CryptoCollector.Storage.Service.Machine

/-!
# The actor

The coroutine `RawWriterService._run` and the coroutines it awaits, in the order of the source.
Every `await` that can suspend is an `await` here.

Two coroutines of the source are split by the arguments they are called with, which makes the
definitions non-recursive. `_drain_ingress_owned` without storage I/O (`drainQuick`) is what
`_pump_task` runs; it never syncs, so it never pumps. `_finish_oldest_critical_drain` runs with
`_critical_draining` set, and a drain runs with `_ingress_drain_active` set; in either case
`_sync_claims` returns right after its pump and `_drain_ingress` after its drain.
-/

namespace CryptoCollector.Storage

open Lib

namespace Actor

variable (p : Params)

/-- A step of the actor. -/
def step (s : Step) : Actor p Unit := Co.act (Act.step s)

/-- The state of the service. -/
def state : Actor p Writer := Co.get

/-- `asyncio.sleep(0)` and other suspensions that return nothing. -/
def yielding : Actor p Unit := do
  let _ ← Co.await
  return ()

/-- A call in a storage thread that the actor awaits without pumping. -/
def storageCall : Actor p Unit := do
  let told ← Co.await
  match told.failure with
  | none => return ()
  | some e => Co.raise e

/-! ## Draining without storage I/O -/

/-- Whether the next record of a shard is to be drained: the shard is not in progress, the record
is not past the watermark, and its part is there (without storage I/O) or its key is active. -/
def drainable (w : Writer) (watermark : Option Nat) (allowStorageIo : Bool) (shard : String) :
    Bool :=
  decide (shard ∉ w.flow.shardsInProgress) &&
    (w.ingress.peekOne shard).any fun r =>
      watermark.all (r.identity.acceptanceOrdinal ≤ ·) &&
        (w.canDrainWithoutStorageIo shard ||
          allowStorageIo && (w.core.parts.activeEntryFor r).isSome)

/-- The loop of `_drain_ingress_owned` over the shards, without storage I/O. It returns nothing
when the quantum is exhausted, else the number of drained records and whether there was any. -/
def drainQuickShards (watermark : Option Nat) (maxRecords : Nat) :
    List String → Nat → Bool → Actor p (Option (Nat × Bool))
  | [], drained, progressed => return some (drained, progressed)
  | shard :: shards, drained, progressed => do
    let w ← state p
    if maxRecords ≤ drained then
      step p .setWork
      yielding p
      return none
    else if drainable w watermark false shard then
      step p (.drainOne shard)
      Co.ensure (do
        step p (.ensureCurrent shard)
        step p (.appendDrained shard false)) (step p (.releaseShard shard))
      drainQuickShards watermark maxRecords shards (drained + 1) true
    else drainQuickShards watermark maxRecords shards drained progressed

/-- `_drain_ingress_owned` without storage I/O. -/
def drainQuick (watermark : Option Nat) (maxRecords : Nat) : Actor p Unit :=
  Co.loop (fun drained => do
    let w ← state p
    if w.ingress.nonemptyShards.isEmpty then return .inr ()
    else
      match ← drainQuickShards p watermark maxRecords w.ingress.nonemptyShards drained false with
      | none => return .inr ()
      | some (drained, progressed) =>
        step p .invalidate
        return if progressed then .inl drained else .inr ()) 0

/-! ## Pumping -/

/-- Whether `_pump_task` is finished. -/
def pumped (w : Writer) : Bool :=
  (w.flow.task.all (·.done)) && w.flow.completionClaims.entries.isEmpty

/-- The messages that are already in the completion queue. -/
def drainMessages : Actor p Unit :=
  Co.loop (fun _ => do
    let w ← state p
    if w.core.disk.queue.isEmpty then return .inr ()
    else
      step p .handleNext
      return .inl ()) ()

/-- The drain that `_pump_task` runs on its own, or inside the drain that it is part of. -/
def nestedDrain (watermark : Option Nat) : Actor p Unit := do
  let w ← state p
  if w.flow.drainActive then drainQuick p watermark drainServiceQuantumRecords
  else
    step p .beginDrain
    Co.ensure (drainQuick p watermark drainServiceQuantumRecords) (step p .endDrain)

/-- What `_pump_task` drains when the work event is set: whether the event is to be set again. -/
def pumpIngress (w : Writer) (wakeAfterTask : Bool) : Actor p Bool :=
  if w.life.pendingOldestError.isSome then return true
  else if w.life.lifecycle ≠ .starting ∧ w.loop.commands.isEmpty ∧
      (!w.loop.commandActive ∨ !w.flow.retiring.isEmpty) then do
    nestedDrain p w.loop.activeWatermark
    let w ← state p
    return wakeAfterTask || !w.ingress.nonemptyShards.isEmpty || !w.flow.deferred.entries.isEmpty
  else return true

/-- `_pump_task` when the work event is set: whether the event is to be set again afterwards. -/
def pumpWake (wakeAfterTask : Bool) : Actor p Bool := do
  step p .clearWork
  step p .beginOldestCritical
  let w ← state p
  let again ← pumpIngress p w wakeAfterTask
  let w ← state p
  return again || w.loop.periodicDue

/-- The end of `_pump_task`: the error of its task. -/
def taskError (wakeAfterTask : Bool) : Actor p (Option Err) := do
  Co.when wakeAfterTask (step p .setWork)
  let w ← state p
  return w.flow.task.bind (·.error)

/-- `_pump_task` after its wait: whether the work event is to be set again at the end. -/
def pumpWaited (told : Told) (wakeAfterTask : Bool) : Actor p Bool := do
  let w ← state p
  let message := told.message && !w.core.disk.queue.isEmpty
  Co.when message (step p .handleNext)
  let w ← state p
  let wakeAfterTask ← (if told.wake ∧ w.loop.workEvent then pumpWake p wakeAfterTask
    else pure wakeAfterTask)
  let w ← state p
  Co.when (!message ∧ told.late ∧ !w.core.disk.queue.isEmpty) (step p .handleNext)
  return wakeAfterTask

/-- `_pump_task`, up to the result of its task: the error of the task is returned. -/
def pump : Actor p (Option Err) :=
  Co.loop (fun wakeAfterTask => do
    drainMessages p
    let w ← state p
    Co.when (w.flow.task.all (·.done) ∧ !w.flow.completionClaims.entries.isEmpty)
      (step p .dropUnownedFinal)
    let w ← state p
    if pumped w then return .inr (← taskError p wakeAfterTask)
    else
      let told ← Co.await
      let wakeAfterTask ← pumpWaited p told wakeAfterTask
      yielding p
      let w ← state p
      if pumped w then return .inr (← taskError p wakeAfterTask)
      else return .inl wakeAfterTask) false

/-- `_pump_task`. -/
def pumpTask : Actor p Unit := do
  match ← pump p with
  | none => return ()
  | some e => Co.raise e

/-- Pump the task that was just created, if there is one. -/
def pumpIfTask : Actor p Bool := do
  let w ← state p
  if w.flow.task.isSome then
    pumpTask p
    return true
  else return false

/-! ## Draining with storage I/O -/

/-- `_ensure_part` for the record held for a shard. -/
def ensurePart (shard : String) : Actor p Unit := do
  let w ← state p
  match w.flow.hand.get? shard with
  | none => return ()
  | some held =>
    if (w.currentPart held.record).isSome then step p (.ensureCurrent shard)
    else
      step p (.reservePart shard)
      storageCall p
      step p (.installPart shard)

/-- `_append_drained_record` for the record held for a shard: whether it requires a size sync. -/
def appendDrainedRecord (shard : String) (allowStorageIo : Bool) : Actor p Bool := do
  let w ← state p
  let kind := (w.flow.hand.get? shard).bind fun held =>
    held.part.map fun g => w.appendKind p g held.record allowStorageIo
  step p (.appendDrained shard allowStorageIo)
  Co.when (kind = some .oversized) do
    pumpTask p
    step p (.pendHour shard)
  return kind = some .sizeSync

/-- The selection of `_drain_cold_ingress_batch`: shards whose next record has no active entry. -/
def selectCold (watermark : Option Nat) (limit : Nat) :
    List String → List String → List LogicalKey → Actor p (List String)
  | [], selected, _ => return selected
  | shard :: shards, selected, keys => do
    let w ← state p
    let cold := selected.length < limit ∧ shard ∉ w.flow.shardsInProgress ∧
      (w.ingress.peekOne shard).any fun r =>
        watermark.all (r.identity.acceptanceOrdinal ≤ ·) ∧
          (w.core.parts.activeEntryFor r).isNone ∧ r.key ∉ keys
    if cold then
      step p (.drainOne shard)
      selectCold watermark limit shards (selected ++ [shard])
        (keys ++ ((w.ingress.peekOne shard).map (·.key)).toList)
    else selectCold watermark limit shards selected keys

/-- `_materialize_ingress_batch`. -/
def materializeIngressBatch (shards : List String) : Actor p Unit := do
  step p (.beginInitial shards)
  step p .startStorage
  -- the task gathers the exceptions of its calls, it does not raise them
  let failure ← pump p
  Co.handle (do
    match failure with
    | none => step p (.commitReserved shards)
    | some e => Co.raise e) fun e => do
      yielding p
      Co.handle (step p (.rollbackReserved shards)) fun _ => pure ()
      Co.raise e

/-- `_drain_cold_ingress_batch`: the number of drained records. -/
def drainColdIngressBatch (shards : List String) (watermark : Option Nat) (limit : Nat) :
    Actor p Nat := do
  let selected ← selectCold p watermark limit shards [] []
  if selected.isEmpty then return 0
  else
    Co.ensure (do
      materializeIngressBatch p selected
      Co.forEach selected fun shard => do
        let _ ← appendDrainedRecord p shard true
        return ()) (Co.forEach selected fun shard => step p (.releaseShard shard))
    return selected.length

/-- How the drain of the deferred records of a generation ended. -/
inductive DeferredEnd where
  | settled
  | needsSync
  | exhausted
  deriving DecidableEq

/-- The inner loop of `_drain_deferred`. -/
def drainGeneration (watermark maxRecords : Option Nat) (g : GenerationId) (drained : Nat) :
    Actor p (Nat × DeferredEnd) :=
  Co.loop (fun drained => do
    let w ← state p
    match w.deferredHead g, w.core.parts.part? g with
    | some r, some q =>
      if maxRecords.any (· ≤ drained) then return .inr (drained, .exhausted)
      else if watermark.any (· < r.identity.acceptanceOrdinal) then
        return .inr (drained, .settled)
      else if q.claimed.isSome then return .inr (drained, .settled)
      else
        if (q.appendAccepted p.writer.maxPlainFrameBytes r).1 = some .frameSealRequired then
          if q.pendingPlainBytes = 0 ∧ p.writer.maxPlainFrameBytes < r.size then
            step p (.sealDeferred g)
            pumpTask p
            step p (.popDeferred g)
            return .inl (drained + 1)
          else return .inr (drained, .needsSync)
        else
          step p (.appendDeferred g)
          Co.when (maxRecords.isNone ∧ (drained + 1) % drainServiceQuantumRecords = 0) (yielding p)
          return .inl (drained + 1)
    | _, _ => return .inr (drained, .settled)) drained

/-- One pass of `_drain_deferred` over the generations that have deferred records: the drained
records, the parts that need a sync, and whether the quantum is exhausted. -/
def drainGenerations (watermark maxRecords : Option Nat) :
    List GenerationId → Nat → List GenerationId → Actor p (Nat × List GenerationId × Bool)
  | [], drained, sizeParts => return (drained, sizeParts, false)
  | g :: gs, drained, sizeParts => do
    let w ← state p
    if (w.ownedPart g).isNone then
      Co.raise (M := service p) (.valueError "deferred record generation is no longer owned")
    else
      let (drained, ended) ← drainGeneration p watermark maxRecords g drained
      if ended = .exhausted then return (drained, sizeParts, true)
      else
        step p (.dropDeferred g)
        let sizeParts := if ended = .needsSync then sizeParts ++ [g] else sizeParts
        if sizeParts.length = p.writer.maxSyncConcurrency then return (drained, sizeParts, false)
        else drainGenerations watermark maxRecords gs drained sizeParts

/-- `_drain_deferred`: the number of drained records. -/
def drainDeferred (watermark maxRecords : Option Nat) : Actor p Nat :=
  Co.loop (fun drained => do
    let w ← state p
    let (drained, sizeParts, exhausted) ←
      drainGenerations p watermark maxRecords w.flow.deferred.keys drained []
    if exhausted ∨ sizeParts.isEmpty then return .inr drained
    else
      step p (.syncParts sizeParts .size)
      if ← pumpIfTask p then return .inl drained
      else
        Co.raise (M := service p)
          (.runtimeError "pending size sync window had no durability work")) 0

/-- The local variables of the shard loop of `_drain_ingress_owned`. -/
structure DrainState where
  drained : Nat := 0
  sinceYield : Nat := 0
  progressed : Bool := false
  rollovers : List String := []

/-- How the shard loop ended: it returned from the drain, it broke off at the end of the quantum,
or it goes on. -/
inductive ShardsEnd where
  | returned
  | exhausted
  | finished
  deriving DecidableEq

/-- The shard loop of `_drain_ingress_owned` with storage I/O. -/
def drainShards (watermark maxRecords : Option Nat) :
    List String → DrainState → Actor p (DrainState × ShardsEnd)
  | [], s => return (s, .finished)
  | shard :: shards, s => do
    let w ← state p
    if maxRecords.any (· ≤ s.drained) then
      step p .setWork
      if s.rollovers.isEmpty then
        yielding p
        return (s, .returned)
      else return (s, .exhausted)
    else if drainable w watermark true shard then
      step p (.drainOne shard)
      let yields := maxRecords.isNone ∧ drainServiceQuantumRecords ≤ s.sinceYield + 1
      let requiresSizeSync ← Co.handle (do
        Co.when yields (yielding p)
        ensurePart p shard
        appendDrainedRecord p shard true) fun e => do
          step p (.releaseShard shard)
          Co.raise e
      Co.when (!requiresSizeSync) (step p (.releaseShard shard))
      let s : DrainState :=
        { drained := s.drained + 1
          sinceYield := if yields then 0 else s.sinceYield + 1
          progressed := true
          rollovers := if requiresSizeSync then s.rollovers ++ [shard] else s.rollovers }
      if s.rollovers.length = p.writer.maxSyncConcurrency then return (s, .finished)
      else drainShards watermark maxRecords shards s
    else drainShards watermark maxRecords shards s

/-- The size rollovers of `_drain_ingress_owned`. -/
def rollOver (shards : List String) : Actor p Unit :=
  Co.ensure (do
    let w ← state p
    step p (.syncParts
      (shards.filterMap fun s => (w.flow.hand.get? s).bind (·.part)) .size)
    if ← pumpIfTask p then
      Co.forEach shards fun shard => do
        let requiresSizeSync ← appendDrainedRecord p shard true
        Co.when requiresSizeSync (Co.raise (M := service p)
          (.runtimeError "size rollover trigger did not fit after its sync"))
    else
      Co.raise (M := service p)
        (.runtimeError "pending size sync window had no durability work"))
    (Co.forEach shards fun shard => step p (.releaseShard shard))

/-- One round of `_drain_ingress_owned` with storage I/O on nonempty shards. -/
def drainRound (watermark maxRecords : Option Nat) (drained sinceYield : Nat) :
    Actor p ((Nat × Nat) ⊕ Unit) := do
  let w ← state p
  let shards := w.ingress.nonemptyShards
  if shards.isEmpty then return .inr ()
  else
    let limit := match maxRecords with
      | none => p.writer.maxSyncConcurrency
      | some m => min p.writer.maxSyncConcurrency (m - drained)
    let cold ← (if 0 < limit then drainColdIngressBatch p shards watermark limit else pure 0)
    let drained := drained + cold
    let sinceYield := sinceYield + cold
    if 0 < cold ∧ maxRecords.any (· ≤ drained) then
      step p .setWork
      yielding p
      return .inr ()
    else
      let (s, ended) ← drainShards p watermark maxRecords shards
        { drained, sinceYield, progressed := decide (0 < cold) }
      if ended = .returned then return .inr ()
      else
        Co.when (!s.rollovers.isEmpty) (rollOver p s.rollovers)
        step p .invalidate
        if ended = .exhausted then
          yielding p
          return .inr ()
        else if maxRecords.isSome ∧ 0 < cold then
          step p .setWork
          yielding p
          return .inr ()
        else if !s.progressed then return .inr ()
        else return .inl (s.drained, s.sinceYield)

/-- `_drain_ingress_owned` with storage I/O. -/
def drainIngressOwned (watermark maxRecords : Option Nat) : Actor p Unit := do
  let drained ← drainDeferred p watermark maxRecords
  if maxRecords.any (· ≤ drained) then
    step p .setWork
    yielding p
  else
    Co.loop (fun (s : Nat × Nat) => drainRound p watermark maxRecords s.1 s.2) (drained, 0)

/-- `_drain_ingress` without its last check. -/
def drainOwned (watermark maxRecords : Option Nat) : Actor p Unit := do
  step p .beginDrain
  Co.ensure (drainIngressOwned p watermark maxRecords) (step p .endDrain)

/-! ## The oldest age -/

/-- `_finish_oldest_critical_drain`. -/
def finishOldestCriticalDrain : Actor p Unit := do
  let w ← state p
  if w.life.pendingOldestError.isNone ∨ w.life.criticalDraining then return ()
  else
    step p (.setCriticalDraining true)
    Co.ensure (do
      drainOwned p none none
      Co.loop (fun _ => do
        let w ← state p
        step p (.syncParts ((w.core.parts.activeParts p.layout).map (·.generationId)) .periodic)
        return if ← pumpIfTask p then .inl () else .inr ()) ())
      (step p (.setCriticalDraining false))

/-- The check after a drain or a sync: the writer is past its oldest age. -/
def raiseOldest : Actor p Unit := do
  let w ← state p
  match w.life.pendingOldestError with
  | none => return ()
  | some e =>
    if w.life.criticalDraining then return ()
    else
      finishOldestCriticalDrain p
      Co.raise e

/-- `_drain_ingress` with storage I/O. -/
def drainIngress (watermark maxRecords : Option Nat) : Actor p Unit := do
  drainOwned p watermark maxRecords
  raiseOldest p

/-- `_sync_parts` of all active parts, outside a drain. -/
def syncActive (trigger : DurabilityTrigger) : Actor p Unit := do
  let w ← state p
  step p (.syncParts ((w.core.parts.activeParts p.layout).map (·.generationId)) trigger)
  let synced ← pumpIfTask p
  Co.when synced (raiseOldest p)

/-! ## Rotation and close -/

/-- `_close_members`: the manifests of the published parts. -/
def closeMembers (members : List CloseMember) (trigger : DurabilityTrigger) :
    Actor p (List Manifest) := do
  let w ← state p
  let empty (m : CloseMember) : Bool :=
    (w.core.parts.part? m.generationId).all (·.recordCount = 0)
  Co.forEach (members.filter empty) fun m => do
    let told ← Co.await
    step p (.discardEmpty m.generationId told.failure)
  let members := members.filter (!empty ·)
  if members.isEmpty then return []
  else
    step p (.enterClose members trigger)
    Co.handle (pumpTask p) fun e => do
      step p (.publicationFailed e)
      Co.raise e
    let w ← state p
    step p .finishClose
    return w.closeResult.getD []

/-- `_rotate_due_parts`. -/
def rotateDueParts : Actor p Unit := do
  step p .beginRotations
  let w ← state p
  Co.handle (do
    Co.forEach w.flow.plans fun _ => do
      step p .startStorage
      pumpTask p
    step p .commitRotations) fun e => do
      yielding p
      Co.raise e
  let w ← state p
  if w.flow.members.isEmpty then return ()
  else
    step p .enterRotating
    let _ ← closeMembers p w.flow.members (Writer.rotationTrigger w.flow.members)
    step p .finishRotation

/-! ## Commands -/

/-- `_process_pending_recovery_control`. -/
def processPendingRecoveryControl (d : Draft) : Actor p Unit := do
  step p (.acceptRecovery d)
  let w ← state p
  let reserved := (((w.flow.hand.get? "_control").bind (·.reservation)).map
    (·.generationId)).toList
  Co.handle (do
    -- `bind_control_ownership`
    storageCall p
    storageCall p
    step p .installRecovery
    step p .appendRecovery
    let w ← state p
    let _ ← closeMembers p w.flow.members (closeTrigger .recoveryControl)
    step p (.endRecovery false)
    -- `acknowledge_control_durable`
    storageCall p) fun _ => do
      step p (.endRecovery true)
      Co.raise (M := service p) (.writerCritical .controlDurabilityFailed reserved
        "startup recovery control did not become durable")

/-- Command `startup`. -/
def startup (pending : List Draft) : Actor p Unit := do
  Co.forEach pending (processPendingRecoveryControl p)
  step p .startupDone

/-- Command `sync`. -/
def syncNow : Actor p Unit := do
  syncActive p .barrier
  rotateDueParts p
  step p .evaluateSlo

/-- Command `rotate_config`. -/
def rotateConfig (sha : String) (generation : Nat) : Actor p Unit := do
  step p (.prepareConfig generation)
  let w ← state p
  let _ ← closeMembers p w.flow.members .config
  step p (.commitConfig sha generation)

/-- Command `close`. -/
def close (reason : CloseReason) (deadlineNs : Nat) : Actor p Unit := do
  step p (.beginClose reason deadlineNs)
  let w ← state p
  let manifests ← Co.ensure (closeMembers p w.flow.members (closeTrigger reason))
    (step p .clearDeadline)
  step p (.closeDone manifests)

/-- `_execute_command`. -/
def executeCommand (c : Command) : Actor p Unit :=
  match c.kind with
  | .startup pending => startup p pending
  | .sync => syncNow p
  | .rotateDue => rotateDueParts p
  | .rotateConfig sha generation => rotateConfig p sha generation
  | .close reason deadlineNs => close p reason deadlineNs
  | .incomplete reason => step p (.incomplete reason)

/-- The `try` of a command: the drain up to its watermark, and its execution. -/
def commandBody (c : Command) : Actor p Unit := do
  Co.when (!c.isStartup) (drainIngress p c.watermark none)
  executeCommand p c

/-- `_run` executes a command: whether it succeeded. -/
def runCommand (c : Command) : Actor p Bool := do
  step p .takeCommand
  let succeeded ← Co.handle (do
    commandBody p c
    return true) fun e => do
      step p (.captureTerminalError e)
      step p .setStopping
      return false
  step p .endCommand
  return succeeded

/-- The command loop of `_run`. -/
def commandLoop : Actor p Unit :=
  Co.loop (fun _ => do
    let w ← state p
    match w.loop.commands with
    | [] => return .inr ()
    | c :: _ =>
      let succeeded ← runCommand p c
      if !succeeded then return .inr ()
      else if c.isClose then
        step p .setStopping
        return .inr ()
      else
        step p .settleCommand
        return .inl ()) ()

/-- `_work_event.wait()`. -/
def waitForWork : Actor p Unit :=
  Co.loop (fun _ => do
    let w ← state p
    if w.loop.workEvent then return .inr ()
    else
      yielding p
      return .inl ()) ()

/-- The periodic work of `_run`. -/
def periodicWork : Actor p Unit := do
  step p .clearPeriodic
  step p .beginOldestCritical
  let w ← state p
  match w.life.pendingOldestError with
  | some e =>
    finishOldestCriticalDrain p
    Co.raise e
  | none =>
    syncActive p .periodic
    rotateDueParts p
    step p .evaluateSlo

/-- The main loop of `_run`. -/
def mainLoop : Actor p Unit :=
  Co.loop (fun _ => do
    let w ← state p
    if w.life.stopping then return .inr ()
    else
      waitForWork p
      step p .clearWork
      let w ← state p
      Co.when (w.life.lifecycle ≠ .starting ∧ w.loop.commands.isEmpty)
        (drainIngress p none (some drainServiceQuantumRecords))
      commandLoop p
      let w ← state p
      if w.life.stopping then return .inr ()
      else
        Co.when w.loop.periodicDue (periodicWork p)
        return .inl ()) ()

/-- The `finally` of `_run`, and the service after it: only clients act any more. -/
def finish : Actor p Unit := do
  let w ← state p
  Co.when w.loop.tickerRunning (yielding p)
  step p .releaseResources
  step p .finishRun
  Co.loop (fun _ => do
    yielding p
    return .inl ()) ()

/-- `_run`. -/
def run : Actor p Unit := do
  Co.handle (mainLoop p) fun e => do
    step p (.captureTerminalError e)
    step p .setStopping
  finish p

end Actor

/-! ## Runs -/

/-- What `open` starts from: the configuration, the next part sequence, the clock and the pending
recovery controls. -/
structure Opening where
  configSha256 : String
  configGeneration : Nat
  initialPartSequence : Nat
  clock : Clock
  pendingControls : List Draft := []

/-- The service as `open` constructs it: its first metrics are assembled, and the startup command
is enqueued. -/
def Opening.writer (p : Params) (o : Opening) : Writer :=
  let w : Writer :=
    { configSha256 := o.configSha256
      configGeneration := o.configGeneration
      core := {
        parts := {
          configSha256 := o.configSha256
          configGeneration := o.configGeneration
          nextPartSequence := o.initialPartSequence }
        clock := o.clock }
      ingress := { configSha256 := o.configSha256, configGeneration := o.configGeneration }
      acct := { budget := {
        workerMaxBytes := p.ingress.workerMaxBytes
        controlReserveBytes := p.ingress.controlReserveBytes } } }
  (w.refreshMetricsCache p).2.enqueueCommand (.startup o.pendingControls)

/-- The log of a run: what the actor, its clients and the storage threads did, under a schedule
and a bound on the rounds of each loop. -/
def runLog (p : Params) (o : Opening) (rounds : Nat) (schedule : List (Slot (service p) Told)) :
    List (Machine.Entry (service p)) :=
  (Co.run (Actor.run p) rounds schedule (o.writer p)).log

/-! ## A small configuration -/

/-- Two concurrent syncs, frames of a hundred bytes, every nonempty part due for rotation. -/
def smallParams : Params where
  writer :=
    { durabilitySloNs := 5000000000
      durabilityCriticalNs := 60000000000
      maxPlainFrameBytes := 100
      maxCompressedSizeBytes := 0
      rotateIntervalNs := 3600000000000
      maxSyncConcurrency := 2 }
  ingress :=
    { workerMaxBytes := 10000
      controlReserveBytes := 100
      shardMaxRecords := 10
      shardMaxBytes := 1000
      highWaterBytes := 9000 }
  metricStreamAllowlist := []
  layout q := q.key.logicalStream
  sortTargets := id
  sloCallbackRaises _ := false

/-- A writer without pending recovery controls, with a clock that stands still. -/
def smallOpening : Opening where
  configSha256 := "0000000000000000000000000000000000000000000000000000000000000000"
  configGeneration := 1
  initialPartSequence := 0
  clock := ⟨1000, [], []⟩

/-- A trade of one instrument. -/
def tradeDraft : Draft where
  key := ⟨some .spot, some "BTC-USDT", "trades"⟩
  lineBytes := 10

/-- A book update of another instrument. -/
def bookDraft : Draft where
  key := ⟨some .spot, some "ETH-USDT", "book"⟩
  lineBytes := 10

/-- A suspension during which the world performs some actions. -/
def during (p : Params) (acts : List Act) : Slot (service p) Told := ⟨acts, {}⟩

end CryptoCollector.Storage
