import CryptoCollector.Storage.Service.Calls

/-!
# The steps of the actor

What the coroutines of `RawWriterService` do between two suspensions, one definition for each
stretch of code without an `await`. What a coroutine keeps in local variables across a suspension
is part of the state (`Flow`), so that a step has no other arguments than those the source
computes from its locals. `Actor.lean` puts the steps in the order of the source.
-/

namespace CryptoCollector.Storage

open Lib Proc

namespace Writer

/-! ## Tasks -/

/-- The task that the actor pumps has its outcome. -/
def finishTask (error : Option Err) (w : Writer) : Writer :=
  { w with flow := { w.flow with
    task := w.flow.task.map fun t => { t with done := true, error } } }

/-- The task that the actor pumps is done, if what it waits for has happened. A call in a storage
thread ends with `failure`. -/
def resolveTask (failure : Option Err) (w : Writer) : Writer :=
  match w.flow.task with
  | none => w
  | some t =>
    if t.done then w
    else
      match t.kind with
      | .sync batch =>
        if w.core.batchDone batch then
          w.finishTask ((w.core.disk.batches.get? batch).bind (·.error?))
        else w
      | .close command _ =>
        match w.core.barrier.results.get? command with
        | none => w
        | some (.ok _) => w.finishTask none
        | some (.error e) => w.finishTask (some e)
      | .storage => w.finishTask failure

/-- A task for a call in a storage thread is created. -/
def startStorage (w : Writer) : Writer :=
  { w with flow := { w.flow with task := some { kind := .storage } } }

/-- `_mark_claim_in_flight` and the registration of the claim in `_sync_claims`. -/
def claimPart (g : GenerationId) : Proc Err Writer := read fun w =>
  let rows := (((w.core.parts.part? g).bind (·.claimed)).map (·.rows)).getD []
  seq (onAcct (forEach rows fun r => Accounts.mark .inFlight r.identity)) <|
  modify fun w => { w with flow := { w.flow with
    completionClaims := w.flow.completionClaims.set g ⟨rows, false⟩ } }

/-- `bind_claim_batch_task`. -/
def bindClaims (gs : List GenerationId) (batch : Nat) (s : ActivePartSet) : ActivePartSet :=
  gs.foldl (fun s g => s.updatePart g fun q => { q with claimBatch := some batch }) s

/-- `_sync_claims` up to its wait, for parts whose work is sealed. -/
def syncClaims (gs : List GenerationId) (trigger : DurabilityTrigger) : Proc Err Writer :=
  seq (forEach gs claimPart) fun w =>
    match Core.syncBatch gs trigger w.core with
    | (some e, core) =>
      (none, { w with
        core
        flow := { w.flow with
          task := some { kind := .sync w.core.disk.nextBatch, done := true, error := some e } } })
    | (none, core) =>
      (none, { w with
        core := { core with parts := bindClaims gs w.core.disk.nextBatch core.parts }
        flow := { w.flow with task := some { kind := .sync w.core.disk.nextBatch } } })

/-- `_sync_parts` up to its wait; without work there is no task. -/
def syncParts (gs : List GenerationId) (trigger : DurabilityTrigger) : Proc Err Writer :=
  seq (modify fun w => { w with flow := { w.flow with task := none } }) <|
  seq (forEach gs fun g => onPart g (Part.sealForSync false)) <|
  read fun w =>
    let claimed := gs.filter fun g => ((w.core.parts.part? g).bind (·.claimed)).isSome
    if claimed.isEmpty then skip else syncClaims claimed trigger

/-! ## Draining -/

/-- Change what is held for a shard. -/
def updateHeld (shard : String) (f : Held → Held) (w : Writer) : Writer :=
  { w with flow := { w.flow with hand := w.flow.hand.update shard f } }

/-- `RawIngress.drain_one`; the record is held from now on. -/
def takeRecord (shard : String) : Proc Err Writer := fun w =>
  match w.ingress.peekOne shard with
  | none => (none, w)
  | some r =>
    let charge := w.acct.budget.charges.get? r.identity.acceptanceOrdinal
    let w := { w with
      ingress := w.ingress.drainOne shard ((charge.map (·.chargeBytes)).getD 0)
      flow := { w.flow with hand := w.flow.hand.set shard { record := r } } }
    (if charge.isNone then some (.keyError "unknown resident charge identity") else none, w)

/-- A record is drained and its shard is in progress. -/
def drainOne (shard : String) : Proc Err Writer :=
  seq (takeRecord shard) (modify fun w => { w with flow := { w.flow with
    shardsInProgress := w.flow.shardsInProgress ++ [shard] } })

/-- The end of a shard's progress; its local variables are gone. -/
def releaseShard (shard : String) (w : Writer) : Writer :=
  { w with flow := { w.flow with
    shardsInProgress := w.flow.shardsInProgress.filter (· ≠ shard)
    hand := w.flow.hand.erase shard } }

/-- The active part that has a record's received hour. -/
def currentPart (w : Writer) (r : Record) : Option Part :=
  (w.core.parts.activePartFor r).filter (·.receivedHour = r.receivedHour)

/-- `_can_drain_without_storage_io`. -/
def canDrainWithoutStorageIo (w : Writer) (shard : String) : Bool :=
  match w.ingress.peekOne shard with
  | none => false
  | some r => (w.currentPart r).isSome

/-- `_ensure_part` when the active part has the record's hour. -/
def ensureCurrent (shard : String) (w : Writer) : Writer :=
  match w.flow.hand.get? shard with
  | none => w
  | some held =>
    match w.currentPart held.record with
    | none => w
    | some q => w.updateHeld shard fun h => { h with part := some q.generationId }

/-- The next part sequence number is consumed. -/
def bumpSequence (w : Writer) : Writer :=
  { w with core := { w.core with parts := w.core.parts.bumpSequence } }

/-- `_ensure_part` has a reservation, and remembers the active entry. -/
def holdReservation (shard : String) (current : Option ActiveEntry) (v : Reservation)
    (w : Writer) : Writer :=
  w.updateHeld shard fun h => { h with current, reservation := some v }

/-- `_ensure_part` up to its wait: an active reservation of the record's hour is used, else a new
one is made. -/
def reservePart (shard : String) (w : Writer) : Writer :=
  match w.flow.hand.get? shard with
  | none => w
  | some held =>
    match w.core.parts.activeEntryFor held.record with
    | some (.reserved v) =>
      if v.receivedHour = held.record.receivedHour then
        w.holdReservation shard (some (.reserved v)) v
      else
        w.bumpSequence.holdReservation shard (some (.reserved v))
          (w.core.parts.reservationFor held.record)
    | current =>
      w.bumpSequence.holdReservation shard current (w.core.parts.reservationFor held.record)

/-- When an entry was created. -/
def entryCreatedAtNs (w : Writer) : ActiveEntry → Nat
  | .part g => ((w.core.parts.part? g).map (·.createdAtNs)).getD 0
  | .reserved v => v.createdAtNs

/-- Parts enter `_retiring`. -/
def addRetiring (gs : List GenerationId) (w : Writer) : Writer :=
  { w with flow := { w.flow with
    retiring := w.flow.retiring ++ gs.filter (· ∉ w.flow.retiring) } }

/-- `_ensure_part` returns a part, and the part it has retired. -/
def assignPart (shard : String) (g : GenerationId) (retired : Option GenerationId) (w : Writer) :
    Writer :=
  (w.addRetiring retired.toList).updateHeld shard fun h =>
    { h with part := some g, hourRetired := retired }

/-- The part that an entry is, if it is one. -/
def entryPart : ActiveEntry → Option GenerationId
  | .part g => some g
  | .reserved _ => none

/-- `_ensure_part` after its wait: the materialised part takes its place, or the place of the
active entry of another hour. -/
def installPart (shard : String) : Proc Err Writer := fun w =>
  match w.flow.hand.get? shard with
  | none => (none, w)
  | some held =>
    match held.reservation with
    | none => (none, w)
    | some v =>
      match w.core.parts.validateMaterialize v held.record with
      | some e => (some e, w)
      | none =>
        match held.current.filter (· ≠ .reserved v) with
        | none =>
          seq (onParts (ActivePartSet.installReserved v
              (ActivePartSet.allocate v held.record v.createdAtNs)))
            (modify (assignPart shard v.generationId none)) w
        | some current =>
          seq (onParts (ActivePartSet.replaceReservedForHour v
              (ActivePartSet.allocate v held.record v.createdAtNs)
              (max w.sampleWall.1 (w.entryCreatedAtNs current))))
            (modify (assignPart shard v.generationId (entryPart current))) w.sampleWall.2

/-- The reservations that are held for shards. -/
def heldReservations (w : Writer) (shards : List String) : List Reservation :=
  shards.filterMap fun s => (w.flow.hand.get? s).bind (·.reservation)

/-- `begin_initial_reservation` for the record held for a shard. -/
def reserveInitial (shard : String) : Proc Err Writer := fun w =>
  match w.flow.hand.get? shard with
  | none => (none, w)
  | some held =>
    seq (onParts (ActivePartSet.beginInitialReservation held.record))
      (modify (holdReservation shard none (w.core.parts.reservationFor held.record))) w

/-- `rollback_reserved_batch` of the reservations made so far. -/
def rollbackReserved (shards : List String) : Proc Err Writer := fun w =>
  if (w.heldReservations shards).isEmpty then (none, w)
  else onParts (ActivePartSet.rollbackReservedBatch (w.heldReservations shards)) w

/-- The first loop of `_materialize_ingress_batch`: every record gets a reservation, or none. -/
def beginInitial (shards : List String) : Proc Err Writer := fun w =>
  match forEach shards reserveInitial w with
  | (none, w') => (none, w')
  | (some e, w') => (some e, (rollbackReserved shards w').2)

/-- The parts that `_materialize_ingress_batch` has materialised. -/
def materialized (w : Writer) (shards : List String) : List (Reservation × Part) :=
  shards.filterMap fun s => (w.flow.hand.get? s).bind fun held =>
    held.reservation.map fun v => (v, ActivePartSet.allocate v held.record v.createdAtNs)

/-- The first error of `materialize_reserved` in `_materialize_ingress_batch`. -/
def materializeError (w : Writer) (shards : List String) : Option Err :=
  shards.findSome? fun s => (w.flow.hand.get? s).bind fun held =>
    held.reservation.bind fun v => w.core.parts.validateMaterialize v held.record

/-- The records held for shards have the parts of their reservations. -/
def assignReserved (shards : List String) (w : Writer) : Writer :=
  shards.foldl (fun w s => w.updateHeld s fun h =>
    { h with part := h.reservation.map (·.generationId) }) w

/-- The second half of `_materialize_ingress_batch` when every part is materialised. -/
def commitReserved (shards : List String) : Proc Err Writer := fun w =>
  match w.materializeError shards with
  | some e => (some e, w)
  | none =>
    seq (onParts (ActivePartSet.commitReservedBatch (w.materialized shards)))
      (modify (assignReserved shards)) w

/-- The record held for a shard has entered its part or the deferred records of its part. -/
def place (shard : String) (w : Writer) : Writer :=
  w.updateHeld shard fun h => { h with placed := true }

/-- `_defer_record`, for the record held for a shard. -/
def deferRecord (shard : String) (g : GenerationId) (r : Record) : Proc Err Writer :=
  seq (onAcct (Accounts.mark .buffered r.identity)) <|
  modify fun w => { w with flow := { w.flow with
    deferred := w.flow.deferred.set g ((w.flow.deferred.get? g).getD [] ++ [r]) } }.place shard

/-- What `_append_drained_record` does with a record. -/
inductive AppendKind where
  | append
  | defer
  | sizeSync
  | oversized
  deriving DecidableEq

/-- The decision of `_append_drained_record`. -/
def appendKind (p : Params) (w : Writer) (g : GenerationId) (r : Record)
    (allowStorageIo : Bool) : AppendKind :=
  if w.flow.deferred.contains g then .defer
  else
    match w.core.parts.part? g with
    | none => .append
    | some q =>
      match q.appendAccepted p.writer.maxPlainFrameBytes r with
      | (some .frameSealRequired, _) =>
        if !allowStorageIo ∨ q.claimed.isSome then .defer
        else if q.pendingPlainBytes = 0 ∧ p.writer.maxPlainFrameBytes < r.size then .oversized
        else .sizeSync
      | _ => .append

/-- The end of `_append_drained_record`. -/
def pendHour (shard : String) (w : Writer) : Writer :=
  match (w.flow.hand.get? shard).bind (·.hourRetired) with
  | none => w
  | some g => { w with flow := { w.flow with
      pendingHourRetired :=
        if g ∈ w.flow.pendingHourRetired then w.flow.pendingHourRetired
        else w.flow.pendingHourRetired ++ [g] } }

/-- `take_control_association` of `_append_drained_record`. -/
def takeAssociation (r : Record) (w : Writer) : Writer :=
  match w.ingress.takeControlAssociation r.identity with
  | (association, ingress) =>
    { w with
      ingress
      flow := { w.flow with
        controlAssociations :=
          match association with
          | none => w.flow.controlAssociations
          | some a => w.flow.controlAssociations.set r.identity a } }

/-- `_append_drained_record` up to its wait, once its decision is made. -/
def appendAs (p : Params) (shard : String) (g : GenerationId) (r : Record) :
    AppendKind → Proc Err Writer
  | .defer => deferRecord shard g r
  | .sizeSync => skip
  | .append =>
    seq (onPart g (Part.appendAccepted p.writer.maxPlainFrameBytes r)) <|
    seq (modify (place shard)) <|
    seq (onAcct (Accounts.mark .buffered r.identity)) <|
    modify (pendHour shard)
  | .oversized =>
    seq (onPart g (Part.sealOversized p.writer.maxPlainFrameBytes r)) <|
    seq (modify (place shard)) <|
    seq (onAcct (Accounts.mark .buffered r.identity)) <|
    syncClaims [g] .size

/-- A record that a drain holds and that is not in its part yet, with that part. -/
def heldFor (w : Writer) (shard : String) : Option (Record × GenerationId) :=
  ((w.flow.hand.get? shard).filter (!·.placed)).bind fun held => held.part.map (held.record, ·)

/-- `_append_drained_record` up to its wait. -/
def appendDrained (p : Params) (shard : String) (allowStorageIo : Bool) : Proc Err Writer :=
  read fun w =>
    match w.heldFor shard with
    | none => skip
    | some (r, g) =>
      seq (modify (takeAssociation r)) (appendAs p shard g r (w.appendKind p g r allowStorageIo))

/-! ## Deferred records -/

/-- The first deferred record of a generation. -/
def deferredHead (w : Writer) (g : GenerationId) : Option Record :=
  (w.flow.deferred.get? g).bind (·.head?)

/-- Remove the first deferred record of a generation. -/
def popDeferred (g : GenerationId) (w : Writer) : Writer :=
  { w with flow := { w.flow with
    deferred := w.flow.deferred.update g List.tail
    sealedHead := none } }

/-- `_drain_deferred` appends the first deferred record of a generation. -/
def appendDeferred (p : Params) (g : GenerationId) : Proc Err Writer := fun w =>
  match w.deferredHead g with
  | none => (none, w)
  | some r =>
    seq (onPart g (Part.appendAccepted p.writer.maxPlainFrameBytes r)) (modify (popDeferred g)) w

/-- `_drain_deferred` seals an oversized first deferred record and starts its sync. -/
def sealDeferred (p : Params) (g : GenerationId) : Proc Err Writer := fun w =>
  match w.deferredHead g with
  | none => (none, w)
  | some r =>
    seq (onPart g (Part.sealOversized p.writer.maxPlainFrameBytes r))
      (seq (modify fun w => { w with flow := { w.flow with sealedHead := some g } })
        (syncClaims [g] .size)) w

/-- `_drain_deferred` forgets a generation without deferred records. -/
def dropDeferred (g : GenerationId) (w : Writer) : Writer :=
  if w.flow.deferred.get? g = some [] then
    { w with flow := { w.flow with deferred := w.flow.deferred.erase g } }
  else w

/-! ## Messages -/

/-- `_pump_task` takes the next message of the completion queue. -/
def handleNext (p : Params) : Proc Err Writer := fun w =>
  match w.core.disk.queue with
  | [] => (none, w)
  | m :: queue =>
    handleCompletion p m { w with core := { w.core with disk := { w.core.disk with queue } } }

/-- The final claims that the barrier does not own. -/
def unownedFinal (w : Writer) : List GenerationId :=
  (w.flow.completionClaims.entries.filter fun e =>
    e.2.finalBarrier && !w.core.ownsGeneration e.1).map Prod.fst

/-- `_pump_task` drops the final claims that the barrier does not own. -/
def dropUnownedFinal (w : Writer) : Writer :=
  if w.unownedFinal.isEmpty then w
  else { w with flow := { w.flow with
    completionClaims := w.flow.completionClaims.filter (· ∉ w.unownedFinal) } }.invalidate

/-! ## Rotation and close -/

/-- `_pending_hour_close_members`. -/
def pendingHourCloseMembers (p : Params) (w : Writer) : List CloseMember :=
  ((w.flow.pendingHourRetired.filterMap w.core.parts.part?).insertionSort
    fun a b => p.layout a.path ≤ p.layout b.path).map fun q =>
      ⟨q.generationId, .rotateTime, q.closedAtNs.getD 0⟩

/-- `_clear_pending_hour_members`. -/
def clearPendingHourMembers (members : List CloseMember) (w : Writer) : Writer :=
  { w with flow := { w.flow with
    pendingHourRetired := w.flow.pendingHourRetired.filter fun g =>
      g ∉ members.map (·.generationId) } }

/-- Why a part is due for rotation at a time. -/
def due (p : Params) (w : Writer) (now : Nat) (q : Part) : Option CloseReason :=
  ActivePartSet.dueReason p.writer.maxCompressedSizeBytes p.writer.rotateIntervalNs now
    (w.core.disk.file q.generationId).compressedSize q

/-- The plans of `_rotate_due_parts`; without accepted records there are none. -/
def planRotations (p : Params) (w : Writer) (now : Nat) :
    Except Err (List Rotation) × ActivePartSet :=
  match w.ingress.acceptanceOrdinalHighWater with
  | none => (.ok [], w.core.parts)
  | some _ => ActivePartSet.planDueRotations p.layout (w.due p now) now w.core.parts

/-- Replace the active part set. -/
def withParts (parts : ActivePartSet) (w : Writer) : Writer :=
  { w with core := { w.core with parts } }

/-- The plans become the local variable of `_rotate_due_parts`, and their parts are retiring. -/
def keepPlans (plans : List Rotation) (w : Writer) : Writer :=
  { w with flow := { w.flow with plans } }.addRetiring (plans.map Rotation.current)

/-- `_rotate_due_parts` up to the materialisation of the replacements. -/
def beginRotations (p : Params) : Proc Err Writer := fun w =>
  match w.sampleWall.2.planRotations p w.sampleWall.1 with
  | (.error e, parts) => (some e, w.sampleWall.2.withParts parts)
  | (.ok plans, parts) =>
    seq (onParts (ActivePartSet.beginRotations plans)) (modify (keepPlans plans))
      (w.sampleWall.2.withParts parts)

/-- The members of a rotation or a close become a local variable of the actor. -/
def keepMembers (members : List CloseMember) (w : Writer) : Writer :=
  { w with flow := { w.flow with members } }

/-- `commit_rotations`, and the members that are to be closed. -/
def commitRotations (p : Params) : Proc Err Writer := read fun w =>
  seq (onParts (ActivePartSet.commitRotations w.flow.plans)) (modify fun w =>
    w.keepMembers (w.pendingHourCloseMembers p ++ w.flow.plans.map fun plan =>
      ⟨plan.current, plan.reason, plan.closedAtNs⟩))

/-- `_rotate_due_parts` enters the lifecycle ROTATING. -/
def enterRotating (w : Writer) : Writer :=
  { w with life := { w.life with lifecycle := .rotating } }

/-- The end of `_rotate_due_parts`. -/
def finishRotation (w : Writer) : Writer :=
  { w.clearPendingHourMembers w.flow.members with
    life := { w.life with lifecycle := .accepting } }.invalidate

/-- The trigger of the close of a rotation. -/
def rotationTrigger (members : List CloseMember) : DurabilityTrigger :=
  match (members.map (·.reason)).dedup with
  | [reason] => closeTrigger reason
  | _ => .barrier

/-- `discard_empty` in a storage thread; its descriptor is closed also when it fails. -/
def discardEmpty (g : GenerationId) (failure : Option Err) : Proc Err Writer := fun w =>
  match w.core.parts.part? g with
  | none => (some (.keyError "unknown raw part"), w)
  | some q =>
    if q.recordCount ≠ 0 ∨ !q.pending.isEmpty ∨ q.claimed.isSome then
      (some (.valueError "only quiescent empty raw parts can be discarded"), w)
    else
      (failure, { w with
        core := w.core.closeFiles [g]
        flow := { w.flow with
          retiring :=
            if failure.isSome then w.flow.retiring else w.flow.retiring.filter (· ≠ g) } })

/-- The final claim of `_close_members` for a part. -/
def claimFinal (g : GenerationId) : Proc Err Writer := read fun w =>
  if w.flow.completionClaims.contains g then skip
  else
    let rows := ((w.core.parts.part? g).map (·.pending)).getD []
    seq (onAcct (forEach rows fun r => Accounts.mark .inFlight r.identity)) <|
    modify fun w => { w with flow := { w.flow with
      completionClaims := w.flow.completionClaims.set g ⟨rows, true⟩ } }

/-- The parts of a close and the control parts that its dependencies are on. -/
def closeWorkParts (parts : List GenerationId) (dependencies : List ControlDependency) :
    List GenerationId :=
  parts ++ (dependencies.map (·.controlPart)).dedup.filter (· ∉ parts)

/-- The final barrier starts, and its task is to be pumped. -/
def startClose (members : List CloseMember) (trigger : DurabilityTrigger)
    (dependencies : List ControlDependency) (w : Writer) : Writer :=
  let kind : TaskKind := .close w.core.barrier.nextCommand (members.map (·.generationId))
  { w with
    core := (w.core.closeMixedGroup members trigger dependencies).2
    life := { w.life with publication := .finalSync }
    flow := { w.flow with task := some { kind } } }.invalidate

/-- `_close_members` for nonempty parts, up to its wait. -/
def enterClose (p : Params) (members : List CloseMember) (trigger : DurabilityTrigger) :
    Proc Err Writer :=
  seq (modify (addRetiring (members.map (·.generationId)))) <| read fun w =>
    match w.controlDependenciesForClose p (members.map (·.generationId)) with
    | .error e => fail e
    | .ok dependencies =>
      seq (forEach (closeWorkParts (members.map (·.generationId)) dependencies) claimFinal)
        (modify (startClose members trigger dependencies))

/-- `_close_members` when its pump raised. -/
def publicationFailed (e : Err) (w : Writer) : Writer :=
  { w with
    acct :=
      match e with
      | .writerCritical .closeDeadline _ _ => w.acct
      | _ => { w.acct with publicationFailureCount := w.acct.publicationFailureCount + 1 }
    life := { w.life with publication := .failed } }

/-- What the close that the actor has pumped returns. -/
def closeResult (w : Writer) : Option (List Manifest) :=
  match w.flow.task with
  | some { kind := .close command _, .. } =>
    (w.core.barrier.results.get? command).bind (·.toOption)
  | _ => none

/-- The end of `_close_members`, with the manifests of its task. -/
def finishClose (w : Writer) : Writer :=
  match w.flow.task, w.closeResult with
  | some { kind := .close _ parts, .. }, some _ =>
    { w with
      life := { w.life with publication := .idle }
      flow := { w.flow with
        retiring := w.flow.retiring.filter (· ∉ parts) } }.invalidate
  | _, _ => w

/-- The close members of the detached parts. -/
def detachedMembers (p : Params) (w : Writer) (reason : CloseReason) (closedAtNs : Nat) :
    List CloseMember :=
  (w.core.parts.activeParts p.layout).map fun q => ⟨q.generationId, reason, closedAtNs⟩

/-- The close deadline is active. -/
def setDeadline (deadlineNs : Nat) (w : Writer) : Writer :=
  { w with life := { w.life with activeCloseDeadlineNs := some deadlineNs } }

/-- Command `close` detaches the active parts. -/
def detachForClose (p : Params) (reason : CloseReason) (closedAtNs deadlineNs : Nat) :
    Proc Err Writer := read fun w =>
  seq (onParts (ActivePartSet.detachAll p.layout reason closedAtNs))
    (modify fun w' => (w'.keepMembers
      (w.pendingHourCloseMembers p ++ w.detachedMembers p reason closedAtNs)).setDeadline
        deadlineNs)

/-- Command `close` up to `_close_members`. -/
def beginClose (p : Params) (reason : CloseReason) (deadlineNs : Nat) : Proc Err Writer := fun w =>
  if deadlineNs ≤ w.sampleMonotonic.1 ∧ w.acct.ledger.unpersistedCount ≠ 0 then
    (some (.writerCritical .closeDeadline
      ((w.core.parts.activeParts p.layout).map (·.generationId))
      "raw writer close deadline elapsed"), w.sampleMonotonic.2)
  else
    detachForClose p reason w.sampleMonotonic.2.sampleWall.1 deadlineNs
      w.sampleMonotonic.2.sampleWall.2

/-- The `finally` of command `close`. -/
def clearDeadline (w : Writer) : Writer :=
  { w with life := { w.life with activeCloseDeadlineNs := none } }

/-- Command `close` after `_close_members`. -/
def closeDone (manifests : List Manifest) (w : Writer) : Writer :=
  { w.clearPendingHourMembers w.flow.members with life := { w.life with
    closedManifests := some manifests
    lifecycle := .closed
    admission := .closed
    stopping := true } }.invalidate

/-- Command `rotate_config` up to `_close_members`. -/
def prepareConfig (p : Params) (generation : Nat) : Proc Err Writer := fun w =>
  seq (onParts (ActivePartSet.prepareConfigRotation p.layout generation w.sampleWall.1))
    (modify (keepMembers
      (w.pendingHourCloseMembers p ++ w.detachedMembers p .configReload w.sampleWall.1)))
    w.sampleWall.2

/-- The new configuration has its ingress, and admission opens again. -/
def replaceIngress (sha : String) (generation : Nat) : Proc Err Writer := fun w =>
  match w.ingress.replacementForConfig w.acct.budget sha generation with
  | .error e => (some e, w)
  | .ok ingress =>
    (none, { w with
      ingress
      configSha256 := sha
      configGeneration := generation
      life := { w.life with lifecycle := .accepting, admission := .opened } }.invalidate)

/-- Command `rotate_config` after `_close_members`. -/
def commitConfig (sha : String) (generation : Nat) : Proc Err Writer :=
  seq (modify fun w => w.clearPendingHourMembers w.flow.members) <|
  seq (onParts (ActivePartSet.commitConfigRotation sha generation)) <|
  replaceIngress sha generation

/-- Command `incomplete`. -/
def incomplete (p : Params) (reason : String) : Proc Err Writer := fun w =>
  (some (.writerCritical .markedIncomplete
    ((w.core.parts.activeParts p.layout).map (·.generationId))
    "raw writer was marked incomplete"),
    { w with life := { w.life with incompleteReason := some reason } })

/-! ## Startup -/

/-- The accepted recovery control record is drained and registered, and gets a reservation. -/
def registerRecovery (r : Record) : Proc Err Writer :=
  seq (takeRecord "_control") <|
  seq (require (fun w => (w.flow.hand.get? "_control").map (·.record) = some r)
    (.assertionError "startup control was not the reserved queue head")) <|
  seq (onAcct (Accounts.register r)) <|
  modify fun w => { w.bumpSequence with
    history := { w.history with accepted := w.history.accepted ++ [r] } }.holdReservation
      "_control" none (w.core.parts.reservationFor r)

/-- `_process_pending_recovery_control` up to its first wait. -/
def acceptRecovery (p : Params) (d : Draft) : Proc Err Writer := fun w =>
  match w.offerDraft p d "_control" with
  | (.error e, a) => (some e, w.withAdmission a)
  | (.ok result, a) =>
    match result.record with
    | none =>
      (some (.recoveryBlocked "reserved recovery control admission was rejected"),
        w.withAdmission a)
    | some r => registerRecovery r (w.withAdmission a)

/-- A part object comes into being without being active. -/
def storePart (q : Part) (w : Writer) : Writer :=
  { w with core := { w.core with parts := { w.core.parts with
    store := w.core.parts.store.set q.generationId q } } }

/-- The carrier part of a recovery control record is materialised; it is not an active part. -/
def installRecovery : Proc Err Writer := fun w =>
  match w.flow.hand.get? "_control" with
  | none => (none, w)
  | some held =>
    match held.reservation with
    | none => (none, w)
    | some v =>
      match w.core.parts.validateMaterialize v held.record with
      | some e => (some e, w.sampleWall.2)
      | none => (none, (w.sampleWall.2.storePart
          (ActivePartSet.allocate v held.record w.sampleWall.1)).updateHeld "_control"
            fun h => { h with part := some v.generationId })

/-- The recovery control record enters its part, which is then to be closed. -/
def appendRecovery (p : Params) : Proc Err Writer := fun w =>
  match w.flow.hand.get? "_control" with
  | none => (none, w)
  | some held =>
    match held.part with
    | none => (none, w)
    | some g =>
      (seq (onPart g (Part.appendAccepted p.writer.maxPlainFrameBytes held.record)) <|
        seq (modify (place "_control")) <|
        seq (onAcct (Accounts.mark .buffered held.record.identity)) <|
        modify fun w => w.sampleWall.2.keepMembers [⟨g, .recoveryControl, w.sampleWall.1⟩]) w

/-- The end of `_process_pending_recovery_control`; after a failure the descriptor is closed. -/
def endRecovery (failed : Bool) (w : Writer) : Writer :=
  match (w.flow.hand.get? "_control").bind (·.part) with
  | none => w.releaseShard "_control"
  | some g =>
    (if failed then { w with core := w.core.closeFiles [g] }
      else w.sampleMonotonic.2).releaseShard "_control"

/-- Command `startup` after its recovery controls. -/
def startupDone (w : Writer) : Writer :=
  { w with
    life := { w.life with lifecycle := .accepting, admission := .opened }
    loop := { w.loop with tickerRunning := true } }.invalidate

/-! ## The command loop -/

/-- `_run` takes the next command. -/
def takeCommand (w : Writer) : Writer :=
  match w.loop.commands with
  | [] => w
  | c :: commands => { w with loop := { w.loop with
      commands
      terminalCommand := some c
      commandActive := true
      activeWatermark := c.watermark } }

/-- The `finally` of a command. -/
def endCommand (w : Writer) : Writer :=
  { w with loop := { w.loop with activeWatermark := none, commandActive := false } }

/-- The result of a command that is not a close is given to its caller. -/
def settleCommand (w : Writer) : Writer :=
  match w.loop.terminalCommand with
  | none => w
  | some c => { w with loop := { w.loop with
      answers := w.loop.answers ++ [(c.id, none)]
      terminalCommand := none
      opened := true } }

/-- `_drain_ingress` takes the ownership of the drain. -/
def beginDrain : Proc Err Writer := fun w =>
  if w.flow.drainActive then
    (some (.runtimeError "ingress drain ownership was re-entered"), w)
  else (none, { w with flow := { w.flow with drainActive := true } })

/-- `_drain_ingress` gives up the ownership of the drain. -/
def endDrain (w : Writer) : Writer := { w with flow := { w.flow with drainActive := false } }

/-- `_release_resources` after the ticker has ended. -/
def releaseResources (p : Params) (w : Writer) : Writer :=
  { w with
    core := w.core.closeFiles (w.ownedIds p)
    loop := { w.loop with tickerRunning := false } }

/-- The end of `_run`: the terminal command and the queued ones are answered. -/
def finishRun (w : Writer) : Writer :=
  let answer (c : Command) : Nat × Option Err := (c.id,
    some (w.life.terminalError.getD (.runtimeError "raw writer service has stopped")))
  let terminal : List (Nat × Option Err) :=
    match w.loop.terminalCommand with
    | none => []
    | some c => [(c.id, w.life.terminalError)]
  { w with
    life := { w.life with closeFuture := false }
    loop := { w.loop with
      answers := w.loop.answers ++ terminal ++ w.loop.commands.map answer
      terminalCommand := none
      commands := [] } }

end Writer

end CryptoCollector.Storage
