import CryptoCollector.Storage.PartSet

/-!
# Storage threads and the final barrier

`storage/durability.py: DurabilityCoordinator` and
`storage/raw_writer.py: _FinalBarrierController`.

The coordinator's batches run in storage threads. A file's work starts, finishes (writing its
frame and reading the clock) and is posted to the completion queue as separate events, so the
order of the messages is independent of the order of the completion times. A closing group
passes through prerequisite claims, its final batch, folding, freezing and publication, driven
by the messages of the completion queue.
-/

namespace CryptoCollector.Storage

open Lib

/-- What storage threads know about the file of a generation. -/
structure File where
  frames : List (List Record) := []
  compressedSize : Nat := 0
  closed : Bool := false
  published : Option Manifest := none
  deriving DecidableEq

/-- Work of a batch that no storage thread has finished. -/
structure Work where
  generationId : GenerationId
  rows : List Record
  batch : Nat
  started : Option Nat := none
  deriving DecidableEq

/-- The messages of the completion queue. -/
inductive Message where
  | completed (result : FileDurabilityResult)
  | failed (generationId : GenerationId) (error : Err)
  | prerequisiteSettled (command batch : Nat) (error : Option Err)
  | batchSettled (command : Nat) (error : Option Err)
  | publicationSettled (command : Nat) (outcome : Except Err (List Manifest))
  deriving DecidableEq

/-- A batch of the coordinator: what is left to post, and the files that failed. -/
structure Batch where
  trigger : DurabilityTrigger
  generations : List GenerationId
  remaining : List GenerationId
  failures : List (GenerationId × CriticalReason) := []
  startedMonotonicNs : Nat := 0
  deriving DecidableEq

/-- The error of a batch some of whose files failed. -/
def Batch.error? (b : Batch) : Option Err :=
  if b.failures.isEmpty then none
  else
    let affected := b.generations.filter fun g => b.failures.any (·.1 = g)
    if b.failures.any (·.2 = .writeFailed) then
      some (.writerCritical .writeFailed affected "raw durability write failed")
    else some (.writerCritical .syncFailed affected "raw durability sync failed")

/-- The storage side: files, work in flight, finished work that is not posted yet, the
completion queue and the coordinator's batches. -/
structure Disk where
  files : Dict GenerationId File := Dict.empty
  works : List Work := []
  unposted : List (Nat × Message) := []
  queue : List Message := []
  batches : Dict Nat Batch := Dict.empty
  nextBatch : Nat := 0
  deriving DecidableEq

/-- The file of a generation. -/
def Disk.file (d : Disk) (g : GenerationId) : File := (d.files.get? g).getD {}

/-- Change the file of a generation. -/
def Disk.updateFile (d : Disk) (g : GenerationId) (f : File → File) : Disk :=
  { d with files := d.files.set g (f (d.file g)) }

/-- `_FinalBarrierControlDependency`. -/
structure ControlDependency where
  controlPart : GenerationId
  controlIdentity : Identity
  association : ControlAssociation
  targets : List GenerationId
  deriving DecidableEq

/-- `_FinalBarrierCloseMember`. -/
structure CloseMember where
  generationId : GenerationId
  reason : CloseReason
  closedAtNs : Nat
  deriving DecidableEq

/-- The task that publishes a frozen group, or closes the descriptors of a failed one. -/
inductive Publication where
  | publishing (done : List Manifest) (rest : List GenerationId)
  | cleaning (error : Err)
  | finished (outcome : Except Err (List Manifest))
  | settled
  deriving DecidableEq

/-- `_FinalBarrierCommandState`. -/
structure BarrierCommand where
  parts : List GenerationId
  workParts : List GenerationId
  trigger : DurabilityTrigger
  dependencies : Dict GenerationId (List ControlDependency)
  controlGenerationIds : List GenerationId
  batchGenerationIds : List GenerationId := []
  remaining : List GenerationId := []
  prerequisiteBatches : Dict Nat (List GenerationId) := Dict.empty
  remainingPrerequisites : List GenerationId := []
  batchTask : Option Nat := none
  batchSettled : Bool := false
  batchError : Option Err := none
  fileErrors : Dict GenerationId Err := Dict.empty
  publication : Option Publication := none
  deriving DecidableEq

/-- `_FinalBarrierController`; `results` are the settled result futures. -/
structure Barrier where
  commands : Dict Nat BarrierCommand := Dict.empty
  commandByGeneration : Dict GenerationId Nat := Dict.empty
  results : Dict Nat (Except Err (List Manifest)) := Dict.empty
  nextCommand : Nat := 0
  deriving DecidableEq

/-- Everything the barrier works on. -/
structure Core where
  parts : ActivePartSet
  barrier : Barrier := {}
  disk : Disk := {}
  clock : Clock
  deriving DecidableEq

namespace Core

/-! ## The coordinator -/

/-- `_register_work` and the start of `sync_batch`, for parts whose claims are sealed. -/
def syncBatch (generations : List GenerationId) (trigger : DurabilityTrigger) : Proc Err Core :=
  fun c =>
    if generations.isEmpty then (some (.valueError "work_items must be nonempty"), c)
    else if ¬ generations.Nodup ∨ generations.any fun g => c.disk.works.any (·.generationId = g)
    then (some (.valueError "file generation already has durability work in flight"), c)
    else
      let batch := c.disk.nextBatch
      let rowsOf (g : GenerationId) : List Record :=
        (((c.parts.part? g).bind (·.claimed)).map (·.rows)).getD []
      (none, { c with
        clock := c.clock.afterMonotonic
        disk := { c.disk with
          works := c.disk.works ++ generations.map fun g => ⟨g, rowsOf g, batch, none⟩
          batches := c.disk.batches.set batch
            { trigger, generations, remaining := generations
              startedMonotonicNs := c.clock.monotonicNs }
          nextBatch := batch + 1 } })

/-- A storage thread takes up the work of a generation: the first clock reading of
`_persist_blocking`. -/
def startSync (g : GenerationId) (c : Core) : Core :=
  if c.disk.works.any fun w => w.generationId = g ∧ w.started = none then
    { c with
      clock := c.clock.afterMonotonic
      disk := { c.disk with
        works := c.disk.works.map fun w =>
          if w.generationId = g ∧ w.started = none then
            { w with started := some c.clock.monotonicNs }
          else w } }
  else c

/-- The message of a file that a storage thread finished at `completed`. -/
def finishMessage (w : Work) (started completed : Nat) : Message :=
  match persistResult w.generationId w.rows started completed with
  | .ok result => .completed result
  | .error e => .failed w.generationId e

/-- A storage thread finishes the work of a generation: the frame is written and synced, and the
completion time is read. -/
def finishSync (g : GenerationId) (compressedBytes : Nat) (c : Core) : Core :=
  match c.disk.works.find? fun w => w.generationId = g ∧ w.started.isSome with
  | none => c
  | some w =>
    let disk := if w.rows.isEmpty then c.disk
      else c.disk.updateFile g fun f =>
        { f with
          frames := f.frames ++ [w.rows]
          compressedSize := f.compressedSize + compressedBytes }
    { c with
      clock := c.clock.afterMonotonic
      disk := { disk with
        works := c.disk.works.filter (· ≠ w)
        unposted := c.disk.unposted ++
          [(w.batch, finishMessage w (w.started.getD 0) c.clock.monotonicNs)] } }

/-- A storage thread fails in the write or in the sync of a generation. -/
def failSync (g : GenerationId) (reason : CriticalReason) (c : Core) : Core :=
  match c.disk.works.find? fun w => w.generationId = g with
  | none => c
  | some w =>
    { c with
      disk := { c.disk with
        works := c.disk.works.filter (· ≠ w)
        unposted := c.disk.unposted ++ [(w.batch, .failed g (.filePersistence reason))] } }

/-- The generation that a message of `_persist_one` is about. -/
def generationOf : Message → Option GenerationId
  | .completed result => some result.generationId
  | .failed g _ => some g
  | _ => none

/-- `_persist_one` posts the outcome of a generation and gives up its part of the batch. -/
def postCompletion (g : GenerationId) (c : Core) : Core :=
  match c.disk.unposted.find? fun e => generationOf e.2 = some g with
  | none => c
  | some e =>
    let failed : List (GenerationId × CriticalReason) :=
      match e.2 with
      | .failed g (.filePersistence reason) => [(g, reason)]
      | .failed g _ => [(g, .syncFailed)]
      | _ => []
    { c with
      disk := { c.disk with
        unposted := c.disk.unposted.filter (· ≠ e)
        queue := c.disk.queue ++ [e.2]
        batches := c.disk.batches.update e.1 fun b =>
          { b with
            remaining := b.remaining.filter (· ≠ g)
            failures := b.failures ++ failed } } }

/-- Whether every file of a batch has posted its outcome. -/
def batchDone (c : Core) (batch : Nat) : Bool :=
  ((c.disk.batches.get? batch).map (·.remaining.isEmpty)).getD false

/-! ## Bookkeeping of the barrier -/

/-- Change a command of the barrier. -/
def updateCommand (c : Core) (id : Nat) (f : BarrierCommand → BarrierCommand) : Core :=
  { c with barrier := { c.barrier with commands := c.barrier.commands.update id f } }

/-- Run a procedure on the part set. -/
def onParts (f : Proc Err ActivePartSet) : Proc Err Core := fun c =>
  ((f c.parts).1, { c with parts := (f c.parts).2 })

/-- Post a message to the completion queue. -/
def post (c : Core) (m : Message) : Core :=
  { c with disk := { c.disk with queue := c.disk.queue ++ [m] } }

/-- `owns_generation`. -/
def ownsGeneration (c : Core) (g : GenerationId) : Bool :=
  c.barrier.commandByGeneration.contains g

/-- `_release_generation`. -/
def releaseGeneration (id : Nat) (g : GenerationId) : Proc Err Core := fun c =>
  let c' := { c with
    barrier := { c.barrier with commandByGeneration := c.barrier.commandByGeneration.erase g } }
  if c.barrier.commandByGeneration.get? g = some id then (none, c')
  else (some (.runtimeError "final barrier generation index is inconsistent"), c')

/-- `_release_command_reservations`. -/
def releaseCommandReservations (id : Nat) (cmd : BarrierCommand) (c : Core) : Core :=
  { c with
    barrier := { c.barrier with
      commandByGeneration :=
        (cmd.workParts.filter fun g => c.barrier.commandByGeneration.get? g = some id).foldl
          Dict.erase c.barrier.commandByGeneration } }

/-- Whether an error is one of the service's own reasons to stop a close. -/
def isLifecycleError : Err → Bool
  | .writerCritical .closeDeadline _ _ => true
  | .writerCritical .oldestUnpersistedAge _ _ => true
  | _ => false

/-- `_critical_from_command`. -/
def criticalFromCommand (cmd : BarrierCommand) : Err :=
  match cmd.fileErrors.values.find? isLifecycleError with
  | some e => e
  | none =>
    let failedFiles := cmd.controlGenerationIds.filter cmd.fileErrors.contains
    let failedControl :=
      match failedFiles, cmd.batchError with
      | [], some (.writerCritical _ affected _) => cmd.controlGenerationIds.filter (· ∈ affected)
      | gs, _ => gs
    if !failedControl.isEmpty then
      .writerCritical .controlDurabilityFailed failedControl
        "associated raw control durability failed"
    else
      match cmd.batchError with
      | some (.writerCritical reason affected message) => .writerCritical reason affected message
      | _ =>
        let failed := cmd.workParts.filter cmd.fileErrors.contains
        let reason : CriticalReason :=
          if cmd.fileErrors.values.any (· = .filePersistence .writeFailed) then .writeFailed
          else .syncFailed
        .writerCritical reason (if failed.isEmpty then cmd.workParts else failed)
          "raw final durability barrier failed"

/-- `_start_failure_cleanup`. -/
def startFailureCleanup (id : Nat) (e : Err) (c : Core) : Core :=
  c.updateCommand id fun cmd => { cmd with publication := some (.cleaning e) }

/-! ## Settling claims -/

/-- The first loop of `_fold_dependencies`. -/
def validateDependencies (c : Core) (deps : List ControlDependency) : Option Err :=
  deps.findSome? fun dep => dep.targets.findSome? fun g =>
    match c.parts.part? g with
    | none => some (.keyError "unknown raw part")
    | some p => p.accumulator.validateDurableControl dep.association p.target

/-- `_fold_dependencies`. -/
def foldDependencies (deps : List ControlDependency) : Proc Err Core := fun c =>
  match c.validateDependencies deps with
  | some e => (some e, c)
  | none =>
    Proc.forEach deps (fun dep => Proc.forEach dep.targets fun g =>
      onParts (ActivePartSet.onPart g (Part.foldDurableControl dep.association))) c

/-- `_settle_claim_message`: whether the claim settled well. -/
def settleClaimMessage (slo : Nat) (id : Nat) (g : GenerationId) (m : Message)
    (deps : List ControlDependency) (c : Core) : Bool × Core :=
  let note (e : Err) (c : Core) : Core :=
    c.updateCommand id fun cmd => { cmd with fileErrors := cmd.fileErrors.set g e }
  match m with
  | .completed result =>
    match onParts (ActivePartSet.onPart g (Part.applyCompletion slo result)) c with
    | (some e, c) =>
      -- the claim is still owned, so it is settled as a sync failure
      (false, note e (onParts (ActivePartSet.onPart g
        (Part.applyFailure (.filePersistence .syncFailed))) c).2)
    | (none, c) =>
      match foldDependencies deps c with
      | (none, c) => (true, c)
      | (some e, c) => (false, note e c)
  | .failed _ error =>
    match onParts (ActivePartSet.onPart g (Part.applyFailure error)) c with
    | (none, c) => (false, note error c)
    | (some e, c) => (false, note e c)
  | _ => (false, c)

/-! ## The final batch -/

/-- `locate_control_identity`: whether the identity is in the claim in flight, or an error. -/
def locateControlIdentity (p : Part) (id : Identity) : Except Err Bool :=
  if p.key.logicalStream ≠ "_control" ∨ id.key.logicalStream ≠ "_control" then
    .error (.valueError "control dependencies require _control identities")
  else
    let pendingMatches := p.pending.countP (·.identity = id)
    let claimedMatches := if (p.claimed.map (·.rows)).any (·.any (·.identity = id)) then 1 else 0
    if pendingMatches + claimedMatches ≠ 1 then
      .error (.valueError "control dependency identity must be exactly one owned claim")
    else .ok (claimedMatches = 1)

/-- `validate_pending_control_identity`. -/
def validatePendingControlIdentity (p : Part) (id : Identity) : Option Err :=
  match locateControlIdentity p id with
  | .error e => some e
  | .ok inClaim =>
    if inClaim ∨ p.claimed.isSome then
      some (.valueError "pending control work is blocked by an in-flight claim")
    else none

/-- The parts of the final batch. -/
def batchParts (cmd : BarrierCommand) : List GenerationId :=
  cmd.parts ++ cmd.workParts.filter fun g => g ∉ cmd.parts ∧ cmd.dependencies.contains g

/-- The checks of `_submit_final_batch` before it seals. -/
def validateFinalBatch (c : Core) (id : Nat) (cmd : BarrierCommand) : Option Err :=
  if ¬ (batchParts cmd).Nodup then
    some (.valueError "final barrier batch generation IDs must be unique")
  else
    match cmd.dependencies.entries.findSome? fun e => e.2.findSome? fun dep =>
        match c.parts.part? e.1 with
        | none => some (.keyError "unknown raw part")
        | some p => validatePendingControlIdentity p dep.controlIdentity with
    | some e => some e
    | none =>
      (batchParts cmd).findSome? fun g =>
        if ((c.parts.part? g).bind (·.claimed)).isSome then
          some (.runtimeError "final batch part still has work in flight")
        else if c.barrier.commandByGeneration.get? g ≠ some id then
          some (.valueError "raw part already belongs to a final barrier")
        else none

/-- `_submit_final_batch`. -/
def submitFinalBatch (id : Nat) : Proc Err Core := fun c =>
  match c.barrier.commands.get? id with
  | none => (some (.keyError "unknown final barrier command"), c)
  | some cmd =>
    if !cmd.remainingPrerequisites.isEmpty then
      (some (.runtimeError "final batch cannot precede prerequisite completion"), c)
    else if cmd.batchTask.isSome ∨ cmd.batchSettled then
      (some (.runtimeError "final durability batch was already submitted"), c)
    else
      match c.validateFinalBatch id cmd with
      | some e => (some e, c)
      | none =>
        match Proc.forEach (batchParts cmd)
            (fun g => onParts (ActivePartSet.onPart g (Part.sealForSync true))) c with
        | (some e, c) => (some e, c)
        | (none, c) =>
          let sealedOnce (g : GenerationId) (dep : ControlDependency) : Bool :=
            ((((c.parts.part? g).bind (·.claimed)).map (·.rows)).getD []).countP
              (·.identity = dep.controlIdentity) = 1
          if cmd.dependencies.entries.any fun e => e.2.any fun dep => !sealedOnce e.1 dep then
            (some (.assertionError "control identity was not sealed into its final barrier work"),
              c)
          else
            let batch := c.disk.nextBatch
            let c := c.updateCommand id fun cmd =>
              { cmd with
                batchGenerationIds := batchParts cmd
                remaining := batchParts cmd }
            match syncBatch (batchParts cmd) cmd.trigger c with
            | (some e, c) =>
              -- the task of the batch exists, and ends with the error
              let c := { c with disk := { c.disk with nextBatch := batch + 1 } }
              (none, (c.updateCommand id fun cmd => { cmd with batchTask := some batch }).post
                (.batchSettled id (some e)))
            | (none, c) =>
              (none, c.updateCommand id fun cmd => { cmd with batchTask := some batch })

/-- `_try_finish_final_barrier`. -/
def tryFinishFinalBarrier (id : Nat) (c : Core) : Core :=
  match c.barrier.commands.get? id with
  | none => c
  | some cmd =>
    if !cmd.remaining.isEmpty ∨ !cmd.batchSettled ∨ cmd.publication.isSome then c
    else if !cmd.fileErrors.entries.isEmpty ∨ cmd.batchError.isSome then
      c.startFailureCleanup id (criticalFromCommand cmd)
    else if (cmd.batchTask.bind c.disk.batches.get?).map
        (fun b => (b.trigger, b.generations)) ≠ some (cmd.trigger, cmd.batchGenerationIds) then
      c.startFailureCleanup id (.writerCritical .syncFailed cmd.workParts
        "raw final durability batch did not match its command")
    else
      match Proc.forEach cmd.parts
          (fun g => onParts (ActivePartSet.onPart g Part.freezeSummary)) c with
      | (some e, c) => c.startFailureCleanup id e
      | (none, c) =>
        c.updateCommand id fun cmd => { cmd with publication := some (.publishing [] cmd.parts) }

/-- `_try_advance_prerequisites`. -/
def tryAdvancePrerequisites (id : Nat) (c : Core) : Core :=
  match c.barrier.commands.get? id with
  | none => c
  | some cmd =>
    if !cmd.remainingPrerequisites.isEmpty ∨ cmd.batchTask.isSome ∨ cmd.batchSettled ∨
        cmd.publication.isSome then c
    else if !cmd.fileErrors.entries.isEmpty then
      (c.releaseCommandReservations id cmd).startFailureCleanup id (criticalFromCommand cmd)
    else
      match submitFinalBatch id c with
      | (none, c) => c
      | (some e, c) =>
        let cmd := { cmd with batchError := some e }
        ((c.updateCommand id fun cmd => { cmd with batchError := some e }).releaseCommandReservations
          id cmd).startFailureCleanup id (criticalFromCommand cmd)

/-! ## Messages -/

/-- `_fail_missing_batch_completions`. -/
def failMissingBatchCompletions (id : Nat) (cmd : BarrierCommand) : Proc Err Core :=
  Proc.forEach (cmd.batchGenerationIds.filter (· ∈ cmd.remaining)) fun g =>
    Proc.seq (releaseGeneration id g) (Proc.modify fun c =>
      ((onParts (ActivePartSet.onPart g
        (Part.applyFailure (.filePersistence .syncFailed))) c).2).updateCommand id fun cmd =>
          { cmd with
            fileErrors := cmd.fileErrors.set g (.filePersistence .syncFailed)
            remaining := cmd.remaining.filter (· ≠ g) })

/-- The reason that `_fail_missing_prerequisite_completions` gives for a generation. -/
def missingReason (error : Option Err) (g : GenerationId) : CriticalReason :=
  match error with
  | some (.writerCritical reason affected _) =>
    if g ∈ affected ∧ (reason = .writeFailed ∨ reason = .syncFailed) then reason else .syncFailed
  | _ => .syncFailed

/-- `_fail_missing_prerequisite_completions`. -/
def failMissingPrerequisites (slo : Nat) (id : Nat) (generations : List GenerationId)
    (error : Option Err) (c : Core) : Core :=
  generations.foldl (fun c g =>
    match c.barrier.commands.get? id with
    | none => c
    | some cmd =>
      if g ∈ cmd.remainingPrerequisites then
        (settleClaimMessage slo id g (.failed g (.filePersistence (missingReason error g))) []
          c).2.updateCommand id fun cmd =>
            { cmd with remainingPrerequisites := cmd.remainingPrerequisites.filter (· ≠ g) }
      else c) c

/-- `_handle_prerequisite_completion`. -/
def handlePrerequisiteCompletion (slo : Nat) (id : Nat) (cmd : BarrierCommand) (g : GenerationId)
    (m : Message) : Proc Err Core := fun c =>
  let claimedIds := ((((c.parts.part? g).bind (·.claimed)).map (·.rows)).getD []).map (·.identity)
  let all := (cmd.dependencies.get? g).getD []
  let durable := all.filter (·.controlIdentity ∈ claimedIds)
  let (succeeded, c) := settleClaimMessage slo id g m durable c
  let pending := all.filter (· ∉ durable)
  let dependencies :=
    if succeeded ∧ !durable.isEmpty then
      if pending.isEmpty then cmd.dependencies.erase g else cmd.dependencies.set g pending
    else cmd.dependencies
  let c := c.updateCommand id fun cmd =>
    { cmd with
      dependencies
      remainingPrerequisites := cmd.remainingPrerequisites.filter (· ≠ g) }
  let requiresFinalBatch := g ∈ cmd.parts ∨ dependencies.contains g
  let released :=
    if succeeded ∧ ¬ requiresFinalBatch then releaseGeneration id g c else (none, c)
  match released with
  | (some e, c) => (some e, c)
  | (none, c) => (none, tryAdvancePrerequisites id c)

/-- The branch of `handle_message` for the completion or failure of a file. -/
def handleFileMessage (slo : Nat) (g : GenerationId) (m : Message) (c : Core) :
    Except Err Bool × Core :=
  match c.barrier.commandByGeneration.get? g with
  | none => (.ok false, c)
  | some id =>
    match c.barrier.commands.get? id with
    | none => (.error (.keyError "unknown final barrier command"), c)
    | some cmd =>
      if g ∈ cmd.remainingPrerequisites then
        match handlePrerequisiteCompletion slo id cmd g m c with
        | (none, c) => (.ok true, c)
        | (some e, c) => (.error e, c)
      else if g ∉ cmd.remaining then
        (.error (.runtimeError "final barrier generation index is inconsistent"), c)
      else
        match releaseGeneration id g c with
        | (some e, c) => (.error e, c)
        | (none, c) =>
          let c := (settleClaimMessage slo id g m ((cmd.dependencies.get? g).getD []) c).2
          let c := c.updateCommand id fun cmd =>
            { cmd with remaining := cmd.remaining.filter (· ≠ g) }
          (.ok true, tryFinishFinalBarrier id c)

/-- `_finish_command`. -/
def finishCommand (id : Nat) (cmd : BarrierCommand) (outcome : Except Err (List Manifest)) :
    Proc Err Core := fun c =>
  if cmd.workParts.any fun g => c.barrier.commandByGeneration.get? g = some id then
    (some (.runtimeError "final barrier generation index was not settled"), c)
  else
    (none, { c with
      barrier := { c.barrier with
        commands := c.barrier.commands.erase id
        results := c.barrier.results.set id outcome } })

/-- `handle_message`. -/
def handleMessage (slo : Nat) (m : Message) (c : Core) : Except Err Bool × Core :=
  match m with
  | .completed result => handleFileMessage slo result.generationId m c
  | .failed g _ => handleFileMessage slo g m c
  | .prerequisiteSettled id batch error =>
    match c.barrier.commands.get? id with
    | none => (.ok true, c)
    | some cmd =>
      match cmd.prerequisiteBatches.get? batch with
      | none =>
        (.error (.valueError "unknown final barrier prerequisite batch settlement"), c)
      | some generations =>
        let c := c.updateCommand id fun cmd =>
          { cmd with prerequisiteBatches := cmd.prerequisiteBatches.erase batch }
        (.ok true, tryAdvancePrerequisites id (failMissingPrerequisites slo id generations error c))
  | .batchSettled id error =>
    match c.barrier.commands.get? id with
    | none => (.error (.valueError "unknown final barrier batch settlement"), c)
    | some cmd =>
      if cmd.batchSettled then
        (.error (.valueError "final barrier batch settled more than once"), c)
      else
        let c := c.updateCommand id fun cmd =>
          { cmd with batchSettled := true, batchError := error }
        match failMissingBatchCompletions id cmd c with
        | (some e, c) => (.error e, c)
        | (none, c) => (.ok true, tryFinishFinalBarrier id c)
  | .publicationSettled id outcome =>
    match c.barrier.commands.get? id with
    | none => (.error (.valueError "unknown final barrier publication settlement"), c)
    | some cmd =>
      if cmd.publication.isNone then
        (.error (.valueError "unknown final barrier publication settlement"), c)
      else
        match finishCommand id cmd outcome c with
        | (some e, c) => (.error e, c)
        | (none, c) => (.ok true, c)

/-! ## Starting a group -/

/-- What must differ between two dependencies of a group (`dependency_identity_keys`). -/
def identityKey (dep : ControlDependency) : GenerationId × Nat × Nat × Nat :=
  (dep.controlPart, dep.controlIdentity.configGeneration, dep.controlIdentity.acceptanceOrdinal,
    dep.controlIdentity.writerSequence)

/-- The checks of `_start_mixed_close_group` on the targets of a dependency; the result is the
extended `fold_keys`. -/
def validateStartTargets (c : Core) (association : ControlAssociation) :
    List GenerationId → List (GenerationId × String) →
      Except Err (List (GenerationId × String))
  | [], foldKeys => .ok foldKeys
  | g :: gs, foldKeys =>
    match c.parts.part? g with
    | none => .error (.keyError "unknown raw part")
    | some p =>
      match p.accumulator.validateDurableControl association p.target with
      | some e => .error e
      | none =>
        if (g, association.controlEventId) ∈ foldKeys then
          .error (.valueError "control event would be folded into a target twice")
        else c.validateStartTargets association gs (foldKeys ++ [(g, association.controlEventId)])

/-- The checks of `_start_mixed_close_group` on its dependencies, from the keys of those that were
checked before. -/
def validateStartDependencies (c : Core) (closing : List GenerationId) :
    List ControlDependency → List (GenerationId × Nat × Nat × Nat) →
      List (GenerationId × String) → Option Err
  | [], _, _ => none
  | dep :: deps, identityKeys, foldKeys =>
    match c.parts.part? dep.controlPart with
    | none => some (.keyError "unknown raw part")
    | some p =>
      match locateControlIdentity p dep.controlIdentity with
      | .error e => some e
      | .ok _ =>
        if ¬ dep.targets.any (· ∈ closing) then
          some (.valueError "control dependency must target a closing raw generation")
        else if identityKey dep ∈ identityKeys then
          some (.valueError "control dependency identity was supplied more than once")
        else
          match c.validateStartTargets dep.association dep.targets foldKeys with
          | .error e => some e
          | .ok foldKeys =>
            c.validateStartDependencies closing deps (identityKeys ++ [identityKey dep]) foldKeys

/-- The command that `_start_mixed_close_group` builds. -/
def newCommand (c : Core) (members : List CloseMember) (trigger : DurabilityTrigger)
    (deps : List ControlDependency) : BarrierCommand :=
  let parts := members.map (·.generationId)
  let dependencies := deps.foldl
    (fun d dep => d.set dep.controlPart ((d.get? dep.controlPart).getD [] ++ [dep])) Dict.empty
  let workParts := parts ++ dependencies.keys.filter (· ∉ parts)
  let inFlight := workParts.filter fun g => ((c.parts.part? g).bind (·.claimed)).isSome
  { parts
    workParts
    trigger
    dependencies
    controlGenerationIds := workParts.filter fun g =>
      ((c.parts.part? g).map (·.key.logicalStream)) = some "_control"
    prerequisiteBatches := inFlight.foldl
      (fun d g =>
        match (c.parts.part? g).bind (·.claimBatch) with
        | some batch => d.set batch ((d.get? batch).getD [] ++ [g])
        | none => d) Dict.empty
    remainingPrerequisites := inFlight }

/-- The checks of `_start_mixed_close_group`. -/
def validateStart (c : Core) (members : List CloseMember) (deps : List ControlDependency)
    (cmd : BarrierCommand) : Option Err :=
  if ¬ cmd.parts.Nodup then some (.valueError "final barrier generation IDs must be unique")
  else
    match members.findSome? fun m =>
        match c.parts.part? m.generationId with
        | none => some (.keyError "unknown raw part")
        | some p =>
          p.validateFinalBarrier (c.disk.file m.generationId).closed m.reason m.closedAtNs with
    | some e => some e
    | none =>
      match c.validateStartDependencies cmd.parts deps [] [] with
      | some e => some e
      | none =>
        if cmd.workParts.any c.ownsGeneration then
          some (.valueError "raw part already belongs to a final barrier")
        else if cmd.remainingPrerequisites.any fun g =>
            ((c.parts.part? g).bind (·.claimBatch)).isNone then
          some (.valueError "in-flight raw claim requires a batch settlement task")
        else none

/-- `_start_mixed_close_group`. -/
def startMixedCloseGroup (members : List CloseMember) (trigger : DurabilityTrigger)
    (deps : List ControlDependency) : Proc Err Core := fun c =>
  let cmd := c.newCommand members trigger deps
  match c.validateStart members deps cmd with
  | some e => (some e, c)
  | none =>
    let id := c.barrier.nextCommand
    let parts := members.foldl
      (fun s m => s.updatePart m.generationId (·.retire m.reason m.closedAtNs)) c.parts
    let c := { c with
      parts
      barrier := { c.barrier with
        commands := c.barrier.commands.set id cmd
        commandByGeneration :=
          cmd.workParts.foldl (fun d g => d.set g id) c.barrier.commandByGeneration
        nextCommand := id + 1 } }
    if cmd.remainingPrerequisites.isEmpty then submitFinalBatch id c else (none, c)

/-- `close_mixed_group` up to its wait for the result: an error of the start is its result. -/
def closeMixedGroup (members : List CloseMember) (trigger : DurabilityTrigger)
    (deps : List ControlDependency) (c : Core) : Nat × Core :=
  let id := c.barrier.nextCommand
  match startMixedCloseGroup members trigger deps c with
  | (none, c) => (id, c)
  | (some e, c) =>
    (id, { c with
      barrier := { c.barrier with
        results := c.barrier.results.set id (.error e)
        nextCommand := id + 1 } })

/-! ## The tasks of a command -/

/-- A queued settlement of the final batch of a command. -/
def settlesBatch (id : Nat) : Message → Bool
  | .batchSettled i _ => i = id
  | _ => false

/-- A queued settlement of a prerequisite batch of a command. -/
def settlesPrerequisite (id batch : Nat) : Message → Bool
  | .prerequisiteSettled i b _ => i = id ∧ b = batch
  | _ => false

/-- The done callback of a final batch; it runs once. -/
def settleBatch (id : Nat) (c : Core) : Core :=
  match c.barrier.commands.get? id with
  | none => c
  | some cmd =>
    match cmd.batchTask with
    | none => c
    | some batch =>
      if c.batchDone batch ∧ !cmd.batchSettled ∧ !c.disk.queue.any (settlesBatch id) then
        c.post (.batchSettled id ((c.disk.batches.get? batch).bind (·.error?)))
      else c

/-- The done callback of a prerequisite batch; it runs once. -/
def settlePrerequisite (id batch : Nat) (c : Core) : Core :=
  match c.barrier.commands.get? id with
  | none => c
  | some cmd =>
    if c.batchDone batch ∧ cmd.prerequisiteBatches.contains batch ∧
        !c.disk.queue.any (settlesPrerequisite id batch) then
      c.post (.prerequisiteSettled id batch ((c.disk.batches.get? batch).bind (·.error?)))
    else c

/-- `_publish_one` of the next part: its descriptor is closed, its data file and its manifest are
published. -/
def publishPart (id : Nat) (c : Core) : Core :=
  match (c.barrier.commands.get? id).bind (·.publication) with
  | some (.publishing done (g :: rest)) =>
    match c.parts.part? g with
    | none => c
    | some p =>
      { c with
        disk := c.disk.updateFile g fun f =>
          { f with closed := true, published := some p.buildManifest } }.updateCommand id fun cmd =>
            { cmd with publication := some (.publishing (done ++ [p.buildManifest]) rest) }
  | _ => c

/-- Close the descriptors of a list of parts. -/
def closeFiles (gs : List GenerationId) (c : Core) : Core :=
  { c with disk := gs.foldl (fun d g => d.updateFile g fun f => { f with closed := true }) c.disk }

/-- The publication task ends: after its last part, after a failed `_publish_one`
(`failed = true`), or after `_close_then_raise`. -/
def endPublication (id : Nat) (failed : Bool) (c : Core) : Core :=
  match c.barrier.commands.get? id with
  | none => c
  | some cmd =>
    let finish (outcome : Except Err (List Manifest)) (c : Core) : Core :=
      c.updateCommand id fun cmd => { cmd with publication := some (.finished outcome) }
    match cmd.publication with
    | some (.publishing done []) => finish (.ok done) c
    | some (.publishing _ (g :: rest)) =>
      if failed then
        finish (.error (.writerCritical .publicationFailed (g :: rest)
          "raw immutable publication failed")) (c.closeFiles (g :: rest))
      else c
    | some (.cleaning e) => finish (.error e) (c.closeFiles cmd.parts)
    | _ => c

/-- The done callback of the publication task. -/
def settlePublication (id : Nat) (c : Core) : Core :=
  match (c.barrier.commands.get? id).bind (·.publication) with
  | some (.finished outcome) =>
    (c.updateCommand id fun cmd => { cmd with publication := some .settled }).post
      (.publicationSettled id outcome)
  | _ => c

end Core

end CryptoCollector.Storage
