import CryptoCollector.Storage.Barrier

/-!
# Sessions of a final barrier controller

A `_FinalBarrierController` together with what happens around it: parts are installed and filled,
their owner syncs the parts that no close command owns, close groups are started, and messages are
delivered in any order. Of the messages it is assumed that the outcome of a file comes at most
once, while its work is in flight and before a settlement of its batch is delivered, and that each
done callback of a task runs once. What a message says is free: any result, any error, and any
report of the coordinator for a batch.

`reported` and `published` are history variables.
-/

namespace CryptoCollector.Storage

open Lib

/-- A done callback of a batch task that has not run yet. -/
inductive Callback where
  | prerequisite (command batch : Nat)
  | batch (command : Nat)
  deriving DecidableEq

/-- The callbacks that a command waits for. -/
def BarrierCommand.callbacks (id : Nat) (cmd : BarrierCommand) : List Callback :=
  cmd.prerequisiteBatches.keys.map (Callback.prerequisite id) ++
    if cmd.batchTask.isSome ∧ !cmd.batchSettled then [.batch id] else []

namespace Core

/-- The callbacks that the commands wait for. -/
def callbacks (c : Core) : List Callback :=
  c.barrier.commands.entries.flatMap fun e => e.2.callbacks e.1

/-- The claim of a generation that is in flight. -/
def claimOf (c : Core) (g : GenerationId) : Option Claimed :=
  (c.parts.part? g).bind (·.claimed)

/-- The rows of the claim in flight. -/
def claimRows (c : Core) (g : GenerationId) : List Record :=
  ((c.claimOf g).map (·.rows)).getD []

/-- The work of a generation is done. -/
def dropWork (g : GenerationId) (c : Core) : Core :=
  { c with disk := { c.disk with works := c.disk.works.filter (·.generationId ≠ g) } }

/-- A batch is settled: no outcome of its files comes any more. -/
def dropBatch (batch : Nat) (c : Core) : Core :=
  { c with disk := { c.disk with works := c.disk.works.filter (·.batch ≠ batch) } }

/-- A message is taken from the completion queue. -/
def dropMessage (m : Message) (c : Core) : Core :=
  { c with disk := { c.disk with queue := c.disk.queue.filter (· ≠ m) } }

/-- The owner of a part settles its claim with a message that the controller does not handle. -/
def settleOwn (slo : Nat) (m : Message) (c : Core) : Core :=
  match m with
  | .completed result =>
    match onParts
        (ActivePartSet.onPart result.generationId (Part.applyCompletion slo result)) c with
    | (none, c) => c
    | (some e, c) =>
      (onParts (ActivePartSet.onPart result.generationId (Part.applyFailure e)) c).2
  | .failed g e => (onParts (ActivePartSet.onPart g (Part.applyFailure e)) c).2
  | _ => c

/-- The owner of parts with sealed work starts a batch for them. -/
def startBatch (gs : List GenerationId) (trigger : DurabilityTrigger) (c : Core) : Core :=
  match syncBatch gs trigger c with
  | (some _, _) => c
  | (none, c') =>
    { c' with
      parts := gs.foldl
        (fun s g => s.updatePart g fun p => { p with claimBatch := some c.disk.nextBatch })
        c'.parts }

end Core

/-- A controller and its surroundings. `reported` are the records of the claims for which a
completion was delivered, `groups` the parts and the dependencies of every command that was
started, `published` the parts and the manifests that the publication task of a command has
published. -/
structure Session where
  core : Core
  awaited : List Callback := []
  reported : List (GenerationId × Record) := []
  groups : Dict Nat (List GenerationId × List ControlDependency) := Dict.empty
  published : List (Nat × GenerationId × Manifest) := []
  deriving DecidableEq

/-- What can happen in a session. -/
inductive SessionEvent where
  | install (path : PartPath) (createdAtNs receivedHour : Nat) (configSha256 : String)
      (configGeneration : Nat)
  | append (g : GenerationId) (maxPlainFrameBytes : Nat) (r : Record)
  | sealForSync (g : GenerationId)
  | sealOversized (g : GenerationId) (maxPlainFrameBytes : Nat) (r : Record)
  | startBatch (gs : List GenerationId) (trigger : DurabilityTrigger)
  | report (batch : Nat) (b : Batch)
  | start (member : CloseMember) (members : List CloseMember) (trigger : DurabilityTrigger)
      (deps : List ControlDependency)
  | deliver (m : Message)
  | publishPart (id : Nat)
  | endPublication (id : Nat) (failed : Bool)
  | settlePublication (id : Nat)

namespace Session

/-- A session before anything has happened. -/
def initial (configSha256 : String) (configGeneration : Nat) (clock : Clock) : Session where
  core :=
    { parts := { configSha256, configGeneration, nextPartSequence := 0 }
      clock }

/-- The callback that posts a message. -/
def callbackOf : Message → Option Callback
  | .prerequisiteSettled id batch _ => some (.prerequisite id batch)
  | .batchSettled id _ => some (.batch id)
  | _ => none

/-- Whether a message may be delivered now. -/
def permits (s : Session) : Message → Bool
  | .completed result => s.core.disk.works.any (·.generationId = result.generationId)
  | .failed g _ => s.core.disk.works.any (·.generationId = g)
  | .prerequisiteSettled id batch _ => .prerequisite id batch ∈ s.awaited
  | .batchSettled id _ => .batch id ∈ s.awaited
  | .publicationSettled id outcome => .publicationSettled id outcome ∈ s.core.disk.queue

/-- The state in which the controller is handed a message. -/
def received (s : Session) (m : Message) : Core :=
  match m with
  | .completed result => s.core.dropWork result.generationId
  | .failed g _ => s.core.dropWork g
  | .prerequisiteSettled _ batch _ => s.core.dropBatch batch
  | .batchSettled id _ =>
    match (s.core.barrier.commands.get? id).bind (·.batchTask) with
    | some batch => s.core.dropBatch batch
    | none => s.core
  | .publicationSettled _ _ => s.core.dropMessage m

/-- The controller has done something; the callbacks of new tasks are awaited. -/
def observe (s : Session) (core : Core) : Session :=
  { s with
    core
    awaited := s.awaited ++ core.callbacks.filter (· ∉ s.core.callbacks) }

/-- The records that a message reports as durable. -/
def reports (s : Session) : Message → List (GenerationId × Record)
  | .completed result => (s.core.claimRows result.generationId).map (result.generationId, ·)
  | _ => []

/-- A message is delivered. -/
def deliver (slo : Nat) (m : Message) (s : Session) : Session :=
  let s' :=
    match (s.received m).handleMessage slo m with
    | (.ok false, core) => s.observe (core.settleOwn slo m)
    | (_, core) => s.observe core
  { s' with
    awaited := s'.awaited.filter fun callback => callbackOf m ≠ some callback
    reported := s.reported ++ s.reports m }

/-- A close group is started. -/
def start (members : List CloseMember) (trigger : DurabilityTrigger)
    (deps : List ControlDependency) (s : Session) : Session :=
  let id := s.core.barrier.nextCommand
  let core := (s.core.startMixedCloseGroup members trigger deps).2
  { s.observe core with
    groups :=
      if core.barrier.commands.contains id then
        s.groups.set id (members.map (·.generationId), deps)
      else s.groups }

/-- What `publishPart` publishes for a command. -/
def publishing (s : Session) (id : Nat) : List (Nat × GenerationId × Manifest) :=
  match (s.core.barrier.commands.get? id).bind (·.publication) with
  | some (.publishing _ (g :: _)) =>
    (s.core.parts.part? g).toList.map fun p => (id, g, p.buildManifest)
  | _ => []

/-- One event; none when it cannot happen now. -/
def step (slo : Nat) (s : Session) : SessionEvent → Option Session
  | .install path createdAtNs receivedHour configSha256 configGeneration =>
    if (s.core.parts.part? path.partSequence).isSome then none
    else
      let part : Part := { path, createdAtNs, receivedHour, configSha256, configGeneration }
      some { s with core := { s.core with
        parts := { s.core.parts with store := s.core.parts.store.set path.partSequence part } } }
  | .append g maxPlainFrameBytes r =>
    some { s with core := (Core.onParts (ActivePartSet.onPart g
      (Part.appendAccepted maxPlainFrameBytes r)) s.core).2 }
  | .sealForSync g =>
    if s.core.ownsGeneration g then none
    else some { s with core := (Core.onParts (ActivePartSet.onPart g
      (Part.sealForSync false)) s.core).2 }
  | .sealOversized g maxPlainFrameBytes r =>
    if s.core.ownsGeneration g then none
    else some { s with core := (Core.onParts (ActivePartSet.onPart g
      (Part.sealOversized maxPlainFrameBytes r)) s.core).2 }
  | .startBatch gs trigger =>
    if gs.any fun g => s.core.ownsGeneration g ∨ (s.core.claimOf g).isNone then none
    else some { s with core := s.core.startBatch gs trigger }
  | .report batch b =>
    some { s with core := { s.core with
      disk := { s.core.disk with batches := s.core.disk.batches.set batch b } } }
  | .start member members trigger deps => some (s.start (member :: members) trigger deps)
  | .deliver m => if s.permits m then some (s.deliver slo m) else none
  | .publishPart id =>
    some { s with
      core := s.core.publishPart id
      published := s.published ++ s.publishing id }
  | .endPublication id failed => some { s with core := s.core.endPublication id failed }
  | .settlePublication id => some { s with core := s.core.settlePublication id }

/-- A run of events. -/
def run (slo : Nat) (s : Session) (events : List SessionEvent) : Option Session :=
  events.foldlM (step slo) s

end Session

end CryptoCollector.Storage
