import CryptoCollector.Lib.Coroutine
import CryptoCollector.Storage.Service.Steps

/-!
# The service as a machine

All actions on the state of the service: calls of clients, events of the storage threads, and the
steps of the actor. The first two happen while the actor is suspended.
-/

namespace CryptoCollector.Storage

open Lib Proc

/-- Calls of clients, and the timer. -/
inductive Call where
  | tryAccept (draft : Draft) (shard : String)
  | syncNow
  | rotateDueFiles
  | rotateForConfig (sha : String) (generation : Nat)
  | closeAll (reason : CloseReason) (deadlineNs : Nat)
  | markIncomplete (reason : String)
  | status
  | metricsSnapshot

/-- What a call does. -/
def Call.exec (p : Params) : Call → Proc Err Writer
  | .tryAccept d shard => fun w =>
    match w.tryAccept p d shard with
    | (.ok _, w) => (none, w)
    | (.error e, w) => (some e, w)
  | .syncNow => modify (Writer.enqueueCommand .sync)
  | .rotateDueFiles => modify (Writer.enqueueCommand .rotateDue)
  | .rotateForConfig sha generation => Writer.rotateForConfig sha generation
  | .closeAll reason deadlineNs => Writer.closeAll reason deadlineNs
  | .markIncomplete reason => Writer.markIncomplete reason
  | .status => fun w =>
    match w.buildStatus p with
    | (.ok _, w) => (none, w)
    | (.error e, w) => (some e, w)
  | .metricsSnapshot => fun w =>
    match w.metricsSnapshot p with
    | (.ok _, w) => (none, w)
    | (.error e, w) => (some e, w)

/-- Events of the storage threads and of the tasks of the coordinator and the barrier. -/
inductive StorageEvent where
  | startSync (g : GenerationId)
  | finishSync (g : GenerationId) (compressedBytes : Nat)
  | failSync (g : GenerationId) (reason : CriticalReason)
  | postCompletion (g : GenerationId)
  | settleBatch (command : Nat)
  | settlePrerequisite (command batch : Nat)
  | publishPart (command : Nat)
  | endPublication (command : Nat) (failed : Bool)
  | settlePublication (command : Nat)

/-- What a storage event does. -/
def StorageEvent.exec : StorageEvent → Core → Core
  | .startSync g => Core.startSync g
  | .finishSync g bytes => Core.finishSync g bytes
  | .failSync g reason => Core.failSync g reason
  | .postCompletion g => Core.postCompletion g
  | .settleBatch command => Core.settleBatch command
  | .settlePrerequisite command batch => Core.settlePrerequisite command batch
  | .publishPart command => Core.publishPart command
  | .endPublication command failed => Core.endPublication command failed
  | .settlePublication command => Core.settlePublication command

/-- The steps of the actor. -/
inductive Step where
  | clearWork
  | setWork
  | takeCommand
  | endCommand
  | settleCommand
  | clearPeriodic
  | beginDrain
  | endDrain
  | drainOne (shard : String)
  | releaseShard (shard : String)
  | ensureCurrent (shard : String)
  | reservePart (shard : String)
  | installPart (shard : String)
  | beginInitial (shards : List String)
  | commitReserved (shards : List String)
  | rollbackReserved (shards : List String)
  | appendDrained (shard : String) (allowStorageIo : Bool)
  | pendHour (shard : String)
  | appendDeferred (g : GenerationId)
  | sealDeferred (g : GenerationId)
  | popDeferred (g : GenerationId)
  | dropDeferred (g : GenerationId)
  | invalidate
  | syncParts (gs : List GenerationId) (trigger : DurabilityTrigger)
  | startStorage
  | handleNext
  | dropUnownedFinal
  | beginOldestCritical
  | setCriticalDraining (draining : Bool)
  | beginRotations
  | commitRotations
  | enterRotating
  | finishRotation
  | discardEmpty (g : GenerationId) (failure : Option Err)
  | enterClose (members : List CloseMember) (trigger : DurabilityTrigger)
  | publicationFailed (e : Err)
  | finishClose
  | beginClose (reason : CloseReason) (deadlineNs : Nat)
  | clearDeadline
  | closeDone (manifests : List Manifest)
  | prepareConfig (generation : Nat)
  | commitConfig (sha : String) (generation : Nat)
  | incomplete (reason : String)
  | acceptRecovery (draft : Draft)
  | installRecovery
  | appendRecovery
  | endRecovery (failed : Bool)
  | startupDone
  | evaluateSlo
  | captureTerminalError (e : Err)
  | setStopping
  | releaseResources
  | finishRun

/-- What a step of the actor does. -/
def Step.exec (p : Params) : Step → Proc Err Writer
  | .clearWork => modify fun w => { w with loop := { w.loop with workEvent := false } }
  | .setWork => modify fun w => { w with loop := { w.loop with workEvent := true } }
  | .takeCommand => modify Writer.takeCommand
  | .endCommand => modify Writer.endCommand
  | .settleCommand => modify Writer.settleCommand
  | .clearPeriodic => modify fun w => { w with loop := { w.loop with periodicDue := false } }
  | .beginDrain => Writer.beginDrain
  | .endDrain => modify Writer.endDrain
  | .drainOne shard => Writer.drainOne shard
  | .releaseShard shard => modify (Writer.releaseShard shard)
  | .ensureCurrent shard => modify (Writer.ensureCurrent shard)
  | .reservePart shard => modify (Writer.reservePart shard)
  | .installPart shard => Writer.installPart shard
  | .beginInitial shards => Writer.beginInitial shards
  | .commitReserved shards => Writer.commitReserved shards
  | .rollbackReserved shards => Writer.rollbackReserved shards
  | .appendDrained shard allowStorageIo => Writer.appendDrained p shard allowStorageIo
  | .pendHour shard => modify (Writer.pendHour shard)
  | .appendDeferred g => Writer.appendDeferred p g
  | .sealDeferred g => Writer.sealDeferred p g
  | .popDeferred g => modify (Writer.popDeferred g)
  | .dropDeferred g => modify (Writer.dropDeferred g)
  | .invalidate => modify Writer.invalidate
  | .syncParts gs trigger => Writer.syncParts gs trigger
  | .startStorage => modify Writer.startStorage
  | .handleNext => Writer.handleNext p
  | .dropUnownedFinal => modify Writer.dropUnownedFinal
  | .beginOldestCritical => modify (Writer.beginOldestCritical p)
  | .setCriticalDraining draining =>
    modify fun w => { w with life := { w.life with criticalDraining := draining } }
  | .beginRotations => Writer.beginRotations p
  | .commitRotations => Writer.commitRotations p
  | .enterRotating => modify Writer.enterRotating
  | .finishRotation => modify Writer.finishRotation
  | .discardEmpty g failure => Writer.discardEmpty g failure
  | .enterClose members trigger => Writer.enterClose p members trigger
  | .publicationFailed e => modify (Writer.publicationFailed e)
  | .finishClose => modify Writer.finishClose
  | .beginClose reason deadlineNs => Writer.beginClose p reason deadlineNs
  | .clearDeadline => modify Writer.clearDeadline
  | .closeDone manifests => modify (Writer.closeDone manifests)
  | .prepareConfig generation => Writer.prepareConfig p generation
  | .commitConfig sha generation => Writer.commitConfig sha generation
  | .incomplete reason => Writer.incomplete p reason
  | .acceptRecovery d => Writer.acceptRecovery p d
  | .installRecovery => Writer.installRecovery
  | .appendRecovery => Writer.appendRecovery p
  | .endRecovery failed => modify (Writer.endRecovery failed)
  | .startupDone => modify Writer.startupDone
  | .evaluateSlo => Writer.evaluateSloNow p
  | .captureTerminalError e => modify (Writer.captureTerminalError p e)
  | .setStopping => modify fun w => { w with life := { w.life with stopping := true } }
  | .releaseResources => modify (Writer.releaseResources p)
  | .finishRun => modify Writer.finishRun

/-- The actions on the service. -/
inductive Act where
  | call (c : Call)
  | tick
  | storage (e : StorageEvent)
  | resolveTask (failure : Option Err)
  | step (s : Step)

/-- The history remembers that a step of the actor has raised. -/
def noteRaised (r : Option Err × Writer) : Option Err × Writer :=
  if r.1.isSome then (r.1, { r.2 with history := { r.2.history with raised := true } }) else r

/-- What an action does. -/
def Act.exec (p : Params) : Act → Proc Err Writer
  | .call c => Writer.whenOpened (c.exec p)
  | .tick => modify Writer.tick
  | .storage e => modify fun w => { w with core := e.exec w.core }
  | .resolveTask failure => modify (Writer.resolveTask failure)
  | .step s => fun w => noteRaised (s.exec p w)

/-- Whether an action comes from outside the actor. -/
def Act.outside : Act → Bool
  | .step _ => false
  | _ => true

/-- The service with its clients and its storage threads. -/
@[reducible] def service (p : Params) : Machine where
  State := Writer
  Act := Act
  Err := Err
  exec := Act.exec p
  outside := Act.outside

instance {p : Params} (P : Act → Writer → Prop) [∀ a w, Decidable (P a w)]
    (e : Machine.Entry (service p)) : Decidable (Machine.Entry.Sat (M := service p) P e) :=
  match e with
  | .step a w => inferInstanceAs (Decidable (P a w))
  | .wait _ => isTrue trivial

/-- What the actor is told when it resumes: which of the waiters of `_pump_task` are done, whether
the wait for a message was done a little later, and how a storage call ended. -/
structure Told where
  message : Bool := false
  wake : Bool := false
  late : Bool := false
  failure : Option Err := none

/-- Coroutines of the service. -/
abbrev Actor (p : Params) (α : Type) := Co (service p) Told α

end CryptoCollector.Storage
