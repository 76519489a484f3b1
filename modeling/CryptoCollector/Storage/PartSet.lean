import CryptoCollector.Storage.Part
import Mathlib.Data.List.Sort

/-!
# The set of active parts

`storage/raw_writer.py: _ActivePartSet`. Parts are shared by reference between the active set,
the service and the final barrier; `store` is that heap, and a generation id is a reference into
it. A part object comes into being at the moment it is installed: between its materialisation in
a storage thread and its installation the coroutine does not suspend.
-/

namespace CryptoCollector.Storage

open Lib

/-- `_ActivePartReservation`. -/
structure Reservation where
  path : PartPath
  createdAtNs : Nat
  deriving DecidableEq

namespace Reservation

/-- The generation id drawn for the reservation. -/
def generationId (r : Reservation) : GenerationId := r.path.partSequence

/-- The logical key of the reservation. -/
def key (r : Reservation) : LogicalKey := r.path.key

/-- `received_hour`. -/
def receivedHour (r : Reservation) : Nat := r.path.partStartNs / hourNs

/-- The reservation as a control target. -/
def target (r : Reservation) : ControlTarget := ⟨r.generationId, r.path⟩

end Reservation

/-- `_ActivePartEntry`. -/
inductive ActiveEntry where
  | part (generationId : GenerationId)
  | reserved (reservation : Reservation)
  deriving DecidableEq

/-- `_ActivePartRotation`. -/
structure Rotation where
  current : GenerationId
  reservation : Reservation
  reason : CloseReason
  closedAtNs : Nat
  deriving DecidableEq

/-- `_ActivePartSet`. -/
structure ActivePartSet where
  configSha256 : String
  configGeneration : Nat
  nextPartSequence : Nat
  active : Dict LogicalKey ActiveEntry := Dict.empty
  store : Dict GenerationId Part := Dict.empty
  deriving DecidableEq

namespace ActivePartSet

/-- The part object of a generation id. -/
def part? (s : ActivePartSet) (g : GenerationId) : Option Part := s.store.get? g

/-- Change a part object. -/
def updatePart (s : ActivePartSet) (g : GenerationId) (f : Part → Part) : ActivePartSet :=
  { s with store := s.store.update g f }

/-- Run a procedure of a part object. -/
def onPart (g : GenerationId) (f : Proc Err Part) : Proc Err ActivePartSet := fun s =>
  match s.part? g with
  | none => (some (.keyError "unknown raw part"), s)
  | some p => ((f p).1, s.updatePart g fun _ => (f p).2)

/-- The received-hour start of a record. -/
def partStartOf (r : Record) : Nat := r.receivedAtNs / hourNs * hourNs

/-- The reservation that `reserve_part` returns. -/
def reservationFor (s : ActivePartSet) (r : Record) : Reservation where
  path := ⟨r.key, partStartOf r, s.nextPartSequence⟩
  createdAtNs := r.receivedAtNs

/-- The sequence number that `reserve_part` consumes. -/
def bumpSequence (s : ActivePartSet) : ActivePartSet :=
  { s with nextPartSequence := s.nextPartSequence + 1 }

/-- `begin_initial_reservation`. -/
def beginInitialReservation (r : Record) : Proc Err ActivePartSet := fun s =>
  if s.active.contains r.key then
    (some (.valueError "logical identity already has an active raw part"), s)
  else
    (none, { s.bumpSequence with
      active := s.active.set r.key (.reserved (s.reservationFor r)) })

/-- The checks of `materialize_reserved` before it touches the file system. -/
def validateMaterialize (s : ActivePartSet) (v : Reservation) (r : Record) : Option Err :=
  if r.identity.configSha256 ≠ s.configSha256 ∨ r.identity.configGeneration ≠ s.configGeneration
  then some (.valueError "record config does not match active part set")
  else if v.key ≠ r.key then
    some (.valueError "reservation logical identity does not match record")
  else if v.receivedHour ≠ r.receivedHour then
    some (.valueError "reservation path does not match its record")
  else none

/-- The part that `_ActivePart.allocate` builds for a reservation. -/
def allocate (v : Reservation) (r : Record) (createdAtNs : Nat) : Part where
  path := v.path
  createdAtNs := createdAtNs
  receivedHour := r.receivedHour
  configSha256 := r.identity.configSha256
  configGeneration := r.identity.configGeneration

/-- Put a fresh part object under a key. -/
def install (s : ActivePartSet) (key : LogicalKey) (p : Part) : ActivePartSet :=
  { s with
    store := s.store.set p.generationId p
    active := s.active.set key (.part p.generationId) }

/-- `commit_reserved_batch`. -/
def commitReservedBatch (batch : List (Reservation × Part)) : Proc Err ActivePartSet := fun s =>
  if batch.isEmpty then
    (some (.valueError "materialized reservation batch must be nonempty"), s)
  else if batch.any fun e => s.active.get? e.1.key ≠ some (.reserved e.1) then
    (some (.valueError "initial reservation is no longer logical-active"), s)
  else if batch.any fun e => e.2.path ≠ e.1.path ∨ e.2.receivedHour ≠ e.1.receivedHour ∨
      e.2.recordCount ≠ 0 then
    (some (.valueError "materialized part does not match its reservation"), s)
  else if ¬ (batch.map (·.1.key)).Nodup then
    (some (.valueError "materialized reservation batch has duplicate identities"), s)
  else (none, batch.foldl (fun s e => s.install e.1.key e.2) s)

/-- `rollback_reserved_batch`. -/
def rollbackReservedBatch (reservations : List Reservation) : Proc Err ActivePartSet := fun s =>
  if reservations.isEmpty then
    (some (.valueError "reservation rollback batch must be nonempty"), s)
  else if reservations.any fun v => s.active.get? v.key ≠ some (.reserved v) then
    (some (.valueError "initial reservation is no longer logical-active"), s)
  else if ¬ (reservations.map (·.key)).Nodup then
    (some (.valueError "reservation rollback batch has duplicate identities"), s)
  else (none, { s with active := s.active.filter fun k => k ∉ reservations.map (·.key) })

/-- `install_reserved`. -/
def installReserved (v : Reservation) (p : Part) : Proc Err ActivePartSet := fun s =>
  if (s.active.get? v.key).any (· ≠ .reserved v) then
    (some (.valueError "logical identity already has an active raw part"), s)
  else if p.path ≠ v.path then
    (some (.valueError "materialized part does not match its reservation"), s)
  else (none, s.install v.key p)

/-- `replace_reserved_for_hour`. -/
def replaceReservedForHour (v : Reservation) (p : Part) (closedAtNs : Nat) :
    Proc Err ActivePartSet := fun s =>
  match s.active.get? v.key with
  | none => (some (.valueError "hour replacement requires an active raw part"), s)
  | some current =>
    if p.path ≠ v.path then
      (some (.valueError "materialized part does not match its reservation"), s)
    else
      match current with
      | .reserved c =>
        if c.receivedHour = p.receivedHour then
          (some (.valueError "hour replacement must change the received UTC hour"), s)
        else (none, s.install v.key p)
      | .part g =>
        match s.part? g with
        | none => (some (.keyError "unknown raw part"), s)
        | some c =>
          if c.receivedHour = p.receivedHour then
            (some (.valueError "hour replacement must change the received UTC hour"), s)
          else
            match c.validateRetirement .rotateTime closedAtNs with
            | some e => (some e, s)
            | none =>
              (none, (s.updatePart g (·.retire .rotateTime closedAtNs)).install v.key p)

/-- `active_parts`, in the order of their data paths. -/
def activeParts (layout : PartPath → String) (s : ActivePartSet) : List Part :=
  (s.active.entries.filterMap fun e =>
    match e.2 with
    | .part g => s.part? g
    | .reserved _ => none).insertionSort fun a b => layout a.path ≤ layout b.path

/-- `active_entry_for`. -/
def activeEntryFor (s : ActivePartSet) (r : Record) : Option ActiveEntry := s.active.get? r.key

/-- `active_part_for`. -/
def activePartFor (s : ActivePartSet) (r : Record) : Option Part :=
  match s.active.get? r.key with
  | some (.part g) => s.part? g
  | _ => none

/-- `active_part_for_logical_identity`, as a control target. -/
def activeTarget (s : ActivePartSet) (key : LogicalKey) : Option ControlTarget :=
  match s.active.get? key with
  | some (.part g) => (s.part? g).map (·.target)
  | some (.reserved v) => some v.target
  | none => none

/-- `part_for_generation`. -/
def isActiveGeneration (s : ActivePartSet) (g : GenerationId) : Bool :=
  s.active.entries.any fun e => e.2 = .part g

/-- Why an active part is due for rotation, if it is. -/
def dueReason (maxCompressedSizeBytes rotateIntervalNs now compressedSize : Nat) (p : Part) :
    Option CloseReason :=
  if p.recordCount = 0 then none
  else if maxCompressedSizeBytes ≤ compressedSize then some .rotateSize
  else if p.createdAtNs + rotateIntervalNs ≤ now then some .rotateTime
  else none

/-- `_reserve_replacement`. -/
def reserveReplacement (s : ActivePartSet) (p : Part) (createdAtNs : Nat) : Reservation where
  path := ⟨p.key, p.path.partStartNs, s.nextPartSequence⟩
  createdAtNs := createdAtNs

/-- The loop of `plan_due_rotations` over the active entries. -/
def planEntries (due : Part → Option CloseReason) (now : Nat) :
    List (LogicalKey × ActiveEntry) → ActivePartSet → Except Err (List Rotation) × ActivePartSet
  | [], s => (.ok [], s)
  | (_, .reserved _) :: es, s => planEntries due now es s
  | (_, .part g) :: es, s =>
    match s.part? g with
    | none => (.error (.keyError "unknown raw part"), s)
    | some p =>
      match due p with
      | none => planEntries due now es s
      | some reason =>
        match p.validateRetirement reason now with
        | some e => (.error e, s)
        | none =>
          let plan : Rotation := ⟨g, s.reserveReplacement p now, reason, now⟩
          match planEntries due now es s.bumpSequence with
          | (.ok plans, s) => (.ok (plan :: plans), s)
          | (.error e, s) => (.error e, s)

/-- `plan_due_rotations`. -/
def planDueRotations (layout : PartPath → String) (due : Part → Option CloseReason) (now : Nat)
    (s : ActivePartSet) : Except Err (List Rotation) × ActivePartSet :=
  match planEntries due now s.active.entries s with
  | (.ok plans, s) =>
    let pathOf (plan : Rotation) : String := ((s.part? plan.current).map (layout ·.path)).getD ""
    (.ok (plans.insertionSort fun a b => pathOf a ≤ pathOf b), s)
  | (.error e, s) => (.error e, s)

/-- The checks of `begin_rotations` for one plan. -/
def validateRotation (s : ActivePartSet) (plan : Rotation) : Option Err :=
  if s.active.get? plan.reservation.key ≠ some (.part plan.current) then
    some (.valueError "rotation current part is no longer logical-active")
  else
    match s.part? plan.current with
    | none => some (.keyError "unknown raw part")
    | some p => p.validateRetirement plan.reason plan.closedAtNs

/-- `begin_rotations`. -/
def beginRotations (plans : List Rotation) : Proc Err ActivePartSet := fun s =>
  if ¬ (plans.map (·.reservation.key)).Nodup then
    (some (.valueError "rotation plans must have unique logical identities"), s)
  else
    match plans.findSome? s.validateRotation with
    | some e => (some e, s)
    | none =>
      (none, plans.foldl (fun s plan =>
        { s.updatePart plan.current (·.retire plan.reason plan.closedAtNs) with
          active := s.active.set plan.reservation.key (.reserved plan.reservation) }) s)

/-- The empty replacement of `allocate_empty_replacement`. -/
def emptyReplacement (current : Part) (v : Reservation) : Part where
  path := v.path
  createdAtNs := v.createdAtNs
  receivedHour := current.receivedHour
  configSha256 := current.configSha256
  configGeneration := current.configGeneration

/-- `commit_rotations`: every reservation must still be active, then the replacements are
installed. -/
def commitRotations (plans : List Rotation) : Proc Err ActivePartSet := fun s =>
  if plans.any fun plan =>
      s.active.get? plan.reservation.key ≠ some (.reserved plan.reservation) then
    (some (.valueError "rotation reservation is no longer logical-active"), s)
  else
    (none, plans.foldl (fun s plan =>
      match s.part? plan.current with
      | some current => s.install plan.reservation.key (emptyReplacement current plan.reservation)
      | none => s) s)

/-- `detach_all`. The detached parts are the `activeParts` before it. -/
def detachAll (layout : PartPath → String) (reason : CloseReason) (closedAtNs : Nat) :
    Proc Err ActivePartSet := fun s =>
  match (s.activeParts layout).findSome? (·.validateRetirement reason closedAtNs) with
  | some e => (some e, s)
  | none =>
    (none, { (s.activeParts layout).foldl
        (fun s p => s.updatePart p.generationId (·.retire reason closedAtNs)) s with
      active := Dict.empty })

/-- `prepare_config_rotation`. -/
def prepareConfigRotation (layout : PartPath → String) (generation closedAtNs : Nat) :
    Proc Err ActivePartSet := fun s =>
  if generation ≤ s.configGeneration then
    (some (.valueError "config_generation must be strictly greater"), s)
  else detachAll layout .configReload closedAtNs s

/-- `commit_config_rotation`. -/
def commitConfigRotation (sha : String) (generation : Nat) : Proc Err ActivePartSet := fun s =>
  if generation ≤ s.configGeneration then
    (some (.valueError "config_generation must be strictly greater"), s)
  else if !s.active.entries.isEmpty then
    (some (.valueError "config rotation commit requires no old active parts"), s)
  else (none, { s with configSha256 := sha, configGeneration := generation })

end ActivePartSet

end CryptoCollector.Storage
