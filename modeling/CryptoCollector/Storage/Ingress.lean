import CryptoCollector.Lib.Dict
import CryptoCollector.Lib.Effect
import CryptoCollector.Storage.Types
import Mathlib.Data.List.Sort

/-!
# Admission: the resident budget and the ingress queues

`storage/ingress.py`. The checks that depend on the draft alone (`validate_control_draft`,
`validate_source`) are pure and come before any change of state; a `Draft` carries their
outcome. It also carries the lengths of the encoded line and of the encoded association, which
depend on the moment of acceptance.
-/

namespace CryptoCollector.Storage

open Lib

/-- `_ResidentCharge`. -/
structure ResidentCharge where
  capacityClass : CapacityClass
  chargeBytes : Nat
  deriving DecidableEq

/-- `ResidentBudget`. The worker instance id in its keys is constant. -/
structure ResidentBudget where
  workerMaxBytes : Nat
  controlReserveBytes : Nat
  charges : Dict Nat ResidentCharge := Dict.empty
  normalResidentRecords : Nat := 0
  normalResidentBytes : Nat := 0
  controlResidentRecords : Nat := 0
  controlResidentBytes : Nat := 0
  deriving DecidableEq

namespace ResidentBudget

/-- `resident_bytes`. -/
def residentBytes (b : ResidentBudget) : Nat := b.normalResidentBytes + b.controlResidentBytes

/-- `resident_record_count`. -/
def residentRecordCount (b : ResidentBudget) : Nat :=
  b.normalResidentRecords + b.controlResidentRecords

/-- `fits`, for a positive charge. -/
def fits (b : ResidentBudget) (capacityClass : CapacityClass) (charge : Nat) : Bool :=
  if b.workerMaxBytes < b.residentBytes + charge then false
  else
    match capacityClass with
    | .normal => b.normalResidentBytes + charge ≤ b.workerMaxBytes - b.controlReserveBytes
    | .control => true

/-- `reserve`. -/
def reserve (ordinal : Nat) (capacityClass : CapacityClass) (charge : Nat) :
    Proc Err ResidentBudget := fun b =>
  if b.charges.contains ordinal then (some (.valueError "duplicate resident charge identity"), b)
  else if !b.fits capacityClass charge then
    (some (.valueError "resident charge exceeds its capacity"), b)
  else
    let b := { b with charges := b.charges.set ordinal ⟨capacityClass, charge⟩ }
    (none, match capacityClass with
      | .normal => { b with
          normalResidentRecords := b.normalResidentRecords + 1
          normalResidentBytes := b.normalResidentBytes + charge }
      | .control => { b with
          controlResidentRecords := b.controlResidentRecords + 1
          controlResidentBytes := b.controlResidentBytes + charge })

/-- `release`. -/
def release (ordinal : Nat) : Proc Err ResidentBudget := fun b =>
  match b.charges.get? ordinal with
  | none => (some (.keyError "unknown resident charge identity"), b)
  | some charge =>
    let b := { b with charges := b.charges.erase ordinal }
    (none, match charge.capacityClass with
      | .normal => { b with
          normalResidentRecords := b.normalResidentRecords - 1
          normalResidentBytes := b.normalResidentBytes - charge.chargeBytes }
      | .control => { b with
          controlResidentRecords := b.controlResidentRecords - 1
          controlResidentBytes := b.controlResidentBytes - charge.chargeBytes })

end ResidentBudget

/-- The part of `IngressConfig` that admission reads; `highWaterBytes` is the rounded-up product
of `worker_max_bytes` and `high_water_ratio`. -/
structure IngressConfig where
  workerMaxBytes : Nat
  controlReserveBytes : Nat
  shardMaxRecords : Nat
  shardMaxBytes : Nat
  highWaterBytes : Nat
  deriving DecidableEq

/-- A draft as `try_accept` sees it. -/
structure Draft where
  /-- `draft.exchange is self._exchange`. -/
  ownExchange : Bool := true
  key : LogicalKey
  /-- What `validate_control_draft` returns for a control draft, `none` when it raises. -/
  control : Option ControlDraft := none
  /-- Whether `validate_source` accepts the source context. -/
  sourceValid : Bool := true
  /-- The length of the encoded line; a line holds at least its newline. -/
  lineBytes : Nat
  line_pos : 0 < lineBytes := by decide
  /-- The length of the encoded association, if one is resolved. -/
  associationBytes : Nat := 0

/-- `EnqueueStatus`. -/
inductive EnqueueStatus where
  | accepted
  | acceptedHighWater
  | overflow
  | controlOverflow
  | notAccepting
  deriving DecidableEq

/-- `EnqueueResult`; the identity is part of the record. -/
structure EnqueueResult where
  status : EnqueueStatus
  record : Option Record
  deriving DecidableEq

/-- `RawIngress`. -/
structure RawIngress where
  configSha256 : String
  configGeneration : Nat
  queues : Dict String (List Record) := Dict.empty
  queuedBytes : Dict String Nat := Dict.empty
  nextSequences : Dict LogicalKey Nat := Dict.empty
  shardBySequenceKey : Dict LogicalKey String := Dict.empty
  nextAcceptanceOrdinal : Nat := 0
  pendingControlAssociations : Dict Identity ControlAssociation := Dict.empty
  acceptedCount : Nat := 0
  enqueueHighWaterCount : Nat := 0
  normalOverflowCount : Nat := 0
  controlOverflowCount : Nat := 0
  superseded : Bool := false
  deriving DecidableEq

/-- What `try_accept` reads and writes: the ingress, the budget it shares with the service, and
the clock. -/
structure Admission where
  ingress : RawIngress
  budget : ResidentBudget
  clock : Clock
  deriving DecidableEq

namespace RawIngress

/-- The queue of a shard. -/
def queue (i : RawIngress) (shard : String) : List Record := (i.queues.get? shard).getD []

/-- `acceptance_ordinal_high_water`. -/
def acceptanceOrdinalHighWater (i : RawIngress) : Option Nat :=
  if i.nextAcceptanceOrdinal = 0 then none else some (i.nextAcceptanceOrdinal - 1)

/-- `nonempty_shards`. -/
def nonemptyShards (i : RawIngress) : List String :=
  ((i.queues.entries.filter fun e => !e.2.isEmpty).map Prod.fst).insertionSort (· ≤ ·)

/-- `peek_one`. -/
def peekOne (i : RawIngress) (shard : String) : Option Record := (i.queue shard).head?

/-- `_resolve_control_association`, with the service's resolver. `resolve` gives the target of a
logical identity when it has an active generation. -/
def resolveControlAssociation (resolve : LogicalKey → Option ControlTarget)
    (sortTargets : List ControlTarget → List ControlTarget) (control : Option ControlDraft)
    (identity : Identity) : Except Err (Option ControlAssociation) :=
  match control.bind (·.associationRequest), control with
  | some request, some draft =>
    match request.targets.mapM resolve with
    | none =>
      .error (.admissionContract "control association target has no active raw generation")
    | some targets =>
      if (targets.map (·.path.key)).Perm request.targets then
        .ok (some
          { controlKind := draft.controlKind
            controlEventId := request.controlEventId
            targets := sortTargets targets
            acceptanceOrdinal := identity.acceptanceOrdinal
            configGeneration := identity.configGeneration })
      else
        .error (.admissionContract
          "resolved control association does not match requested logical targets")
  | _, _ => .ok none

/-- `_overflow`. -/
def overflow (i : RawIngress) : CapacityClass → EnqueueResult × RawIngress
  | .control => (⟨.controlOverflow, none⟩,
      { i with controlOverflowCount := i.controlOverflowCount + 1 })
  | .normal => (⟨.overflow, none⟩, { i with normalOverflowCount := i.normalOverflowCount + 1 })

/-- `_classify` and the checks of `try_accept` that read only the draft and the shard. -/
def validate (d : Draft) (shard : String) : Except Err CapacityClass :=
  if !normalized shard then
    .error (.valueError "shard must be a normalized nonempty string")
  else
    let capacityClass := if d.key.logicalStream = "_control" then .control else .normal
    if capacityClass = .control ∧ d.control.isNone then .error .draftRejected
    else if capacityClass = .control ∧ shard ≠ "_control" then
      .error (.admissionContract "control capacity requires the _control shard")
    else if capacityClass = .normal ∧ shard = "_control" then
      .error (.admissionContract "normal capacity cannot use the _control shard")
    else if !d.sourceValid then .error .draftRejected
    else .ok capacityClass

/-- The envelope and identity of `_build_candidate`. -/
def buildCandidate (i : RawIngress) (c : Clock) (d : Draft) : Record where
  identity :=
    { key := d.key
      writerSequence := (i.nextSequences.get? d.key).getD 0
      acceptanceOrdinal := i.nextAcceptanceOrdinal
      configSha256 := i.configSha256
      configGeneration := i.configGeneration }
  receivedAtNs := c.timeNs
  acceptedMonotonicNs := c.afterTime.monotonicNs
  size := d.lineBytes

/-- The bookkeeping of `try_accept` for an admitted record. The queue is created on demand; its
own size limit is the one already checked. -/
def enqueue (i : RawIngress) (shard : String) (r : Record) (charge : Nat)
    (association : Option ControlAssociation) : RawIngress :=
  { i with
    queues := i.queues.set shard (i.queue shard ++ [r])
    pendingControlAssociations := match association with
      | some a => i.pendingControlAssociations.set r.identity a
      | none => i.pendingControlAssociations
    queuedBytes := i.queuedBytes.set shard ((i.queuedBytes.get? shard).getD 0 + charge)
    shardBySequenceKey :=
      if i.shardBySequenceKey.contains r.key then i.shardBySequenceKey
      else i.shardBySequenceKey.set r.key shard
    nextSequences := i.nextSequences.set r.key (r.identity.writerSequence + 1)
    nextAcceptanceOrdinal := i.nextAcceptanceOrdinal + 1
    acceptedCount := i.acceptedCount + 1 }

/-- `try_accept` of a candidate whose charge is known: it overflows, or it is charged and
enqueued. -/
def admitCandidate (cfg : IngressConfig) (shard : String) (capacityClass : CapacityClass)
    (record : Record) (association : Option ControlAssociation) (charge : Nat) (w : Admission) :
    Except Err EnqueueResult × Admission :=
  if cfg.shardMaxRecords ≤ (w.ingress.queue shard).length ∨
      cfg.shardMaxBytes < (w.ingress.queuedBytes.get? shard).getD 0 + charge ∨
      !w.budget.fits capacityClass charge then
    (.ok (w.ingress.overflow capacityClass).1,
      { w with ingress := (w.ingress.overflow capacityClass).2 })
  else
    match w.budget.reserve record.identity.acceptanceOrdinal capacityClass charge with
    | (some e, budget) => (.error e, { w with budget })
    | (none, budget) =>
      let highWater := decide (cfg.highWaterBytes ≤ budget.residentBytes)
      let ingress := w.ingress.enqueue shard record charge association
      let ingress :=
        if highWater then
          { ingress with enqueueHighWaterCount := ingress.enqueueHighWaterCount + 1 }
        else ingress
      (.ok ⟨if highWater then .acceptedHighWater else .accepted, some record⟩,
        { w with ingress, budget })

/-- `RawIngress.try_accept`. -/
def tryAccept (cfg : IngressConfig) (resolve : LogicalKey → Option ControlTarget)
    (sortTargets : List ControlTarget → List ControlTarget) (d : Draft) (shard : String)
    (w : Admission) : Except Err EnqueueResult × Admission :=
  if w.ingress.superseded then (.ok ⟨.notAccepting, none⟩, w)
  else
    match validate d shard with
    | .error e => (.error e, w)
    | .ok capacityClass =>
      if ((w.ingress.shardBySequenceKey.get? d.key).getD shard) ≠ shard then
        (.error (.admissionContract "logical identity is already bound to a different shard"), w)
      else
        let record := w.ingress.buildCandidate w.clock d
        let w := { w with clock := w.clock.afterTime.afterMonotonic }
        match resolveControlAssociation resolve sortTargets
            (if capacityClass = .control then d.control else none) record.identity with
        | .error e => (.error e, w)
        | .ok association =>
          admitCandidate cfg shard capacityClass record association
            (record.size + (if association.isSome then d.associationBytes else 0)) w

/-- `drain_one` on a nonempty queue; `charge` is the record's resident charge. -/
def drainOne (i : RawIngress) (shard : String) (charge : Nat) : RawIngress :=
  { i with
    queues := i.queues.set shard (i.queue shard).tail
    queuedBytes := i.queuedBytes.set shard ((i.queuedBytes.get? shard).getD 0 - charge) }

/-- `take_control_association`. -/
def takeControlAssociation (i : RawIngress) (id : Identity) :
    Option ControlAssociation × RawIngress :=
  (i.pendingControlAssociations.get? id,
    { i with pendingControlAssociations := i.pendingControlAssociations.erase id })

/-- Whether `replacement_for_config` finds the ingress quiescent. -/
def quiescent (i : RawIngress) (b : ResidentBudget) : Bool :=
  i.queues.entries.all (·.2.isEmpty) && i.queuedBytes.entries.all (·.2 = 0) &&
    b.residentRecordCount = 0 && i.pendingControlAssociations.entries.isEmpty

/-- `replacement_for_config`; the superseded ingress is dropped by its caller. -/
def replacementForConfig (i : RawIngress) (b : ResidentBudget) (sha : String) (generation : Nat) :
    Except Err RawIngress :=
  if generation ≤ i.configGeneration then
    .error (.valueError "config_generation must be strictly greater")
  else if i.superseded then
    .error (.admissionContract "ingress has already been superseded")
  else if !i.quiescent b then
    .error (.admissionContract "config replacement requires a quiescent ingress")
  else
    .ok
      { configSha256 := sha
        configGeneration := generation
        nextSequences := i.nextSequences
        shardBySequenceKey := i.shardBySequenceKey
        nextAcceptanceOrdinal := i.nextAcceptanceOrdinal
        acceptedCount := i.acceptedCount
        enqueueHighWaterCount := i.enqueueHighWaterCount
        normalOverflowCount := i.normalOverflowCount
        controlOverflowCount := i.controlOverflowCount }

end RawIngress

end CryptoCollector.Storage
