import CryptoCollector.Storage.Barrier
import CryptoCollector.Storage.Ingress

/-!
# The state of the raw writer service

`storage/service.py: RawWriterService`. The attributes of the service are grouped by what they
are about; `History` and `Flow.hand` are history variables that the code does not read.
-/

namespace CryptoCollector.Storage

open Lib

/-- `models.py: WriterLifecycle`. -/
inductive WriterLifecycle where
  | starting
  | accepting
  | rotating
  | critical
  | closing
  | closed
  deriving DecidableEq

/-- `models.py: AdmissionState`. -/
inductive AdmissionState where
  | opened
  | closed
  deriving DecidableEq

/-- `models.py: PublicationState`. The service assigns neither `sealing` nor `publishing`. -/
inductive PublicationState where
  | idle
  | sealing
  | finalSync
  | publishing
  | failed
  deriving DecidableEq

/-- `durability.py: DurabilitySloTransition`. -/
structure SloTransition where
  breached : Bool
  observedMonotonicNs : Nat
  rollingP99Ns : Option Nat
  rollingMaxNs : Option Nat
  deriving DecidableEq

/-- The part of `WriterConfig` that the service reads. -/
structure WriterConfig where
  durabilitySloNs : Nat
  durabilityCriticalNs : Nat
  maxPlainFrameBytes : Nat
  maxCompressedSizeBytes : Nat
  rotateIntervalNs : Nat
  maxSyncConcurrency : Nat
  deriving DecidableEq

/-- The constructor arguments that never change. -/
structure Params where
  writer : WriterConfig
  ingress : IngressConfig
  metricStreamAllowlist : List String
  /-- `data_relative_path` of a part. -/
  layout : PartPath → String
  /-- The order of `(generation_id, data_relative_path)` in an association. -/
  sortTargets : List ControlTarget → List ControlTarget
  /-- Whether `on_slo_transition` raises on a transition. -/
  sloCallbackRaises : SloTransition → Bool

/-- `service.py: _DRAIN_SERVICE_QUANTUM_RECORDS`. -/
def drainServiceQuantumRecords : Nat := 1024

/-- What a service command asks for. -/
inductive CommandKind where
  | startup (pending : List Draft)
  | sync
  | rotateDue
  | rotateConfig (sha : String) (generation : Nat)
  | close (reason : CloseReason) (deadlineNs : Nat)
  | incomplete (reason : String)

/-- `_ServiceCommand`; `id` names its future. -/
structure Command where
  id : Nat
  kind : CommandKind
  watermark : Option Nat

namespace Command

/-- The command is the startup. -/
def isStartup (c : Command) : Bool :=
  match c.kind with
  | .startup _ => true
  | _ => false

/-- The command is a close. -/
def isClose (c : Command) : Bool :=
  match c.kind with
  | .close _ _ => true
  | _ => false

end Command

/-- `_CompletionClaim`. -/
structure CompletionClaim where
  rows : List Record
  finalBarrier : Bool
  deriving DecidableEq

/-- The task that the actor is pumping: a batch of the coordinator, the close of a group of parts
by a command of the final barrier, or a call in a storage thread. -/
inductive TaskKind where
  | sync (batch : Nat)
  | close (command : Nat) (parts : List GenerationId)
  | storage
  deriving DecidableEq

/-- A task with its outcome once it is done. -/
structure Task where
  kind : TaskKind
  done : Bool := false
  error : Option Err := none
  deriving DecidableEq

/-- The local variables of a drain for a shard in progress: the drained record, the active entry
and the reservation of `_ensure_part`, the part it returned and the part it retired. -/
structure Held where
  record : Record
  current : Option ActiveEntry := none
  reservation : Option Reservation := none
  part : Option GenerationId := none
  hourRetired : Option GenerationId := none
  /-- Whether the record has entered its part, or the deferred records of its part. -/
  placed : Bool := false
  deriving DecidableEq

/-- Ledger, budget, stages and statistics. -/
structure Accounts where
  ledger : DurabilityLedger Identity := {}
  budget : ResidentBudget
  recordStages : Dict Identity DurabilityStage := Dict.empty
  recordChargeBytes : Dict Identity Nat := Dict.empty
  histogram : Histogram := {}
  rollingHistogram : RollingHistogram := {}
  series : Dict (Option Market × String) Histogram := Dict.empty
  sloBreached : Bool := false
  sloBreachCount : Nat := 0
  syncCount : Nat := 0
  syncDurationTotalNs : Nat := 0
  syncDurationMaxNs : Nat := 0
  writeFailureCount : Nat := 0
  syncFailureCount : Nat := 0
  publicationFailureCount : Nat := 0
  notAcceptingCount : Nat := 0

/-- Lifecycle and terminal state. -/
structure Life where
  lifecycle : WriterLifecycle := .starting
  admission : AdmissionState := .closed
  publication : PublicationState := .idle
  incompleteReason : Option String := none
  criticalReason : Option CriticalReason := none
  pendingOldestError : Option Err := none
  criticalDraining : Bool := false
  stopping : Bool := false
  closeFuture : Bool := false
  activeCloseDeadlineNs : Option Nat := none
  closedManifests : Option (List Manifest) := none
  terminalError : Option Err := none

/-- The records and parts on their way, and the local variables of the running coroutine. -/
structure Flow where
  controlAssociations : Dict Identity ControlAssociation := Dict.empty
  completionClaims : Dict GenerationId CompletionClaim := Dict.empty
  deferred : Dict GenerationId (List Record) := Dict.empty
  retiring : List GenerationId := []
  pendingHourRetired : List GenerationId := []
  shardsInProgress : List String := []
  drainActive : Bool := false
  /-- The rotation plans of the running `_rotate_due_parts`. -/
  plans : List Rotation := []
  /-- The close members of the running rotation or close. -/
  members : List CloseMember := []
  task : Option Task := none
  /-- What the running drains hold in local variables, by shard. -/
  hand : Dict String Held := Dict.empty
  /-- The generation whose oversized deferred head is being synced. -/
  sealedHead : Option GenerationId := none

/-- Commands, events and flags of the event loop. -/
structure Loop where
  commands : List Command := []
  nextCommand : Nat := 0
  workEvent : Bool := false
  periodicDue : Bool := false
  /-- `terminal_command`. -/
  terminalCommand : Option Command := none
  commandActive : Bool := false
  activeWatermark : Option Nat := none
  tickerRunning : Bool := false
  /-- Whether `open` has returned the service to its caller. -/
  opened : Bool := false
  /-- The settled futures: the command's id, and its error if it failed. -/
  answers : List (Nat × Option Err) := []

/-- What has been accepted so far, in acceptance order; whether `close_all` or `mark_incomplete`
has asked the writer to stop; and whether a step of the actor has raised. -/
structure History where
  accepted : List Record := []
  stopRequested : Bool := false
  raised : Bool := false

/-- `models.py: WriterStatus`. -/
structure WriterStatus where
  lifecycle : WriterLifecycle
  admission : AdmissionState
  publication : PublicationState
  incompleteReason : Option String
  criticalReason : Option CriticalReason
  queuedRecords : Nat
  queuedBytes : Nat
  bufferedRecords : Nat
  bufferedBytes : Nat
  inFlightRecords : Nat
  inFlightBytes : Nat
  activeLogicalGenerationCount : Nat
  retiringGenerationCount : Nat
  openFileDescriptorCount : Nat
  dirtyFileCount : Nat
  syncInflight : Nat
  oldestUnpersistedAgeNs : Option Nat
  acceptedRecordCount : Nat
  durableRecordCount : Nat
  unpersistedRecordCount : Nat
  uncertainRecordCount : Nat
  deriving DecidableEq

/-- `models.py: DurabilityHistogramSeriesV1`. -/
structure HistogramSeries where
  market : Option Market
  logicalStream : String
  bucketCounts : List Nat
  sampleCount : Nat
  lagP50Ns : Option Nat
  lagP95Ns : Option Nat
  lagP99Ns : Option Nat
  lagMaxNs : Option Nat
  deriving DecidableEq

/-- `models.py: WriterMetricsSnapshotV1`. -/
structure MetricsSnapshot where
  observedMonotonicNs : Nat
  configSha256 : String
  configGeneration : Nat
  lifecycle : WriterLifecycle
  admission : AdmissionState
  publication : PublicationState
  criticalReason : Option CriticalReason
  acceptanceOrdinalHighWater : Option Nat
  acceptedRecordCount : Nat
  durableRecordCount : Nat
  unpersistedRecordCount : Nat
  uncertainRecordCount : Nat
  queuedRecords : Nat
  queuedBytes : Nat
  bufferedRecords : Nat
  bufferedBytes : Nat
  inFlightRecords : Nat
  inFlightBytes : Nat
  residentRecordBytes : Nat
  residentControlRecords : Nat
  residentControlBytes : Nat
  oldestUnpersistedAgeNs : Option Nat
  enqueueHighWaterCount : Nat
  normalOverflowCount : Nat
  controlOverflowCount : Nat
  notAcceptingCount : Nat
  activeLogicalGenerationCount : Nat
  retiringGenerationCount : Nat
  openFileDescriptorCount : Nat
  syncInflight : Nat
  durability : HistogramSnapshot
  durabilityHistogramSeries : List HistogramSeries
  syncCount : Nat
  syncDurationTotalNs : Nat
  syncDurationMaxNs : Nat
  sloBreachCount : Nat
  writeFailureCount : Nat
  syncFailureCount : Nat
  publicationFailureCount : Nat
  deriving DecidableEq

/-- The cached metrics. -/
structure MetricsCache where
  snapshot : Option MetricsSnapshot := none
  dirty : Bool := true
  lastObservedMonotonicNs : Nat := 0

/-- The state of `RawWriterService`. -/
structure Writer where
  configSha256 : String
  configGeneration : Nat
  core : Core
  ingress : RawIngress
  acct : Accounts
  life : Life := {}
  flow : Flow := {}
  loop : Loop := {}
  cache : MetricsCache := {}
  history : History := {}

end CryptoCollector.Storage
