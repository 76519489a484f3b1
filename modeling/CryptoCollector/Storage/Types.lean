import Mathlib.Data.String.Basic

/-!
# Data model of the raw writer

The enumerations, identities and records that the storage modules exchange. One writer serves
one exchange under one worker instance id, so neither is repeated in the identities.
-/

namespace CryptoCollector.Storage

/-- `_MAX_SIGNED_INT64`. -/
def maxSignedInt64 : Nat := 2 ^ 63 - 1

/-- The characters that `str.strip` removes. -/
def isSpace (c : Char) : Bool :=
  let n := c.toNat
  (9 ≤ n && n ≤ 13) || (28 ≤ n && n ≤ 32) || n == 0x85 || n == 0xA0 || n == 0x1680 ||
    (0x2000 ≤ n && n ≤ 0x200A) || n == 0x2028 || n == 0x2029 || n == 0x202F || n == 0x205F ||
    n == 0x3000

/-- `_nonempty`: a nonempty string equal to its `strip`. -/
def normalized (s : String) : Bool :=
  match s.toList.head?, s.toList.getLast? with
  | some a, some b => !isSpace a && !isSpace b
  | _, _ => false

/-- The characters of a lower case SHA-256 digest. -/
def isLowerHex (c : Char) : Bool := ('0' ≤ c && c ≤ '9') || ('a' ≤ c && c ≤ 'f')

/-- The pattern `^[0-9a-f]{64}$` of `ConfigSha256` and `Sha256`. -/
def isSha256 (s : String) : Bool := s.toList.length = 64 && s.toList.all isLowerHex

/-- `domain/types.py: Market`. -/
inductive Market where
  | spot
  | perpetual
  deriving DecidableEq

/-- The wire value of a market. -/
def Market.value : Market → String
  | .spot => "spot"
  | .perpetual => "perpetual"

/-- `domain/types.py: CloseReason`. -/
inductive CloseReason where
  | rotateTime
  | rotateSize
  | configReload
  | shutdown
  | recovery
  | recoveryControl
  deriving DecidableEq

/-- `durability.py: DurabilityTrigger`. -/
inductive DurabilityTrigger where
  | periodic
  | size
  | hour
  | config
  | recovery
  | shutdown
  | barrier
  deriving DecidableEq

/-- `service.py: _CLOSE_TRIGGER`, for the close reasons of a normal close. -/
def closeTrigger : CloseReason → DurabilityTrigger
  | .rotateTime => .hour
  | .rotateSize => .size
  | .configReload => .config
  | .shutdown => .shutdown
  | .recovery => .recovery
  | .recoveryControl => .recovery

/-- `durability.py: WriterCriticalReason`. -/
inductive CriticalReason where
  | oldestUnpersistedAge
  | writeFailed
  | syncFailed
  | publicationFailed
  | controlDurabilityFailed
  | sloTransitionCallbackFailed
  | closeDeadline
  | markedIncomplete
  deriving DecidableEq

/-- The wire value of a critical reason. -/
def CriticalReason.value : CriticalReason → String
  | .oldestUnpersistedAge => "oldest_unpersisted_age"
  | .writeFailed => "write_failed"
  | .syncFailed => "sync_failed"
  | .publicationFailed => "publication_failed"
  | .controlDurabilityFailed => "control_durability_failed"
  | .sloTransitionCallbackFailed => "slo_transition_callback_failed"
  | .closeDeadline => "close_deadline"
  | .markedIncomplete => "marked_incomplete"

/-- A generation id. `uuid4` is drawn once for every part sequence number, so the number names
the uuid. -/
abbrev GenerationId := Nat

/-- The exceptions that storage code raises, with their messages. -/
inductive Err where
  | valueError (message : String)
  | keyError (message : String)
  | runtimeError (message : String)
  | assertionError (message : String)
  | osError
  | admissionContract (message : String)
  | draftRejected
  | recoveryBlocked (message : String)
  | frameSealRequired
  | filePersistence (reason : CriticalReason)
  | writerCritical (reason : CriticalReason) (affected : List GenerationId) (message : String)
  deriving DecidableEq

/-- The logical identity `(market, instrument_key, logical_stream)` of a stream. -/
structure LogicalKey where
  market : Option Market
  instrumentKey : Option String
  logicalStream : String
  deriving DecidableEq

/-- The exchange-scoped control stream. -/
def LogicalKey.control : LogicalKey := ⟨none, none, "_control"⟩

/-- `models.py: AcceptedRecordIdentityV1`. -/
structure Identity where
  key : LogicalKey
  writerSequence : Nat
  acceptanceOrdinal : Nat
  configSha256 : String
  configGeneration : Nat
  deriving DecidableEq

/-- An accepted record with its identity. `size` is the length of the encoded line. -/
structure Record where
  identity : Identity
  receivedAtNs : Nat
  acceptedMonotonicNs : Nat
  size : Nat
  deriving DecidableEq

/-- `raw_writer.py: _HOUR_NS`. -/
def hourNs : Nat := 3600000000000

/-- The received UTC hour of a record. -/
def Record.receivedHour (r : Record) : Nat := r.receivedAtNs / hourNs

/-- The logical key of a record. -/
def Record.key (r : Record) : LogicalKey := r.identity.key

/-- `models.py: CapacityClass`. -/
inductive CapacityClass where
  | normal
  | control
  deriving DecidableEq

/-- What determines the path of a part: its scope, its start and its sequence number. -/
structure PartPath where
  key : LogicalKey
  partStartNs : Nat
  partSequence : Nat
  deriving DecidableEq

/-- `models.py: StorageControlTargetV1`. -/
structure ControlTarget where
  generationId : GenerationId
  path : PartPath
  deriving DecidableEq

/-- `models.py: StorageControlAssociationV1`. -/
structure ControlAssociation where
  controlKind : String
  controlEventId : String
  targets : List ControlTarget
  acceptanceOrdinal : Nat
  configGeneration : Nat
  deriving DecidableEq

/-- `models.py: StorageControlRequestV1`, the part that admission reads. -/
structure ControlRequest where
  controlEventId : String
  targets : List LogicalKey
  deriving DecidableEq

/-- `models.py: ValidatedControlDraft`. -/
structure ControlDraft where
  controlKind : String
  associationRequest : Option ControlRequest
  deriving DecidableEq

/-- `domain/clock.py: Clock`. Each reading of the monotonic clock moves it by the next drift, each
reading of the wall clock is the next wall value; readings are signed 64-bit. -/
structure Clock where
  monotonic : Nat
  drifts : List Nat
  walls : List Nat
  deriving DecidableEq

namespace Clock

/-- `monotonic_ns`. -/
def monotonicNs (c : Clock) : Nat := min (c.monotonic + c.drifts.headD 0) maxSignedInt64

/-- The clock after a reading of `monotonic_ns`. -/
def afterMonotonic (c : Clock) : Clock :=
  { c with monotonic := c.monotonicNs, drifts := c.drifts.tail }

/-- `time_ns`. -/
def timeNs (c : Clock) : Nat := min (c.walls.headD 0) maxSignedInt64

/-- The clock after a reading of `time_ns`. -/
def afterTime (c : Clock) : Clock := { c with walls := c.walls.tail }

@[simp] theorem afterTime_monotonic (c : Clock) : c.afterTime.monotonic = c.monotonic := rfl

end Clock

end CryptoCollector.Storage
