import CryptoCollector.Lib.Dict
import CryptoCollector.Lib.Except
import CryptoCollector.Network.Egress
import Mathlib.Algebra.Order.Field.Rat

/-!
# The restrictions of egresses and quota groups

`network/state_store.py: EgressStateStore` and `network/health.py`. Each operation is one
transaction. A store remembers the probe admissions that it has issued: an admission is an object,
so it has an identity beside its fields, and whoever presents it may have kept, changed or made it
up.

* `recordQuotaRestriction_ok` and the like: what an operation that returns has done.
* `admitHealth_admissions`: an admission carries the revision of its key.
-/

namespace CryptoCollector.Network

open Lib

/-- The largest value of an `INTEGER` column. -/
def maxInteger : Int := 2 ^ 63 - 1

/-- The exceptions of a store. `databaseError` is one of the database itself: a store that was
closed, or a transaction that could not be committed. -/
inductive StoreError where
  | valueError (message : String)
  | typeError (message : String)
  | overflowError
  | staleProbeError (message : String)
  | databaseError
  deriving DecidableEq

/-- `QuotaState`, a row of `quota_state`. -/
structure QuotaState where
  banUntilUnixNs : Nat := 0
  cooldownUntilUnixNs : Nat := 0
  currentRateMultiplier : String := "1"
  lastReason : Option String := none
  restrictionRevision : Nat := 0
  deriving DecidableEq

/-- `QuotaState.restriction_until_unix_ns`. -/
def QuotaState.restrictionUntilUnixNs (s : QuotaState) : Nat :=
  max s.banUntilUnixNs s.cooldownUntilUnixNs

/-- `QuotaState.requires_probe`. -/
def QuotaState.requiresProbe (s : QuotaState) : Bool := s.lastReason.isSome

/-- `EgressHealthState`, a row of `egress_state`. -/
structure EgressHealthState where
  consecutiveTransportFailures : Nat := 0
  cooldownUntilUnixNs : Nat := 0
  lastSuccessUnixNs : Option Nat := none
  lastLatencyNs : Option Nat := none
  lastReason : Option String := none
  restrictionRevision : Nat := 0
  deriving DecidableEq

/-- `EgressHealthState.requires_probe`. -/
def EgressHealthState.requiresProbe (s : EgressHealthState) : Bool :=
  0 < s.consecutiveTransportFailures

/-- The two tables. A revision counts writes, and is not bounded here. -/
structure Database where
  quotaState : Dict Key QuotaState := Dict.empty
  egressState : Dict Key EgressHealthState := Dict.empty
  deriving DecidableEq

namespace Database

/-- `load_quota`, for names that are not empty. -/
def loadQuota (db : Database) (key : Key) : QuotaState := (db.quotaState.get? key).getD {}

/-- `load_egress`, for names that are not empty. -/
def loadEgress (db : Database) (key : Key) : EgressHealthState := (db.egressState.get? key).getD {}

/-- A row of `quota_state` is written. -/
def setQuota (db : Database) (key : Key) (row : QuotaState) : Database :=
  { db with quotaState := db.quotaState.set key row }

/-- A row of `egress_state` is written. -/
def setEgress (db : Database) (key : Key) (row : EgressHealthState) : Database :=
  { db with egressState := db.egressState.set key row }

end Database

/-! ## Restrictions -/

/-- `_nonempty`. -/
def nonempty (value field : String) : Option StoreError :=
  if value = "" then some (.valueError (field ++ " must be a non-empty string")) else none

/-- `_nonnegative`. -/
def nonnegative (value : Int) (field : String) : Option StoreError :=
  if value < 0 then some (.valueError (field ++ " must be a non-negative integer")) else none

/-- The driver's conversion of an integer parameter. -/
def bindInteger (value : Int) : Option StoreError :=
  if maxInteger < value then some .overflowError else none

/-- The restriction columns of `quota_state`. -/
inductive QuotaColumn where
  | banUntilNs
  | cooldownUntilNs
  deriving DecidableEq

/-- The upsert of `_record_quota_restriction`. -/
def QuotaState.restrict (column : QuotaColumn) (untilNs : Nat) (reason : String) :
    Option QuotaState → QuotaState
  | none =>
    { banUntilUnixNs := if column = .banUntilNs then untilNs else 0
      cooldownUntilUnixNs := if column = .cooldownUntilNs then untilNs else 0
      lastReason := some reason
      restrictionRevision := 1 }
  | some row =>
    let row := { row with
      lastReason := some reason
      restrictionRevision := row.restrictionRevision + 1 }
    match column with
    | .banUntilNs => { row with banUntilUnixNs := max row.banUntilUnixNs untilNs }
    | .cooldownUntilNs => { row with cooldownUntilUnixNs := max row.cooldownUntilUnixNs untilNs }

/-- `_record_quota_restriction`; `fault` is what the transaction raises. -/
def recordQuotaRestriction (column : QuotaColumn) (exchange quotaGroup : String)
    (untilUnixNs : Int) (reason : String) (fault : Option StoreError) (db : Database) :
    Except StoreError Database :=
  checked (nonempty exchange "exchange" <|> nonempty quotaGroup "quota_group" <|>
      nonnegative untilUnixNs "until_unix_ns" <|> nonempty reason "reason" <|> fault <|>
      bindInteger untilUnixNs) <|
    let row := db.quotaState.get? (exchange, quotaGroup)
    .ok (db.setQuota (exchange, quotaGroup) (.restrict column untilUnixNs.toNat reason row))

/-- `record_ban`. -/
def recordBan : String → String → Int → String → Option StoreError → Database →
    Except StoreError Database :=
  recordQuotaRestriction .banUntilNs

/-- `record_cooldown`. -/
def recordCooldown : String → String → Int → String → Option StoreError → Database →
    Except StoreError Database :=
  recordQuotaRestriction .cooldownUntilNs

/-- A `Decimal` with its text; its value is none when it is not finite. -/
structure Multiplier where
  value : Option ℚ
  text : String

/-- `set_rate_multiplier`. -/
def setRateMultiplier (exchange quotaGroup : String) (multiplier : Multiplier)
    (fault : Option StoreError) (db : Database) : Except StoreError Database :=
  checked (nonempty exchange "exchange" <|> nonempty quotaGroup "quota_group" <|>
      (if multiplier.value.any (fun m => 0 < m ∧ m ≤ 1) then none
      else some (.valueError "multiplier must be finite and in the interval (0, 1]")) <|>
      fault) <|
    let row := db.loadQuota (exchange, quotaGroup)
    .ok (db.setQuota (exchange, quotaGroup) { row with currentRateMultiplier := multiplier.text })

/-- The upsert of `record_transport_failure`. -/
def EgressHealthState.fail (untilNs : Nat) (reason : String) :
    Option EgressHealthState → EgressHealthState
  | none =>
    { consecutiveTransportFailures := 1
      cooldownUntilUnixNs := untilNs
      lastReason := some reason
      restrictionRevision := 1 }
  | some row =>
    { row with
      consecutiveTransportFailures := row.consecutiveTransportFailures + 1
      cooldownUntilUnixNs := max row.cooldownUntilUnixNs untilNs
      lastReason := some reason
      restrictionRevision := row.restrictionRevision + 1 }

/-- `record_transport_failure`. -/
def recordTransportFailure (exchange egressId reason : String) (cooldownUntilUnixNs : Int)
    (fault : Option StoreError) (db : Database) : Except StoreError Database :=
  checked (nonempty exchange "exchange" <|> nonempty egressId "egress_id" <|>
      nonempty reason "reason" <|>
      nonnegative cooldownUntilUnixNs "cooldown_until_unix_ns" <|> fault <|>
      bindInteger cooldownUntilUnixNs) <|
    let row := db.egressState.get? (exchange, egressId)
    .ok (db.setEgress (exchange, egressId) (.fail cooldownUntilUnixNs.toNat reason row))

/-! ## Admissions -/

/-- The class of an admission. -/
inductive ProbeKind where
  | quota
  | transport
  deriving DecidableEq

/-- `_claims`: the fields of an admission. -/
structure Claims where
  kind : ProbeKind
  key : Key
  restrictionRevision : Nat
  probeAfterMonotonicNs : Nat
  deriving DecidableEq

/-- `QuotaProbeAdmission` or `TransportProbeAdmission`: the object, its fields as they are now, and
the store and the claims of its mint. -/
@[ext] structure Admission where
  object : Nat
  claims : Claims
  mintStore : Nat
  mintClaims : Claims
  deriving DecidableEq

/-- `EgressStateStore`, apart from its connection. -/
structure EgressStateStore where
  issuedProbeAdmissions : Dict Nat Claims := Dict.empty
  closed : Bool := false
  deriving DecidableEq

/-- The checks of an admission that both probe recordings make; `store` is the identity of the
store. -/
def EgressStateStore.checkAdmission (store : Nat) (s : EgressStateStore) (kind : ProbeKind)
    (a : Admission) : Option StoreError :=
  let name := match kind with | .quota => "quota" | .transport => "transport"
  if a.claims.kind ≠ kind then
    some (.typeError (match kind with
      | .quota => "admission must be a QuotaProbeAdmission"
      | .transport => "admission must be a TransportProbeAdmission"))
  else if a.mintClaims ≠ a.claims ∨ a.mintStore ≠ store then
    some (.valueError (name ++ " probe admission belongs to a different store"))
  else if s.issuedProbeAdmissions.get? a.object ≠ some a.claims then
    some (.valueError (name ++ " probe admission was not issued by admit_health"))
  else none

/-- `record_quota_probe_success`. -/
def recordQuotaProbeSuccess (store : Nat) (s : EgressStateStore) (a : Admission)
    (observedMonotonicNs : Int) (fault : Option StoreError) (db : Database) :
    Except StoreError Database :=
  checked (s.checkAdmission store .quota a <|>
      nonnegative observedMonotonicNs "observed_monotonic_ns" <|>
      (if observedMonotonicNs < a.claims.probeAfterMonotonicNs then
        some (.valueError "quota probe cannot recover an active restriction")
      else none) <|> fault) <|
    let row := db.loadQuota a.claims.key
    if row.restrictionRevision ≠ a.claims.restrictionRevision then
      .error (.staleProbeError "quota probe observed a stale restriction revision")
    else if row.lastReason.isNone then
      .error (.staleProbeError "quota probe has no matching pending restriction")
    else
      .ok (db.setQuota a.claims.key { row with
        banUntilUnixNs := 0
        cooldownUntilUnixNs := 0
        lastReason := none
        restrictionRevision := row.restrictionRevision + 1 })

/-- `record_transport_probe_success`. -/
def recordTransportProbeSuccess (store : Nat) (s : EgressStateStore) (a : Admission)
    (observedMonotonicNs observedUnixNs latencyNs : Int) (fault : Option StoreError)
    (db : Database) : Except StoreError Database :=
  checked (s.checkAdmission store .transport a <|>
      nonnegative observedMonotonicNs "observed_monotonic_ns" <|>
      nonnegative observedUnixNs "observed_unix_ns" <|> nonnegative latencyNs "latency_ns" <|>
      (if observedMonotonicNs < a.claims.probeAfterMonotonicNs then
        some (.valueError "probe cannot recover an active transport cooldown")
      else none) <|> fault <|> bindInteger observedUnixNs <|> bindInteger latencyNs) <|
    let row := db.loadEgress a.claims.key
    if row.restrictionRevision ≠ a.claims.restrictionRevision then
      .error (.staleProbeError "transport probe observed a stale restriction revision")
    else if row.consecutiveTransportFailures = 0 then
      .error (.staleProbeError "transport probe has no matching pending restriction")
    else
      .ok (db.setEgress a.claims.key { row with
        consecutiveTransportFailures := 0
        cooldownUntilUnixNs := 0
        lastSuccessUnixNs := some observedUnixNs.toNat
        lastLatencyNs := some latencyNs.toNat
        lastReason := none
        restrictionRevision := row.restrictionRevision + 1 })

/-- What `_admit_health_in_transaction` collects. -/
structure Admitting where
  probeAfterMonotonicNs : List (Key × Nat) := []
  quotaProbes : Dict Key Claims := Dict.empty
  transportProbes : Dict Key Claims := Dict.empty

/-- One candidate of `_admit_health_in_transaction`. -/
def Admitting.add (db : Database) (exchange : String) (nowUnixNs nowMonotonicNs : Nat)
    (acc : Admitting) (candidate : Egress) : Admitting :=
  let quota := db.loadQuota (exchange, candidate.quotaGroup)
  let transport := db.loadEgress (exchange, candidate.id)
  let quotaDeadline := nowMonotonicNs + (quota.restrictionUntilUnixNs - nowUnixNs)
  let transportDeadline := nowMonotonicNs + (transport.cooldownUntilUnixNs - nowUnixNs)
  let deadlines := (if quota.requiresProbe then [quotaDeadline] else []) ++
    (if transport.requiresProbe then [transportDeadline] else [])
  { probeAfterMonotonicNs := acc.probeAfterMonotonicNs ++
      (deadlines.max?.map ((exchange, candidate.id), ·)).toList
    quotaProbes :=
      if quota.requiresProbe ∧ ¬ acc.quotaProbes.contains (exchange, candidate.quotaGroup) then
        acc.quotaProbes.set (exchange, candidate.quotaGroup)
          ⟨.quota, (exchange, candidate.quotaGroup), quota.restrictionRevision, quotaDeadline⟩
      else acc.quotaProbes
    transportProbes :=
      if transport.requiresProbe then
        acc.transportProbes.set (exchange, candidate.id)
          ⟨.transport, (exchange, candidate.id), transport.restrictionRevision, transportDeadline⟩
      else acc.transportProbes }

/-- `AdmittedHealth`. -/
structure AdmittedHealth where
  probeAfterMonotonicNs : List (Key × Nat)
  quotaProbeAdmissions : List Admission
  transportProbeAdmissions : List Admission

/-- New objects, one for each of the claims. -/
def mint (store : Nat) (next : Nat) (claims : List Claims) : List Admission :=
  (claims.zipIdx next).map fun c => ⟨c.2, c.1, store, c.1⟩

/-- `admit_health`; `next` is the identity of the next object. -/
def admitHealth (store next : Nat) (exchange : String) (egresses : List Egress)
    (nowUnixNs nowMonotonicNs : Int) (fault : Option StoreError) (db : Database) :
    Except StoreError AdmittedHealth :=
  checked (nonempty exchange "exchange" <|> nonnegative nowUnixNs "now_unix_ns" <|>
      nonnegative nowMonotonicNs "now_monotonic_ns" <|>
      (if ¬ (egresses.map (·.id)).Nodup then some (.valueError "duplicate egress id")
      else none) <|> fault <|>
      (egresses.findSome? fun c => nonempty c.quotaGroup "quota_group" <|>
        nonempty c.id "egress_id")) <|
    let add := Admitting.add db exchange nowUnixNs.toNat nowMonotonicNs.toNat
    let admitted := egresses.foldl add {}
    .ok {
      probeAfterMonotonicNs := admitted.probeAfterMonotonicNs
      quotaProbeAdmissions := mint store next admitted.quotaProbes.values
      transportProbeAdmissions :=
        mint store (next + admitted.quotaProbes.values.length) admitted.transportProbes.values }

/-- All admissions of an admitted health. -/
def AdmittedHealth.admissions (h : AdmittedHealth) : List Admission :=
  h.quotaProbeAdmissions ++ h.transportProbeAdmissions

/-- `__remember_probe_admission`, for several admissions. -/
def EgressStateStore.remember (s : EgressStateStore) (admissions : List Admission) :
    EgressStateStore :=
  { s with issuedProbeAdmissions :=
      admissions.foldl (fun d a => d.set a.object a.claims) s.issuedProbeAdmissions }

/-! ## What an operation that returns has done -/

theorem nonempty_eq_none {value field : String} : nonempty value field = none ↔ value ≠ "" := by
  simp [nonempty]

theorem nonnegative_eq_none {value : Int} {field : String} :
    nonnegative value field = none ↔ 0 ≤ value := by
  simp [nonnegative]

theorem bindInteger_eq_none {value : Int} : bindInteger value = none ↔ value ≤ maxInteger := by
  simp [bindInteger]

variable {store next : Nat} {s : EgressStateStore} {fault : Option StoreError} {db db' : Database}

theorem recordQuotaRestriction_ok {column : QuotaColumn} {exchange quotaGroup reason : String}
    {untilUnixNs : Int} (h : recordQuotaRestriction column exchange quotaGroup untilUnixNs reason
      fault db = .ok db') :
    db' = db.setQuota (exchange, quotaGroup) (.restrict column untilUnixNs.toNat reason
      (db.quotaState.get? (exchange, quotaGroup))) := by
  obtain ⟨-, h⟩ := checked_eq_ok.mp h
  cases h
  rfl

theorem setRateMultiplier_ok {exchange quotaGroup : String} {multiplier : Multiplier}
    (h : setRateMultiplier exchange quotaGroup multiplier fault db = .ok db') :
    db' = db.setQuota (exchange, quotaGroup)
      { db.loadQuota (exchange, quotaGroup) with currentRateMultiplier := multiplier.text } := by
  obtain ⟨-, h⟩ := checked_eq_ok.mp h
  cases h
  rfl

theorem recordTransportFailure_ok {exchange egressId reason : String} {untilUnixNs : Int}
    (h : recordTransportFailure exchange egressId reason untilUnixNs fault db = .ok db') :
    db' = db.setEgress (exchange, egressId) (.fail untilUnixNs.toNat reason
      (db.egressState.get? (exchange, egressId))) := by
  obtain ⟨-, h⟩ := checked_eq_ok.mp h
  cases h
  rfl

/-- The store that minted the admission presents it unchanged, and has issued it. -/
def EgressStateStore.Knows (store : Nat) (s : EgressStateStore) (a : Admission) : Prop :=
  a.mintStore = store ∧ a.mintClaims = a.claims ∧
    s.issuedProbeAdmissions.get? a.object = some a.claims

theorem checkAdmission_eq_none {kind : ProbeKind} {a : Admission} :
    s.checkAdmission store kind a = none ↔ a.claims.kind = kind ∧ s.Knows store a := by
  unfold EgressStateStore.checkAdmission EgressStateStore.Knows
  split_ifs with hkind hmint hissued <;> grind

/-- A probe success that was recorded was known, on time and not stale. -/
structure Recoverable (store : Nat) (s : EgressStateStore) (a : Admission) (kind : ProbeKind)
    (observedMonotonicNs : Int) (revision : Nat) : Prop where
  kind_eq : a.claims.kind = kind
  knows : s.Knows store a
  on_time : (a.claims.probeAfterMonotonicNs : Int) ≤ observedMonotonicNs
  revision_eq : revision = a.claims.restrictionRevision

theorem recordQuotaProbeSuccess_ok {a : Admission} {observed : Int}
    (h : recordQuotaProbeSuccess store s a observed fault db = .ok db') :
    Recoverable store s a .quota observed (db.loadQuota a.claims.key).restrictionRevision ∧
    (db.loadQuota a.claims.key).lastReason.isSome ∧
    db' = db.setQuota a.claims.key { db.loadQuota a.claims.key with
      banUntilUnixNs := 0
      cooldownUntilUnixNs := 0
      lastReason := none
      restrictionRevision := (db.loadQuota a.claims.key).restrictionRevision + 1 } := by
  obtain ⟨hchecks, h⟩ := checked_eq_ok.mp h
  simp only [Option.orElse_eq_orElse, Option.orElse_eq_or, Option.or_eq_none_iff,
    checkAdmission_eq_none, ite_eq_right_iff, reduceCtorEq, imp_false, not_lt] at hchecks
  obtain ⟨⟨hkind, hknows⟩, -, htime, -⟩ := hchecks
  dsimp only at h
  split_ifs at h with hrevision hreason
  rw [not_not] at hrevision
  refine ⟨⟨hkind, hknows, htime, hrevision⟩, ?_, ?_⟩
  · simpa [Option.isSome_iff_ne_none] using hreason
  · cases h
    rfl

theorem recordTransportProbeSuccess_ok {a : Admission} {observed observedUnixNs latencyNs : Int}
    (h : recordTransportProbeSuccess store s a observed observedUnixNs latencyNs fault db =
      .ok db') :
    Recoverable store s a .transport observed (db.loadEgress a.claims.key).restrictionRevision ∧
    0 < (db.loadEgress a.claims.key).consecutiveTransportFailures ∧
    db' = db.setEgress a.claims.key { db.loadEgress a.claims.key with
      consecutiveTransportFailures := 0
      cooldownUntilUnixNs := 0
      lastSuccessUnixNs := some observedUnixNs.toNat
      lastLatencyNs := some latencyNs.toNat
      lastReason := none
      restrictionRevision := (db.loadEgress a.claims.key).restrictionRevision + 1 } := by
  obtain ⟨hchecks, h⟩ := checked_eq_ok.mp h
  simp only [Option.orElse_eq_orElse, Option.orElse_eq_or, Option.or_eq_none_iff,
    checkAdmission_eq_none, ite_eq_right_iff, reduceCtorEq, imp_false, not_lt] at hchecks
  obtain ⟨⟨hkind, hknows⟩, -, -, -, htime, -⟩ := hchecks
  dsimp only at h
  split_ifs at h with hrevision hfailures
  rw [not_not] at hrevision
  refine ⟨⟨hkind, hknows, htime, hrevision⟩, Nat.pos_of_ne_zero hfailures, ?_⟩
  cases h
  rfl

/-! ## What an admission claims -/

/-- A claim of a kind holds the revision of the row that it is about. -/
def Claims.Current (c : Claims) (kind : ProbeKind) (db : Database) : Prop :=
  c.kind = kind ∧ c.restrictionRevision = match kind with
    | .quota => (db.loadQuota c.key).restrictionRevision
    | .transport => (db.loadEgress c.key).restrictionRevision

/-- Every claim is current. -/
def Admitting.Current (db : Database) (acc : Admitting) : Prop :=
  (∀ key c, acc.quotaProbes.get? key = some c → c.Current .quota db) ∧
  ∀ key c, acc.transportProbes.get? key = some c → c.Current .transport db

theorem Admitting.Current.add {acc : Admitting} (h : acc.Current db) (exchange : String)
    (nowUnixNs nowMonotonicNs : Nat) (candidate : Egress) :
    (acc.add db exchange nowUnixNs nowMonotonicNs candidate).Current db := by
  constructor
  · intro key c hc
    simp only [Admitting.add] at hc
    split at hc
    · rw [Dict.get?_set] at hc
      split at hc
      · cases hc
        exact ⟨rfl, rfl⟩
      · exact h.1 key c hc
    · exact h.1 key c hc
  · intro key c hc
    simp only [Admitting.add] at hc
    split at hc
    · rw [Dict.get?_set] at hc
      split at hc
      · cases hc
        exact ⟨rfl, rfl⟩
      · exact h.2 key c hc
    · exact h.2 key c hc

theorem Admitting.Current.foldl {acc : Admitting} (h : acc.Current db) (exchange : String)
    (nowUnixNs nowMonotonicNs : Nat) (egresses : List Egress) :
    (egresses.foldl (Admitting.add db exchange nowUnixNs nowMonotonicNs) acc).Current db := by
  induction egresses generalizing acc with
  | nil => exact h
  | cons candidate egresses ih => exact ih (h.add exchange nowUnixNs nowMonotonicNs candidate)

theorem mem_mint {claims : List Claims} {a : Admission} (h : a ∈ mint store next claims) :
    a.claims ∈ claims := by
  obtain ⟨c, hc, rfl⟩ := List.mem_map.mp h
  exact List.fst_mem_of_mem_zipIdx hc

theorem exists_get?_of_mem_values {κ α : Type} [DecidableEq κ] {d : Dict κ α} {v : α}
    (h : v ∈ d.values) : ∃ k, d.get? k = some v := by
  obtain ⟨e, he, rfl⟩ := List.mem_map.mp h
  exact ⟨e.1, Dict.get?_eq_some.mpr he⟩

/-- The admissions of `admit_health` are current. -/
theorem admitHealth_current {exchange : String} {egresses : List Egress}
    {nowUnixNs nowMonotonicNs : Int} {admitted : AdmittedHealth} (h : admitHealth store next exchange
      egresses nowUnixNs nowMonotonicNs fault db = .ok admitted) {a : Admission}
    (ha : a ∈ admitted.admissions) : a.claims.Current a.claims.kind db := by
  obtain ⟨-, h⟩ := checked_eq_ok.mp h
  cases h
  have hcurrent : Admitting.Current db
      (egresses.foldl (Admitting.add db exchange nowUnixNs.toNat nowMonotonicNs.toNat) {}) := by
    refine Admitting.Current.foldl ⟨?_, ?_⟩ ..
    · intro key c hc
      simp at hc
    · intro key c hc
      simp at hc
  obtain ha | ha := List.mem_append.mp ha
  · obtain ⟨key, hkey⟩ := exists_get?_of_mem_values (mem_mint ha)
    have := hcurrent.1 key _ hkey
    rwa [this.1]
  · obtain ⟨key, hkey⟩ := exists_get?_of_mem_values (mem_mint ha)
    have := hcurrent.2 key _ hkey
    rwa [this.1]

end CryptoCollector.Network
