import CryptoCollector.Lib.Dict
import CryptoCollector.Lib.Except
import CryptoCollector.Lib.FirstFit
import CryptoCollector.Lib.Sorting
import CryptoCollector.Storage.Envelope
import Mathlib.Data.List.Dedup
import Mathlib.Data.List.Lex
import Mathlib.Data.List.MinMax
import Mathlib.Data.Prod.Lex

/-!
# Capacity admission

`selection/capacity.py: admit, admit_exchange_capacity`. The scopes of an exchange share its
connections. Each scope first gets the connections of its fixed candidates; the others are given
one by one to the scope whose next chunk of candidates comes first; then every scope evicts what
its connections cannot hold.

* `admit_spec`: what one scope admits and rejects.
* `allocate_spec`: no connection is given in vain, and none is left while a candidate needs it.
* `admitExchangeCapacity_congr`: no order plays a part.
* `admitExchangeCapacity_lawful`: the law of an exchange.
-/

namespace CryptoCollector.Selection

open Lib
open Storage (Exchange Market isSha256)

/-- `_MAX_INT64`. -/
def maxInt64 : Int := 2 ^ 63 - 1

/-- `CatalogScope`. -/
structure CatalogScope where
  exchange : Exchange
  market : Market
  deriving DecidableEq

/-- `_scope_key`. -/
def scopeKey (s : CatalogScope) : String ×ₗ String := toLex (s.exchange.value, s.market.value)

/-- The exceptions of an admission. -/
inductive CapacityError where
  | valueError (message : String)
  | capacityError (message : String)
  | scopedCapacityError (scope : CatalogScope) (message : String)
  deriving DecidableEq

/-- `_integer`. -/
def integer (value : Int) (field : String) (minimum : Int) : Option CapacityError :=
  if value < minimum then
    some (.valueError (field ++ " must be " ++
      if minimum = 1 then "positive" else "non-negative"))
  else if maxInt64 < value then
    some (.valueError (field ++ " must fit a signed 64-bit integer"))
  else none

/-- `AdmissionPriority`. -/
inductive AdmissionPriority where
  | topN
  | newListing
  | fixed
  deriving DecidableEq

/-- `CapacityCandidate`. -/
@[ext]
structure CapacityCandidate where
  instrumentKey : String
  priority : AdmissionPriority
  firstSeenNs : Nat
  topNRank : Option Nat
  instrumentKey_ne : instrumentKey ≠ ""
  firstSeenNs_le : (firstSeenNs : Int) ≤ maxInt64
  topNRank_mem : ∀ rank ∈ topNRank, 0 < rank ∧ (rank : Int) ≤ maxInt64
  topNRank_isSome : topNRank.isSome ↔ priority = .topN

instance : DecidableEq CapacityCandidate := fun _ _ => decidable_of_iff' _ CapacityCandidate.ext_iff

/-- `CapacityPolicy`. -/
inductive CapacityPolicy where
  | degradeLowPriorityWithWarning
  | fail
  deriving DecidableEq

/-- `AdmissionPolicy`. -/
inductive AdmissionPolicy where
  | policy (p : CapacityPolicy)
  | mixed
  deriving DecidableEq

/-- `CapacityWarning`. -/
structure CapacityWarning where
  rejected : List String
  requiredSlots : Nat
  availableSlots : Nat
  configSha256 : String
  reason : String := "selection exceeds healthy transport capacity"
  deriving DecidableEq

/-- `CapacityAdmission`. -/
structure CapacityAdmission where
  admitted : List String
  rejected : List String
  requiredSlots : Nat
  availableSlots : Nat
  policy : AdmissionPolicy
  configSha256 : String
  warning : Option CapacityWarning
  deriving DecidableEq

/-- `ScopedCapacityDemand`. -/
structure ScopedCapacityDemand where
  scope : CatalogScope
  candidates : List CapacityCandidate
  instrumentsPerConnection : Nat
  policies : Dict String CapacityPolicy
  keys_nodup : (candidates.map (·.instrumentKey)).Nodup
  instrumentsPerConnection_pos : 0 < instrumentsPerConnection
  instrumentsPerConnection_le : (instrumentsPerConnection : Int) ≤ maxInt64
  policies_cover : ∀ key, key ∈ policies.keys ↔ key ∈ candidates.map (·.instrumentKey)

/-! ## One scope -/

/-- A tuple of two integers and a text. -/
abbrev Order := ℕ ×ₗ ℤ ×ₗ String

/-- `_admission_order`. -/
def admissionOrder (c : CapacityCandidate) : Order :=
  match c.priority with
  | .fixed => toLex (0, toLex (0, c.instrumentKey))
  | .newListing => toLex (1, toLex ((c.firstSeenNs : Int), c.instrumentKey))
  | .topN => toLex (2, toLex (((c.topNRank.getD 0 : Nat) : Int), c.instrumentKey))

/-- `_eviction_order`. -/
def evictionOrder (c : CapacityCandidate) : Order :=
  match c.priority with
  | .topN => toLex (0, toLex (-((c.topNRank.getD 0 : Nat) : Int), c.instrumentKey))
  | .newListing => toLex (1, toLex (-(c.firstSeenNs : Int), c.instrumentKey))
  | .fixed => toLex (2, toLex (0, c.instrumentKey))

/-- The number of fixed candidates. -/
def fixedCount (candidates : List CapacityCandidate) : Nat :=
  candidates.countP (·.priority = .fixed)

/-- The rejected candidates of `admit`. -/
def evicted (candidates : List CapacityCandidate) (slots : Nat) : List CapacityCandidate :=
  (sortedBy evictionOrder (candidates.filter (·.priority ≠ .fixed))).take
    (candidates.length - slots)

/-- `admit`. -/
def admitCandidates (candidates : List CapacityCandidate) (slots : Int) (configSha256 : String)
    (policy : CapacityPolicy) : Except CapacityError CapacityAdmission :=
  checked (integer slots "slots" 0 <|>
      (if isSha256 configSha256 then none
        else some (.valueError "config_sha256 must be a lowercase SHA-256 digest")) <|>
      (if ¬ (candidates.map (·.instrumentKey)).Nodup then
        some (.valueError "candidate instrument keys must be unique") else none) <|>
      (if slots < fixedCount candidates then
        some (.capacityError "fixed pairs exceed available capacity") else none)) <|
    let available := slots.toNat
    let required := candidates.length
    if required ≤ available then
      .ok {
        admitted := (sortedBy admissionOrder candidates).map (·.instrumentKey)
        rejected := []
        requiredSlots := required
        availableSlots := available
        policy := .policy policy
        configSha256
        warning := none }
    else if policy = .fail then
      .error (.capacityError ("capacity shortfall: required " ++ toString required ++
        ", available " ++ toString available))
    else
      let rejected := (evicted candidates available).map (·.instrumentKey)
      .ok {
        admitted := ((sortedBy admissionOrder candidates).filter
          (·.instrumentKey ∉ rejected)).map (·.instrumentKey)
        rejected
        requiredSlots := required
        availableSlots := available
        policy := .policy policy
        configSha256
        warning := some {
          rejected
          requiredSlots := required
          availableSlots := available
          configSha256 } }

/-! ## The scopes of an exchange -/

/-- `_connection_chunk`. -/
def connectionChunk (d : ScopedCapacityDemand) (allocatedConnections : Nat) :
    List CapacityCandidate :=
  ((sortedBy admissionOrder d.candidates).drop
    (allocatedConnections * d.instrumentsPerConnection)).take d.instrumentsPerConnection

/-- `sentinel` in `_best_connection_scope`. -/
def sentinel : Order := toLex (3, toLex (maxInt64 + 1, ""))

/-- `key` in `_best_connection_scope`. -/
def optionKey (maximumChunk : Nat) (option : CatalogScope × List CapacityCandidate) :
    List Order ×ₗ (String ×ₗ String) :=
  toLex (option.2.map admissionOrder ++
    List.replicate (maximumChunk - option.2.length) sentinel, scopeKey option.1)

/-- `_best_connection_scope`; there is none without options. An option is the scope of a demand
with its chunk. -/
def bestConnectionScope (options : List (CatalogScope × List CapacityCandidate)) :
    Option CatalogScope :=
  let maximumChunk := (options.map (·.2.length)).foldl max 0
  (options.argmin (optionKey maximumChunk)).map Prod.fst

/-- `options` in `admit_exchange_capacity`. -/
def connectionOptions (ordered : List ScopedCapacityDemand) (allocations : CatalogScope → Nat) :
    List (CatalogScope × List CapacityCandidate) :=
  (ordered.map fun d => (d.scope, connectionChunk d (allocations d.scope))).filter fun option =>
    option.2 ≠ []

/-- The `while` loop of `admit_exchange_capacity`. -/
def allocate (ordered : List ScopedCapacityDemand) :
    (remaining : Nat) → (CatalogScope → Nat) → CatalogScope → Nat
  | 0, allocations => allocations
  | remaining + 1, allocations =>
    match bestConnectionScope (connectionOptions ordered allocations) with
    | none => allocations
    | some scope =>
      allocate ordered remaining (Function.update allocations scope (allocations scope + 1))

/-- The connections of the fixed candidates. -/
def fixedConnections (d : ScopedCapacityDemand) : Nat :=
  (fixedCount d.candidates + d.instrumentsPerConnection - 1) / d.instrumentsPerConnection

/-- `allocations` before the loop. -/
def fixedAllocations (ordered : List ScopedCapacityDemand) (scope : CatalogScope) : Nat :=
  ((ordered.find? (·.scope = scope)).map fixedConnections).getD 0

/-- `report_policy`. -/
def reportPolicy (d : ScopedCapacityDemand) : AdmissionPolicy :=
  match d.policies.values.dedup with
  | [p] => .policy p
  | _ => .mixed

/-- The message about rejected candidates with the `fail` policy. -/
def shortfallMessage (s : CatalogScope) : String :=
  "capacity shortfall rejected fail-policy instruments in " ++ s.exchange.value ++ "/" ++
    s.market.value

/-- The admission of one scope in `admit_exchange_capacity`. -/
def admitScope (configSha256 : String) (d : ScopedCapacityDemand) (connections : Nat) :
    Except CapacityError CapacityAdmission := do
  let admission ← admitCandidates d.candidates (connections * d.instrumentsPerConnection : Nat)
    configSha256 .degradeLowPriorityWithWarning
  if admission.rejected.any (d.policies.get? · = some .fail) then
    throw (.scopedCapacityError d.scope (shortfallMessage d.scope))
  else return { admission with policy := reportPolicy d }

/-- `ExchangeCapacityAdmission`; the mappings are lists in the order of their scopes. -/
structure ExchangeCapacityAdmission where
  connectionsAvailable : Nat
  connectionsUsed : Nat
  connectionsByScope : List (CatalogScope × Nat)
  admissions : List (CatalogScope × CapacityAdmission)
  used_le : connectionsUsed ≤ connectionsAvailable
  scopes_eq : connectionsByScope.map Prod.fst = admissions.map Prod.fst
  sum_eq : (connectionsByScope.map Prod.snd).sum = connectionsUsed
  deriving DecidableEq

/-- `ExchangeCapacityAdmission.__post_init__`. -/
def ExchangeCapacityAdmission.new (available used : Nat)
    (connectionsByScope : List (CatalogScope × Nat))
    (admissions : List (CatalogScope × CapacityAdmission)) :
    Except CapacityError ExchangeCapacityAdmission :=
  if hused : available < used then
    .error (.valueError "connections_used exceeds connections_available")
  else if hscopes : connectionsByScope.map Prod.fst ≠ admissions.map Prod.fst then
    .error (.valueError "connection and admission scopes must match")
  else if hsum : (connectionsByScope.map Prod.snd).sum ≠ used then
    .error (.valueError "scope connections must sum to connections_used")
  else .ok ⟨available, used, connectionsByScope, admissions, not_lt.mp hused, not_not.mp hscopes,
    not_not.mp hsum⟩

/-- The checks of `admit_exchange_capacity`. -/
def checkDemands (demands : List ScopedCapacityDemand) (wsConnections : Int)
    (configSha256 : String) : Option CapacityError :=
  integer wsConnections "ws_connections" 0 <|>
    (if isSha256 configSha256 then none
      else some (.valueError "config_sha256 must be a lowercase SHA-256 digest")) <|>
    (if ¬ (demands.map (·.scope)).Nodup then
      some (.valueError "capacity demand scopes must be unique") else none) <|>
    if 1 < (demands.map (·.scope.exchange)).dedup.length then
      some (.valueError "capacity demands must belong to one exchange") else none

/-- The connections that the scopes of some demands have together. -/
def allocated (demands : List ScopedCapacityDemand) (allocations : CatalogScope → Nat) : Nat :=
  (demands.map fun d => allocations d.scope).sum

/-- The exception for fixed candidates that do not fit; `max` of nothing raises. -/
def fixedError (ordered : List ScopedCapacityDemand) (allocations : CatalogScope → Nat) :
    CapacityError :=
  match ((ordered.map (·.scope)).filter (allocations · ≠ 0)).argmax scopeKey with
  | some scope =>
    .scopedCapacityError scope "fixed pairs exceed available exchange connection capacity"
  | none => .valueError "max() iterable argument is empty"

/-- `admit_exchange_capacity`. -/
def admitExchangeCapacity (demands : List ScopedCapacityDemand) (wsConnections : Int)
    (configSha256 : String) : Except CapacityError ExchangeCapacityAdmission :=
  checked (checkDemands demands wsConnections configSha256) <|
    let available := wsConnections.toNat
    let ordered := sortedBy (scopeKey ·.scope) demands
    let fixed := fixedAllocations ordered
    if available < allocated ordered fixed then .error (fixedError ordered fixed)
    else do
      let allocations := allocate ordered (available - allocated ordered fixed) fixed
      let admissions ← ordered.mapM fun d =>
        (d.scope, ·) <$> admitScope configSha256 d (allocations d.scope)
      ExchangeCapacityAdmission.new available (allocated ordered allocations)
        (ordered.map fun d => (d.scope, allocations d.scope)) admissions

/-! ## What one scope admits -/

theorem integer_eq_none {value minimum : Int} {field : String} :
    integer value field minimum = none ↔ minimum ≤ value ∧ value ≤ maxInt64 := by
  unfold integer
  split_ifs <;> simp <;> omega

theorem evicted_sublist_perm (candidates : List CapacityCandidate) (slots : Nat) :
    ∃ l, (evicted candidates slots).Sublist l ∧
      l.Perm (candidates.filter (·.priority ≠ .fixed)) :=
  ⟨_, List.take_sublist _ _, sortedBy_perm _ _⟩

theorem mem_of_mem_evicted {candidates : List CapacityCandidate} {slots : Nat}
    {c : CapacityCandidate} (h : c ∈ evicted candidates slots) :
    c ∈ candidates ∧ c.priority ≠ .fixed := by
  obtain ⟨l, hsub, hperm⟩ := evicted_sublist_perm candidates slots
  have := hperm.mem_iff.mp (hsub.subset h)
  rwa [List.mem_filter, decide_eq_true_eq] at this

theorem evicted_nodup {candidates : List CapacityCandidate} (h : candidates.Nodup) (slots : Nat) :
    (evicted candidates slots).Nodup := by
  obtain ⟨l, hsub, hperm⟩ := evicted_sublist_perm candidates slots
  exact (hperm.nodup_iff.mpr (h.filter _)).sublist hsub

/-- Only candidates that are not fixed have to go. -/
theorem length_evicted {candidates : List CapacityCandidate} {slots : Nat}
    (hfixed : fixedCount candidates ≤ slots) :
    (evicted candidates slots).length = candidates.length - slots := by
  have hcount := List.length_eq_countP_add_countP (fun c : CapacityCandidate =>
    decide (c.priority = .fixed)) (l := candidates)
  have hothers : (candidates.filter (·.priority ≠ .fixed)).length =
      candidates.length - fixedCount candidates := by
    rw [← List.countP_eq_length_filter]
    simp only [fixedCount, ne_eq, decide_not, Bool.decide_eq_true] at hcount ⊢
    omega
  rw [evicted, List.length_take, length_sortedBy, hothers]
  omega

/-- What a scope has to admit and to reject. -/
structure Admits (candidates : List CapacityCandidate) (slots : Nat) (a : CapacityAdmission) :
    Prop where
  partition : (a.admitted ++ a.rejected).Perm (candidates.map (·.instrumentKey))
  fixed : ∀ c ∈ candidates, c.priority = .fixed → c.instrumentKey ∈ a.admitted
  rejected : a.rejected.length = candidates.length - slots

theorem Admits.admitted {candidates : List CapacityCandidate} {slots : Nat}
    {a : CapacityAdmission} (h : Admits candidates slots a) :
    a.admitted.length = min candidates.length slots := by
  have := h.partition.length_eq
  rw [List.length_append, List.length_map, h.rejected] at this
  omega

/-- A candidate is evicted if and only if its key is. -/
theorem key_mem_evicted {candidates : List CapacityCandidate}
    (hkeys : (candidates.map (·.instrumentKey)).Nodup) {slots : Nat} {c : CapacityCandidate}
    (hc : c ∈ candidates) :
    c.instrumentKey ∈ (evicted candidates slots).map (·.instrumentKey) ↔
      c ∈ evicted candidates slots := by
  constructor
  · intro h
    obtain ⟨d, hd, hdc⟩ := List.mem_map.mp h
    rwa [← keyed_of_nodup_map hkeys d (mem_of_mem_evicted hd).1 c hc hdc]
  · exact fun h => List.mem_map_of_mem h

/-- The kept and the evicted candidates make up the candidates. -/
theorem kept_append_evicted {candidates : List CapacityCandidate}
    (hkeys : (candidates.map (·.instrumentKey)).Nodup) (slots : Nat) :
    ((sortedBy admissionOrder candidates).filter
        (·.instrumentKey ∉ (evicted candidates slots).map (·.instrumentKey)) ++
      evicted candidates slots).Perm candidates := by
  have hsorted := sortedBy_perm admissionOrder candidates
  have hcandidates : candidates.Nodup := List.Nodup.of_map _ hkeys
  rw [List.perm_ext_iff_of_nodup _ hcandidates]
  · intro c
    rw [List.mem_append, List.mem_filter, decide_eq_true_eq, mem_sortedBy]
    constructor
    · rintro (⟨hc, -⟩ | hc)
      · exact hc
      · exact (mem_of_mem_evicted hc).1
    · intro hc
      by_cases he : c ∈ evicted candidates slots
      · exact .inr he
      · exact .inl ⟨hc, fun h => he ((key_mem_evicted hkeys hc).mp h)⟩
  · refine List.Nodup.append ((hsorted.nodup_iff.mpr hcandidates).filter _)
      (evicted_nodup hcandidates slots) ?_
    intro c hc he
    rw [List.mem_filter, decide_eq_true_eq, mem_sortedBy] at hc
    exact hc.2 ((key_mem_evicted hkeys hc.1).mpr he)

/-- What `admit` does when it returns. -/
theorem admit_spec {candidates : List CapacityCandidate} {slots : Int} {configSha256 : String}
    {policy : CapacityPolicy} {a : CapacityAdmission}
    (h : admitCandidates candidates slots configSha256 policy = .ok a) :
    Admits candidates slots.toNat a := by
  obtain ⟨hchecks, h⟩ := checked_eq_ok.mp h
  simp only [orElse_eq_none, integer_eq_none, ite_eq_right_iff, reduceCtorEq, imp_false,
    not_not, not_lt] at hchecks
  obtain ⟨⟨hslots, -⟩, -, hkeys, hfixed⟩ := hchecks
  have hfixed' : fixedCount candidates ≤ slots.toNat := by omega
  dsimp only at h
  split at h
  · next hfits =>
    cases h
    have hperm := (sortedBy_perm admissionOrder candidates).map (·.instrumentKey)
    refine ⟨?_, ?_, ?_⟩
    · rwa [List.append_nil]
    · exact fun c hc _ => hperm.mem_iff.mpr (List.mem_map_of_mem hc)
    · exact (Nat.sub_eq_zero_of_le hfits).symm
  · split at h
    · cases h
    · cases h
      refine ⟨?_, ?_, ?_⟩
      · rw [← List.map_append]
        exact (kept_append_evicted hkeys slots.toNat).map _
      · intro c hc hpriority
        have hmem := (kept_append_evicted hkeys slots.toNat).mem_iff.mpr hc
        obtain hkept | hevicted := List.mem_append.mp hmem
        · exact List.mem_map_of_mem hkept
        · exact absurd hpriority (mem_of_mem_evicted hevicted).2
      · rw [List.length_map, length_evicted hfixed']

/-- Candidates that are checked can only fail with too many slots. -/
theorem admit_degrade {candidates : List CapacityCandidate} {slots : Nat} {configSha256 : String}
    (hkeys : (candidates.map (·.instrumentKey)).Nodup) (hsha : isSha256 configSha256 = true)
    (hfixed : fixedCount candidates ≤ slots) :
    (∃ a, admitCandidates candidates slots configSha256 .degradeLowPriorityWithWarning = .ok a) ∨
    ∃ message, admitCandidates candidates slots configSha256 .degradeLowPriorityWithWarning =
      .error (.valueError message) := by
  have hfixed' : ¬ (slots : Int) < fixedCount candidates := by omega
  have hneg : ¬ (slots : Int) < 0 := by omega
  unfold admitCandidates
  rw [if_pos hsha, if_neg (not_not.mpr hkeys), if_neg hfixed', integer, if_neg hneg]
  by_cases hlarge : maxInt64 < (slots : Int)
  · rw [if_pos hlarge]
    exact .inr ⟨_, rfl⟩
  · rw [if_neg hlarge]
    left
    by_cases hfits : candidates.length ≤ (slots : Int).toNat
    · exact ⟨_, if_pos hfits⟩
    · exact ⟨_, if_neg hfits⟩

/-! ## The connections of the scopes -/

theorem bestConnectionScope_mem {options : List (CatalogScope × List CapacityCandidate)}
    {scope : CatalogScope} (h : bestConnectionScope options = some scope) :
    ∃ option ∈ options, option.1 = scope := by
  obtain ⟨option, hoption, rfl⟩ := Option.map_eq_some_iff.mp h
  exact ⟨option, List.argmin_mem hoption, rfl⟩

theorem bestConnectionScope_eq_none {options : List (CatalogScope × List CapacityCandidate)} :
    bestConnectionScope options = none ↔ options = [] := by
  simp [bestConnectionScope, List.argmin_eq_none]

theorem connectionChunk_ne_nil {d : ScopedCapacityDemand} {connections : Nat} :
    connectionChunk d connections ≠ [] ↔
      connections * d.instrumentsPerConnection < d.candidates.length := by
  have := d.instrumentsPerConnection_pos
  rw [connectionChunk, ne_eq, List.take_eq_nil_iff, List.drop_eq_nil_iff, length_sortedBy]
  omega

/-- The options are the scopes with another chunk. -/
theorem mem_connectionOptions {ordered : List ScopedCapacityDemand}
    {allocations : CatalogScope → Nat} {option : CatalogScope × List CapacityCandidate} :
    option ∈ connectionOptions ordered allocations ↔
      ∃ d ∈ ordered, (d.scope, connectionChunk d (allocations d.scope)) = option ∧
        allocations d.scope * d.instrumentsPerConnection < d.candidates.length := by
  rw [connectionOptions, List.mem_filter, decide_eq_true_eq, List.mem_map]
  constructor
  · rintro ⟨⟨d, hd, rfl⟩, hchunk⟩
    exact ⟨d, hd, rfl, connectionChunk_ne_nil.mp hchunk⟩
  · rintro ⟨d, hd, rfl, hlt⟩
    exact ⟨⟨d, hd, rfl⟩, connectionChunk_ne_nil.mpr hlt⟩

/-- The fixed candidates of a scope fit its connections, and its last connection is used. -/
def Useful (ordered : List ScopedCapacityDemand) (allocations : CatalogScope → Nat) : Prop :=
  ∀ d ∈ ordered,
    fixedCount d.candidates ≤ allocations d.scope * d.instrumentsPerConnection ∧
    allocations d.scope * d.instrumentsPerConnection <
      d.candidates.length + d.instrumentsPerConnection

theorem fixedAllocations_of_mem {ordered : List ScopedCapacityDemand}
    (hscopes : (ordered.map (·.scope)).Nodup) {d : ScopedCapacityDemand} (hd : d ∈ ordered) :
    fixedAllocations ordered d.scope = fixedConnections d := by
  rw [fixedAllocations, find?_key_of_mem hscopes hd]
  rfl

theorem useful_fixedAllocations {ordered : List ScopedCapacityDemand}
    (hscopes : (ordered.map (·.scope)).Nodup) : Useful ordered (fixedAllocations ordered) := by
  intro d hd
  rw [fixedAllocations_of_mem hscopes hd, fixedConnections]
  have hpos := d.instrumentsPerConnection_pos
  have hle : fixedCount d.candidates ≤ d.candidates.length := List.countP_le_length
  have hmul := Nat.div_mul_le_self
    (fixedCount d.candidates + d.instrumentsPerConnection - 1) d.instrumentsPerConnection
  exact ⟨le_ceil_mul hpos _, by omega⟩

/-- A connection that is given to the next chunk of a scope is used. -/
theorem Useful.update {ordered : List ScopedCapacityDemand} {allocations : CatalogScope → Nat}
    (h : Useful ordered allocations) (hscopes : (ordered.map (·.scope)).Nodup)
    {d : ScopedCapacityDemand} (hd : d ∈ ordered)
    (hlt : allocations d.scope * d.instrumentsPerConnection < d.candidates.length) :
    Useful ordered (Function.update allocations d.scope (allocations d.scope + 1)) := by
  intro e he
  by_cases hscope : e.scope = d.scope
  · obtain rfl := keyed_of_nodup_map hscopes e he d hd hscope
    have := (h e he).1
    rw [Function.update_self, Nat.succ_mul]
    omega
  · rw [Function.update_of_ne hscope]
    exact h e he

/-- The loop gives all connections away, or as many as are needed. -/
theorem allocate_spec {ordered : List ScopedCapacityDemand}
    (hscopes : (ordered.map (·.scope)).Nodup) (remaining : Nat) {allocations : CatalogScope → Nat}
    (h : Useful ordered allocations) :
    Useful ordered (allocate ordered remaining allocations) ∧
    allocated ordered (allocate ordered remaining allocations) ≤
      allocated ordered allocations + remaining ∧
    (allocated ordered (allocate ordered remaining allocations) =
        allocated ordered allocations + remaining ∨
      ∀ d ∈ ordered, d.candidates.length ≤
        allocate ordered remaining allocations d.scope * d.instrumentsPerConnection) := by
  induction remaining generalizing allocations with
  | zero => exact ⟨h, le_rfl, .inl rfl⟩
  | succ remaining ih =>
    unfold allocate
    cases hbest : bestConnectionScope (connectionOptions ordered allocations) with
    | none =>
      refine ⟨h, Nat.le_add_right _ _, .inr fun d hd => ?_⟩
      -- no scope has another chunk
      by_contra hlt
      have hmem : (d.scope, connectionChunk d (allocations d.scope)) ∈
          connectionOptions ordered allocations :=
        mem_connectionOptions.mpr ⟨d, hd, rfl, not_le.mp hlt⟩
      rw [bestConnectionScope_eq_none.mp hbest] at hmem
      cases hmem
    | some scope =>
      obtain ⟨option, hoption, rfl⟩ := bestConnectionScope_mem hbest
      obtain ⟨d, hd, rfl, hlt⟩ := mem_connectionOptions.mp hoption
      obtain ⟨huseful, hle, hall⟩ := ih (h.update hscopes hd hlt)
      have hallocated : allocated ordered (Function.update allocations d.scope
          (allocations d.scope + 1)) = allocated ordered allocations + 1 :=
        sum_update_of_mem hscopes hd
      rw [hallocated] at hle hall
      dsimp only
      refine ⟨huseful, by omega, ?_⟩
      obtain hall | hall := hall
      · exact .inl (by omega)
      · exact .inr hall

/-! ## The admission of a scope -/

/-- What a scope gets from its exchange. -/
structure Served (d : ScopedCapacityDemand) (connections : Nat) (a : CapacityAdmission) : Prop where
  partition : (a.admitted ++ a.rejected).Perm (d.candidates.map (·.instrumentKey))
  fixed : ∀ c ∈ d.candidates, c.priority = .fixed → c.instrumentKey ∈ a.admitted
  capacity : a.admitted.length ≤ connections * d.instrumentsPerConnection
  used : connections = (a.admitted.length + d.instrumentsPerConnection - 1) /
    d.instrumentsPerConnection
  policy : ∀ key ∈ a.rejected, d.policies.get? key ≠ some .fail

theorem admitScope_spec {configSha256 : String} {d : ScopedCapacityDemand} {connections : Nat}
    {a : CapacityAdmission} (h : admitScope configSha256 d connections = .ok a) :
    Admits d.candidates (connections * d.instrumentsPerConnection) a ∧
      ∀ key ∈ a.rejected, d.policies.get? key ≠ some .fail := by
  obtain ⟨b, hb, h⟩ := bind_eq_ok.mp h
  have hadmits := admit_spec hb
  rw [Int.toNat_natCast] at hadmits
  split at h
  · cases h
  · next hpolicy =>
    cases h
    refine ⟨⟨hadmits.partition, hadmits.fixed, hadmits.rejected⟩, ?_⟩
    intro key hkey hfail
    exact hpolicy (List.any_eq_true.mpr ⟨key, hkey, decide_eq_true hfail⟩)

/-- A useful number of connections is what the admitted candidates need. -/
theorem served_of_admitScope {configSha256 : String} {d : ScopedCapacityDemand}
    {connections : Nat} {a : CapacityAdmission}
    (h : admitScope configSha256 d connections = .ok a)
    (huseful : connections * d.instrumentsPerConnection <
      d.candidates.length + d.instrumentsPerConnection) : Served d connections a := by
  obtain ⟨hadmits, hpolicy⟩ := admitScope_spec h
  have hadmitted := hadmits.admitted
  have hpos := d.instrumentsPerConnection_pos
  refine ⟨hadmits.partition, hadmits.fixed, by omega, ?_, hpolicy⟩
  apply Nat.le_antisymm
  · rw [Nat.le_div_iff_mul_le hpos]
    omega
  · rw [ceil_le_iff hpos]
    omega

/-- The exceptions for fixed candidates that do not fit. -/
def CapacityError.isFixed : CapacityError → Bool
  | .valueError _ => false
  | .capacityError message => message = "fixed pairs exceed available capacity"
  | .scopedCapacityError _ message =>
    message = "fixed pairs exceed available exchange connection capacity"

theorem shortfallMessage_ne (s : CatalogScope) :
    shortfallMessage s ≠ "fixed pairs exceed available exchange connection capacity" := by
  obtain ⟨exchange, market⟩ := s
  cases exchange <;> cases market <;> decide +kernel

/-- A scope whose fixed candidates fit does not complain of them. -/
theorem isFixed_of_admitScope {configSha256 : String} (hsha : isSha256 configSha256 = true)
    {d : ScopedCapacityDemand} {connections : Nat}
    (hfixed : fixedCount d.candidates ≤ connections * d.instrumentsPerConnection)
    {e : CapacityError} (h : admitScope configSha256 d connections = .error e) :
    e.isFixed = false := by
  unfold admitScope at h
  obtain ⟨a, ha⟩ | ⟨message, hmessage⟩ := admit_degrade d.keys_nodup hsha hfixed
  · rw [ha, ok_bind] at h
    split at h
    · cases h
      exact decide_eq_false (shortfallMessage_ne d.scope)
    · cases h
  · rw [hmessage] at h
    cases h
    rfl

/-! ## Order -/

theorem admissionOrder_key (c : CapacityCandidate) :
    (ofLex (ofLex (admissionOrder c)).2).2 = c.instrumentKey := by
  unfold admissionOrder
  split <;> rfl

theorem evictionOrder_key (c : CapacityCandidate) :
    (ofLex (ofLex (evictionOrder c)).2).2 = c.instrumentKey := by
  unfold evictionOrder
  split <;> rfl

theorem keyed_admissionOrder {candidates : List CapacityCandidate}
    (h : (candidates.map (·.instrumentKey)).Nodup) : Keyed admissionOrder candidates := by
  intro a ha b hb hab
  refine keyed_of_nodup_map h a ha b hb ?_
  rw [← admissionOrder_key a, hab, admissionOrder_key b]

theorem keyed_evictionOrder {candidates : List CapacityCandidate}
    (h : (candidates.map (·.instrumentKey)).Nodup) : Keyed evictionOrder candidates := by
  intro a ha b hb hab
  refine keyed_of_nodup_map h a ha b hb ?_
  rw [← evictionOrder_key a, hab, evictionOrder_key b]

/-- The order of the candidates is forgotten. -/
theorem admit_congr {candidates candidates' : List CapacityCandidate}
    (h : candidates.Perm candidates') (hkeys : (candidates.map (·.instrumentKey)).Nodup)
    (slots : Int) (configSha256 : String) (policy : CapacityPolicy) :
    admitCandidates candidates slots configSha256 policy =
      admitCandidates candidates' slots configSha256 policy := by
  have hkeys' := (h.map (·.instrumentKey)).nodup_iff.mp hkeys
  have hfiltered : ((candidates.filter (·.priority ≠ .fixed)).map (·.instrumentKey)).Nodup :=
    hkeys.sublist (List.filter_sublist.map _)
  have hevicted (n : Nat) : evicted candidates n = evicted candidates' n := by
    rw [evicted, evicted, h.length_eq,
      sortedBy_eq_of_perm (h.filter _) (keyed_evictionOrder hfiltered)]
  unfold admitCandidates
  rw [if_neg (not_not.mpr hkeys), if_neg (not_not.mpr hkeys'), fixedCount, fixedCount,
    h.countP_eq]
  simp only [h.length_eq, hevicted, sortedBy_eq_of_perm h (keyed_admissionOrder hkeys)]

/-- A demand with its candidates in the order of admission. -/
def ScopedCapacityDemand.canonical (d : ScopedCapacityDemand) : ScopedCapacityDemand where
  scope := d.scope
  candidates := sortedBy admissionOrder d.candidates
  instrumentsPerConnection := d.instrumentsPerConnection
  policies := d.policies
  keys_nodup := ((sortedBy_perm admissionOrder d.candidates).map _).nodup_iff.mpr d.keys_nodup
  instrumentsPerConnection_pos := d.instrumentsPerConnection_pos
  instrumentsPerConnection_le := d.instrumentsPerConnection_le
  policies_cover key := (d.policies_cover key).trans
    ((sortedBy_perm admissionOrder d.candidates).map _).mem_iff.symm

/-- Demands that differ in the order of their candidates only. -/
def SameDemand (d d' : ScopedCapacityDemand) : Prop :=
  d.scope = d'.scope ∧ d.candidates.Perm d'.candidates ∧
    d.instrumentsPerConnection = d'.instrumentsPerConnection ∧ d.policies = d'.policies

theorem SameDemand.canonical {d d' : ScopedCapacityDemand} (h : SameDemand d d') :
    d.canonical = d'.canonical := by
  obtain ⟨hscope, hcandidates, hsize, hpolicies⟩ := h
  have hsorted := sortedBy_eq_of_perm hcandidates (keyed_admissionOrder d.keys_nodup)
  cases d
  cases d'
  simp only at hscope hcandidates hsize hpolicies hsorted
  subst hscope hsize hpolicies
  simp only [ScopedCapacityDemand.canonical, hsorted]

theorem connectionChunk_canonical (d : ScopedCapacityDemand) (connections : Nat) :
    connectionChunk d.canonical connections = connectionChunk d connections := by
  have := sortedBy_eq_of_perm (sortedBy_perm admissionOrder d.candidates)
    (keyed_admissionOrder d.canonical.keys_nodup)
  rw [connectionChunk, connectionChunk, ← this]
  rfl

theorem fixedConnections_canonical (d : ScopedCapacityDemand) :
    fixedConnections d.canonical = fixedConnections d := by
  rw [fixedConnections, fixedConnections, fixedCount, fixedCount,
    ← (sortedBy_perm admissionOrder d.candidates).countP_eq]
  rfl

theorem admitScope_canonical (configSha256 : String) (d : ScopedCapacityDemand)
    (connections : Nat) :
    admitScope configSha256 d.canonical connections = admitScope configSha256 d connections := by
  rw [admitScope, admitScope, admit_congr (sortedBy_perm admissionOrder d.candidates).symm
    d.keys_nodup]
  rfl

section Canonical

variable (ordered : List ScopedCapacityDemand)

theorem sortedBy_canonical :
    sortedBy (scopeKey ·.scope) (ordered.map (·.canonical)) =
      (sortedBy (scopeKey ·.scope) ordered).map (·.canonical) :=
  sortedBy_map (scopeKey ·.scope) (·.canonical) ordered

theorem fixedAllocations_canonical :
    fixedAllocations (ordered.map (·.canonical)) = fixedAllocations ordered := by
  funext scope
  rw [fixedAllocations, fixedAllocations, List.find?_map, Option.map_map]
  have : fixedConnections ∘ (·.canonical) = fixedConnections := funext fixedConnections_canonical
  rw [this]
  rfl

theorem allocated_canonical (allocations : CatalogScope → Nat) :
    allocated (ordered.map (·.canonical)) allocations = allocated ordered allocations := by
  rw [allocated, allocated, List.map_map]
  rfl

theorem connectionOptions_canonical (allocations : CatalogScope → Nat) :
    connectionOptions (ordered.map (·.canonical)) allocations =
      connectionOptions ordered allocations := by
  rw [connectionOptions, connectionOptions, List.map_map]
  congr 1
  apply List.map_congr_left
  intro d _
  simp only [Function.comp, connectionChunk_canonical]
  rfl

theorem allocate_canonical (remaining : Nat) (allocations : CatalogScope → Nat) :
    allocate (ordered.map (·.canonical)) remaining allocations =
      allocate ordered remaining allocations := by
  induction remaining generalizing allocations with
  | zero => rfl
  | succ remaining ih =>
    unfold allocate
    rw [connectionOptions_canonical]
    cases bestConnectionScope (connectionOptions ordered allocations) with
    | none => rfl
    | some scope => exact ih _

theorem fixedError_canonical (allocations : CatalogScope → Nat) :
    fixedError (ordered.map (·.canonical)) allocations = fixedError ordered allocations := by
  rw [fixedError, fixedError, List.map_map]
  rfl

end Canonical

/-- The exchange only sees the demands with their candidates in the order of admission. -/
theorem admitExchangeCapacity_canonical (demands : List ScopedCapacityDemand)
    (wsConnections : Int) (configSha256 : String) :
    admitExchangeCapacity (demands.map (·.canonical)) wsConnections configSha256 =
      admitExchangeCapacity demands wsConnections configSha256 := by
  have hcheck : checkDemands (demands.map (·.canonical)) wsConnections configSha256 =
      checkDemands demands wsConnections configSha256 := by
    rw [checkDemands, checkDemands, List.map_map, List.map_map]
    rfl
  unfold admitExchangeCapacity
  rw [hcheck]
  simp only [sortedBy_canonical, fixedAllocations_canonical, allocated_canonical,
    allocate_canonical, fixedError_canonical, List.mapM_map, List.map_map]
  simp only [Function.comp_def, admitScope_canonical]
  rfl

/-- Demands in another order, with their candidates in another order. -/
def Reordered (demands demands' : List ScopedCapacityDemand) : Prop :=
  ∃ l, demands.Perm l ∧ List.Forall₂ SameDemand l demands'

theorem scopeKey_injective : Function.Injective scopeKey := by
  rintro ⟨exchange, market⟩ ⟨exchange', market'⟩ h
  have hexchange : exchange.value = exchange'.value := congrArg (fun p => (ofLex p).1) h
  have hmarket : market.value = market'.value := congrArg (fun p => (ofLex p).2) h
  obtain rfl : exchange = exchange' := by
    cases exchange <;> cases exchange' <;> first | rfl | exact absurd hexchange (by decide)
  obtain rfl : market = market' := by
    cases market <;> cases market' <;> first | rfl | exact absurd hmarket (by decide)
  rfl

theorem checkDemands_congr {demands demands' : List ScopedCapacityDemand}
    (h : demands.Perm demands') (wsConnections : Int) (configSha256 : String) :
    checkDemands demands wsConnections configSha256 =
      checkDemands demands' wsConnections configSha256 := by
  have hexchanges := (h.map (·.scope.exchange)).dedup.length_eq
  simp only [checkDemands, hexchanges, (h.map (·.scope)).nodup_iff]

theorem scopes_nodup_of_check {demands : List ScopedCapacityDemand} {wsConnections : Int}
    {configSha256 : String} (h : checkDemands demands wsConnections configSha256 = none) :
    (0 ≤ wsConnections ∧ wsConnections ≤ maxInt64) ∧ isSha256 configSha256 = true ∧
      (demands.map (·.scope)).Nodup := by
  simp only [checkDemands, orElse_eq_none, integer_eq_none, ite_eq_left_iff, ite_eq_right_iff,
    reduceCtorEq, imp_false, not_not] at h
  exact ⟨h.1, h.2.1, h.2.2.1⟩

theorem admitExchangeCapacity_perm {demands demands' : List ScopedCapacityDemand}
    (h : demands.Perm demands') (wsConnections : Int) (configSha256 : String) :
    admitExchangeCapacity demands wsConnections configSha256 =
      admitExchangeCapacity demands' wsConnections configSha256 := by
  unfold admitExchangeCapacity
  rw [checkDemands_congr h]
  cases hcheck : checkDemands demands' wsConnections configSha256 with
  | some e => rfl
  | none =>
    rw [← checkDemands_congr h] at hcheck
    have hscopes := (scopes_nodup_of_check hcheck).2.2
    have hkeyed : Keyed (scopeKey ·.scope) demands := fun a ha b hb hab =>
      keyed_of_nodup_map hscopes a ha b hb (scopeKey_injective hab)
    rw [sortedBy_eq_of_perm h hkeyed]

theorem map_canonical {demands demands' : List ScopedCapacityDemand}
    (h : List.Forall₂ SameDemand demands demands') :
    demands.map (·.canonical) = demands'.map (·.canonical) := by
  induction h with
  | nil => rfl
  | cons hd _ ih => rw [List.map_cons, List.map_cons, hd.canonical, ih]

/-- No order plays a part. -/
theorem admitExchangeCapacity_congr {demands demands' : List ScopedCapacityDemand}
    (h : Reordered demands demands') (wsConnections : Int) (configSha256 : String) :
    admitExchangeCapacity demands' wsConnections configSha256 =
      admitExchangeCapacity demands wsConnections configSha256 := by
  obtain ⟨l, hperm, hsame⟩ := h
  rw [← admitExchangeCapacity_canonical demands', ← map_canonical hsame,
    admitExchangeCapacity_canonical, admitExchangeCapacity_perm hperm]

/-! ## The law of an exchange -/

/-- What an exchange does for its demands. -/
structure Lawful (demands : List ScopedCapacityDemand) (wsConnections : Int)
    (x : ExchangeCapacityAdmission) : Prop where
  scopes : (x.admissions.map Prod.fst).Perm (demands.map (·.scope))
  served : ∀ d ∈ demands, ∃ connections a, (d.scope, connections) ∈ x.connectionsByScope ∧
    (d.scope, a) ∈ x.admissions ∧ Served d connections a
  used_le : (x.connectionsUsed : Int) ≤ wsConnections
  full : ∀ p ∈ x.admissions, p.2.rejected ≠ [] → (x.connectionsUsed : Int) = wsConnections

theorem new_ok {available used : Nat} {connectionsByScope : List (CatalogScope × Nat)}
    {admissions : List (CatalogScope × CapacityAdmission)} {x : ExchangeCapacityAdmission}
    (h : ExchangeCapacityAdmission.new available used connectionsByScope admissions = .ok x) :
    x.connectionsUsed = used ∧ x.connectionsAvailable = available ∧
      x.connectionsByScope = connectionsByScope ∧ x.admissions = admissions := by
  unfold ExchangeCapacityAdmission.new at h
  split_ifs at h
  cases h
  exact ⟨rfl, rfl, rfl, rfl⟩

/-- The admissions of the scopes, one by one. -/
theorem admissions_spec {ordered : List ScopedCapacityDemand} {configSha256 : String}
    {allocations : CatalogScope → Nat} {admissions : List (CatalogScope × CapacityAdmission)}
    (h : (ordered.mapM fun d => (d.scope, ·) <$> admitScope configSha256 d (allocations d.scope)) =
      .ok admissions) :
    admissions.map Prod.fst = ordered.map (·.scope) ∧
    (∀ d ∈ ordered, ∃ a, (d.scope, a) ∈ admissions ∧
      admitScope configSha256 d (allocations d.scope) = .ok a) ∧
    ∀ p ∈ admissions, ∃ d ∈ ordered, p.1 = d.scope ∧
      admitScope configSha256 d (allocations d.scope) = .ok p.2 := by
  have hall := forall₂_of_mapM h
  clear h
  induction hall with
  | nil => simp
  | @cons d p ordered admissions hd _ ih =>
    obtain ⟨a, ha, rfl⟩ := map_eq_ok.mp hd
    obtain ⟨hfst, hof, hback⟩ := ih
    refine ⟨by rw [List.map_cons, List.map_cons, hfst], ?_, ?_⟩
    · intro e he
      obtain rfl | he := List.mem_cons.mp he
      · exact ⟨a, List.mem_cons_self, ha⟩
      · obtain ⟨b, hb, heq⟩ := hof e he
        exact ⟨b, List.mem_cons_of_mem _ hb, heq⟩
    · intro q hq
      obtain rfl | hq := List.mem_cons.mp hq
      · exact ⟨d, List.mem_cons_self, rfl, ha⟩
      · obtain ⟨e, he, heq⟩ := hback q hq
        exact ⟨e, List.mem_cons_of_mem _ he, heq⟩

/-- What is admitted is lawful. -/
theorem lawful_of_ok {demands : List ScopedCapacityDemand} {wsConnections : Int}
    {configSha256 : String} {x : ExchangeCapacityAdmission}
    (h : admitExchangeCapacity demands wsConnections configSha256 = .ok x) :
    Lawful demands wsConnections x := by
  obtain ⟨hcheck, h⟩ := checked_eq_ok.mp h
  obtain ⟨⟨hws, -⟩, -, hscopes⟩ := scopes_nodup_of_check hcheck
  have hperm := sortedBy_perm (scopeKey ·.scope) demands
  dsimp only at h
  generalize sortedBy (fun d : ScopedCapacityDemand => scopeKey d.scope) demands = ordered
    at h hperm
  have hordered : (ordered.map (·.scope)).Nodup := (hperm.map _).nodup_iff.mpr hscopes
  split at h
  · cases h
  · next hfixed =>
    obtain ⟨admissions, hadmissions, h⟩ := bind_eq_ok.mp h
    obtain ⟨hused, -, hconnections, hx⟩ := new_ok h
    obtain ⟨huseful, hle, hall⟩ := allocate_spec hordered
      (wsConnections.toNat - allocated ordered (fixedAllocations ordered))
      (useful_fixedAllocations hordered)
    obtain ⟨hfst, hof, hback⟩ := admissions_spec hadmissions
    refine ⟨?_, ?_, by omega, ?_⟩
    · rw [hx, hfst]
      exact hperm.map _
    · intro d hd
      have hd' := hperm.mem_iff.mpr hd
      obtain ⟨a, ha, hadmit⟩ := hof d hd'
      refine ⟨_, a, ?_, hx ▸ ha, served_of_admitScope hadmit (huseful d hd').2⟩
      rw [hconnections]
      exact List.mem_map_of_mem (f := fun d : ScopedCapacityDemand => (d.scope, _)) hd'
    · intro p hp hrejected
      obtain ⟨d, hd, -, hadmit⟩ := hback p (hx ▸ hp)
      obtain hall | hall := hall
      · omega
      · -- a scope that holds all its candidates rejects none
        have hlength := (admitScope_spec hadmit).1.rejected
        rw [Nat.sub_eq_zero_of_le (hall d hd), List.length_eq_zero_iff] at hlength
        exact absurd hlength hrejected

theorem allocated_fixedAllocations {ordered : List ScopedCapacityDemand}
    (hscopes : (ordered.map (·.scope)).Nodup) :
    allocated ordered (fixedAllocations ordered) = (ordered.map fixedConnections).sum := by
  rw [allocated]
  congr 1
  exact List.map_congr_left fun d hd => fixedAllocations_of_mem hscopes hd

theorem isFixed_fixedError {ordered : List ScopedCapacityDemand} {allocations : CatalogScope → Nat}
    (h : 0 < allocated ordered allocations) : (fixedError ordered allocations).isFixed = true := by
  unfold fixedError
  split
  · rfl
  · next hmax =>
    -- some scope has a connection
    rw [List.argmax_eq_none, List.filter_eq_nil_iff] at hmax
    have hzero : allocated ordered allocations = 0 := by
      rw [allocated, List.sum_eq_zero_iff]
      intro n hn
      obtain ⟨d, hd, rfl⟩ := List.mem_map.mp hn
      simpa using hmax d.scope (List.mem_map_of_mem hd)
    omega

theorem isFixed_integer {value minimum : Int} {field : String} {e : CapacityError}
    (h : integer value field minimum = some e) : e.isFixed = false := by
  unfold integer at h
  split_ifs at h <;> cases h <;> rfl

theorem isFixed_checkDemands {demands : List ScopedCapacityDemand} {wsConnections : Int}
    {configSha256 : String} {e : CapacityError}
    (h : checkDemands demands wsConnections configSha256 = some e) : e.isFixed = false := by
  unfold checkDemands at h
  cases hinteger : integer wsConnections "ws_connections" 0 with
  | some e' =>
    rw [hinteger] at h
    cases h
    exact isFixed_integer hinteger
  | none =>
    rw [hinteger] at h
    split_ifs at h <;> cases h <;> rfl

theorem isFixed_new {available used : Nat} {connectionsByScope : List (CatalogScope × Nat)}
    {admissions : List (CatalogScope × CapacityAdmission)} {e : CapacityError}
    (h : ExchangeCapacityAdmission.new available used connectionsByScope admissions = .error e) :
    e.isFixed = false := by
  unfold ExchangeCapacityAdmission.new at h
  split_ifs at h <;> cases h <;> rfl

/-- The exception for fixed candidates is raised if and only if they do not fit. -/
theorem isFixed_iff (demands : List ScopedCapacityDemand) (wsConnections : Int)
    (configSha256 : String) :
    (∃ e, admitExchangeCapacity demands wsConnections configSha256 = .error e ∧
      e.isFixed = true) ↔
    checkDemands demands wsConnections configSha256 = none ∧
      wsConnections < (demands.map fixedConnections).sum := by
  unfold admitExchangeCapacity
  cases hcheck : checkDemands demands wsConnections configSha256 with
  | some e =>
    refine iff_of_false ?_ (by simp)
    rintro ⟨e', he, hfixed⟩
    cases he
    rw [isFixed_checkDemands hcheck] at hfixed
    cases hfixed
  | none =>
    obtain ⟨⟨hws, -⟩, hsha, hscopes⟩ := scopes_nodup_of_check hcheck
    have hperm := sortedBy_perm (scopeKey ·.scope) demands
    simp only [checked, true_and]
    generalize sortedBy (fun d : ScopedCapacityDemand => scopeKey d.scope) demands = ordered
      at hperm ⊢
    have hordered : (ordered.map (·.scope)).Nodup := (hperm.map _).nodup_iff.mpr hscopes
    have hsum := allocated_fixedAllocations hordered
    rw [(hperm.map fixedConnections).sum_eq] at hsum
    rw [hsum]
    by_cases hlt : wsConnections.toNat < (demands.map fixedConnections).sum
    · rw [if_pos hlt]
      refine iff_of_true ⟨_, rfl, isFixed_fixedError ?_⟩ (by omega)
      omega
    · rw [if_neg hlt]
      refine iff_of_false ?_ (by omega)
      rintro ⟨e, he, hfixed⟩
      obtain ⟨huseful, -⟩ := allocate_spec hordered
        (wsConnections.toNat - (demands.map fixedConnections).sum)
        (useful_fixedAllocations hordered)
      obtain hm | ⟨admissions, -, hnew⟩ := bind_eq_error.mp he
      · obtain ⟨d, hd, hfd⟩ := exists_of_mapM_error hm
        rw [isFixed_of_admitScope hsha (huseful d hd).1 (map_eq_error.mp hfd)] at hfixed
        cases hfixed
      · rw [isFixed_new hnew] at hfixed
        cases hfixed

/-- Admission serves every scope of an exchange, gives no connection in vain and keeps none back
while a candidate is rejected; it refuses the fixed candidates if and only if they do not fit; and
no order plays a part. -/
theorem admitExchangeCapacity_lawful (demands : List ScopedCapacityDemand) (wsConnections : Int)
    (configSha256 : String) :
    (∀ x, admitExchangeCapacity demands wsConnections configSha256 = .ok x →
      Lawful demands wsConnections x) ∧
    ((∃ e, admitExchangeCapacity demands wsConnections configSha256 = .error e ∧
      e.isFixed = true) ↔
      checkDemands demands wsConnections configSha256 = none ∧
        wsConnections < (demands.map fixedConnections).sum) ∧
    ∀ demands', Reordered demands demands' →
      admitExchangeCapacity demands' wsConnections configSha256 =
        admitExchangeCapacity demands wsConnections configSha256 :=
  ⟨fun _ => lawful_of_ok, isFixed_iff demands wsConnections configSha256,
    fun _ h => admitExchangeCapacity_congr h wsConnections configSha256⟩

theorem one_le_maxInt64 : ((1 : Nat) : Int) ≤ maxInt64 := by decide

theorem rank_one_mem : 0 < 1 ∧ ((1 : Nat) : Int) ≤ maxInt64 := by decide

theorem rank_two_mem : 0 < 2 ∧ ((2 : Nat) : Int) ≤ maxInt64 := by decide

theorem btc_ne : "BTC" ≠ "" := by decide

theorem eth_ne : "ETH" ≠ "" := by decide

/-- A candidate by its rank. -/
def ranked (key : String) (rank : Nat) (hkey : key ≠ "")
    (hrank : 0 < rank ∧ (rank : Int) ≤ maxInt64) : CapacityCandidate :=
  ⟨key, .topN, 1, some rank, hkey, one_le_maxInt64, by simpa using hrank, by simp⟩

/-- Two ranked candidates on one connection of two places. -/
def pairDemand (market : Market) : ScopedCapacityDemand where
  scope := ⟨.okx, market⟩
  candidates := [ranked "BTC" 1 btc_ne rank_one_mem, ranked "ETH" 2 eth_ne rank_two_mem]
  instrumentsPerConnection := 2
  policies := ⟨[("BTC", .degradeLowPriorityWithWarning), ("ETH", .degradeLowPriorityWithWarning)],
    by decide⟩
  keys_nodup := by decide
  instrumentsPerConnection_pos := Nat.two_pos
  instrumentsPerConnection_le := by decide
  policies_cover key := Iff.rfl

-- chunks stay intact: the only connection goes to one of the scopes
example : (admitExchangeCapacity [pairDemand .spot, pairDemand .perpetual] 1
    (String.ofList (List.replicate 64 'a'))).toOption.map (·.connectionsByScope) =
    some [(⟨.okx, .perpetual⟩, 1), (⟨.okx, .spot⟩, 0)] := by
  decide +kernel

end CryptoCollector.Selection
