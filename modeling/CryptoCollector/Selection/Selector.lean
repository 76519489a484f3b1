import CryptoCollector.Lib.Ranking
import CryptoCollector.Selection.Changes
import CryptoCollector.Storage.Json
import Mathlib.Algebra.Order.Field.Rat

/-!
# The selector

`selection/selector.py`. `select` computes from a view of the catalog, the fixed instruments, a
policy and the previous state which instruments are collected, and why.
-/

namespace CryptoCollector.Selection

open Lib
open Storage (Err Json refuseIf refuseIf_eq_none)

/-! ## Values -/

/-- `_integer`. -/
def selectorInteger (value : Int) (field : String) (minimum : Int) : Option Err :=
  refuseIf (decide (value < minimum))
      (field ++ " must be " ++ if minimum = 1 then "positive" else "non-negative") <|>
    refuseIf (decide (maxInt64 < value)) (field ++ " must fit a signed 64-bit integer")

/-- `_optional_integer`. -/
def selectorOptionalInteger (value : Option Int) (field : String) (minimum : Int) : Option Err :=
  value.bind (selectorInteger · field minimum)

@[simp] theorem selectorInteger_eq_none {value minimum : Int} {field : String} :
    selectorInteger value field minimum = none ↔ minimum ≤ value ∧ value ≤ maxInt64 := by
  simp [selectorInteger]

@[simp] theorem selectorOptionalInteger_eq_none {value : Option Int} {minimum : Int}
    {field : String} : selectorOptionalInteger value field minimum = none ↔
      ∀ n ∈ value, minimum ≤ n ∧ n ≤ maxInt64 := by
  cases value <;> simp [selectorOptionalInteger]

/-- `SelectionReason`, by its flags. -/
structure SelectionReason where
  fixed : Bool := false
  newListing : Bool := false
  topN : Bool := false
  topNGrace : Bool := false
  deriving DecidableEq

/-- `SelectionPolicy`. The quote assets are stripped and differ under case folding; what is used of
that is that they differ. -/
structure SelectionPolicy where
  scope : CatalogScope
  quoteAssets : List String
  topN : Nat
  turnoverMaxAgeNs : Int
  newListingsEnabled : Bool
  newListingCaptureDurationNs : Int
  exitGraceNs : Int
  quoteAssets_ne : quoteAssets ≠ []
  quoteAssets_text : "" ∉ quoteAssets
  quoteAssets_nodup : quoteAssets.Nodup
  topN_le : (topN : Int) ≤ maxInt64
  turnoverMaxAgeNs_mem : 0 < turnoverMaxAgeNs ∧ turnoverMaxAgeNs ≤ maxInt64
  newListingCaptureDurationNs_mem :
    0 < newListingCaptureDurationNs ∧ newListingCaptureDurationNs ≤ maxInt64
  exitGraceNs_mem : 0 ≤ exitGraceNs ∧ exitGraceNs ≤ maxInt64

/-- `policy_id`. -/
def SelectionPolicy.policyId (codec : CatalogCodec) (p : SelectionPolicy) : codec.Digest :=
  codec.sha256 (codec.encodeJson (.object [
    ("exit_grace_ns", .int p.exitGraceNs),
    ("new_listing_capture_duration_ns", .int p.newListingCaptureDurationNs),
    ("new_listings_enabled", .bool p.newListingsEnabled),
    ("quote_assets", .list (p.quoteAssets.map .str)),
    ("top_n", .int p.topN),
    ("turnover_max_age_ns", .int p.turnoverMaxAgeNs)]))

/-- `ResolvedFixedSelection`. -/
structure ResolvedFixedSelection where
  scope : CatalogScope
  catalogRevision : Int
  instrumentKeys : List String
  catalogRevision_mem : 1 ≤ catalogRevision ∧ catalogRevision ≤ maxInt64
  instrumentKeys_nodup : instrumentKeys.Nodup
  instrumentKeys_text : "" ∉ instrumentKeys

/-! ## Equality -/

/-- The value of a number. -/
def decimalValue (d : Decimal) : ℚ :=
  (if d.negative then -(d.coefficient : ℚ) else d.coefficient) * 10 ^ d.exponent

/-- `==` of turnovers, whose values are numbers. -/
def TurnoverFields.equal (a b : TurnoverFields) : Bool :=
  decide (decimalValue a.value = decimalValue b.value) &&
    decide ((a.method, a.currency, a.observedAtNs, a.rawReference) =
      (b.method, b.currency, b.observedAtNs, b.rawReference))

/-- `==` of turnovers that may be missing. -/
def equalTurnover : Option Turnover → Option Turnover → Bool
  | none, none => true
  | some a, some b => a.1.equal b.1
  | _, _ => false

/-- `==` of instruments. Their lifecycles are compared as JSON. -/
def CatalogFields.equal (a b : CatalogFields) : Bool :=
  decide ({ a with lifecycle := freezeJson .null, turnover := none } =
      { b with lifecycle := freezeJson .null, turnover := none }) &&
    a.lifecycle.1.equal b.lifecycle.1 && equalTurnover a.turnover b.turnover

/-! ## Entries -/

/-- The attributes of a `SelectionEntry`. -/
structure EntryFields where
  instrument : CatalogInstrument
  reasons : SelectionReason
  topNRank : Option Int
  topExitStartedAtNs : Option Int
  deriving DecidableEq

namespace EntryFields

/-- `SelectionEntry.__post_init__`. -/
def check (e : EntryFields) : Option Err :=
  refuseIf (decide (e.reasons = {})) "reasons must contain only known selection reasons" <|>
    refuseIf (e.reasons.topN && e.reasons.topNGrace)
      "TOP_N and TOP_N_GRACE are mutually exclusive" <|>
    selectorOptionalInteger e.topNRank "top_n_rank" 1 <|>
    refuseIf (e.reasons.topN && e.topNRank.isNone) "TOP_N requires a quote-local rank" <|>
    refuseIf (!(e.reasons.topN || e.reasons.topNGrace) && e.topNRank.isSome)
      "top_n_rank requires TOP_N or TOP_N_GRACE" <|>
    selectorOptionalInteger e.topExitStartedAtNs "top_exit_started_at_ns" 0 <|>
    refuseIf (e.reasons.topNGrace != e.topExitStartedAtNs.isSome)
      "top_exit_started_at_ns must exist exactly for TOP_N_GRACE"

/-- `==` of entries. -/
def equal (a b : EntryFields) : Bool :=
  a.instrument.1.equal b.instrument.1 &&
    decide ((a.reasons, a.topNRank, a.topExitStartedAtNs) =
      (b.reasons, b.topNRank, b.topExitStartedAtNs))

/-- `admission_priority`. -/
def admissionPriority (e : EntryFields) : AdmissionPriority :=
  if e.reasons.fixed then .fixed else if e.reasons.newListing then .newListing else .topN

end EntryFields

/-- `SelectionEntry`. -/
abbrev SelectionEntry := {e : EntryFields // e.check = none}

/-- `==` of entries that may be missing. -/
def equalEntry : Option SelectionEntry → Option SelectionEntry → Bool
  | none, none => true
  | some a, some b => a.1.equal b.1
  | _, _ => false

theorem bounds_of_integer {value : Int} {field : String} {minimum : Int}
    (h : integer value field minimum = none) : minimum ≤ value ∧ value ≤ maxInt64 := by
  simp only [integer] at h
  split_ifs at h with hlow hhigh
  exact ⟨Int.not_lt.1 hlow, Int.not_lt.1 hhigh⟩

theorem toNat_le_of_integer {value : Int} {field : String}
    (h : integer value field 0 = none) : (value.toNat : Int) ≤ maxInt64 := by
  have hbounds := bounds_of_integer h
  omega

theorem toNat_mem_of_integer {rank : Option Int} {field : String}
    (h : rank.bind (integer · field 1) = none) :
    ∀ n : Nat, n ∈ rank.map (·.toNat) → 0 < n ∧ (n : Int) ≤ maxInt64 := by
  intro n hn
  obtain ⟨value, rfl, rfl⟩ := Option.mem_map.1 hn
  have hbounds := bounds_of_integer h
  omega

theorem isSome_iff_topN {priority : AdmissionPriority} {rank : Option Int}
    (hmissing : ¬ (priority = .topN ∧ rank = none))
    (hextra : ¬ (priority ≠ .topN ∧ rank ≠ none)) :
    (rank.map (·.toNat)).isSome ↔ priority = .topN := by
  rw [Option.isSome_map, Option.isSome_iff_ne_none]
  exact ⟨fun hrank => not_not.1 fun htop => hextra ⟨htop, hrank⟩,
    fun htop hrank => hmissing ⟨htop, hrank⟩⟩

/-- `CapacityCandidate.__init__`. -/
def capacityCandidate (instrumentKey : String) (priority : AdmissionPriority) (firstSeenNs : Int)
    (topNRank : Option Int) : Except CapacityError CapacityCandidate :=
  if hkey : instrumentKey = "" then
    .error (.valueError "instrument_key must be a non-empty string")
  else
    match hseen : integer firstSeenNs "first_seen_ns" 0 with
    | some e => .error e
    | none =>
      match hrank : topNRank.bind (integer · "top_n_rank" 1) with
      | some e => .error e
      | none =>
        if hmissing : priority = .topN ∧ topNRank = none then
          .error (.valueError "TOP_N candidate requires top_n_rank")
        else if hextra : priority ≠ .topN ∧ topNRank ≠ none then
          .error (.valueError "top_n_rank is valid only for TOP_N candidates")
        else .ok {
          instrumentKey
          priority
          firstSeenNs := firstSeenNs.toNat
          topNRank := topNRank.map (·.toNat)
          instrumentKey_ne := hkey
          firstSeenNs_le := toNat_le_of_integer hseen
          topNRank_mem := toNat_mem_of_integer hrank
          topNRank_isSome := isSome_iff_topN hmissing hextra }

/-- `CapacityCandidate.from_selection_entry`. -/
def fromSelectionEntry (e : SelectionEntry) : Except CapacityError CapacityCandidate :=
  capacityCandidate e.1.instrument.1.instrumentKey e.1.admissionPriority
    e.1.instrument.1.firstSeenNs
    (if e.1.admissionPriority = .topN then e.1.topNRank else none)

/-! ## States -/

variable {codec : CatalogCodec}

/-- The checks of `_immutable_entries`. -/
def immutableEntriesCheck (scope : CatalogScope) (entries : Dict String SelectionEntry) :
    Option Err :=
  entries.entries.findSome? fun e =>
    refuseIf (decide (e.1 = "")) "entry keys must be non-empty strings" <|>
      refuseIf (decide (e.1 ≠ e.2.1.instrument.1.instrumentKey))
        "entry key must match its instrument_key" <|>
      refuseIf (decide (e.2.1.instrument.1.scope ≠ scope))
        "entry instrument scope must match selection scope"

/-- The attributes of a `SelectionState`. -/
structure StateFields (codec : CatalogCodec) where
  scope : CatalogScope
  catalogRevision : Int
  turnoverRevision : Int
  policyId : codec.Digest
  revision : Int
  entries : Dict String SelectionEntry

/-- The checks of `SelectionState.__post_init__`. -/
def StateFields.check (s : StateFields codec) : Option Err :=
  selectorInteger s.catalogRevision "catalog_revision" 1 <|>
    selectorInteger s.turnoverRevision "turnover_revision" 0 <|>
    selectorInteger s.revision "revision" 0 <|>
    immutableEntriesCheck s.scope s.entries

/-- `SelectionState`. -/
abbrev SelectionState (codec : CatalogCodec) := {s : StateFields codec // s.check = none}

/-- `SelectionState.__post_init__`, which orders the entries. -/
def selectionState (s : StateFields codec) : Except Err (SelectionState codec) :=
  construct StateFields.check { s with entries := s.entries.sorted }

/-- The attributes of a `SelectionDelta`. -/
structure DeltaFields where
  instrumentKey : String
  previous : Option SelectionEntry
  current : Option SelectionEntry
  deriving DecidableEq

/-- `SelectionDelta.__post_init__`. -/
def DeltaFields.check (d : DeltaFields) : Option Err :=
  refuseIf (decide (d.instrumentKey = "")) "instrument_key must be a non-empty string" <|>
    refuseIf (d.previous.isNone && d.current.isNone)
      "selection delta requires a previous or current value" <|>
    refuseIf (d.previous.any fun e => decide (e.1.instrument.1.instrumentKey ≠ d.instrumentKey))
      "delta values must match instrument_key" <|>
    refuseIf (d.current.any fun e => decide (e.1.instrument.1.instrumentKey ≠ d.instrumentKey))
      "delta values must match instrument_key"

/-- `SelectionDelta`. -/
abbrev SelectionDelta := {d : DeltaFields // d.check = none}

/-- `==` of the entries of two states. -/
def equalEntries (a b : Dict String SelectionEntry) : Bool :=
  decide (a.entries.length = b.entries.length) &&
    a.entries.all fun e => equalEntry (some e.2) (b.get? e.1)

/-- The attributes of a `SelectionResult`. -/
structure ResultFields (codec : CatalogCodec) where
  scope : CatalogScope
  catalogRevision : Int
  turnoverRevision : Int
  policyId : codec.Digest
  entries : Dict String SelectionEntry
  nextState : SelectionState codec
  deltas : List SelectionDelta

/-- The checks of a delta of a `SelectionResult`. -/
def ResultFields.deltaCheck (r : ResultFields codec) (d : SelectionDelta) : Option Err :=
  refuseIf (d.1.previous.any fun e => decide (e.1.instrument.1.scope ≠ r.scope))
      "delta entries must match result scope" <|>
    refuseIf (d.1.current.any fun e => decide (e.1.instrument.1.scope ≠ r.scope))
      "delta entries must match result scope" <|>
    refuseIf (!equalEntry d.1.current (r.entries.get? d.1.instrumentKey))
      "delta current value must match result entries"

/-- The checks of `SelectionResult.__post_init__`. -/
def ResultFields.check (r : ResultFields codec) : Option Err :=
  selectorInteger r.catalogRevision "catalog_revision" 1 <|>
    selectorInteger r.turnoverRevision "turnover_revision" 0 <|>
    immutableEntriesCheck r.scope r.entries <|>
    refuseIf (decide ((r.nextState.1.scope, r.nextState.1.catalogRevision,
          r.nextState.1.turnoverRevision, r.nextState.1.policyId) ≠
        (r.scope, r.catalogRevision, r.turnoverRevision, r.policyId)) ||
        !equalEntries r.nextState.1.entries r.entries)
      "next_state must describe this exact selection result" <|>
    refuseIf (decide ¬ (r.deltas.map (·.1.instrumentKey)).Pairwise (· < ·))
      "deltas must have unique instrument keys in sorted order" <|>
    r.deltas.findSome? r.deltaCheck

/-- `SelectionResult`. -/
abbrev SelectionResult (codec : CatalogCodec) := {r : ResultFields codec // r.check = none}

/-- `SelectionResult.__post_init__`, which orders the entries. -/
def selectionResult (r : ResultFields codec) : Except Err (SelectionResult codec) :=
  construct ResultFields.check { r with entries := r.entries.sorted }

/-! ## Ranks -/

/-- `_validate_catalog`. -/
def validateCatalog (v : CatalogView codec) : Option Err :=
  selectorInteger v.catalogRevision "catalog revision" 1 <|>
    selectorInteger v.turnoverRevision "turnover revision" 0 <|>
    selectorOptionalInteger v.catalogObservedAtNs "catalog observed_at_ns" 0 <|>
    selectorOptionalInteger v.turnoverObservedAtNs "turnover observed_at_ns" 0 <|>
    selectorOptionalInteger v.turnoverCatalogRevision "turnover catalog revision" 1 <|>
    refuseIf (decide (v.turnoverRevision = 0) && (v.turnoverObservedAtNs.isSome ||
        v.turnoverCatalogRevision.isSome || v.turnoverDigestSha256.isSome))
      "empty turnover state must not carry provenance" <|>
    refuseIf (decide (0 < v.turnoverRevision) && (v.turnoverObservedAtNs.isNone ||
        v.turnoverCatalogRevision.isNone || v.turnoverDigestSha256.isNone))
      "turnover state requires complete provenance" <|>
    refuseIf (v.turnoverCatalogRevision.any fun n => decide (v.catalogRevision < n))
      "turnover cannot be bound to a future catalog revision" <|>
    viewInstrumentsCheck v.scope "catalog instrument scope mismatch"
      "catalog instrument keys must be unique" (fun _ => none) [] v.instruments

/-- `_validate_inputs`. -/
def validateInputs (v : CatalogView codec) (fixed : ResolvedFixedSelection)
    (policy : SelectionPolicy) (previous : Option (SelectionState codec)) : Option Err :=
  refuseIf (decide (policy.scope ≠ v.scope)) "policy scope does not match catalog scope" <|>
    refuseIf (decide (fixed.scope ≠ v.scope))
      "fixed selection scope does not match catalog scope" <|>
    refuseIf (decide (fixed.catalogRevision ≠ v.catalogRevision))
      "fixed selection revision does not match catalog revision" <|>
    previous.bind fun p =>
      refuseIf (decide (p.1.scope ≠ v.scope))
          "previous state scope does not match catalog scope" <|>
        refuseIf (decide (p.1.policyId ≠ policy.policyId codec))
          "previous state policy does not match selection policy" <|>
        refuseIf (decide (v.catalogRevision < p.1.catalogRevision))
          "previous state catalog revision is from the future" <|>
        refuseIf (decide (v.turnoverRevision < p.1.turnoverRevision))
          "previous state turnover revision is from the future"

/-- The conditions under which an instrument is ranked among those of a quote. -/
def eligible (v : CatalogView codec) (policy : SelectionPolicy) (nowNs : Int) (quote : String)
    (item : CatalogInstrument) : Bool :=
  item.1.present && item.1.tradable &&
    decide (item.1.instrumentKey ∈ v.turnoverCoveredInstrumentKeys) &&
    decide (item.1.quoteAsset = quote) &&
    item.1.turnover.any fun t => decide (t.1.currency = quote) &&
      t.1.observedAtNs.any fun n =>
        decide (n ≤ nowNs) && decide (nowNs - n ≤ policy.turnoverMaxAgeNs)

/-- The turnover of an instrument as a number. -/
def turnoverValue (item : CatalogInstrument) : ℚ :=
  item.1.turnover.elim 0 fun t => decimalValue t.1.value

/-- The ranks of the instruments of a quote. -/
def rankedOf (v : CatalogView codec) (policy : SelectionPolicy) (nowNs : Int) (quote : String) :
    List (String × Int) :=
  let items := sortedBy (·.1.instrumentKey)
    (v.instruments.filter (eligible v policy nowNs quote))
  let items := sortedBy (fun item => OrderDual.toDual (turnoverValue item)) items
  (items.take policy.topN).zipIdx.map fun item => (item.1.1.instrumentKey, (item.2 : Int) + 1)

/-- `_rank_top_n`. -/
def rankTopN (v : CatalogView codec) (policy : SelectionPolicy) (nowNs : Int) :
    Dict String Int :=
  if v.turnoverRevision = 0 ∨ v.turnoverCatalogRevision ≠ some v.catalogRevision ∨
      policy.topN = 0 then .empty
  else .ofList (policy.quoteAssets.flatMap (rankedOf v policy nowNs))

/-! ## Selection -/

/-- `_is_active_new_listing`. -/
def isActiveNewListing (policy : SelectionPolicy) (nowNs : Int) (item : CatalogInstrument) :
    Bool :=
  policy.newListingsEnabled && item.1.present && item.1.tradable &&
    decide (item.1.quoteAsset ∈ policy.quoteAssets) &&
    decide (item.1.listingState = .activeNew) && item.1.newListingEligible &&
    item.1.newListingStartedAtNs.any fun start =>
      decide (start ≤ nowNs) && decide (nowNs - start < policy.newListingCaptureDurationNs)

/-- The check of a fixed instrument. -/
def fixedCheck (v : CatalogView codec) (key : String) : Option Err :=
  match instrumentOf v.instruments key with
  | none => some (.valueError ("fixed instrument '" ++ key ++ "' is not in catalog"))
  | some item => refuseIf (!item.1.present || !item.1.tradable)
      ("fixed instrument '" ++ key ++ "' must be present and tradable")

/-- The check of the clock against the start of a grace. -/
def graceClockCheck (nowNs : Int) (old : SelectionEntry) : Option Err :=
  refuseIf (old.1.reasons.topNGrace && old.1.topExitStartedAtNs.any fun t => decide (nowNs < t))
    "now_ns precedes a persisted top-exit grace deadline"

/-- `exit_started`. -/
def exitStarted (nowNs : Int) (old : SelectionEntry) : Option Int :=
  if old.1.reasons.topN then some nowNs
  else if old.1.reasons.topNGrace then old.1.topExitStartedAtNs
  else none

/-- The start of the grace of an instrument of the previous state, while it is in grace. -/
def graceStart (v : CatalogView codec) (policy : SelectionPolicy) (topRanks : Dict String Int)
    (nowNs : Int) (key : String) (old : SelectionEntry) : Option Int :=
  if topRanks.contains key then none
  else
    match instrumentOf v.instruments key with
    | none => none
    | some current =>
      if current.1.present && current.1.tradable &&
          decide (current.1.quoteAsset ∈ policy.quoteAssets) &&
          decide (current.1.listingGeneration = old.1.instrument.1.listingGeneration) then
        (exitStarted nowNs old).filter fun start =>
          decide (start ≤ nowNs) && decide (nowNs - start < policy.exitGraceNs)
      else none

/-- What is recorded of a selected instrument: `reasons`, `ranks` and `grace_starts`. -/
structure Marks where
  reasons : SelectionReason := {}
  topNRank : Option Int := none
  topExitStartedAtNs : Option Int := none
  deriving DecidableEq

namespace Marks

/-- Mark a fixed instrument. -/
def withFixed (m : Marks) : Marks := { m with reasons := { m.reasons with fixed := true } }

/-- Mark an active new listing. -/
def withNewListing (m : Marks) : Marks :=
  { m with reasons := { m.reasons with newListing := true } }

/-- Mark a ranked instrument. -/
def withTopN (rank : Option Int) (m : Marks) : Marks where
  reasons := { m.reasons with topN := true }
  topNRank := rank
  topExitStartedAtNs := none

/-- Mark an instrument in grace. -/
def withTopNGrace (rank start : Option Int) (m : Marks) : Marks where
  reasons := { m.reasons with topNGrace := true }
  topNRank := rank
  topExitStartedAtNs := start

end Marks

/-- The marks of the selected instruments. -/
def selectionMarks (v : CatalogView codec) (fixed : ResolvedFixedSelection)
    (policy : SelectionPolicy) (previous : Dict String SelectionEntry) (nowNs : Int) :
    Dict String Marks :=
  let topRanks := rankTopN v policy nowNs
  let listed := v.instruments.filter (isActiveNewListing policy nowNs)
  let graceOf (key : String) : Option Int :=
    (previous.get? key).bind (graceStart v policy topRanks nowNs key)
  let marks := fixed.instrumentKeys.foldl (Dict.mark {} fun _ => Marks.withFixed) .empty
  let marks := (listed.map (·.1.instrumentKey)).foldl
    (Dict.mark {} fun _ => Marks.withNewListing) marks
  let marks := topRanks.keys.foldl
    (Dict.mark {} fun key => Marks.withTopN (topRanks.get? key)) marks
  (previous.keys.filter fun key => (graceOf key).isSome).foldl
    (Dict.mark {} fun key =>
      Marks.withTopNGrace ((previous.get? key).bind (·.1.topNRank)) (graceOf key)) marks

/-- The entry of a selected instrument. -/
def selectedEntry (v : CatalogView codec) (key : String) (m : Marks) :
    Except Err SelectionEntry :=
  match instrumentOf v.instruments key with
  | none => .error (.keyError key)
  | some instrument => construct EntryFields.check {
      instrument
      reasons := m.reasons
      topNRank := m.topNRank
      topExitStartedAtNs := m.topExitStartedAtNs }

/-- The deltas between two selections. -/
def selectionDeltas (previous entries : Dict String SelectionEntry) :
    Except Err (List SelectionDelta) :=
  let changed := (previous.keys ∪ entries.keys).filter fun key =>
    !equalEntry (previous.get? key) (entries.get? key)
  (sortedBy id changed).mapM fun key => construct DeltaFields.check {
    instrumentKey := key
    previous := previous.get? key
    current := entries.get? key }

/-- The entries of a state that may be missing. -/
def previousEntries (previous : Option (SelectionState codec)) : Dict String SelectionEntry :=
  previous.elim .empty (·.1.entries)

/-- `select`. -/
def select (v : CatalogView codec) (fixed : ResolvedFixedSelection) (policy : SelectionPolicy)
    (previous : Option (SelectionState codec)) (nowNs : Int) :
    Except Err (SelectionResult codec) := do
  checked (selectorInteger nowNs "now_ns" 0) (.ok ())
  checked (validateCatalog v) (.ok ())
  checked (validateInputs v fixed policy previous) (.ok ())
  checked ((sortedBy id fixed.instrumentKeys).findSome? (fixedCheck v)) (.ok ())
  checked ((previousEntries previous).values.findSome? (graceClockCheck nowNs)) (.ok ())
  let marks := selectionMarks v fixed policy (previousEntries previous) nowNs
  let entries ← marks.sorted.mapValuesM (selectedEntry v)
  let nextState ← selectionState {
    scope := v.scope
    catalogRevision := v.catalogRevision
    turnoverRevision := v.turnoverRevision
    policyId := policy.policyId codec
    revision := previous.elim 0 (·.1.revision)
    entries }
  let deltas ← selectionDeltas (previousEntries previous) entries
  selectionResult {
    scope := v.scope
    catalogRevision := v.catalogRevision
    turnoverRevision := v.turnoverRevision
    policyId := policy.policyId codec
    entries
    nextState
    deltas }

end CryptoCollector.Selection
