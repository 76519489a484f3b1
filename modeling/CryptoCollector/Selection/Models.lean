import CryptoCollector.Selection.Capacity
import CryptoCollector.Selection.TypedJson
import CryptoCollector.Storage.Manifest.Model

/-!
# Catalog records

`selection/models.py`. The values of the catalog are checked when they are built: an
`InstrumentRecord` is what a provider reports, a `CatalogInstrument` is a record with its listing
history. The checks come in the order of the constructors; `RecordFields.Valid` and
`CatalogFields.Valid` say what a record that passes them is like.
-/

namespace CryptoCollector.Selection

open Lib
open Storage (Err Exchange Json Market refuseIf refuseIf_eq_none)

/-! ## Checks -/

/-- `_nonempty_string`. -/
def nonemptyString (value field : String) : Option Err :=
  refuseIf (decide (value = "")) (field ++ " must be a non-empty string")

@[simp] theorem nonemptyString_eq_none {value field : String} :
    nonemptyString value field = none ↔ value ≠ "" := by
  simp [nonemptyString]

/-- `_optional_nonempty_string`. -/
def optionalNonemptyString (value : Option String) (field : String) : Option Err :=
  value.bind (nonemptyString · field)

@[simp] theorem optionalNonemptyString_eq_none {value : Option String} {field : String} :
    optionalNonemptyString value field = none ↔ ∀ s ∈ value, s ≠ "" := by
  cases value <;> simp [optionalNonemptyString]

/-- `_nonnegative_int`. -/
def nonnegativeInt (value : Int) (field : String) : Option Err :=
  refuseIf (decide (value < 0)) (field ++ " must be a non-negative integer") <|>
    refuseIf (decide (maxInt64 < value)) (field ++ " must fit a signed 64-bit integer")

@[simp] theorem nonnegativeInt_eq_none {value : Int} {field : String} :
    nonnegativeInt value field = none ↔ 0 ≤ value ∧ value ≤ maxInt64 := by
  simp [nonnegativeInt]

/-- `_optional_nonnegative_int`. -/
def optionalNonnegativeInt (value : Option Int) (field : String) : Option Err :=
  value.bind (nonnegativeInt · field)

@[simp] theorem optionalNonnegativeInt_eq_none {value : Option Int} {field : String} :
    optionalNonnegativeInt value field = none ↔ ∀ n ∈ value, 0 ≤ n ∧ n ≤ maxInt64 := by
  cases value <;> simp [optionalNonnegativeInt]

/-- `_positive_int`. -/
def positiveInt (value : Int) (field : String) : Option Err :=
  nonnegativeInt value field <|> refuseIf (decide (value = 0)) (field ++ " must be positive")

@[simp] theorem positiveInt_eq_none {value : Int} {field : String} :
    positiveInt value field = none ↔ 0 < value ∧ value ≤ maxInt64 := by
  simp only [positiveInt, orElse_eq_none, nonnegativeInt_eq_none, refuseIf_eq_none,
    decide_eq_false_iff_not]
  omega

theorem decide_eq_iff {p : Prop} [Decidable p] {b : Bool} : decide p = b ↔ (p ↔ b = true) := by
  cases b <;> simp

/-! ## Enumerations -/

/-- `_enum_member` of a text. -/
def enumMember {α : Type} (ofValue : String → Option α) (value field : String) : Except Err α :=
  match ofValue value with
  | some a => .ok a
  | none => .error (.valueError ("unsupported " ++ field ++ ": '" ++ value ++ "'"))

/-- `TradableAtSource`. -/
inductive TradableAtSource where
  | exchange
  | exchangeContinuous
  | exchangeLaunch
  | firstTradableSeen
  deriving DecidableEq

namespace TradableAtSource

/-- The value of a source. -/
def value : TradableAtSource → String
  | exchange => "exchange"
  | exchangeContinuous => "exchange_continuous"
  | exchangeLaunch => "exchange_launch"
  | firstTradableSeen => "first_tradable_seen"

/-- The source of a value. -/
def ofValue (s : String) : Option TradableAtSource :=
  [exchange, exchangeContinuous, exchangeLaunch, firstTradableSeen].find? (·.value = s)

theorem ofValue_value (a : TradableAtSource) : ofValue a.value = some a := by
  cases a <;> decide

/-- `is_official`. -/
def isOfficial (a : TradableAtSource) : Bool := a ≠ firstTradableSeen

end TradableAtSource

/-- `ListingState`. -/
inductive ListingState where
  | baseline
  | pending
  | pendingOfficial
  | relistPending
  | activeNew
  deriving DecidableEq

namespace ListingState

/-- The value of a listing state. -/
def value : ListingState → String
  | baseline => "baseline"
  | pending => "pending"
  | pendingOfficial => "pending_official"
  | relistPending => "relist_pending"
  | activeNew => "active_new"

/-- The listing state of a value. -/
def ofValue (s : String) : Option ListingState :=
  [baseline, pending, pendingOfficial, relistPending, activeNew].find? (·.value = s)

theorem ofValue_value (a : ListingState) : ofValue a.value = some a := by
  cases a <;> decide

/-- The states of an instrument that waits for its first or its next trade. -/
def awaitsTrading (a : ListingState) : Bool :=
  a = pending || a = pendingOfficial || a = relistPending

/-- The states that keep the history of an episode. -/
def retainsEpisode (a : ListingState) : Bool := a = activeNew || a = relistPending

end ListingState

/-- `LifecyclePhase`. -/
inductive LifecyclePhase where
  | unknown
  | preopen
  | tradable
  | paused
  | delisted
  deriving DecidableEq

namespace LifecyclePhase

/-- The value of a phase. -/
def value : LifecyclePhase → String
  | unknown => "unknown"
  | preopen => "preopen"
  | tradable => "tradable"
  | paused => "paused"
  | delisted => "delisted"

/-- The phase of a value. -/
def ofValue (s : String) : Option LifecyclePhase :=
  [unknown, preopen, tradable, paused, delisted].find? (·.value = s)

theorem ofValue_value (a : LifecyclePhase) : ofValue a.value = some a := by
  cases a <;> decide

end LifecyclePhase

/-- `TurnoverMethod`. -/
inductive TurnoverMethod where
  | exchangeQuoteTurnover
  | baseVolumeXReferencePrice
  deriving DecidableEq

namespace TurnoverMethod

/-- The value of a method. -/
def value : TurnoverMethod → String
  | exchangeQuoteTurnover => "exchange_quote_turnover"
  | baseVolumeXReferencePrice => "base_volume_x_reference_price"

/-- The method of a value. -/
def ofValue (s : String) : Option TurnoverMethod :=
  [exchangeQuoteTurnover, baseVolumeXReferencePrice].find? (·.value = s)

theorem ofValue_value (a : TurnoverMethod) : ofValue a.value = some a := by
  cases a <;> decide

end TurnoverMethod

/-! ## Turnover -/

/-- The attributes of a `Turnover`. -/
structure TurnoverFields where
  value : Decimal
  method : TurnoverMethod
  currency : String
  observedAtNs : Option Int
  rawReference : Option String
  deriving DecidableEq

/-- `Turnover.__init__`. -/
def TurnoverFields.check (t : TurnoverFields) : Option Err :=
  refuseIf (t.value.negative && decide (t.value.coefficient ≠ 0))
      "turnover value must be finite and non-negative" <|>
    nonemptyString t.currency "turnover currency" <|>
    optionalNonnegativeInt t.observedAtNs "turnover observed_at_ns" <|>
    refuseIf (t.observedAtNs.isNone != t.rawReference.isNone)
      "turnover observed_at_ns and raw_reference must be provided together" <|>
    optionalNonemptyString t.rawReference "turnover raw_reference"

/-- `Turnover`. -/
abbrev Turnover := {t : TurnoverFields // t.check = none}

/-- What the checks of a `Turnover` say. -/
structure TurnoverFields.Valid (t : TurnoverFields) : Prop where
  value : t.value.negative = true → t.value.coefficient = 0
  currency : t.currency ≠ ""
  observedAtNs : ∀ n ∈ t.observedAtNs, 0 ≤ n ∧ n ≤ maxInt64
  paired : t.observedAtNs.isNone = t.rawReference.isNone
  rawReference : ∀ s ∈ t.rawReference, s ≠ ""

theorem TurnoverFields.check_eq_none {t : TurnoverFields} : t.check = none ↔ t.Valid := by
  simp only [check, orElse_eq_none, refuseIf_eq_none, nonemptyString_eq_none,
    optionalNonnegativeInt_eq_none, optionalNonemptyString_eq_none, bne_eq_false_iff_eq,
    Bool.and_eq_false_iff, decide_eq_false_iff_not, not_not]
  constructor
  · rintro ⟨hvalue, hcurrency, hobserved, hpaired, hraw⟩
    exact ⟨fun h => by simpa [h] using hvalue, hcurrency, hobserved, hpaired, hraw⟩
  · intro h
    refine ⟨?_, h.currency, h.observedAtNs, h.paired, h.rawReference⟩
    cases hneg : t.value.negative
    · exact .inl rfl
    · exact .inr (h.value hneg)

/-! ## Instrument records -/

/-- A mapping of texts, in the order of its keys. -/
abbrev WireSymbols := {symbols : List (String × String) // (symbols.map Prod.fst).Pairwise (· < ·)}

/-- `_wire_symbols`. -/
def WireSymbols.check (symbols : WireSymbols) : Option Err :=
  refuseIf symbols.1.isEmpty "wire_symbols must be a non-empty mapping" <|>
    symbols.1.findSome? fun item =>
      nonemptyString item.1 "wire symbol protocol" <|> nonemptyString item.2 "wire symbol"

/-- The attributes of an `InstrumentRecord`. Its phase is given, or follows from `tradable`. -/
structure RecordFields where
  exchange : Exchange
  market : Market
  instrumentKey : String
  canonicalPair : String
  wireSymbols : WireSymbols
  baseAsset : String
  quoteAsset : String
  settlementAsset : Option String
  status : String
  lifecyclePhase : LifecyclePhase
  tradable : Bool
  lifecycle : FrozenJson
  tradableAtNs : Option Int
  tradableAtSource : Option TradableAtSource
  turnover : Option Turnover
  rawCatalogReference : String
  deriving DecidableEq

namespace RecordFields

/-- `InstrumentRecord.__init__`. -/
def check (r : RecordFields) : Option Err :=
  nonemptyString r.instrumentKey "instrument_key" <|>
    nonemptyString r.canonicalPair "canonical_pair" <|>
    r.wireSymbols.check <|>
    nonemptyString r.baseAsset "base_asset" <|>
    nonemptyString r.quoteAsset "quote_asset" <|>
    optionalNonemptyString r.settlementAsset "settlement_asset" <|>
    nonemptyString r.status "status" <|>
    refuseIf (decide (r.lifecyclePhase = .tradable) != r.tradable)
      "tradable must agree with the canonical lifecycle_phase" <|>
    optionalNonnegativeInt r.tradableAtNs "tradable_at_ns" <|>
    refuseIf (r.tradableAtNs.isNone != r.tradableAtSource.isNone)
      "tradable_at_ns and tradable_at_source must be provided together" <|>
    refuseIf (r.turnover.any fun t => decide (t.1.currency ≠ r.quoteAsset))
      "turnover currency must match quote_asset" <|>
    nonemptyString r.rawCatalogReference "raw_catalog_reference"

/-- The scope of a record. -/
def scope (r : RecordFields) : CatalogScope := ⟨r.exchange, r.market⟩

/-- What the checks of an `InstrumentRecord` say. -/
structure Valid (r : RecordFields) : Prop where
  instrumentKey : r.instrumentKey ≠ ""
  canonicalPair : r.canonicalPair ≠ ""
  wireSymbols : r.wireSymbols.check = none
  baseAsset : r.baseAsset ≠ ""
  quoteAsset : r.quoteAsset ≠ ""
  settlementAsset : ∀ s ∈ r.settlementAsset, s ≠ ""
  status : r.status ≠ ""
  phase : r.lifecyclePhase = .tradable ↔ r.tradable = true
  tradableAtNs : ∀ n ∈ r.tradableAtNs, 0 ≤ n ∧ n ≤ maxInt64
  tradableAt_paired : r.tradableAtNs.isNone = r.tradableAtSource.isNone
  turnover : ∀ t ∈ r.turnover, t.1.currency = r.quoteAsset
  rawCatalogReference : r.rawCatalogReference ≠ ""

theorem check_eq_none {r : RecordFields} : r.check = none ↔ r.Valid := by
  simp only [check, orElse_eq_none, refuseIf_eq_none, nonemptyString_eq_none,
    optionalNonnegativeInt_eq_none, optionalNonemptyString_eq_none, bne_eq_false_iff_eq,
    decide_eq_iff]
  have hcurrency : (r.turnover.any fun t => decide (t.1.currency ≠ r.quoteAsset)) = false ↔
      ∀ t ∈ r.turnover, t.1.currency = r.quoteAsset := by
    cases r.turnover <;> simp
  rw [hcurrency]
  constructor
  · rintro ⟨h1, h2, h3, h4, h5, h6, h7, h8, h9, h10, h11, h12⟩
    exact ⟨h1, h2, h3, h4, h5, h6, h7, h8, h9, h10, h11, h12⟩
  · intro h
    exact ⟨h.1, h.2, h.3, h.4, h.5, h.6, h.7, h.8, h.9, h.10, h.11, h.12⟩

end RecordFields

/-- `InstrumentRecord`. -/
abbrev InstrumentRecord := {r : RecordFields // r.check = none}

/-! ## Catalog instruments -/

/-- The attributes of a `CatalogInstrument`. -/
structure CatalogFields extends RecordFields where
  firstSeenNs : Int
  lastSeenNs : Int
  present : Bool
  listingState : ListingState
  firstTradableSeenNs : Option Int
  listingGeneration : Int
  lastTerminalSeenNs : Option Int
  newListingStartedAtNs : Option Int
  newListingSource : Option TradableAtSource
  newListingEligible : Bool
  deriving DecidableEq

namespace CatalogFields

/-- `CatalogInstrument.__init__`. -/
def check (c : CatalogFields) : Option Err :=
  c.toRecordFields.check <|>
    nonnegativeInt c.firstSeenNs "first_seen_ns" <|>
    nonnegativeInt c.lastSeenNs "last_seen_ns" <|>
    refuseIf (decide (c.lastSeenNs < c.firstSeenNs))
      "last_seen_ns must not be below first_seen_ns" <|>
    refuseIf (c.tradable && c.listingState.awaitsTrading)
      "pending listing states must be non-tradable" <|>
    refuseIf (decide (c.lifecyclePhase = .delisted) && decide (c.listingState ≠ .relistPending))
      "delisted lifecycle requires relist-pending state" <|>
    optionalNonnegativeInt c.firstTradableSeenNs "first_tradable_seen_ns" <|>
    refuseIf (c.firstTradableSeenNs.any fun t => !(c.firstSeenNs ≤ t && t ≤ c.lastSeenNs))
      "first_tradable_seen_ns must be between first_seen_ns and last_seen_ns" <|>
    nonnegativeInt c.listingGeneration "listing_generation" <|>
    optionalNonnegativeInt c.lastTerminalSeenNs "last_terminal_seen_ns" <|>
    refuseIf (c.lastTerminalSeenNs.any fun t => !(c.firstSeenNs ≤ t && t ≤ c.lastSeenNs))
      "last_terminal_seen_ns must be between first_seen_ns and last_seen_ns" <|>
    refuseIf (decide (c.listingState = .relistPending) && c.lastTerminalSeenNs.isNone)
      "relist-pending state requires terminal evidence" <|>
    refuseIf (decide (c.listingState ≠ .relistPending) && c.lastTerminalSeenNs.isSome &&
        decide (c.listingState ≠ .activeNew))
      "terminal evidence requires an active or relist-pending listing state" <|>
    refuseIf (decide (c.lifecyclePhase = .delisted) &&
        decide (c.lastTerminalSeenNs ≠ some c.lastSeenNs))
      "delisted terminal evidence must equal last_seen_ns" <|>
    optionalNonnegativeInt c.newListingStartedAtNs "new_listing_started_at_ns" <|>
    refuseIf (c.newListingStartedAtNs.isNone != c.newListingSource.isNone)
      "new_listing_started_at_ns and new_listing_source must be paired" <|>
    refuseIf (c.newListingEligible != decide (c.listingState = .activeNew))
      "new-listing eligibility must agree with the active listing state" <|>
    refuseIf (c.newListingStartedAtNs.isSome && !c.newListingEligible &&
        decide (c.listingState ≠ .relistPending))
      ("persisted episode history requires an active or relist-pending " ++ "listing state") <|>
    refuseIf (c.newListingEligible && c.newListingStartedAtNs.isNone)
      "active listing state requires a persisted episode start" <|>
    refuseIf (decide (c.listingState = .activeNew) && c.lastTerminalSeenNs.any fun t =>
        c.newListingStartedAtNs.all fun started => started ≤ t)
      "relisting episode start must follow terminal evidence" <|>
    refuseIf (c.newListingStartedAtNs.isSome && c.firstTradableSeenNs.isNone)
      "eligible listing episodes require first_tradable_seen_ns" <|>
    refuseIf (c.newListingStartedAtNs.any fun started =>
        c.firstTradableSeenNs.any fun t => decide (t < started))
      "listing episode start must not follow first_tradable_seen_ns" <|>
    refuseIf (decide (c.newListingSource = some .firstTradableSeen) &&
        decide (c.newListingStartedAtNs ≠ c.firstTradableSeenNs))
      "FIRST_TRADABLE_SEEN episodes must start at first_tradable_seen_ns"

/-- What the checks of a `CatalogInstrument` say. -/
structure Valid (c : CatalogFields) : Prop where
  record : c.toRecordFields.Valid
  firstSeenNs : 0 ≤ c.firstSeenNs
  lastSeenNs : c.lastSeenNs ≤ maxInt64
  seen : c.firstSeenNs ≤ c.lastSeenNs
  awaitsTrading : c.tradable = true → c.listingState.awaitsTrading = false
  delisted : c.lifecyclePhase = .delisted → c.listingState = .relistPending
  firstTradable : ∀ t ∈ c.firstTradableSeenNs, c.firstSeenNs ≤ t ∧ t ≤ c.lastSeenNs
  generation : 0 ≤ c.listingGeneration ∧ c.listingGeneration ≤ maxInt64
  terminal : ∀ t ∈ c.lastTerminalSeenNs, c.firstSeenNs ≤ t ∧ t ≤ c.lastSeenNs
  terminal_isSome : c.listingState = .relistPending → c.lastTerminalSeenNs.isSome = true
  terminal_retained : c.lastTerminalSeenNs.isSome = true → c.listingState.retainsEpisode = true
  terminal_delisted : c.lifecyclePhase = .delisted → c.lastTerminalSeenNs = some c.lastSeenNs
  started : ∀ t ∈ c.newListingStartedAtNs, 0 ≤ t ∧ t ≤ maxInt64
  started_paired : c.newListingStartedAtNs.isNone = c.newListingSource.isNone
  eligible : c.newListingEligible = decide (c.listingState = .activeNew)
  started_retained : c.newListingStartedAtNs.isSome = true → c.listingState.retainsEpisode = true
  started_isSome : c.listingState = .activeNew → c.newListingStartedAtNs.isSome = true
  started_after : c.listingState = .activeNew → ∀ t ∈ c.lastTerminalSeenNs,
    ∀ started ∈ c.newListingStartedAtNs, t < started
  started_tradable : ∀ started ∈ c.newListingStartedAtNs,
    ∃ t ∈ c.firstTradableSeenNs, started ≤ t
  started_firstTradable : c.newListingSource = some .firstTradableSeen →
    c.newListingStartedAtNs = c.firstTradableSeenNs

theorem check_eq_none {c : CatalogFields} : c.check = none ↔ c.Valid := by
  simp only [check, orElse_eq_none, refuseIf_eq_none, nonnegativeInt_eq_none,
    optionalNonnegativeInt_eq_none, RecordFields.check_eq_none, bne_eq_false_iff_eq]
  constructor
  · rintro ⟨h1, h2, h3, h4, h5, h6, -, h8, h9, -, h11, h12, h13, h14, h15, h16, h17, h18, h19,
      h20, h21, h22, h23⟩
    exact {
      record := h1
      firstSeenNs := h2.1
      lastSeenNs := h3.2
      seen := by simpa using h4
      awaitsTrading := fun h => by simpa [h] using h5
      delisted := fun h => by simpa [h] using h6
      firstTradable := fun t ht => by
        rw [Option.mem_def] at ht
        simpa [ht] using h8
      generation := h9
      terminal := fun t ht => by
        rw [Option.mem_def] at ht
        simpa [ht] using h11
      terminal_isSome := fun h => by
        simpa [h, Option.isSome_iff_ne_none] using h12
      terminal_retained := fun h => by
        simpa [h, ListingState.retainsEpisode, imp_iff_or_not] using h13
      terminal_delisted := fun h => by simpa [h] using h14
      started := h15
      started_paired := h16
      eligible := h17
      started_retained := fun h => by
        simpa [h, h17, ListingState.retainsEpisode, imp_iff_not_or] using h18
      started_isSome := fun h => by
        simpa [h, h17, Option.isSome_iff_ne_none] using h19
      started_after := fun h t ht started hstarted => by
        rw [Option.mem_def] at ht hstarted
        simpa [h, ht, hstarted] using h20
      started_tradable := fun started hstarted => by
        rw [Option.mem_def] at hstarted
        cases hfirst : c.firstTradableSeenNs with
        | none => simp [hstarted, hfirst] at h21
        | some t => exact ⟨t, rfl, by simpa [hstarted, hfirst] using h22⟩
      started_firstTradable := fun h => by simpa [h] using h23 }
  · intro h
    have hfirst := h.firstSeenNs
    have hlast := h.lastSeenNs
    have hseen := h.seen
    have hretained := h.terminal_retained
    have hstarted := h.started_retained
    refine ⟨h.record, ⟨hfirst, by omega⟩, ⟨by omega, hlast⟩, by simpa using hseen, ?_, ?_, ?_, ?_,
      h.generation, ?_, ?_, ?_, ?_, ?_, h.started, h.started_paired, h.eligible, ?_, ?_, ?_, ?_,
      ?_, ?_⟩
    · cases htradable : c.tradable
      · rfl
      · simp [h.awaitsTrading htradable]
    · simpa using h.delisted
    · intro t ht
      have := h.firstTradable t ht
      omega
    · cases hfirst : c.firstTradableSeenNs with
      | none => simp
      | some t => simpa using h.firstTradable t hfirst
    · intro t ht
      have := h.terminal t ht
      omega
    · cases hterminal : c.lastTerminalSeenNs with
      | none => simp
      | some t => simpa using h.terminal t hterminal
    · simpa [Option.isSome_iff_ne_none] using h.terminal_isSome
    · cases hterminal : c.lastTerminalSeenNs with
      | none => simp
      | some t => simpa [hterminal, ListingState.retainsEpisode, imp_iff_or_not] using hretained
    · simpa using h.terminal_delisted
    · cases hsome : c.newListingStartedAtNs with
      | none => simp
      | some t =>
        simpa [hsome, h.eligible, ListingState.retainsEpisode, imp_iff_not_or] using hstarted
    · simpa [h.eligible, Option.isSome_iff_ne_none] using h.started_isSome
    · cases hterminal : c.lastTerminalSeenNs with
      | none => simp
      | some t =>
        by_cases hactive : c.listingState = .activeNew
        · obtain ⟨started, hsome⟩ := Option.isSome_iff_exists.1 (h.started_isSome hactive)
          simpa [hactive, hsome] using h.started_after hactive t hterminal started hsome
        · simp [hactive]
    · cases hsome : c.newListingStartedAtNs with
      | none => simp
      | some started =>
        obtain ⟨t, ht, -⟩ := h.started_tradable started hsome
        rw [Option.mem_def] at ht
        simp [ht]
    · cases hsome : c.newListingStartedAtNs with
      | none => simp
      | some started =>
        obtain ⟨t, ht, hle⟩ := h.started_tradable started hsome
        rw [Option.mem_def] at ht
        simpa [ht] using hle
    · simpa using h.started_firstTradable

/-- The history of an episode is kept in the states that retain it, and there is none elsewhere. -/
theorem Valid.unretained {o : CatalogFields} (ho : o.Valid)
    (h : o.listingState.retainsEpisode = false) :
    o.lastTerminalSeenNs = none ∧ o.newListingStartedAtNs = none ∧ o.newListingSource = none := by
  have hterminal : o.lastTerminalSeenNs = none := by
    rw [← Option.not_isSome_iff_eq_none]
    intro hsome
    simp [ho.terminal_retained hsome] at h
  have hstarted : o.newListingStartedAtNs = none := by
    rw [← Option.not_isSome_iff_eq_none]
    intro hsome
    simp [ho.started_retained hsome] at h
  refine ⟨hterminal, hstarted, ?_⟩
  have hpaired := ho.started_paired
  rw [hstarted] at hpaired
  exact Option.isNone_iff_eq_none.1 hpaired.symm

end CatalogFields

/-- `CatalogInstrument`. -/
abbrev CatalogInstrument := {c : CatalogFields // c.check = none}

end CryptoCollector.Selection
