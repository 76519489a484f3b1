import CryptoCollector.Selection.Models

/-!
# Rows of the catalog

`selection/catalog_store.py: _instrument_from_row, _turnover_from_row` and the columns of
`catalog_instrument` with their `CHECK` constraints. Enumerations and decimal numbers are stored as
texts, mappings as JSON.

* `InstrumentRow.toInstrument_ofInstrument`: a row decodes to the instrument that it was made of
  exactly when its lifecycle is an object.
* `InstrumentRow.ofInstrument_inj`: a row is made of one instrument.
* `InstrumentRow.allowed_ofInstrument`: no constraint refuses the row of an instrument.
-/

namespace CryptoCollector.Selection

open Lib
open Storage (Err Json)

/-! ## Wire symbols -/

/-- The JSON object of a mapping of texts. -/
def WireSymbols.toJson (symbols : WireSymbols) : Json :=
  .object (symbols.1.map fun item => (item.1, .str item.2))

/-- The text of a JSON string. -/
def textOf : Json → Option String
  | .str s => some s
  | _ => none

/-- `_wire_symbols` of a decoded object. -/
def WireSymbols.ofFields (fields : List (String × Json)) : Except Err WireSymbols :=
  if fields.all fun field => (textOf field.2).isSome then
    .ok ⟨(Json.freezeFields fields).map fun field => (field.1, (textOf field.2).getD ""), by
      simpa [Function.comp_def] using Json.pairwise_freezeFields fields⟩
  else .error (.valueError "wire symbol must be a non-empty string")

theorem WireSymbols.ordered_toJson (symbols : WireSymbols) : symbols.toJson.Ordered := by
  refine ⟨by simpa [Function.comp_def] using symbols.2, Json.orderedFields_iff.2 ?_⟩
  intro field hfield
  obtain ⟨item, -, rfl⟩ := List.mem_map.1 hfield
  trivial

theorem WireSymbols.plain_toJson (symbols : WireSymbols) : symbols.toJson.Plain := by
  refine ⟨?_, Json.plainFields_iff.2 ?_⟩
  · have hkeys : (symbols.1.map Prod.fst).Nodup := symbols.2.imp ne_of_lt
    simpa [Function.comp_def] using hkeys
  · intro field hfield
    obtain ⟨item, -, rfl⟩ := List.mem_map.1 hfield
    trivial

theorem WireSymbols.ofFields_toJson (symbols : WireSymbols) :
    WireSymbols.ofFields (symbols.1.map fun item => (item.1, .str item.2)) = .ok symbols := by
  have hordered := symbols.ordered_toJson
  rw [WireSymbols.ofFields, if_pos (by simp [textOf])]
  congr 1
  apply Subtype.ext
  simp [Json.freezeFields_of_ordered _ hordered.1 hordered.2, Function.comp_def, textOf]

/-! ## Rows -/

/-- A row of `catalog_instrument`, after its scope and its key. -/
structure InstrumentRow (codec : CatalogCodec) where
  canonicalPair : String
  wireSymbolsJson : codec.Blob
  baseAsset : String
  quoteAsset : String
  settlementAsset : Option String
  status : String
  lifecyclePhase : String
  tradable : Int
  lifecycleJson : codec.Blob
  tradableAtNs : Option Int
  tradableAtSource : Option String
  firstSeenNs : Int
  lastSeenNs : Int
  turnoverValue : Option String
  turnoverMethod : Option String
  turnoverCurrency : Option String
  turnoverObservedAtNs : Option Int
  turnoverRawReference : Option String
  rawCatalogReference : String
  present : Int
  listingState : String
  firstTradableSeenNs : Option Int
  listingGeneration : Int
  lastTerminalSeenNs : Option Int
  newListingStartedAtNs : Option Int
  newListingSource : Option String
  newListingEligible : Int

/-- `int` of a boolean. -/
def intOfBool (b : Bool) : Int := if b then 1 else 0

@[simp] theorem intOfBool_ne_zero {b : Bool} : decide (intOfBool b ≠ 0) = b := by
  cases b <;> rfl

/-- An optional text that names a member of an enumeration. -/
def optionalMember {α : Type} (ofValue : String → Option α) (value : Option String)
    (field : String) : Except Err (Option α) :=
  match value with
  | none => .ok none
  | some s => some <$> enumMember ofValue s field

theorem enumMember_value {α : Type} {ofValue : String → Option α} {value : α → String}
    (h : ∀ a, ofValue (value a) = some a) (a : α) (field : String) :
    enumMember ofValue (value a) field = .ok a := by
  simp [enumMember, h]

theorem optionalMember_value {α : Type} {ofValue : String → Option α} {value : α → String}
    (h : ∀ a, ofValue (value a) = some a) (a : Option α) (field : String) :
    optionalMember ofValue (a.map value) field = .ok a := by
  cases a with
  | none => rfl
  | some a => simp [optionalMember, enumMember_value h, Functor.map, Except.map]

namespace InstrumentRow

variable {codec : CatalogCodec}

/-- The turnover columns of a row. -/
def withTurnover (row : InstrumentRow codec) (turnover : Option TurnoverFields) :
    InstrumentRow codec :=
  { row with
    turnoverValue := turnover.map fun t => decimalStr t.value
    turnoverMethod := turnover.map (·.method.value)
    turnoverCurrency := turnover.map (·.currency)
    turnoverObservedAtNs := turnover.bind (·.observedAtNs)
    turnoverRawReference := turnover.bind (·.rawReference) }

/-- The columns that a snapshot writes. -/
def ofInstrument (codec : CatalogCodec) (item : CatalogInstrument) :
    Except Err (InstrumentRow codec) := do
  let c := item.1
  let lifecycleJson ← codec.encodeTypedJson c.lifecycle
  return {
    canonicalPair := c.canonicalPair
    wireSymbolsJson := codec.encodeJson c.wireSymbols.toJson
    baseAsset := c.baseAsset
    quoteAsset := c.quoteAsset
    settlementAsset := c.settlementAsset
    status := c.status
    lifecyclePhase := c.lifecyclePhase.value
    tradable := intOfBool c.tradable
    lifecycleJson
    tradableAtNs := c.tradableAtNs
    tradableAtSource := c.tradableAtSource.map (·.value)
    firstSeenNs := c.firstSeenNs
    lastSeenNs := c.lastSeenNs
    turnoverValue := c.turnover.map fun t => decimalStr t.1.value
    turnoverMethod := c.turnover.map (·.1.method.value)
    turnoverCurrency := c.turnover.map (·.1.currency)
    turnoverObservedAtNs := c.turnover.bind (·.1.observedAtNs)
    turnoverRawReference := c.turnover.bind (·.1.rawReference)
    rawCatalogReference := c.rawCatalogReference
    present := intOfBool c.present
    listingState := c.listingState.value
    firstTradableSeenNs := c.firstTradableSeenNs
    listingGeneration := c.listingGeneration
    lastTerminalSeenNs := c.lastTerminalSeenNs
    newListingStartedAtNs := c.newListingStartedAtNs
    newListingSource := c.newListingSource.map (·.value)
    newListingEligible := intOfBool c.newListingEligible }

/-- `Decimal` of a text, which raises for a text of another form. -/
def decimalArgument (text : String) : Except Err Decimal :=
  match decimalOfStr text with
  | some d => .ok d
  | none => .error (.valueError "invalid decimal")

/-- `_turnover_from_row`. -/
def turnover (row : InstrumentRow codec) : Except Err (Option Turnover) :=
  match row.turnoverValue with
  | none => .ok none
  | some value => do
    let value ← decimalArgument value
    let method ← enumMember TurnoverMethod.ofValue (row.turnoverMethod.getD "None")
      "turnover method"
    let turnover ← construct TurnoverFields.check {
      value
      method
      currency := row.turnoverCurrency.getD "None"
      observedAtNs := row.turnoverObservedAtNs
      rawReference := row.turnoverRawReference }
    return some turnover

/-- The instrument of a row with its decoded JSON columns. -/
def instrument (scope : CatalogScope) (key : String) (row : InstrumentRow codec)
    (symbols : List (String × Json)) (lifecycle : Json) : Except Err CatalogInstrument := do
  let turnover ← row.turnover
  let wireSymbols ← WireSymbols.ofFields symbols
  let lifecyclePhase ← enumMember LifecyclePhase.ofValue row.lifecyclePhase "lifecycle_phase"
  let tradableAtSource ← optionalMember TradableAtSource.ofValue row.tradableAtSource
    "tradable_at_source"
  let listingState ← enumMember ListingState.ofValue row.listingState "listing_state"
  let newListingSource ← optionalMember TradableAtSource.ofValue row.newListingSource
    "new_listing_source"
  construct CatalogFields.check {
    exchange := scope.exchange
    market := scope.market
    instrumentKey := key
    canonicalPair := row.canonicalPair
    wireSymbols
    baseAsset := row.baseAsset
    quoteAsset := row.quoteAsset
    settlementAsset := row.settlementAsset
    status := row.status
    lifecyclePhase
    tradable := decide (row.tradable ≠ 0)
    lifecycle := freezeJson lifecycle
    tradableAtNs := row.tradableAtNs
    tradableAtSource
    turnover
    rawCatalogReference := row.rawCatalogReference
    firstSeenNs := row.firstSeenNs
    lastSeenNs := row.lastSeenNs
    present := decide (row.present ≠ 0)
    listingState
    firstTradableSeenNs := row.firstTradableSeenNs
    listingGeneration := row.listingGeneration
    lastTerminalSeenNs := row.lastTerminalSeenNs
    newListingStartedAtNs := row.newListingStartedAtNs
    newListingSource
    newListingEligible := decide (row.newListingEligible ≠ 0) }

/-- `_instrument_from_row`. -/
def toInstrument (scope : CatalogScope) (key : String) (row : InstrumentRow codec) :
    Except Err CatalogInstrument := do
  let wireSymbols ← codec.decodeJson row.wireSymbolsJson
  let lifecycle ← codec.decodeTypedJson row.lifecycleJson
  match wireSymbols, lifecycle with
  | .object symbols, .object fields => row.instrument scope key symbols (.object fields)
  | _, _ => .error (.runtimeError "catalog JSON columns contain invalid object values")

/-! ## Encoding and decoding -/

theorem exists_ofInstrument {item : CatalogInstrument} {row : InstrumentRow codec}
    (h : ofInstrument codec item = .ok row) :
    codec.encodeTypedJson item.1.lifecycle = .ok row.lifecycleJson ∧
      row.wireSymbolsJson = codec.encodeJson item.1.wireSymbols.toJson := by
  obtain ⟨blob, hblob, h⟩ := bind_eq_ok.1 h
  cases h
  exact ⟨hblob, rfl⟩

theorem seen_ofInstrument {item : CatalogInstrument} {row : InstrumentRow codec}
    (h : ofInstrument codec item = .ok row) :
    row.firstSeenNs = item.1.firstSeenNs ∧ row.present = intOfBool item.1.present := by
  obtain ⟨blob, -, h⟩ := bind_eq_ok.1 h
  cases h
  exact ⟨rfl, rfl⟩

/-- The row of an instrument that is no longer present. -/
theorem ofInstrument_removed {item other : CatalogInstrument} {row : InstrumentRow codec}
    (h : ofInstrument codec item = .ok row) (hother : other.1 = { item.1 with present := false }) :
    ofInstrument codec other = .ok { row with present := 0 } := by
  obtain ⟨blob, hblob, h⟩ := bind_eq_ok.1 h
  cases h
  simp only [ofInstrument, hblob, ok_bind, hother]
  rfl

/-- The row of an instrument whose turnover is another. -/
theorem ofInstrument_withTurnover {item other : CatalogInstrument} {row : InstrumentRow codec}
    {turnover : Option Turnover} (h : ofInstrument codec item = .ok row)
    (hother : other.1 = { item.1 with turnover }) :
    ofInstrument codec other = .ok (row.withTurnover (turnover.map (·.1))) := by
  obtain ⟨blob, hblob, h⟩ := bind_eq_ok.1 h
  cases h
  simp only [ofInstrument, hblob, ok_bind, hother]
  cases turnover <;> rfl

theorem turnover_ofInstrument {item : CatalogInstrument} {row : InstrumentRow codec}
    (h : ofInstrument codec item = .ok row) : row.turnover = .ok item.1.turnover := by
  obtain ⟨blob, -, h⟩ := bind_eq_ok.1 h
  cases h
  cases hturnover : item.1.turnover with
  | none => simp [turnover]
  | some t =>
    simp [turnover, decimalArgument, decimalOfStr_decimalStr,
      enumMember_value TurnoverMethod.ofValue_value, construct_of_valid t.2]

theorem instrument_ofInstrument {item : CatalogInstrument} {row : InstrumentRow codec}
    (h : ofInstrument codec item = .ok row) :
    row.instrument item.1.scope item.1.instrumentKey
      (item.1.wireSymbols.1.map fun symbol => (symbol.1, .str symbol.2)) item.1.lifecycle.1 =
        .ok item := by
  have hturnover := turnover_ofInstrument h
  obtain ⟨blob, -, h⟩ := bind_eq_ok.1 h
  cases h
  rw [instrument, hturnover, ok_bind, WireSymbols.ofFields_toJson, ok_bind,
    enumMember_value LifecyclePhase.ofValue_value, ok_bind,
    optionalMember_value TradableAtSource.ofValue_value, ok_bind,
    enumMember_value ListingState.ofValue_value, ok_bind,
    optionalMember_value TradableAtSource.ofValue_value, ok_bind]
  rw [construct_eq_ok]
  simp only [intOfBool_ne_zero, freezeJson_val, RecordFields.scope]

/-- A lifecycle is an object. -/
def isObject : Json → Bool
  | .object _ => true
  | _ => false

/-- A row decodes to the instrument that it was made of exactly when its lifecycle is an object. -/
theorem toInstrument_ofInstrument {item : CatalogInstrument} {row : InstrumentRow codec}
    (h : ofInstrument codec item = .ok row) :
    row.toInstrument item.1.scope item.1.instrumentKey =
      if isObject item.1.lifecycle.1 then .ok item
      else .error (.runtimeError "catalog JSON columns contain invalid object values") := by
  obtain ⟨hlifecycle, hsymbols⟩ := exists_ofInstrument h
  have hinstrument := instrument_ofInstrument h
  rw [toInstrument, hsymbols,
    codec.decodeJson_encodeJson _ (WireSymbols.plain_toJson item.1.wireSymbols), ok_bind,
    CatalogCodec.decodeTypedJson_encodeTypedJson hlifecycle, ok_bind]
  cases hjson : item.1.lifecycle.1 with
  | object fields => simpa [WireSymbols.toJson, isObject, hjson] using hinstrument
  | _ => simp [WireSymbols.toJson, isObject]

/-- A row is made of one instrument. -/
theorem ofInstrument_inj {item other : CatalogInstrument} {row : InstrumentRow codec}
    (h : ofInstrument codec item = .ok row) (hother : ofInstrument codec other = .ok row)
    (hscope : item.1.scope = other.1.scope)
    (hkey : item.1.instrumentKey = other.1.instrumentKey) : item = other := by
  obtain ⟨hlifecycle, hsymbols⟩ := exists_ofInstrument h
  obtain ⟨hlifecycle', hsymbols'⟩ := exists_ofInstrument hother
  have hjson : item.1.lifecycle.1 = other.1.lifecycle.1 := by
    have hdecode := CatalogCodec.decodeTypedJson_encodeTypedJson hlifecycle
    rw [CatalogCodec.decodeTypedJson_encodeTypedJson hlifecycle'] at hdecode
    exact (Except.ok.inj hdecode).symm
  have hwire : item.1.wireSymbols.toJson = other.1.wireSymbols.toJson :=
    CatalogCodec.encodeJson_inj (WireSymbols.plain_toJson _) (WireSymbols.plain_toJson _)
      (hsymbols ▸ hsymbols')
  have hitem := instrument_ofInstrument h
  have hother := instrument_ofInstrument hother
  simp only [WireSymbols.toJson, Json.object.injEq] at hwire
  rw [hscope, hkey, hwire, hjson, hother] at hitem
  exact (Except.ok.inj hitem).symm

/-! ## Constraints -/

/-- The `CHECK` constraints of `catalog_instrument`. A comparison with `NULL` refuses nothing. -/
def checks (row : InstrumentRow codec) : List Bool := [
  decide (row.tradable = 0 ∨ row.tradable = 1),
  decide (row.present = 0 ∨ row.present = 1),
  decide (row.listingState ∈
    ["baseline", "pending", "pending_official", "relist_pending", "active_new"]),
  decide (row.newListingEligible = 0 ∨ row.newListingEligible = 1),
  decide (0 ≤ row.firstSeenNs),
  decide (row.firstSeenNs ≤ row.lastSeenNs),
  decide (0 ≤ row.listingGeneration),
  decide (row.lifecyclePhase ∈ ["unknown", "preopen", "tradable", "paused", "delisted"]),
  decide (row.lifecyclePhase = "tradable" ∧ row.tradable = 1 ∨
    row.lifecyclePhase ≠ "tradable" ∧ row.tradable = 0),
  decide (row.listingState ∉ ["pending", "pending_official", "relist_pending"] ∨
    row.tradable = 0),
  decide (row.lifecyclePhase ≠ "delisted" ∨
    row.listingState = "relist_pending" ∧ ∀ t ∈ row.lastTerminalSeenNs, t = row.lastSeenNs),
  decide (row.turnoverValue = none ∧ row.turnoverMethod = none ∧ row.turnoverCurrency = none ∨
    row.turnoverValue ≠ none ∧ row.turnoverMethod ≠ none ∧ row.turnoverCurrency ≠ none),
  decide (row.turnoverObservedAtNs = none ∧ row.turnoverRawReference = none ∨
    row.turnoverObservedAtNs ≠ none ∧ (∀ t ∈ row.turnoverObservedAtNs, 0 ≤ t) ∧
      row.turnoverRawReference ≠ none),
  decide (row.tradableAtNs = none ∧ row.tradableAtSource = none ∨
    row.tradableAtNs ≠ none ∧ row.tradableAtSource ≠ none),
  decide (row.newListingStartedAtNs = none ∧ row.newListingSource = none ∨
    row.newListingStartedAtNs ≠ none ∧ row.newListingSource ≠ none ∧
      ∀ t ∈ row.newListingStartedAtNs, 0 ≤ t),
  decide (row.listingState = "active_new" ∧ row.newListingEligible = 1 ∧
      row.newListingStartedAtNs ≠ none ∨
    row.listingState ≠ "active_new" ∧ row.newListingEligible = 0),
  decide (row.listingState ∉ ["baseline", "pending", "pending_official"] ∨
    row.newListingStartedAtNs = none),
  decide (row.lastTerminalSeenNs = none ∨
    (∀ t ∈ row.lastTerminalSeenNs, row.firstSeenNs ≤ t ∧ t ≤ row.lastSeenNs) ∧
      row.listingState ∈ ["relist_pending", "active_new"]),
  decide (row.listingState ≠ "relist_pending" ∨ row.lastTerminalSeenNs ≠ none),
  decide (row.listingState ≠ "active_new" ∨ row.lastTerminalSeenNs = none ∨
    ∀ t ∈ row.lastTerminalSeenNs, ∀ started ∈ row.newListingStartedAtNs, t < started)]

/-- No constraint refuses the row. -/
def allowed (row : InstrumentRow codec) : Bool := row.checks.all id

@[simp] theorem value_eq_active (a : ListingState) :
    a.value = "active_new" ↔ a = .activeNew := by
  cases a <;> decide

@[simp] theorem value_eq_relist (a : ListingState) :
    a.value = "relist_pending" ↔ a = .relistPending := by
  cases a <;> decide

theorem value_mem_awaiting (a : ListingState) :
    a.value ∈ ["pending", "pending_official", "relist_pending"] ↔ a.awaitsTrading = true := by
  cases a <;> decide

theorem value_mem_unretained (a : ListingState) :
    a.value ∈ ["baseline", "pending", "pending_official"] ↔ a.retainsEpisode = false := by
  cases a <;> decide

theorem value_mem_retained (a : ListingState) :
    a.value ∈ ["relist_pending", "active_new"] ↔ a.retainsEpisode = true := by
  cases a <;> decide

@[simp] theorem value_eq_tradable (a : LifecyclePhase) :
    a.value = "tradable" ↔ a = .tradable := by
  cases a <;> decide

@[simp] theorem value_eq_delisted (a : LifecyclePhase) :
    a.value = "delisted" ↔ a = .delisted := by
  cases a <;> decide

theorem isNone_eq_iff {α β : Type} {a : Option α} {b : Option β} (h : a.isNone = b.isNone) :
    a = none ∧ b = none ∨ a ≠ none ∧ b ≠ none := by
  cases a <;> cases b <;> simp_all

/-- No constraint refuses the row of an instrument. -/
theorem allowed_ofInstrument {item : CatalogInstrument} {row : InstrumentRow codec}
    (h : ofInstrument codec item = .ok row) : row.allowed = true := by
  obtain ⟨blob, -, h⟩ := bind_eq_ok.1 h
  cases h
  have hvalid := CatalogFields.check_eq_none.1 item.2
  simp only [allowed, checks, List.all_cons, List.all_nil, id, Bool.and_true, Bool.and_eq_true,
    decide_eq_true_eq]
  generalize item.1 = c at *
  have hunretained := hvalid.unretained
  refine ⟨?_, ?_, ?_, ?_, hvalid.firstSeenNs, hvalid.seen, hvalid.generation.1, ?_, ?_, ?_, ?_, ?_,
    ?_, ?_, ?_, ?_, ?_, ?_, ?_, ?_⟩
  · cases c.tradable <;> decide
  · cases c.present <;> decide
  · cases c.listingState <;> decide
  · cases c.newListingEligible <;> decide
  · cases c.lifecyclePhase <;> decide
  · have hphase := hvalid.record.phase
    cases htradable : c.tradable <;> simp_all [intOfBool]
  · rw [value_mem_awaiting]
    cases htradable : c.tradable
    · exact .inr rfl
    · exact .inl (by simp [hvalid.awaitsTrading htradable])
  · by_cases hdelisted : c.lifecyclePhase = .delisted
    · exact .inr ⟨(value_eq_relist _).2 (hvalid.delisted hdelisted), by
        simp [hvalid.terminal_delisted hdelisted]⟩
    · exact .inl (by simpa using hdelisted)
  · cases c.turnover <;> simp
  · cases hturnover : c.turnover with
    | none => simp
    | some t =>
      have ht := TurnoverFields.check_eq_none.1 t.2
      rcases isNone_eq_iff ht.paired with h | h
      · exact .inl h
      · exact .inr ⟨h.1, fun n hn => (ht.observedAtNs n hn).1, h.2⟩
  · simpa using isNone_eq_iff hvalid.record.tradableAt_paired
  · rcases isNone_eq_iff hvalid.started_paired with h | h
    · exact .inl (by simpa using h)
    · exact .inr ⟨h.1, by simpa using h.2, fun n hn => (hvalid.started n hn).1⟩
  · have heligible := hvalid.eligible
    by_cases hactive : c.listingState = .activeNew
    · exact .inl ⟨(value_eq_active _).2 hactive, by simp [heligible, hactive, intOfBool],
        Option.isSome_iff_ne_none.1 (hvalid.started_isSome hactive)⟩
    · exact .inr ⟨by simpa using hactive, by simp [heligible, hactive, intOfBool]⟩
  · rw [value_mem_unretained]
    cases hretains : c.listingState.retainsEpisode
    · exact .inr (hunretained hretains).2.1
    · exact .inl (by simp)
  · rw [value_mem_retained]
    cases hretains : c.listingState.retainsEpisode
    · exact .inl (hunretained hretains).1
    · exact .inr ⟨hvalid.terminal, rfl⟩
  · by_cases hrelist : c.listingState = .relistPending
    · exact .inr (Option.isSome_iff_ne_none.1 (hvalid.terminal_isSome hrelist))
    · exact .inl (by simpa using hrelist)
  · by_cases hactive : c.listingState = .activeNew
    · exact .inr (.inr (hvalid.started_after hactive))
    · exact .inl (by simpa using hactive)

end InstrumentRow

end CryptoCollector.Selection
