import CryptoCollector.Selection.Payloads
import CryptoCollector.Selection.Selector

/-!
# Stored entries

`selection/catalog_store.py: _catalog_instrument_from_payload, _selection_entry_payload,
_selection_state_entries_payload, _selection_state_from_row`. The entries of a selection are stored
as JSON, with a snapshot of each instrument.

* `instrumentFromPayload_payload`: the payload of an instrument decodes to that instrument.
* `selectionStateFromRow_payload`: the row of a state decodes to that state.
-/

namespace CryptoCollector.Selection

open Lib
open Storage (Err Exchange Json Market)

/-! ## Arguments of constructors -/

/-- The fields of a decoded object have exactly some names. -/
def exactFields (names : List String) (fields : List (String × Json)) : Bool :=
  (fields.all fun field => decide (field.1 ∈ names)) &&
    names.all fun name => decide (name ∈ fields.map Prod.fst)

/-- The value of a field of a decoded object. -/
def fieldOf (fields : List (String × Json)) (name : String) : Json :=
  (fields.lookup name).getD .null

/-- A value that has to be a text. -/
def textArgument (field : String) : Json → Except Err String
  | .str s => .ok s
  | _ => .error (.valueError (field ++ " must be a non-empty string"))

/-- A value that has to be an integer. -/
def intArgument (field : String) : Json → Except Err Int
  | .int n => .ok n
  | _ => .error (.valueError (field ++ " must be a non-negative integer"))

/-- A value that has to be a boolean. -/
def boolArgument (field : String) : Json → Except Err Bool
  | .bool b => .ok b
  | _ => .error (.valueError (field ++ " must be a boolean"))

/-- A value that has to be a mapping of texts. -/
def symbolsArgument : Json → Except Err WireSymbols
  | .object fields => WireSymbols.ofFields fields
  | _ => .error (.valueError "wire_symbols must be a non-empty mapping")

/-- A value that has to name a member of an enumeration. -/
def memberArgument {α : Type} (ofValue : String → Option α) (field : String) :
    Json → Except Err α
  | .str s => enumMember ofValue s field
  | _ => .error (.valueError (field ++ " must be a member or string"))

/-- A value that may be missing. -/
def optionalArgument {α : Type} (read : Json → Except Err α) : Json → Except Err (Option α)
  | .null => .ok none
  | value => some <$> read value

theorem exactFields_of_keys {names : List String} {fields : List (String × Json)}
    (h : (fields.map Prod.fst).Perm names) : exactFields names fields = true := by
  simp only [exactFields, Bool.and_eq_true, List.all_eq_true, decide_eq_true_eq]
  exact ⟨fun field hfield => h.subset (List.mem_map_of_mem hfield), fun name hname => h.symm.subset hname⟩

theorem optionalArgument_text (value : Option String) (field : String) :
    optionalArgument (textArgument field) (optionalText value) = .ok value := by
  cases value <;> rfl

theorem optionalArgument_int (value : Option Int) (field : String) :
    optionalArgument (intArgument field) (optionalInt value) = .ok value := by
  cases value <;> rfl

theorem memberArgument_value {α : Type} {ofValue : String → Option α} {value : α → String}
    (h : ∀ a, ofValue (value a) = some a) (a : α) (field : String) :
    memberArgument ofValue field (.str (value a)) = .ok a :=
  enumMember_value h a field

theorem optionalArgument_member {α : Type} {ofValue : String → Option α} {value : α → String}
    (h : ∀ a, ofValue (value a) = some a) (a : Option α) (field : String) :
    optionalArgument (memberArgument ofValue field) (optionalText (a.map value)) = .ok a := by
  cases a with
  | none => rfl
  | some a =>
    change some <$> memberArgument ofValue field (.str (value a)) = _
    rw [memberArgument_value h]
    rfl

/-! ## Instruments -/

/-- `turnover_fields`. -/
def turnoverFields : List String := ["currency", "method", "observed_at_ns", "raw_reference", "value"]

/-- The turnover of `_catalog_instrument_from_payload`. -/
def turnoverFromNode : Json → Except Err (Option Turnover)
  | .null => .ok none
  | .object fields =>
    if exactFields turnoverFields fields then do
      let text ← textArgument "selection instrument turnover value" (fieldOf fields "value")
      let value ← InstrumentRow.decimalArgument text
      let method ← memberArgument TurnoverMethod.ofValue "turnover method" (fieldOf fields "method")
      let currency ← textArgument "turnover currency" (fieldOf fields "currency")
      let observedAtNs ← optionalArgument (intArgument "turnover observed_at_ns")
        (fieldOf fields "observed_at_ns")
      let rawReference ← optionalArgument (textArgument "turnover raw_reference")
        (fieldOf fields "raw_reference")
      some <$> construct TurnoverFields.check { value, method, currency, observedAtNs, rawReference }
    else .error (.valueError "selection instrument turnover has malformed fields")
  | _ => .error (.valueError "selection instrument turnover has malformed fields")

/-- `expected_fields`. -/
def instrumentFields : List String := [
  "base_asset", "canonical_pair", "exchange", "first_seen_ns", "first_tradable_seen_ns",
  "instrument_key", "last_seen_ns", "last_terminal_seen_ns", "lifecycle", "lifecycle_phase",
  "listing_generation", "listing_state", "market", "new_listing_eligible", "new_listing_source",
  "new_listing_started_at_ns", "present", "quote_asset", "raw_catalog_reference",
  "settlement_asset", "status", "tradable", "tradable_at_ns", "tradable_at_source", "turnover",
  "wire_symbols"]

/-- The phase of a record, which follows from `tradable` where it is missing. -/
def phaseOf (phase : Option LifecyclePhase) (tradable : Bool) : LifecyclePhase :=
  phase.getD (if tradable then .tradable else .unknown)

/-- `CatalogInstrument` of the values of a payload, after its turnover and its lifecycle. -/
def instrumentArguments (fields : List (String × Json)) (turnover : Option Turnover)
    (lifecycle : Json) : Except Err CatalogInstrument := do
  let exchange ← memberArgument Exchange.ofValue "exchange" (fieldOf fields "exchange")
  let market ← memberArgument Market.ofValue "market" (fieldOf fields "market")
  let instrumentKey ← textArgument "instrument_key" (fieldOf fields "instrument_key")
  let canonicalPair ← textArgument "canonical_pair" (fieldOf fields "canonical_pair")
  let wireSymbols ← symbolsArgument (fieldOf fields "wire_symbols")
  let baseAsset ← textArgument "base_asset" (fieldOf fields "base_asset")
  let quoteAsset ← textArgument "quote_asset" (fieldOf fields "quote_asset")
  let settlementAsset ← optionalArgument (textArgument "settlement_asset")
    (fieldOf fields "settlement_asset")
  let status ← textArgument "status" (fieldOf fields "status")
  let tradable ← boolArgument "tradable" (fieldOf fields "tradable")
  let lifecyclePhase ← optionalArgument (memberArgument LifecyclePhase.ofValue "lifecycle_phase")
    (fieldOf fields "lifecycle_phase")
  let tradableAtNs ← optionalArgument (intArgument "tradable_at_ns")
    (fieldOf fields "tradable_at_ns")
  let tradableAtSource ← optionalArgument
    (memberArgument TradableAtSource.ofValue "tradable_at_source")
    (fieldOf fields "tradable_at_source")
  let rawCatalogReference ← textArgument "raw_catalog_reference"
    (fieldOf fields "raw_catalog_reference")
  let firstSeenNs ← intArgument "first_seen_ns" (fieldOf fields "first_seen_ns")
  let lastSeenNs ← intArgument "last_seen_ns" (fieldOf fields "last_seen_ns")
  let present ← boolArgument "present" (fieldOf fields "present")
  let listingState ← memberArgument ListingState.ofValue "listing_state"
    (fieldOf fields "listing_state")
  let firstTradableSeenNs ← optionalArgument (intArgument "first_tradable_seen_ns")
    (fieldOf fields "first_tradable_seen_ns")
  let listingGeneration ← intArgument "listing_generation" (fieldOf fields "listing_generation")
  let lastTerminalSeenNs ← optionalArgument (intArgument "last_terminal_seen_ns")
    (fieldOf fields "last_terminal_seen_ns")
  let newListingStartedAtNs ← optionalArgument (intArgument "new_listing_started_at_ns")
    (fieldOf fields "new_listing_started_at_ns")
  let newListingSource ← optionalArgument
    (memberArgument TradableAtSource.ofValue "new_listing_source")
    (fieldOf fields "new_listing_source")
  let newListingEligible ← boolArgument "new_listing_eligible"
    (fieldOf fields "new_listing_eligible")
  construct CatalogFields.check {
    exchange
    market
    instrumentKey
    canonicalPair
    wireSymbols
    baseAsset
    quoteAsset
    settlementAsset
    status
    lifecyclePhase := phaseOf lifecyclePhase tradable
    tradable
    lifecycle := freezeJson lifecycle
    tradableAtNs
    tradableAtSource
    turnover
    rawCatalogReference
    firstSeenNs
    lastSeenNs
    present
    listingState
    firstTradableSeenNs
    listingGeneration
    lastTerminalSeenNs
    newListingStartedAtNs
    newListingSource
    newListingEligible }

/-- `_catalog_instrument_from_payload`. -/
def instrumentFromPayload : Json → Except Err CatalogInstrument
  | .object fields =>
    if exactFields instrumentFields fields then do
      let turnover ← turnoverFromNode (fieldOf fields "turnover")
      let lifecycle ← decodeTypedJsonNode (fieldOf fields "lifecycle")
      instrumentArguments fields turnover lifecycle
    else .error (.valueError "selection instrument snapshot has malformed fields")
  | _ => .error (.valueError "selection instrument snapshot has malformed fields")

theorem turnoverFromNode_payload (turnover : Option Turnover) :
    turnoverFromNode (turnoverPayload turnover) = .ok turnover := by
  cases turnover with
  | none => rfl
  | some t =>
    have hkeys : ["value", "method", "currency", "observed_at_ns", "raw_reference"].Perm
        turnoverFields := by decide
    have hexact : exactFields turnoverFields [
        ("value", .str (decimalStr t.1.value)),
        ("method", .str t.1.method.value),
        ("currency", .str t.1.currency),
        ("observed_at_ns", optionalInt t.1.observedAtNs),
        ("raw_reference", optionalText t.1.rawReference)] = true := exactFields_of_keys hkeys
    simp only [turnoverPayload, Option.elim_some, turnoverFromNode, hexact, if_true]
    simp [fieldOf, List.lookup_cons, textArgument, InstrumentRow.decimalArgument,
      decimalOfStr_decimalStr, memberArgument_value TurnoverMethod.ofValue_value,
      optionalArgument_int, optionalArgument_text, construct_of_valid t.2]

theorem exchange_ofValue_value (a : Exchange) : Exchange.ofValue a.value = some a := by
  cases a <;> decide

theorem market_ofValue_value (a : Market) : Market.ofValue a.value = some a := by
  cases a <;> decide

theorem symbolsArgument_symbols (symbols : WireSymbols) :
    symbolsArgument (.object (symbols.1.map fun item => (item.1, .str item.2))) = .ok symbols :=
  WireSymbols.ofFields_toJson symbols

/-- The phase of an instrument is given. -/
theorem optionalArgument_phase (phase : LifecyclePhase) (field : String) :
    optionalArgument (memberArgument LifecyclePhase.ofValue field) (.str phase.value) =
      .ok (some phase) :=
  optionalArgument_member LifecyclePhase.ofValue_value (some phase) field

/-- The names of the fields of the payload of an instrument. -/
theorem keys_catalogInstrumentPayload (c : CatalogFields) (node : Json) :
    ((recordPayloadFields c.toRecordFields node ++ historyPayloadFields c).map Prod.fst).Perm
      instrumentFields := by
  have hkeys : [
      "exchange", "market", "instrument_key", "canonical_pair", "wire_symbols", "base_asset",
      "quote_asset", "settlement_asset", "status", "lifecycle_phase", "tradable", "lifecycle",
      "tradable_at_ns", "tradable_at_source", "turnover", "raw_catalog_reference",
      "first_seen_ns", "first_tradable_seen_ns", "last_seen_ns", "last_terminal_seen_ns",
      "listing_generation", "listing_state", "new_listing_eligible", "new_listing_source",
      "new_listing_started_at_ns", "present"].Perm instrumentFields := by
    decide
  exact hkeys

/-- The payload of an instrument decodes to that instrument. -/
theorem instrumentFromPayload_payload {item : CatalogInstrument} {payload : Json}
    (h : catalogInstrumentPayload item = .ok payload) : instrumentFromPayload payload = .ok item := by
  obtain ⟨node, hnode, h⟩ := bind_eq_ok.1 h
  cases h
  have hkeys := keys_catalogInstrumentPayload item.1 node
  rw [instrumentFromPayload, exactFields_of_keys hkeys, if_pos rfl]
  have hlifecycle := decodeTypedJsonNode_typedJsonNode item.1.lifecycle.2 hnode
  simp only [instrumentArguments, fieldOf, recordPayloadFields, historyPayloadFields,
    List.lookup_cons,
    String.reduceBEq, List.cons_append, List.nil_append, Option.getD_some, turnoverFromNode_payload, hlifecycle,
    memberArgument_value exchange_ofValue_value, memberArgument_value market_ofValue_value,
    memberArgument_value ListingState.ofValue_value, optionalArgument_phase, ok_bind,
    optionalArgument_member TradableAtSource.ofValue_value, textArgument, intArgument,
    boolArgument, symbolsArgument_symbols, optionalArgument_text, optionalArgument_int,
    phaseOf, freezeJson_val]
  rw [construct_eq_ok]

/-! ## Entries -/

/-- The integer of a reason. -/
def SelectionReason.value (r : SelectionReason) : Int :=
  (if r.fixed then 1 else 0) + (if r.newListing then 2 else 0) + (if r.topN then 4 else 0) +
    if r.topNGrace then 8 else 0

/-- The bits of an integer. A negative integer stands for its complement. -/
def reasonBits (n : Int) : Int :=
  if 0 ≤ n then n else if -16 ≤ n then 16 + n else 2 ^ (n.natAbs.log2 + 1) + n

/-- `SelectionReason` of an integer with known bits only. -/
def SelectionReason.ofValue (n : Int) : Except Err SelectionReason :=
  let bits := reasonBits n
  if bits < 16 then .ok {
    fixed := bits.toNat.testBit 0
    newListing := bits.toNat.testBit 1
    topN := bits.toNat.testBit 2
    topNGrace := bits.toNat.testBit 3 }
  else .error (.valueError "reasons must contain only known selection reasons")

theorem SelectionReason.ofValue_value (r : SelectionReason) : ofValue r.value = .ok r := by
  obtain ⟨fixed, newListing, topN, topNGrace⟩ := r
  cases fixed <;> cases newListing <;> cases topN <;> cases topNGrace <;> rfl

/-- `int(admission_priority)`. -/
def AdmissionPriority.value : AdmissionPriority → Int
  | topN => 1
  | newListing => 2
  | fixed => 3

/-- `_selection_entry_payload`. -/
def selectionEntryPayload (e : SelectionEntry) : Except Err Json := do
  return .object [
    ("admission_priority", .int e.1.admissionPriority.value),
    ("instrument", ← catalogInstrumentPayload e.1.instrument),
    ("reasons", .int e.1.reasons.value),
    ("top_exit_started_at_ns", optionalInt e.1.topExitStartedAtNs),
    ("top_n_rank", optionalInt e.1.topNRank)]

/-- The item of an entry in `_selection_state_entries_payload`. -/
def stateEntryPayload (e : String × SelectionEntry) : Except Err Json := do
  return .object [
    ("instrument_key", .str e.1),
    ("instrument", ← catalogInstrumentPayload e.2.1.instrument),
    ("reasons", .int e.2.1.reasons.value),
    ("top_exit_started_at_ns", optionalInt e.2.1.topExitStartedAtNs),
    ("top_n_rank", optionalInt e.2.1.topNRank)]

/-- `_selection_state_entries_payload`. -/
def selectionStateEntriesPayload (entries : Dict String SelectionEntry) : Except Err Json := do
  return .list (← (sortedBy Prod.fst entries.entries).mapM stateEntryPayload)

/-- The names of the fields of a stored entry. -/
def stateEntryFields : List String :=
  ["instrument_key", "instrument", "reasons", "top_exit_started_at_ns", "top_n_rank"]

/-- The key of a stored entry. -/
def stateEntryKey : Json → Except Err String
  | .str s => if s = "" then .error (.runtimeError "selection state has an invalid instrument key")
    else .ok s
  | _ => .error (.runtimeError "selection state has an invalid instrument key")

/-- The reasons of a stored entry. -/
def stateEntryReasons : Json → Except Err Int
  | .int n => .ok n
  | _ => .error (.runtimeError "selection state reasons must be an integer")

/-- `SelectionEntry` of the values of a payload. -/
def entryArguments (fields : List (String × Json)) (instrument : CatalogInstrument)
    (reasons : Int) : Except Err SelectionEntry := do
  let reasons ← SelectionReason.ofValue reasons
  let topNRank ← optionalArgument (intArgument "top_n_rank") (fieldOf fields "top_n_rank")
  let topExitStartedAtNs ← optionalArgument (intArgument "top_exit_started_at_ns")
    (fieldOf fields "top_exit_started_at_ns")
  construct EntryFields.check { instrument, reasons, topNRank, topExitStartedAtNs }

/-- The values of a stored entry, whose instrument has the scope and the key of the entry. -/
def stateEntry (scope : CatalogScope) (key : String) (reasons : Int)
    (fields : List (String × Json)) : Except Err SelectionEntry := do
  let instrument ← instrumentFromPayload (fieldOf fields "instrument")
  if instrument.1.scope ≠ scope then
    .error (.valueError "selection instrument scope mismatch")
  else if instrument.1.instrumentKey ≠ key then
    .error (.valueError "selection instrument key mismatch")
  else entryArguments fields instrument reasons

/-- `except (TypeError, ValueError)` around the values of a stored entry. -/
def invalidEntry : Err → Err
  | .valueError _ => .runtimeError "selection state contains invalid entry values"
  | e => e

/-- The entry of a node of the stored entries. -/
def stateEntryFromNode (scope : CatalogScope) : Json → Except Err (String × SelectionEntry)
  | .object fields =>
    if exactFields stateEntryFields fields then do
      let key ← stateEntryKey (fieldOf fields "instrument_key")
      let reasons ← stateEntryReasons (fieldOf fields "reasons")
      let entry ← (stateEntry scope key reasons fields).mapError invalidEntry
      return (key, entry)
    else .error (.runtimeError "selection state contains a malformed entry")
  | _ => .error (.runtimeError "selection state contains a malformed entry")

/-- Add an entry under a key that is not there yet. -/
def addStateEntry (scope : CatalogScope) (entries : Dict String SelectionEntry) (node : Json) :
    Except Err (Dict String SelectionEntry) := do
  let e ← stateEntryFromNode scope node
  if entries.contains e.1 then
    .error (.runtimeError "selection state contains duplicate instrument keys")
  else .ok (entries.set e.1 e.2)

/-- The stored entries of a decoded value. -/
def stateEntriesFromNode (scope : CatalogScope) : Json → Except Err (Dict String SelectionEntry)
  | .list nodes => nodes.foldlM (addStateEntry scope) .empty
  | _ => .error (.runtimeError "selection state entries must be a JSON array")

variable {codec : CatalogCodec}

/-- `_selection_state_from_row`. -/
def selectionStateFromRow (scope : CatalogScope) (policyId : codec.Digest)
    (row : SelectionRow codec) : Except Err (SelectionState codec) := do
  let entries ← stateEntriesFromNode scope (← codec.decodeJson row.entriesJson)
  selectionState {
    scope
    catalogRevision := row.catalogRevision
    turnoverRevision := row.turnoverRevision
    policyId
    revision := row.stateRevision
    entries }

/-! ## Decoding what was stored -/

theorem entryArguments_payload (e : SelectionEntry) {fields : List (String × Json)}
    (hrank : fieldOf fields "top_n_rank" = optionalInt e.1.topNRank)
    (hexit : fieldOf fields "top_exit_started_at_ns" = optionalInt e.1.topExitStartedAtNs) :
    entryArguments fields e.1.instrument e.1.reasons.value = .ok e := by
  rw [entryArguments, SelectionReason.ofValue_value, ok_bind, hrank, optionalArgument_int, ok_bind,
    hexit, optionalArgument_int, ok_bind, construct_eq_ok]

/-- A stored entry decodes to that entry. -/
theorem stateEntryFromNode_payload {scope : CatalogScope} {e : String × SelectionEntry}
    {node : Json} (hkey : e.1 = e.2.1.instrument.1.instrumentKey)
    (hscope : e.2.1.instrument.1.scope = scope) (h : stateEntryPayload e = .ok node) :
    stateEntryFromNode scope node = .ok e := by
  obtain ⟨payload, hpayload, h⟩ := bind_eq_ok.1 h
  cases h
  have hne : e.1 ≠ "" := by
    rw [hkey]
    exact (CatalogFields.check_eq_none.1 e.2.1.instrument.2).record.instrumentKey
  have hentry : stateEntry scope e.1 e.2.1.reasons.value [
      ("instrument_key", .str e.1), ("instrument", payload),
      ("reasons", .int e.2.1.reasons.value),
      ("top_exit_started_at_ns", optionalInt e.2.1.topExitStartedAtNs),
      ("top_n_rank", optionalInt e.2.1.topNRank)] = .ok e.2 := by
    rw [stateEntry]
    change (instrumentFromPayload payload >>= _) = _
    rw [instrumentFromPayload_payload hpayload, ok_bind, if_neg (not_not.2 hscope),
      if_neg (not_not.2 hkey.symm)]
    exact entryArguments_payload e.2 rfl rfl
  have hexact : exactFields stateEntryFields [
      ("instrument_key", .str e.1), ("instrument", payload),
      ("reasons", .int e.2.1.reasons.value),
      ("top_exit_started_at_ns", optionalInt e.2.1.topExitStartedAtNs),
      ("top_n_rank", optionalInt e.2.1.topNRank)] = true :=
    exactFields_of_keys (.refl stateEntryFields)
  rw [stateEntryFromNode, if_pos hexact]
  change (stateEntryKey (.str e.1) >>= _) = _
  rw [stateEntryKey, if_neg hne, ok_bind]
  change ((stateEntry scope e.1 e.2.1.reasons.value _).mapError invalidEntry >>= _) = _
  rw [hentry]
  rfl

/-- Entries of new keys are added one after the other. -/
theorem foldlM_addStateEntry {scope : CatalogScope} {items : List (String × SelectionEntry)}
    {nodes : List Json}
    (hnodes : List.Forall₂ (fun e node => stateEntryPayload e = .ok node) items nodes)
    (hitems : ∀ e ∈ items, e.1 = e.2.1.instrument.1.instrumentKey ∧
      e.2.1.instrument.1.scope = scope)
    (entries : Dict String SelectionEntry) (hnodup : (items.map Prod.fst).Nodup)
    (hnew : ∀ e ∈ items, e.1 ∉ entries.keys) :
    ∃ d, nodes.foldlM (addStateEntry scope) entries = .ok d ∧
      d.entries = entries.entries ++ items := by
  induction hnodes generalizing entries with
  | nil => exact ⟨entries, rfl, by simp⟩
  | @cons e node items nodes hnode _ ih =>
    rw [List.map_cons, List.nodup_cons] at hnodup
    have hfresh := hnew e List.mem_cons_self
    obtain ⟨hkey, hscope⟩ := hitems e List.mem_cons_self
    have hadd : addStateEntry scope entries node = .ok (entries.set e.1 e.2) := by
      rw [addStateEntry, stateEntryFromNode_payload hkey hscope hnode, ok_bind, if_neg (by simpa using hfresh)]
    have hrest : ∀ other ∈ items, other.1 ∉ (entries.set e.1 e.2).keys := by
      intro other hother
      rw [Dict.mem_keys_set, not_or]
      exact ⟨hnew other (List.mem_cons_of_mem _ hother),
        fun hsame => hnodup.1 (hsame ▸ List.mem_map_of_mem hother)⟩
    obtain ⟨d, hd, hentries⟩ := ih (fun other hother => hitems other (List.mem_cons_of_mem _ hother))
      (entries.set e.1 e.2) hnodup.2 hrest
    refine ⟨d, ?_, ?_⟩
    · rw [List.foldlM_cons, hadd, ok_bind, hd]
    · rw [hentries, Dict.entries_set_of_not_mem hfresh, List.append_assoc]
      rfl

/-- The entries of a state have its scope and their own keys. -/
theorem entry_of_immutableEntriesCheck {scope : CatalogScope} {entries : Dict String SelectionEntry}
    (h : immutableEntriesCheck scope entries = none) {e : String × SelectionEntry}
    (he : e ∈ entries.entries) :
    e.1 = e.2.1.instrument.1.instrumentKey ∧ e.2.1.instrument.1.scope = scope := by
  have hcheck := List.findSome?_eq_none_iff.1 h e he
  simp only [orElse_eq_none, Storage.refuseIf_eq_none, decide_eq_false_iff_not, not_not] at hcheck
  exact hcheck.2

/-- The numbers of an entry are plain. -/
theorem plain_entryNumbers (e : SelectionEntry) : (Json.int e.1.reasons.value).Plain ∧
    (optionalInt e.1.topExitStartedAtNs).Plain ∧ (optionalInt e.1.topNRank).Plain := by
  have hcheck := e.2
  simp only [EntryFields.check, orElse_eq_none, selectorOptionalInteger_eq_none] at hcheck
  obtain ⟨-, -, hrank, -, -, hexit, -⟩ := hcheck
  refine ⟨?_, plain_optionalInt hexit, plain_optionalInt fun n hn => ?_⟩
  · obtain ⟨fixed, newListing, topN, topNGrace⟩ := e.1.reasons
    cases fixed <;> cases newListing <;> cases topN <;> cases topNGrace <;>
      exact plain_int (by decide)
  · have := hrank n hn
    omega

theorem plain_stateEntryPayload {e : String × SelectionEntry} {node : Json}
    (h : stateEntryPayload e = .ok node) : node.Plain := by
  obtain ⟨payload, hpayload, h⟩ := bind_eq_ok.1 h
  cases h
  obtain ⟨hreasons, hexit, hrank⟩ := plain_entryNumbers e.2
  have hnodup : ["instrument_key", "instrument", "reasons", "top_exit_started_at_ns",
      "top_n_rank"].Nodup := by decide
  exact ⟨hnodup, trivial, plain_catalogInstrumentPayload hpayload, hreasons, hexit, hrank, trivial⟩

theorem plain_selectionEntryPayload {e : SelectionEntry} {payload : Json}
    (h : selectionEntryPayload e = .ok payload) : payload.Plain := by
  obtain ⟨instrument, hinstrument, h⟩ := bind_eq_ok.1 h
  cases h
  obtain ⟨hreasons, hexit, hrank⟩ := plain_entryNumbers e
  have hpriority : (Json.int e.1.admissionPriority.value).Plain := by
    cases e.1.admissionPriority <;> exact plain_int (by decide)
  have hnodup : ["admission_priority", "instrument", "reasons", "top_exit_started_at_ns",
      "top_n_rank"].Nodup := by decide
  exact ⟨hnodup, hpriority, plain_catalogInstrumentPayload hinstrument, hreasons, hexit, hrank,
    trivial⟩

/-- The row of a state decodes to that state. -/
theorem selectionStateFromRow_payload {s : SelectionState codec}
    (hsorted : s.1.entries.sorted = s.1.entries) {payload : Json}
    (h : selectionStateEntriesPayload s.1.entries = .ok payload) :
    selectionStateFromRow s.1.scope s.1.policyId {
      stateRevision := s.1.revision
      catalogRevision := s.1.catalogRevision
      turnoverRevision := s.1.turnoverRevision
      entriesJson := codec.encodeJson payload } = .ok s := by
  obtain ⟨nodes, hnodes, h⟩ := bind_eq_ok.1 h
  cases h
  have hchecks := s.2
  simp only [StateFields.check, orElse_eq_none] at hchecks
  obtain ⟨-, -, -, hentries⟩ := hchecks
  have hall : List.Forall₂ (fun e node => stateEntryPayload e = .ok node)
      s.1.entries.sorted.entries nodes := forall₂_of_mapM hnodes
  rw [hsorted] at hall
  have hplain : (Json.list nodes).Plain := by
    refine Json.plainItems_iff.2 fun node hnode => ?_
    obtain ⟨e, -, he⟩ := exists_left_of_forall₂ hall hnode
    exact plain_stateEntryPayload he
  obtain ⟨d, hd, hsame⟩ := foldlM_addStateEntry hall
    (fun e he => entry_of_immutableEntriesCheck hentries he) .empty s.1.entries.nodup
    (by simp [Dict.keys])
  obtain rfl : d = s.1.entries := Dict.ext hsame
  rw [selectionStateFromRow, codec.decodeJson_encodeJson _ hplain, ok_bind]
  change (nodes.foldlM (addStateEntry s.1.scope) .empty >>= _) = _
  rw [hd, ok_bind, selectionState, construct_eq_ok, hsorted]

end CryptoCollector.Selection
