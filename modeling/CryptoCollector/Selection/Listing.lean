import CryptoCollector.Selection.Models

/-!
# Listing transitions

`selection/catalog_store.py: _materialize_record, _with_listing_state` and the transition loop of
`_apply_snapshot`. A snapshot moves each instrument that it reports by one transition: the record
is materialized over its history, the listing state is decided, a listing time that is not
evidence for the listing is replaced by the time of the snapshot, and a new listing starts an
episode.

* `transition_eq_ok`: what a transition computes when no check fails.
* `Resighted`, `Sighted`: what a transition changes.
* `transition_resighted`, `transition_sighted`: every transition is one.
-/

namespace CryptoCollector.Selection

open Lib
open Storage (Err)

/-! ## Materialization -/

/-- `listing_state` in `_materialize_record`. -/
def materializedState (record : RecordFields) (prior : Option CatalogFields) : ListingState :=
  let listingState := prior.elim .pending (·.listingState)
  if record.lifecyclePhase = .delisted then .relistPending
  else if record.tradable && listingState.awaitsTrading then .baseline
  else listingState

/-- `tradable_at_ns` and `tradable_at_source` in `_materialize_record`. -/
def materializedTradableAt (record : RecordFields) (prior : Option CatalogFields)
    (observedAtNs : Int) : Option Int × Option TradableAtSource :=
  if record.tradableAtNs.isSome then (record.tradableAtNs, record.tradableAtSource)
  else
    match prior.filter fun p => decide (p.lifecyclePhase ≠ .delisted) && p.tradableAtNs.isSome with
    | some p => (p.tradableAtNs, p.tradableAtSource)
    | none =>
      if record.tradable then (some observedAtNs, some .firstTradableSeen) else (none, none)

/-- `turnover` in `_materialize_record`. -/
def materializedTurnover (record : RecordFields) (prior : Option CatalogFields) :
    Option Turnover :=
  match prior with
  | none => record.turnover
  | some p =>
    if record.turnover.isSome || p.quoteAsset ≠ record.quoteAsset then record.turnover
    else p.turnover

/-- `_materialize_record`. -/
def materializedFields (record : RecordFields) (prior : Option CatalogFields)
    (observedAtNs : Int) : CatalogFields :=
  let listingState := materializedState record prior
  let retained := prior.filter fun _ => listingState.retainsEpisode
  { record with
    tradableAtNs := (materializedTradableAt record prior observedAtNs).1
    tradableAtSource := (materializedTradableAt record prior observedAtNs).2
    turnover := materializedTurnover record prior
    firstSeenNs := prior.elim observedAtNs (·.firstSeenNs)
    lastSeenNs := observedAtNs
    present := true
    listingState
    firstTradableSeenNs :=
      if record.tradable && (prior.bind (·.firstTradableSeenNs)).isNone then some observedAtNs
      else prior.bind (·.firstTradableSeenNs)
    listingGeneration := prior.elim 0 (·.listingGeneration)
    lastTerminalSeenNs :=
      if record.lifecyclePhase = .delisted then some observedAtNs
      else retained.bind (·.lastTerminalSeenNs)
    newListingStartedAtNs := retained.bind (·.newListingStartedAtNs)
    newListingSource := retained.bind (·.newListingSource)
    newListingEligible := decide (listingState = .activeNew) }

/-! ## Decisions -/

/-- What the transition loop decides about an instrument: its listing state, whether it is a new
listing, whether its listing time is replaced, and the terminal observation that it follows. -/
structure Decision where
  listingState : ListingState
  isNewListing : Bool
  retimed : Bool := false
  relistingTerminalSeenNs : Option Int := none
  deriving DecidableEq

/-- The listing time that an exchange reports. -/
def officialTime (item : CatalogFields) : Option Int :=
  if item.tradableAtSource.any (·.isOfficial) then item.tradableAtNs else none

/-- `official_recent`. -/
def officialRecent (lookback observedAt : Int) (item : CatalogFields) : Bool :=
  0 < lookback &&
    (officialTime item).any fun t => decide (t ≤ observedAt) && decide (observedAt - t ≤ lookback)

/-- `has_observed_official_time`. -/
def hasObservedOfficialTime (observedAt : Int) (item : CatalogFields) : Bool :=
  (officialTime item).any fun t => decide (t ≤ observedAt)

/-- The state of an instrument that is not tradable at its first sight. -/
def untradedState (official : Bool) (item : CatalogFields) : ListingState :=
  match item.lifecyclePhase with
  | .preopen => if official then .pendingOfficial else .pending
  | .delisted => .relistPending
  | _ => .baseline

/-- The decision about an instrument that was not recorded before. -/
def firstDecision (lookback observedAt : Int) (isInitial : Bool) (item : CatalogFields) :
    Decision :=
  if isInitial && item.tradable && officialRecent lookback observedAt item then
    { listingState := .activeNew, isNewListing := true }
  else if isInitial then
    { listingState := untradedState (officialRecent lookback observedAt item) item
      isNewListing := false }
  else if item.tradable then
    { listingState := .activeNew
      isNewListing := true
      retimed := item.tradableAtNs.any fun t => decide (observedAt < t) }
  else
    { listingState := untradedState (hasObservedOfficialTime observedAt item) item
      isNewListing := false }

/-- `has_new_official_time`. -/
def hasNewOfficialTime (observedAt terminalSeenAt : Int) (item : CatalogFields) : Bool :=
  (officialTime item).any fun t => decide (t ≤ observedAt) && decide (terminalSeenAt < t)

/-- `official_floor`. -/
def officialFloor (old : CatalogFields) : Option Int :=
  if old.listingState = .pendingOfficial then old.tradableAtNs else some old.firstSeenNs

/-- `has_eligible_official_time`. -/
def hasEligibleOfficialTime (observedAt : Int) (old item : CatalogFields) : Bool :=
  (officialTime item).any fun t =>
    (officialFloor old).any fun floor => decide (floor ≤ t) && decide (t ≤ observedAt)

/-- The decision about an instrument that was recorded before. -/
def nextDecision (observedAt : Int) (old item : CatalogFields) : Except Err Decision :=
  if item.lifecyclePhase = .delisted then
    .ok { listingState := .relistPending, isNewListing := false }
  else if old.listingState = .relistPending ∧ item.lifecyclePhase = .tradable then
    match old.lastTerminalSeenNs with
    | none => .error (.runtimeError "relist-pending catalog state lacks terminal evidence")
    | some terminalSeenAt => .ok {
        listingState := .activeNew
        isNewListing := true
        retimed := !hasNewOfficialTime observedAt terminalSeenAt item
        relistingTerminalSeenNs := some terminalSeenAt }
  else if (old.listingState = .pending ∨ old.listingState = .pendingOfficial) ∧ item.tradable then
    .ok {
      listingState := .activeNew
      isNewListing := true
      retimed := !hasEligibleOfficialTime observedAt old item }
  else .ok { listingState := old.listingState, isNewListing := false }

/-! ## Outcomes -/

/-- The listing time becomes the time of the snapshot. -/
def retimedFields (observedAt : Int) (item : CatalogFields) : CatalogFields :=
  { item with
    tradableAtNs := some observedAt
    tradableAtSource := some .firstTradableSeen }

/-- The record of a new listing. -/
def activatedFields (observedAt : Int) (old : Option CatalogFields)
    (relistingTerminalSeenNs : Option Int) (item : CatalogFields) : CatalogFields :=
  { item with
    listingState := .activeNew
    listingGeneration := old.elim 1 (·.listingGeneration + 1)
    firstTradableSeenNs := some observedAt
    lastTerminalSeenNs := relistingTerminalSeenNs
    newListingStartedAtNs := item.tradableAtNs
    newListingSource := item.tradableAtSource
    newListingEligible := true }

/-- `_with_listing_state`. -/
def withListingState (item : CatalogFields) (listingState : ListingState) : CatalogFields :=
  { item with
    listingState
    lastTerminalSeenNs :=
      if listingState = .relistPending ∧ item.lifecyclePhase = .delisted then some item.lastSeenNs
      else if listingState.retainsEpisode then item.lastTerminalSeenNs
      else none
    newListingStartedAtNs :=
      if listingState.retainsEpisode then item.newListingStartedAtNs else none
    newListingSource := if listingState.retainsEpisode then item.newListingSource else none
    newListingEligible := decide (listingState = .activeNew) }

/-- The record after a decision and after the listing time was replaced. -/
def decidedFields (observedAt : Int) (old : Option CatalogFields) (d : Decision)
    (item : CatalogFields) : CatalogFields :=
  if d.isNewListing then activatedFields observedAt old d.relistingTerminalSeenNs item
  else withListingState item d.listingState

/-- The decision about an instrument. -/
def decision (lookback observedAt : Int) (isInitial : Bool) (old : Option CatalogFields)
    (item : CatalogFields) : Except Err Decision :=
  match old with
  | none => .ok (firstDecision lookback observedAt isInitial item)
  | some o => nextDecision observedAt o item

/-- The listing time is replaced if it is no evidence for the listing. -/
def retime (observedAt : Int) (d : Decision) (item : CatalogInstrument) :
    Except Err CatalogInstrument :=
  if d.retimed then construct CatalogFields.check (retimedFields observedAt item.1) else .ok item

/-- The transition of one instrument of a snapshot: its record, and whether it is a new listing.
Each value is checked when it is built. -/
def transition (lookback observedAt : Int) (isInitial : Bool) (record : InstrumentRecord)
    (old : Option CatalogInstrument) : Except Err (CatalogInstrument × Bool) := do
  let prior := old.map (·.1)
  let item ← construct CatalogFields.check (materializedFields record.1 prior observedAt)
  let d ← decision lookback observedAt isInitial prior item.1
  let item ← retime observedAt d item
  let item ← construct CatalogFields.check (decidedFields observedAt prior d item.1)
  return (item, d.isNewListing)

/-- The record after the listing time was replaced, if it was. -/
def timedFields (observedAt : Int) (d : Decision) (item : CatalogFields) : CatalogFields :=
  { item with
    tradableAtNs := if d.retimed then some observedAt else item.tradableAtNs
    tradableAtSource := if d.retimed then some .firstTradableSeen else item.tradableAtSource }

/-- What a transition computes when no check fails. -/
theorem transition_eq_ok {lookback observedAt : Int} {isInitial : Bool} {record : InstrumentRecord}
    {old : Option CatalogInstrument} {item : CatalogInstrument} {isNew : Bool}
    (h : transition lookback observedAt isInitial record old = .ok (item, isNew)) :
    let prior := old.map (·.1)
    let fields := materializedFields record.1 prior observedAt
    ∃ d, decision lookback observedAt isInitial prior fields = .ok d ∧ d.isNewListing = isNew ∧
      item.1 = decidedFields observedAt prior d (timedFields observedAt d fields) := by
  obtain ⟨first, hfirst, h⟩ := bind_eq_ok.1 h
  obtain ⟨d, hd, h⟩ := bind_eq_ok.1 h
  obtain ⟨timed, htimed, h⟩ := bind_eq_ok.1 h
  obtain ⟨last, hlast, h⟩ := bind_eq_ok.1 h
  cases h
  rw [construct_eq_ok] at hfirst hlast
  rw [hfirst] at hd
  have htimed : timed.1 = timedFields observedAt d first.1 := by
    unfold retime at htimed
    split_ifs at htimed with hretimed
    · rw [construct_eq_ok.1 htimed]
      simp [timedFields, retimedFields, hretimed]
    · cases htimed
      simp [timedFields, hretimed]
  exact ⟨d, hd, rfl, by rw [hlast, htimed, hfirst]⟩

/-- A transition keeps the key and the scope of the record. -/
theorem identity_of_transition {lookback observedAt : Int} {isInitial : Bool}
    {record : InstrumentRecord} {old : Option CatalogInstrument} {item : CatalogInstrument}
    {isNew : Bool} (h : transition lookback observedAt isInitial record old = .ok (item, isNew)) :
    item.1.instrumentKey = record.1.instrumentKey ∧ item.1.scope = record.1.scope := by
  obtain ⟨d, -, -, hitem⟩ := transition_eq_ok h
  rw [hitem]
  unfold decidedFields
  split_ifs <;> exact ⟨rfl, rfl⟩

/-! ## What a transition changes -/

/-- An instrument that was recorded before is seen again. -/
structure Resighted (observedAt : Int) (isNew : Bool) (o n : CatalogFields) : Prop where
  firstSeenNs : n.firstSeenNs = o.firstSeenNs
  lastSeenNs : n.lastSeenNs = observedAt
  present : n.present = true
  generation : n.listingGeneration = o.listingGeneration + if isNew then 1 else 0
  state : n.listingState = if isNew then .activeNew
    else if n.lifecyclePhase = .delisted then .relistPending else o.listingState
  awaited : isNew = true → o.listingState.awaitsTrading = true ∧ n.tradable = true
  unawaited : isNew = false → n.tradable = true → o.listingState.awaitsTrading = false
  terminal : n.lastTerminalSeenNs =
    if isNew then (if o.listingState = .relistPending then o.lastTerminalSeenNs else none)
    else if n.lifecyclePhase = .delisted then some observedAt else o.lastTerminalSeenNs
  started : isNew = false → n.newListingStartedAtNs = o.newListingStartedAtNs ∧
    n.newListingSource = o.newListingSource
  firstTradable : n.firstTradableSeenNs =
    if isNew || n.tradable && o.firstTradableSeenNs.isNone then some observedAt
    else o.firstTradableSeenNs

/-- An instrument is seen for the first time. -/
structure Sighted (observedAt : Int) (isNew : Bool) (n : CatalogFields) : Prop where
  firstSeenNs : n.firstSeenNs = observedAt
  lastSeenNs : n.lastSeenNs = observedAt
  present : n.present = true
  generation : n.listingGeneration = if isNew then 1 else 0
  state : n.listingState = .activeNew ↔ isNew = true
  tradable : isNew = true → n.tradable = true
  terminal : n.lastTerminalSeenNs =
    if n.lifecyclePhase = .delisted then some observedAt else none
  started : isNew = false → n.newListingStartedAtNs = none
  firstTradable : n.firstTradableSeenNs = if n.tradable then some observedAt else none

theorem resighted_of_transition {lookback observedAt : Int} {isInitial : Bool}
    {record : InstrumentRecord} {old item : CatalogInstrument} {isNew : Bool}
    (h : transition lookback observedAt isInitial record (some old) = .ok (item, isNew)) :
    Resighted observedAt isNew old.1 item.1 := by
  obtain ⟨d, hd, rfl, hitem⟩ := transition_eq_ok h
  have hrecord := RecordFields.check_eq_none.1 record.2
  have hold := CatalogFields.check_eq_none.1 old.2
  clear h
  simp only [Option.map_some] at hd hitem
  generalize old.1 = o at *
  generalize item.1 = n at *
  subst hitem
  simp only [decision, nextDecision] at hd
  split_ifs at hd with hdelisted hrelisting hpending
  · cases hd
    change record.1.lifecyclePhase = .delisted at hdelisted
    have htradable : record.1.tradable = false := by
      have := hrecord.phase
      simpa [hdelisted] using this
    constructor <;> simp [decidedFields, withListingState, timedFields, materializedFields,
      materializedState, hdelisted, htradable, ListingState.retainsEpisode, Option.filter_some]
  · obtain ⟨hstate, hphase⟩ := hrelisting
    change record.1.lifecyclePhase = .tradable at hphase
    have htradable : record.1.tradable = true := hrecord.phase.1 hphase
    cases hterminal : o.lastTerminalSeenNs with
    | none => simp [hterminal] at hd
    | some t =>
      simp only [hterminal] at hd
      cases hd
      constructor <;> simp [decidedFields, activatedFields, timedFields, materializedFields,
        hphase, htradable, hstate, hterminal, ListingState.awaitsTrading]
  · obtain ⟨hstate, htradable⟩ := hpending
    cases hd
    change record.1.tradable = true at htradable
    have hphase : record.1.lifecyclePhase = .tradable := hrecord.phase.2 htradable
    have hawaits : o.listingState.awaitsTrading = true := by
      rcases hstate with hstate | hstate <;> simp [hstate, ListingState.awaitsTrading]
    have hrelist : o.listingState ≠ .relistPending := by
      rcases hstate with hstate | hstate <;> simp [hstate]
    constructor <;> simp [decidedFields, activatedFields, timedFields, materializedFields,
      hphase, htradable, hawaits, hrelist]
  · cases hd
    change ¬ record.1.lifecyclePhase = .delisted at hdelisted
    -- A state that awaits trading stays only while the instrument is not tradable.
    have hawaits : record.1.tradable = true → o.listingState.awaitsTrading = false := by
      intro htradable
      have hphase : record.1.lifecyclePhase = .tradable := hrecord.phase.2 htradable
      have hone : ¬ o.listingState = .relistPending := fun h => hrelisting ⟨h, hphase⟩
      have htwo : ¬ (o.listingState = .pending ∨ o.listingState = .pendingOfficial) :=
        fun h => hpending ⟨h, htradable⟩
      rw [not_or] at htwo
      simp [ListingState.awaitsTrading, hone, htwo]
    have hstate : materializedState record.1 (some o) = o.listingState := by
      simp only [materializedState, hdelisted, if_false, Option.elim_some]
      refine if_neg ?_
      rw [Bool.and_eq_true, not_and]
      intro htradable
      simp [hawaits htradable]
    cases hretains : o.listingState.retainsEpisode with
    | true =>
      constructor <;> simp [decidedFields, withListingState, timedFields, materializedFields,
        hstate, hdelisted, hretains, Option.filter_some]
      · exact hawaits
    | false =>
      obtain ⟨hterminal, hstarted, hsource⟩ := hold.unretained hretains
      constructor <;> simp [decidedFields, withListingState, timedFields, materializedFields,
        hstate, hdelisted, hretains, hterminal, hstarted, hsource]
      · exact hawaits

/-- What a first sight that is no new listing records. -/
theorem sighted_untraded (record : InstrumentRecord) (observedAt : Int) (official : Bool) :
    let item := materializedFields record.1 none observedAt
    let d : Decision := { listingState := untradedState official item, isNewListing := false }
    Sighted observedAt false (decidedFields observedAt none d (timedFields observedAt d item)) := by
  have hrecord := RecordFields.check_eq_none.1 record.2
  have hphase := hrecord.phase
  generalize record.1 = r at *
  cases hp : r.lifecyclePhase <;> cases official <;>
    constructor <;> simp_all [decidedFields, withListingState, timedFields, materializedFields,
      untradedState, materializedState, ListingState.retainsEpisode]

/-- What a first sight that is a new listing records. -/
theorem sighted_traded {record : InstrumentRecord} (htradable : record.1.tradable = true)
    (observedAt : Int) (retimed : Bool) :
    let item := materializedFields record.1 none observedAt
    let d : Decision := { listingState := .activeNew, isNewListing := true, retimed }
    Sighted observedAt true (decidedFields observedAt none d (timedFields observedAt d item)) := by
  have hphase := (RecordFields.check_eq_none.1 record.2).phase.2 htradable
  constructor <;> simp [decidedFields, activatedFields, timedFields, materializedFields, htradable,
    hphase]

theorem sighted_of_transition {lookback observedAt : Int} {isInitial : Bool}
    {record : InstrumentRecord} {item : CatalogInstrument} {isNew : Bool}
    (h : transition lookback observedAt isInitial record none = .ok (item, isNew)) :
    Sighted observedAt isNew item.1 := by
  obtain ⟨d, hd, rfl, hitem⟩ := transition_eq_ok h
  simp only [Option.map_none] at hd hitem
  rw [hitem]
  simp only [decision, firstDecision] at hd
  obtain rfl := (Except.ok.inj hd).symm
  split_ifs with hrecent hinitial htradable
  · simp only [Bool.and_eq_true] at hrecent
    exact sighted_traded hrecent.1.2 observedAt false
  · exact sighted_untraded record observedAt _
  · exact sighted_traded htradable observedAt _
  · exact sighted_untraded record observedAt _

end CryptoCollector.Selection
