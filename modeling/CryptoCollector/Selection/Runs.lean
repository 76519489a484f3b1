import CryptoCollector.Selection.Applied

/-!
# Runs of the catalog store

The writes of the catalog of a scope in any order, each in a transaction of its own. `KeyStep` says
what one of them does to the record of a key.

* `Tables.Sound`: every row is the row of an instrument, none of which was seen after the last
  snapshot, and each tradable one was tradable at some snapshot.
* `sound_after`: the tables are sound after every run.
* `keyStep_exec`: each write is a step of every key.
-/

namespace CryptoCollector.Selection

open Lib
open Storage (Err Json)

variable {codec : CatalogCodec}

/-! ## Writes -/

/-- A write of the catalog of a scope. -/
inductive CatalogOp (scope : CatalogScope) where
  | snapshot (s : CompleteCatalogSnapshot) (initialLookbackNs : Int) (hscope : s.1.scope = scope)
  | turnover (s : CompleteTurnoverSnapshot) (hscope : s.1.scope = scope)
  | hint (h : AnnouncementHint) (hscope : h.1.1.scope = scope)

/-- The result of a write. -/
inductive CatalogResult (codec : CatalogCodec) where
  | changes (c : CatalogChanges codec)
  | turnoverChanges (c : TurnoverChanges)
  | recorded (isNew : Bool)

namespace CatalogOp

variable {scope : CatalogScope}

/-- The transaction of a write. -/
def body : CatalogOp scope → Tables codec →
    Except CatalogError (CatalogResult codec × Tables codec)
  | .snapshot s lookback _, t => do
    let (c, t') ← applyCatalogSnapshot s lookback t
    return (.changes c, t')
  | .turnover s _, t => do
    let (c, t') ← applyTurnoverSnapshot s t
    return (.turnoverChanges c, t')
  | .hint h _, t => do
    let (isNew, t') ← recordAnnouncementHint h t
    return (.recorded isNew, t')

/-- A write returns or raises, and leaves tables. -/
def exec (op : CatalogOp scope) (t : Tables codec) :
    Except CatalogError (CatalogResult codec) × Tables codec :=
  transact op.body t

/-- The write reports a key as a new listing. -/
def Reports (op : CatalogOp scope) (t : Tables codec) (key : String) : Prop :=
  ∃ c : CatalogChanges codec, (op.exec t).1 = .ok (.changes c) ∧
    key ∈ c.newListings.map (·.1.instrumentKey)

/-- The time of a write. -/
def observedAtNs : CatalogOp scope → Int
  | .snapshot s _ _ => s.1.observedAtNs
  | .turnover s _ => s.1.observedAtNs
  | .hint h _ => h.1.1.announcedAtNs

end CatalogOp

/-- The tables after some writes. -/
def Tables.after (codec : CatalogCodec) {scope : CatalogScope} (ops : List (CatalogOp scope)) :
    Tables codec :=
  ops.foldl (fun t op => (op.exec t).2) (Tables.initial codec)

/-! ## Invariants -/

/-- What holds of the tables after every run. -/
structure Tables.Sound (scope : CatalogScope) (t : Tables codec) : Prop where
  encoded : t.Encoded scope
  seen : ∀ key o, Records scope t key (some o) →
    ∃ state, t.state = some state ∧ o.1.lastSeenNs ≤ state.lastObservedAtNs
  traded : ∀ key o, Records scope t key (some o) → o.1.tradable = true →
    o.1.firstTradableSeenNs.isSome = true

/-- What a write does to the record of a key; whether that is a new listing. -/
inductive KeyStep {scope : CatalogScope} (op : CatalogOp scope) (isInitial : Bool) (key : String) :
    Option CatalogInstrument → Bool → Option CatalogInstrument → Prop
  | same {r : Option CatalogInstrument} : KeyStep op isInitial key r false r
  | observed {o n : CatalogInstrument} {turnover : Option Turnover}
      (h : n.1 = { o.1 with turnover }) : KeyStep op isInitial key (some o) false (some n)
  | moved {r r' : Option CatalogInstrument} {isNew : Bool} {s : CompleteCatalogSnapshot}
      {lookback : Int} {hscope : s.1.scope = scope} (hop : op = .snapshot s lookback hscope)
      (hlater : ∀ o ∈ r, o.1.lastSeenNs < s.1.observedAtNs)
      (h : Movement s.1 lookback isInitial key r isNew r') : KeyStep op isInitial key r isNew r'

/-! ## Turnover -/

/-- The turnover of an observation of a snapshot. -/
theorem check_observedTurnover {s : TurnoverSnapshotFields} (hs : s.Valid)
    (o : TurnoverObservation) : (observedTurnover s o).check = none := by
  have ho := o.2
  simp only [ObservationFields.check, orElse_eq_none, nonemptyString_eq_none,
    TurnoverFields.check_eq_none] at ho
  obtain ⟨hvalid, -, hraw⟩ := ho
  rw [TurnoverFields.check_eq_none]
  refine ⟨hvalid.value, hvalid.currency, ?_, rfl, ?_⟩
  · intro n hn
    cases hn
    exact hs.observedAtNs
  · intro n hn
    cases hn
    exact hraw

/-- An instrument with another turnover in its quote asset. -/
theorem CatalogFields.Valid.withTurnover {c : CatalogFields} (h : c.Valid)
    {turnover : Option Turnover} (hcurrency : ∀ t ∈ turnover, t.1.currency = c.quoteAsset) :
    CatalogFields.Valid { c with turnover } :=
  { h with record := { h.record with turnover := hcurrency } }

/-- What a turnover snapshot records under a key. -/
theorem exists_observed {scope : CatalogScope} {s : TurnoverSnapshotFields} (hs : s.Valid)
    {key : String} {row row' : InstrumentRow codec} {item : CatalogInstrument}
    (hrow : RowOf scope key row item) (h : observedRow s key row = .ok row') :
    ∃ (n : CatalogInstrument) (turnover : Option Turnover),
      n.1 = { item.1 with turnover } ∧ RowOf scope key row' n ∧
      turnover.map (·.1) = (observationOf s key).map (observedTurnover s) := by
  unfold observedRow at h
  dsimp only at h
  split_ifs at h with hcurrency hallowed
  cases h
  let turnover : Option Turnover := (observationOf s key).map fun o =>
    ⟨observedTurnover s o, check_observedTurnover hs o⟩
  have hmap : turnover.map (·.1) = (observationOf s key).map (observedTurnover s) := by
    simp [turnover, Option.map_map, Function.comp_def]
  have hquote : row.quoteAsset = item.1.quoteAsset := by
    obtain ⟨blob, -, h⟩ := bind_eq_ok.1 hrow.row_eq
    cases h
    rfl
  have hvalid : CatalogFields.Valid { item.1 with turnover } := by
    refine (CatalogFields.check_eq_none.1 item.2).withTurnover ?_
    intro t ht
    obtain ⟨o, ho, rfl⟩ := Option.map_eq_some_iff.1 ht
    rw [ho] at hcurrency
    have hsame : o.1.currency = item.1.quoteAsset := by simpa [hquote] using hcurrency
    exact hsame
  refine ⟨⟨_, CatalogFields.check_eq_none.2 hvalid⟩, turnover, rfl,
    ⟨?_, hrow.key_eq, hrow.scope_eq⟩, hmap⟩
  rw [← hmap]
  exact InstrumentRow.ofInstrument_withTurnover hrow.row_eq rfl

/-- What a turnover snapshot writes. -/
structure TurnoverWritten (s : TurnoverSnapshotFields) (state : ScopeRow codec)
    (t t' : Tables codec) : Prop where
  outside : outsideKeys s t = []
  instruments : t.instruments.mapValuesM (observedRow s) = .ok t'.instruments
  revision : state.turnoverRevision + 1 ≤ maxInt64
  state : t'.state = some { state with turnover := some {
    lastObservedAtNs := s.observedAtNs
    snapshotDigest := turnoverSnapshotDigest codec s
    revision := state.turnoverRevision + 1
    snapshotId := s.snapshotId
    pageRawReferencesJson :=
      codec.encodeJson (.list (s.pages.map fun page => .str page.1.rawReference))
    catalogRevision := s.catalogRevision
    coveredKeysJson :=
      codec.encodeJson (.list ((sortedBy id s.coveredInstrumentKeys).map .str)) } }
  hints : t'.hints = t.hints
  outbox : t'.outbox = t.outbox
  selectionStates : t'.selectionStates = t.selectionStates
  selectionOutbox : t'.selectionOutbox = t.selectionOutbox

theorem applyNewTurnover_eq_ok {s : TurnoverSnapshotFields} {state : ScopeRow codec}
    {t t' : Tables codec} {changes : TurnoverChanges}
    (h : applyNewTurnover s state t = .ok (changes, t')) : TurnoverWritten s state t t' := by
  obtain ⟨_, houtside, h⟩ := bind_eq_ok.1 h
  obtain ⟨rows, hrows, h⟩ := bind_eq_ok.1 h
  obtain ⟨_, hrevision, h⟩ := bind_eq_ok.1 h
  obtain ⟨_, hallowed, h⟩ := bind_eq_ok.1 h
  obtain ⟨changes', -, h⟩ := bind_eq_ok.1 h
  cases h
  exact {
    outside := by simpa using houtside
    instruments := hrows
    revision := by simpa using hrevision
    state := rfl
    hints := rfl
    outbox := rfl
    selectionStates := rfl
    selectionOutbox := rfl }

/-- A turnover snapshot changes nothing, or it is written. -/
theorem applyTurnoverSnapshot_eq_ok {s : CompleteTurnoverSnapshot} {t t' : Tables codec}
    {changes : TurnoverChanges} (h : applyTurnoverSnapshot s t = .ok (changes, t')) :
    t' = t ∨ ∃ state, t.state = some state ∧ s.1.catalogRevision = state.revision ∧
      state.lastObservedAtNs ≤ s.1.observedAtNs ∧
      (∀ header ∈ state.turnover, header.lastObservedAtNs < s.1.observedAtNs) ∧
      TurnoverWritten s.1 state t t' := by
  unfold applyTurnoverSnapshot at h
  dsimp only at h
  cases hstate : t.state with
  | none => simp [hstate] at h
  | some state =>
    simp only [hstate] at h
    split_ifs at h with hrevision hearly
    cases hheader : state.turnover with
    | none =>
      simp only [hheader] at h
      exact .inr ⟨state, rfl, not_not.1 hrevision, not_lt.1 hearly, by simp [hheader],
        applyNewTurnover_eq_ok h⟩
    | some header =>
      simp only [hheader] at h
      split_ifs at h with hbackwards hsame hdigest
      · obtain ⟨changes', -, h⟩ := bind_eq_ok.1 h
        cases h
        exact .inl rfl
      · refine .inr ⟨state, rfl, not_not.1 hrevision, not_lt.1 hearly, ?_,
          applyNewTurnover_eq_ok h⟩
        intro other hother
        rw [hheader] at hother
        cases hother
        omega

/-- A snapshot changes nothing, or it is written. -/
theorem applyCatalogSnapshot_eq_ok {s : CompleteCatalogSnapshot} {lookback : Int}
    {t t' : Tables codec} {changes : CatalogChanges codec}
    (h : applyCatalogSnapshot s lookback t = .ok (changes, t')) :
    (0 ≤ lookback ∧ lookback ≤ maxInt64) ∧ ((∃ state, t.state = some state ∧
      s.1.observedAtNs = state.lastObservedAtNs ∧
      completeCatalogDigest codec s.1 lookback = .ok state.snapshotDigest ∧
      changes = idempotentChanges s.1.scope s.1.observedAtNs state ∧ t' = t) ∨
    ∃ digest, completeCatalogDigest codec s.1 lookback = .ok digest ∧
      (∀ record ∈ s.1.instruments, snapshotRecordCheck s.1.observedAtNs record = none) ∧
      (∀ state ∈ t.state, state.lastObservedAtNs < s.1.observedAtNs) ∧
      applyNewSnapshot s.1 lookback digest t = .ok (changes, t')) := by
  obtain ⟨_, hlookback, h⟩ := bind_eq_ok.1 h
  refine ⟨by simpa using (checked_eq_ok.1 (raising_eq_ok.1 hlookback)).1, ?_⟩
  obtain ⟨digest, hdigest, h⟩ := bind_eq_ok.1 h
  obtain ⟨_, hrecords, h⟩ := bind_eq_ok.1 h
  have hdigest := raising_eq_ok.1 hdigest
  have hrecords := List.findSome?_eq_none_iff.1 (checked_eq_ok.1 (raising_eq_ok.1 hrecords)).1
  cases hstate : t.state with
  | none =>
    simp only [hstate] at h
    exact .inr ⟨digest, hdigest, hrecords, by simp, h⟩
  | some state =>
    simp only [hstate] at h
    split_ifs at h with hearly hsame hconflict
    · obtain ⟨changes', hchanges, h⟩ := bind_eq_ok.1 h
      cases h
      obtain ⟨-, hchanges⟩ := checked_eq_ok.1 (raising_eq_ok.1 hchanges)
      exact .inl ⟨state, rfl, hsame, by rw [hdigest, not_not.1 hconflict],
        (Except.ok.inj hchanges).symm, rfl⟩
    · refine .inr ⟨digest, hdigest, hrecords, ?_, h⟩
      intro other hother
      cases hother
      omega

/-! ## Steps -/

section Steps

variable {scope : CatalogScope}

theorem exec_of_body {op : CatalogOp scope} {t t' : Tables codec} {c : CatalogResult codec}
    (h : op.body t = .ok (c, t')) : op.exec t = (.ok c, t') := by
  simp [CatalogOp.exec, transact, h]

theorem exec_of_error {op : CatalogOp scope} {t : Tables codec} {e : CatalogError}
    (h : op.body t = .error e) : op.exec t = (.error e, t) := by
  simp [CatalogOp.exec, transact, h]

/-- What a write does to the tables. -/
inductive Wrote (op : CatalogOp scope) (t : Tables codec) : Tables codec → Prop
  | unchanged : Wrote op t t
  | hinted (hints : Dict String HintRow) : Wrote op t { t with hints }
  | turnover {s : CompleteTurnoverSnapshot} {hscope : s.1.scope = scope} {state : ScopeRow codec}
      {t' : Tables codec} (hop : op = .turnover s hscope) (hstate : t.state = some state)
      (h : TurnoverWritten s.1 state t t') : Wrote op t t'
  | snapshot {s : CompleteCatalogSnapshot} {lookback : Int} {hscope : s.1.scope = scope}
      {digest : codec.Digest} {prior : Dict String CatalogInstrument}
      {announcements : List CatalogDelta} {p : Plan codec} {t' : Tables codec}
      (hop : op = .snapshot s lookback hscope) (hlookback : 0 ≤ lookback ∧ lookback ≤ maxInt64)
      (hdigest : completeCatalogDigest codec s.1 lookback = .ok digest)
      (hrecords : ∀ record ∈ s.1.instruments,
        snapshotRecordCheck s.1.observedAtNs record = none)
      (hlater : ∀ state ∈ t.state, state.lastObservedAtNs < s.1.observedAtNs)
      (hplan : Planned s.1 lookback t prior announcements p) (h : Written s.1 digest p t t') :
      Wrote op t t'

theorem wrote_exec (op : CatalogOp scope) (t : Tables codec) : Wrote op t (op.exec t).2 := by
  cases hbody : op.body t with
  | error e =>
    rw [exec_of_error hbody]
    exact .unchanged
  | ok result =>
    obtain ⟨c, t'⟩ := result
    rw [exec_of_body hbody]
    cases op with
    | hint h hscope =>
      obtain ⟨⟨isNew, t''⟩, hrecord, hbody⟩ := bind_eq_ok.1 hbody
      cases hbody
      unfold recordAnnouncementHint at hrecord
      dsimp only at hrecord
      split at hrecord <;> split_ifs at hrecord <;> cases hrecord
      · exact .unchanged
      · exact .hinted _
    | turnover s hscope =>
      obtain ⟨⟨c', t''⟩, happly, hbody⟩ := bind_eq_ok.1 hbody
      cases hbody
      rcases applyTurnoverSnapshot_eq_ok happly with rfl | ⟨state, hstate, -, -, -, hwritten⟩
      · exact .unchanged
      · exact .turnover rfl hstate hwritten
    | snapshot s lookback hscope =>
      obtain ⟨⟨c', t''⟩, happly, hbody⟩ := bind_eq_ok.1 hbody
      cases hbody
      obtain ⟨hlookback, happly⟩ := applyCatalogSnapshot_eq_ok happly
      rcases happly with ⟨state, -, -, -, rfl, rfl⟩ |
        ⟨digest, hdigest, hrecords, hlater, happly⟩
      · exact .unchanged
      · obtain ⟨prior, announcements, p, hplan, hwritten, rfl⟩ := applyNewSnapshot_eq_ok happly
        exact .snapshot rfl hlookback hdigest hrecords hlater hplan hwritten

/-- The record was not seen after the last snapshot. -/
def Tables.Seen (t : Tables codec) (r : Option CatalogInstrument) : Prop :=
  ∀ o ∈ r, ∃ state, t.state = some state ∧ o.1.lastSeenNs ≤ state.lastObservedAtNs

/-- A write of tables is a step of a key. -/
structure StepOf (op : CatalogOp scope) (t t' : Tables codec) (key : String)
    (r : Option CatalogInstrument) (isNew : Bool) (r' : Option CatalogInstrument) : Prop where
  before : Records scope t key r
  after : Records scope t' key r'
  step : KeyStep op t.state.isNone key r isNew r'
  reports : isNew = true ↔ op.Reports t key
  seen : t'.Seen r'

/-- A write that reports nothing and keeps the record of a key. -/
theorem keyStep_same {op : CatalogOp scope} {t t' : Tables codec} (ht : t.Sound scope)
    (hsame : t'.instruments = t.instruments) (hstate : t'.state = t.state) {key : String}
    (hreports : ¬ op.Reports t key) : ∃ r isNew r', StepOf op t t' key r isNew r' := by
  obtain ⟨r, hr⟩ := ht.encoded key
  have hr' : Records scope t' key r := by
    cases r with
    | none =>
      rw [Records] at hr ⊢
      rw [hsame, hr]
    | some item =>
      obtain ⟨row, hrow, hof⟩ := hr
      exact ⟨row, hsame ▸ hrow, hof⟩
  refine ⟨r, false, r, hr, hr', .same, by simpa using hreports, ?_⟩
  rintro o rfl
  rw [hstate]
  exact ht.seen key o hr

/-- What a turnover snapshot does to the record of a key. -/
theorem exists_of_turnoverWritten {s : TurnoverSnapshotFields} (hs : s.Valid)
    {state : ScopeRow codec} {t t' : Tables codec} (ht : t.Encoded scope)
    (h : TurnoverWritten s state t t') (key : String) :
    (Records scope t key none ∧ Records scope t' key none) ∨
      ∃ o n turnover, Records scope t key (some o) ∧ Records scope t' key (some n) ∧
        n.1 = { o.1 with turnover } ∧
        turnover.map (·.1) = (observationOf s key).map (observedTurnover s) := by
  obtain ⟨r, hr⟩ := ht key
  cases hkey : t'.instruments.get? key with
  | none =>
    have hnone : t.instruments.get? key = none := by
      rw [Dict.get?_eq_none, Dict.keys_of_mapValuesM h.instruments] at hkey
      exact Dict.get?_eq_none.2 hkey
    exact .inl ⟨hnone, hkey⟩
  | some row' =>
    obtain ⟨row, hrow, hobserved⟩ := Dict.exists_of_mapValuesM h.instruments hkey
    cases r with
    | none =>
      rw [Records, hrow] at hr
      cases hr
    | some o =>
      obtain ⟨row'', hrow'', hof⟩ := hr
      rw [hrow] at hrow''
      cases hrow''
      obtain ⟨n, turnover, hn, hof', hturnover⟩ := exists_observed hs hof hobserved
      exact .inr ⟨o, n, turnover, ⟨row, hrow, hof⟩, ⟨row', hkey, hof'⟩, hn, hturnover⟩

/-- Each write is a step of every key. -/
theorem keyStep_exec {t : Tables codec} (ht : t.Sound scope) (op : CatalogOp scope)
    (key : String) : ∃ r isNew r', StepOf op t (op.exec t).2 key r isNew r' := by
  cases hbody : op.body t with
  | error e =>
    have hexec := exec_of_error hbody
    refine keyStep_same ht (by rw [hexec]) (by rw [hexec]) ?_
    rintro ⟨c, hc, -⟩
    rw [hexec] at hc
    cases hc
  | ok result =>
    obtain ⟨c, t'⟩ := result
    have hexec := exec_of_body hbody
    cases op with
    | hint h hscope =>
      obtain ⟨⟨isNew, t''⟩, hrecord, hbody⟩ := bind_eq_ok.1 hbody
      cases hbody
      have hkept : t'.instruments = t.instruments ∧ t'.state = t.state := by
        unfold recordAnnouncementHint at hrecord
        dsimp only at hrecord
        split at hrecord <;> split_ifs at hrecord <;> cases hrecord <;> exact ⟨rfl, rfl⟩
      rw [hexec]
      refine keyStep_same ht hkept.1 hkept.2 ?_
      rintro ⟨c, hc, -⟩
      rw [hexec] at hc
      cases hc
    | turnover s hscope =>
      obtain ⟨⟨c', t''⟩, happly, hbody⟩ := bind_eq_ok.1 hbody
      cases hbody
      have hreports : ¬ (CatalogOp.turnover s hscope).Reports t key := by
        rintro ⟨c, hc, -⟩
        rw [hexec] at hc
        cases hc
      rw [hexec]
      rcases applyTurnoverSnapshot_eq_ok happly with rfl | ⟨state, hstate, -, -, -, hwritten⟩
      · exact keyStep_same ht rfl rfl hreports
      · have hs := TurnoverSnapshotFields.valid_of_check s.2
        rcases exists_of_turnoverWritten hs ht.encoded hwritten key with ⟨hr, hr'⟩ |
          ⟨o, n, turnover, hr, hr', hn, -⟩
        · exact ⟨none, false, none, hr, hr', .same, by simpa using hreports, by simp [Tables.Seen]⟩
        · refine ⟨some o, false, some n, hr, hr', .observed hn, by simpa using hreports, ?_⟩
          intro n' hn'
          cases hn'
          obtain ⟨state', hstate', hle⟩ := ht.seen key o hr
          rw [hstate] at hstate'
          cases hstate'
          exact ⟨_, hwritten.state, by rw [hn]; exact hle⟩
    | snapshot s lookback hscope =>
      obtain ⟨⟨c', t''⟩, happly, hbody⟩ := bind_eq_ok.1 hbody
      cases hbody
      rw [hexec]
      rcases (applyCatalogSnapshot_eq_ok happly).2 with ⟨state, -, -, -, rfl, rfl⟩ |
        ⟨digest, -, -, hlater, happly⟩
      · refine keyStep_same ht rfl rfl ?_
        rintro ⟨c, hc, hmem⟩
        rw [hexec] at hc
        cases hc
        simp [idempotentChanges] at hmem
      · have hs := CatalogSnapshotFields.valid_of_check s.2
        obtain ⟨prior, announcements, p, hplan, hwritten, rfl⟩ := applyNewSnapshot_eq_ok happly
        have hencoded : t.Encoded s.1.scope := hscope ▸ ht.encoded
        obtain ⟨isNew, r', hmoved, hr', hnew⟩ := moved_of_written hs hencoded hplan hwritten key
        have hr := records_of_loadPriorRecords hencoded hplan.prior_eq key
        rw [hscope] at hr hr'
        have hearlier : ∀ o ∈ prior.get? key, o.1.lastSeenNs < s.1.observedAtNs := by
          intro o ho
          rw [Option.mem_def] at ho
          rw [ho] at hr
          obtain ⟨state, hstate, hle⟩ := ht.seen key o hr
          exact lt_of_le_of_lt hle (hlater state hstate)
        refine ⟨prior.get? key, isNew, r', hr, hr', .moved rfl hearlier hmoved, ?_, ?_⟩
        · rw [hnew]
          constructor
          · intro hmem
            exact ⟨_, by rw [hexec], hmem⟩
          · rintro ⟨c, hc, hmem⟩
            rw [hexec] at hc
            cases hc
            exact hmem
        · intro n hn
          refine ⟨_, hwritten.state, ?_⟩
          change n.1.lastSeenNs ≤ s.1.observedAtNs
          generalize hbefore : prior.get? key = before at hmoved hearlier
          cases hmoved with
          | seen record hrecord hkey htransition =>
            cases hn
            exact (seen_of_transition htransition).2.1.le
          | @removed o _ hkey hpresent hremoved =>
            cases hn
            rw [hremoved]
            exact (hearlier o rfl).le
          | kept hkey hpresent => exact (hearlier n hn).le

/-- A step keeps a record that was tradable once. -/
theorem traded_of_keyStep {op : CatalogOp scope} {isInitial : Bool} {key : String}
    {r r' : Option CatalogInstrument} {isNew : Bool} (h : KeyStep op isInitial key r isNew r')
    (hr : ∀ o ∈ r, o.1.tradable = true → o.1.firstTradableSeenNs.isSome = true) :
    ∀ n ∈ r', n.1.tradable = true → n.1.firstTradableSeenNs.isSome = true := by
  intro n hn
  cases h with
  | same => exact hr n hn
  | @observed o _ turnover h =>
    cases hn
    rw [h]
    exact hr o rfl
  | moved hop hlater h =>
    cases h with
    | removed hkey hpresent h =>
      cases hn
      rw [h]
      exact hr _ rfl
    | kept hkey hpresent => exact hr n hn
    | seen record hrecord hkey h =>
      cases hn
      intro htradable
      cases r with
      | none => simp [(sighted_of_transition h).firstTradable, htradable]
      | some o =>
        rw [(resighted_of_transition h).firstTradable]
        cases isNew <;> cases hfirst : o.1.firstTradableSeenNs <;> simp [htradable]

/-- Each write keeps the tables sound. -/
theorem sound_exec {t : Tables codec} (ht : t.Sound scope) (op : CatalogOp scope) :
    (op.exec t).2.Sound scope where
  encoded key := by
    obtain ⟨r, isNew, r', h⟩ := keyStep_exec ht op key
    exact ⟨r', h.after⟩
  seen key o ho := by
    obtain ⟨r, isNew, r', h⟩ := keyStep_exec ht op key
    obtain rfl := h.after.unique ho
    exact h.seen o rfl
  traded key o ho := by
    obtain ⟨r, isNew, r', h⟩ := keyStep_exec ht op key
    obtain rfl := h.after.unique ho
    refine traded_of_keyStep h.step ?_ o rfl
    intro before hbefore
    obtain rfl := Option.mem_def.1 hbefore
    exact ht.traded key before h.before

theorem sound_initial : (Tables.initial codec).Sound scope where
  encoded _ := ⟨none, rfl⟩
  seen key o h := by
    obtain ⟨row, hrow, -⟩ := h
    cases hrow
  traded key o h := by
    obtain ⟨row, hrow, -⟩ := h
    cases hrow

/-- The tables are sound after every run. -/
theorem sound_after (ops : List (CatalogOp scope)) : (Tables.after codec ops).Sound scope := by
  unfold Tables.after
  generalize hinitial : Tables.initial codec = t
  have ht : t.Sound scope := hinitial ▸ sound_initial
  clear hinitial
  induction ops generalizing t with
  | nil => exact ht
  | cons op ops ih => exact ih _ (sound_exec ht op)

end Steps

end CryptoCollector.Selection
