import CryptoCollector.Selection.Choices
import CryptoCollector.Selection.Runs
import CryptoCollector.Selection.SelectionCommits

/-!
# Clients of the catalog store

Several clients load views and states, select and commit, while others write the catalog. Every
call of the store is one transaction, and the calls come in any order.

* `run_linearizable`: a commit that returns has the effect of a load, a selection and a write that
  nothing came between, and the revisions of the states of a policy are one, two, three and so on.
-/

namespace CryptoCollector.Selection

open Lib
open Storage (Err)

variable {codec : TextCodec}

/-! ## Actions -/

/-- What a client has loaded and selected. -/
structure Client (codec : TextCodec) where
  view : Option (CatalogView codec.toCatalogCodec)
  state : Option (Option (SelectionState codec.toCatalogCodec))
  result : Option (SelectionResult codec.toCatalogCodec)

/-- The tables of a scope, the clients, and the states that were committed, in their order. -/
structure World (codec : TextCodec) where
  tables : Store codec
  clients : Nat → Client codec
  history : List (SelectionState codec.toCatalogCodec)

/-- A call of the store, or a selection of a client. -/
inductive Action (codec : TextCodec) (scope : CatalogScope) where
  | write (op : CatalogOp scope)
  | loadView (client : Nat)
  | loadState (client : Nat) (policyId : codec.Digest)
  | select (client : Nat) (fixed : ResolvedFixedSelection) (policy : SelectionPolicy) (nowNs : Int)
  | commit (client : Nat) (expectedCatalog expectedTurnover : Int) (expectedState : Option Int)

namespace World

/-- Nothing was written, and no client has loaded anything. -/
def initial (codec : TextCodec) : World codec where
  tables := .initial codec.toCatalogCodec
  clients _ := ⟨none, none, none⟩
  history := []

/-- Change what a client has. -/
def set (w : World codec) (i : Nat) (c : Client codec) : World codec :=
  { w with clients := fun j => if j = i then c else w.clients j }

/-- What a selection makes of what a client has loaded. -/
def selected (c : Client codec) (fixed : ResolvedFixedSelection) (policy : SelectionPolicy)
    (nowNs : Int) : Option (SelectionResult codec.toCatalogCodec) :=
  c.view.bind fun v => c.state.bind fun previous =>
    (Selection.select v fixed policy previous nowNs).toOption

/-- The transaction of a commit. -/
def commit (result : SelectionResult codec.toCatalogCodec) (expectedCatalog expectedTurnover : Int)
    (expectedState : Option Int) (w : World codec) : World codec :=
  match transact (commitSelection result expectedCatalog expectedTurnover expectedState) w.tables with
  | (.ok persisted, t) => { w with tables := t, history := w.history ++ [persisted] }
  | (.error _, t) => { w with tables := t }

/-- An action. A call that raises leaves its client with nothing. -/
def act {scope : CatalogScope} (w : World codec) : Action codec scope → World codec
  | .write op => { w with tables := (op.exec w.tables).2 }
  | .loadView i => w.set i { w.clients i with view := (Selection.loadView scope w.tables).toOption }
  | .loadState i policyId =>
    w.set i { w.clients i with state := (loadSelectionState scope policyId w.tables).toOption }
  | .select i fixed policy nowNs =>
    w.set i { w.clients i with result := selected (w.clients i) fixed policy nowNs }
  | .commit i expectedCatalog expectedTurnover expectedState =>
    match (w.clients i).result with
    | none => w
    | some result => w.commit result expectedCatalog expectedTurnover expectedState

/-- The world after some actions. -/
def after (codec : TextCodec) {scope : CatalogScope} (actions : List (Action codec scope)) :
    World codec :=
  actions.foldl act (initial codec)

end World

/-! ## Revisions -/

/-- The revision of the catalog. -/
def Tables.catalogRevision {codec : CatalogCodec} (t : Tables codec) : Int :=
  t.state.elim 0 (·.revision)

/-- The revision of the turnover. -/
def Tables.turnoverRevision {codec : CatalogCodec} (t : Tables codec) : Int :=
  t.state.elim 0 (·.turnoverRevision)

/-- The revision of the stored state of a policy. -/
def Tables.stateRevision {codec : CatalogCodec} (t : Tables codec) (policyId : codec.Digest) : Int :=
  (t.selectionStates.get? policyId).elim 0 (·.stateRevision)

/-- A view is of the catalog as it is, or of an earlier one. -/
structure Current (scope : CatalogScope) (t : Store codec)
    (v : CatalogView codec.toCatalogCodec) : Prop where
  scope_eq : v.scope = scope
  catalog : v.catalogRevision ≤ t.catalogRevision
  turnover : v.turnoverRevision ≤ t.turnoverRevision
  same : v.catalogRevision = t.catalogRevision → v.turnoverRevision = t.turnoverRevision →
    loadView scope t = .ok v

/-- A state is the one that is stored, or an earlier one. -/
structure Stored (scope : CatalogScope) (t : Store codec)
    (s : SelectionState codec.toCatalogCodec) : Prop where
  positive : 0 < s.1.revision
  revision : s.1.revision ≤ t.stateRevision s.1.policyId
  same : s.1.revision = t.stateRevision s.1.policyId →
    loadSelectionState scope s.1.policyId t = .ok (some s)

/-- What a client has loaded and selected, as the tables go on. -/
structure Client.Lawful (scope : CatalogScope) (t : Store codec) (c : Client codec) : Prop where
  view : ∀ v ∈ c.view, Current scope t v
  state : ∀ previous ∈ c.state, ∀ s ∈ previous, Stored scope t s
  result : ∀ result ∈ c.result, ∃ v fixed policy previous nowNs,
    select v fixed policy previous nowNs = .ok result ∧ Current scope t v ∧
      ∀ s ∈ previous, Stored scope t s

/-- The committed states of a policy. -/
def committedStates (history : List (SelectionState codec.toCatalogCodec))
    (policyId : codec.Digest) : List (SelectionState codec.toCatalogCodec) :=
  history.filter fun s => decide (s.1.policyId = policyId)

/-- The committed states of a policy are numbered from one on, and the last one is stored. -/
structure Numbered (scope : CatalogScope) (t : Store codec)
    (states : List (SelectionState codec.toCatalogCodec)) (policyId : codec.Digest) : Prop where
  revisions : states.map (·.1.revision) = (List.range states.length).map fun (n : Nat) => (n : Int) + 1
  stored : t.stateRevision policyId = states.length
  loaded : loadSelectionState scope policyId t = .ok states.getLast?

/-- What holds of the world after every run. -/
structure World.Lawful (scope : CatalogScope) (w : World codec) : Prop where
  clients : ∀ i, (w.clients i).Lawful scope w.tables
  history : ∀ policyId, Numbered scope w.tables (committedStates w.history policyId) policyId

/-! ## Steps -/

/-- Tables whose revisions have not gone back. The catalog is the same while its revisions are. -/
structure Later (scope : CatalogScope) (t t' : Store codec) : Prop where
  catalog : t.catalogRevision ≤ t'.catalogRevision
  turnover : t.turnoverRevision ≤ t'.turnoverRevision
  sameView : t.catalogRevision = t'.catalogRevision → t.turnoverRevision = t'.turnoverRevision →
    loadView scope t' = loadView scope t
  state : ∀ policyId, t.stateRevision policyId ≤ t'.stateRevision policyId
  sameState : ∀ policyId, t.stateRevision policyId = t'.stateRevision policyId →
    loadSelectionState scope policyId t' = loadSelectionState scope policyId t

section Steps

variable {scope : CatalogScope} {t t' : Store codec}

theorem Current.later {v : CatalogView codec.toCatalogCodec} (hv : Current scope t v)
    (h : Later scope t t') : Current scope t' v where
  scope_eq := hv.scope_eq
  catalog := hv.catalog.trans h.catalog
  turnover := hv.turnover.trans h.turnover
  same hcatalog hturnover := by
    have hcatalog' : v.catalogRevision = t.catalogRevision :=
      le_antisymm hv.catalog (hcatalog ▸ h.catalog)
    have hturnover' : v.turnoverRevision = t.turnoverRevision :=
      le_antisymm hv.turnover (hturnover ▸ h.turnover)
    rw [h.sameView (hcatalog' ▸ hcatalog) (hturnover' ▸ hturnover)]
    exact hv.same hcatalog' hturnover'

theorem Stored.later {s : SelectionState codec.toCatalogCodec} (hs : Stored scope t s)
    (h : Later scope t t') : Stored scope t' s where
  positive := hs.positive
  revision := hs.revision.trans (h.state _)
  same hrevision := by
    have hrevision' : s.1.revision = t.stateRevision s.1.policyId :=
      le_antisymm hs.revision (hrevision ▸ h.state _)
    rw [h.sameState _ (hrevision' ▸ hrevision)]
    exact hs.same hrevision'

theorem Client.Lawful.later {c : Client codec} (hc : c.Lawful scope t) (h : Later scope t t') :
    c.Lawful scope t' where
  view v hv := (hc.view v hv).later h
  state previous hprevious s hs := (hc.state previous hprevious s hs).later h
  result result hresult := by
    obtain ⟨v, fixed, policy, previous, nowNs, hselect, hv, hprevious⟩ := hc.result result hresult
    exact ⟨v, fixed, policy, previous, nowNs, hselect, hv.later h,
      fun s hs => (hprevious s hs).later h⟩

/-- A write of the catalog leaves the selections. -/
theorem selection_exec (op : CatalogOp scope) (t : Store codec) :
    (op.exec t).2.selectionStates = t.selectionStates ∧
      (op.exec t).2.selectionOutbox = t.selectionOutbox := by
  have hwrote := wrote_exec op t
  generalize (op.exec t).2 = t' at hwrote
  cases hwrote with
  | unchanged => exact ⟨rfl, rfl⟩
  | hinted hints => exact ⟨rfl, rfl⟩
  | turnover _ _ h => exact ⟨h.selectionStates, h.selectionOutbox⟩
  | snapshot _ _ _ _ _ _ h => exact ⟨h.selectionStates, h.selectionOutbox⟩

theorem states_exec (op : CatalogOp scope) (t : Store codec) (policyId : codec.Digest) :
    (op.exec t).2.stateRevision policyId = t.stateRevision policyId ∧
      loadSelectionState scope policyId (op.exec t).2 = loadSelectionState scope policyId t := by
  have hstates := (selection_exec op t).1
  constructor
  · rw [Tables.stateRevision, hstates, Tables.stateRevision]
  · rw [loadSelectionState, hstates, loadSelectionState]

/-- A write of the catalog raises one of its revisions, or leaves what a view is made of. -/
theorem later_exec (op : CatalogOp scope) (t : Store codec) : Later scope t (op.exec t).2 := by
  have hstates := states_exec op t
  have hwrote := wrote_exec op t
  generalize (op.exec t).2 = t' at hwrote hstates
  have hkept : ∀ policyId, t.stateRevision policyId ≤ t'.stateRevision policyId :=
    fun policyId => (hstates policyId).1.ge
  have hloaded : ∀ policyId, t.stateRevision policyId = t'.stateRevision policyId →
      loadSelectionState scope policyId t' = loadSelectionState scope policyId t :=
    fun policyId _ => (hstates policyId).2
  cases hwrote with
  | unchanged => exact ⟨le_rfl, le_rfl, fun _ _ => rfl, hkept, hloaded⟩
  | hinted hints => exact ⟨le_rfl, le_rfl, fun _ _ => rfl, hkept, hloaded⟩
  | @turnover s hscope state _ hop hstate h =>
    have hcatalog : t'.catalogRevision = t.catalogRevision := by
      simp only [Tables.catalogRevision, h.state, hstate, Option.elim_some]
    have hturnover : t'.turnoverRevision = t.turnoverRevision + 1 := by
      simp only [Tables.turnoverRevision, h.state, hstate, Option.elim_some,
        ScopeRow.turnoverRevision]
    exact ⟨hcatalog.ge, by omega, fun _ hsame => by omega, hkept, hloaded⟩
  | @snapshot s lookback hscope digest _ _ p _ hop hlookback hdigest hrecords hlater hplan h =>
    have hcatalog : t'.catalogRevision = t.catalogRevision + 1 := by
      simp only [Tables.catalogRevision, h.state, hplan.revision, Option.elim_some]
      cases t.state <;> simp
    have hturnover : t'.turnoverRevision = t.turnoverRevision := by
      simp only [Tables.turnoverRevision, h.state, Option.elim_some, ScopeRow.turnoverRevision]
      cases t.state <;> rfl
    exact ⟨by omega, hturnover.ge, fun hsame _ => by omega, hkept, hloaded⟩

/-- The revision of the stored state is that of the state that is loaded. -/
theorem stateRevision_of_loadSelectionState {policyId : codec.Digest}
    {previous : Option (SelectionState codec.toCatalogCodec)}
    (h : loadSelectionState scope policyId t = .ok previous) :
    t.stateRevision policyId = revisionOf previous ∧ ∀ s ∈ previous, s.1.policyId = policyId := by
  unfold loadSelectionState at h
  unfold Tables.stateRevision
  cases hrow : t.selectionStates.get? policyId with
  | none =>
    rw [hrow] at h
    cases h
    exact ⟨rfl, nofun⟩
  | some row =>
    rw [hrow, Option.elim_some] at h
    obtain ⟨s, hs, rfl⟩ := map_eq_ok.1 h
    obtain ⟨decoded, -, hs⟩ := bind_eq_ok.1 (raising_eq_ok.1 hs)
    obtain ⟨entries, -, hs⟩ := bind_eq_ok.1 hs
    have hfields := construct_eq_ok.1 hs
    refine ⟨by simp [revisionOf, hfields], ?_⟩
    rintro _ ⟨⟩
    rw [hfields]

/-- A commit leaves the catalog as it is and raises the revision of its policy by one. -/
theorem stateRevision_of_committed {result : SelectionResult codec.toCatalogCodec}
    {previous : Option (SelectionState codec.toCatalogCodec)}
    {persisted : SelectionState codec.toCatalogCodec}
    (h : SelectionCommitted result.1 previous persisted t t') (policyId : codec.Digest) :
    t'.stateRevision policyId =
      t.stateRevision policyId + if policyId = result.1.policyId then 1 else 0 := by
  have hbefore := (stateRevision_of_loadSelectionState h.loaded).1
  obtain ⟨payload, events, hwritten⟩ := h.written
  have hrevision : persisted.1.revision = revisionOf previous + 1 := by rw [h.stored]
  rw [Tables.stateRevision, hwritten.tables, Dict.get?_set]
  split_ifs with hpolicy
  · subst hpolicy
    rw [hbefore, Option.elim_some, hrevision]
  · rw [add_zero]
    rfl

theorem later_of_committed {result : SelectionResult codec.toCatalogCodec}
    {previous : Option (SelectionState codec.toCatalogCodec)}
    {persisted : SelectionState codec.toCatalogCodec}
    (h : SelectionCommitted result.1 previous persisted t t') : Later scope t t' := by
  have hrevision := stateRevision_of_committed h
  obtain ⟨payload, events, hwritten⟩ := id h.written
  have hcatalog : t'.catalogRevision = t.catalogRevision := by rw [hwritten.tables]; rfl
  have hturnover : t'.turnoverRevision = t.turnoverRevision := by rw [hwritten.tables]; rfl
  have hview : loadView scope t' = loadView scope t := by rw [hwritten.tables]; rfl
  refine ⟨hcatalog.ge, hturnover.ge, fun _ _ => hview, fun policyId => ?_, fun policyId hsame => ?_⟩
  · rw [hrevision policyId]
    split_ifs <;> omega
  · rw [hrevision policyId] at hsame
    refine loadSelectionState_of_ne h scope fun hpolicy => ?_
    rw [if_pos hpolicy] at hsame
    omega

/-- A commit appends its state to the committed states of its policy. -/
theorem numbered_of_committed {result : SelectionResult codec.toCatalogCodec}
    {previous : Option (SelectionState codec.toCatalogCodec)}
    {persisted : SelectionState codec.toCatalogCodec}
    (h : SelectionCommitted result.1 previous persisted t t') (hscope : result.1.scope = scope)
    {history : List (SelectionState codec.toCatalogCodec)} {policyId : codec.Digest}
    (hnumbered : Numbered scope t (committedStates history policyId) policyId) :
    Numbered scope t' (committedStates (history ++ [persisted]) policyId) policyId := by
  have hpersisted : persisted.1.policyId = result.1.policyId := by
    have hsame := (nextState_of_check result).1
    simp only [Prod.mk.injEq] at hsame
    rw [h.stored]
    exact hsame.2.2.2
  have hrevision := stateRevision_of_committed h policyId
  by_cases hpolicy : policyId = result.1.policyId
  · subst hpolicy
    have hstates : committedStates (history ++ [persisted]) result.1.policyId =
        committedStates history result.1.policyId ++ [persisted] := by
      simp [committedStates, hpersisted]
    have hbefore := (stateRevision_of_loadSelectionState h.loaded).1
    rw [hnumbered.stored] at hbefore
    have hnext : persisted.1.revision =
        ((committedStates history result.1.policyId).length : Int) + 1 := by
      rw [h.stored, hbefore]
    rw [hstates]
    refine ⟨?_, ?_, ?_⟩
    · rw [List.map_append, hnumbered.revisions, List.length_append, List.length_singleton,
        List.range_succ, List.map_append, List.map_singleton, List.map_singleton, hnext]
    · rw [hrevision, if_pos rfl, hnumbered.stored, List.length_append, List.length_singleton]
      push_cast
      rfl
    · rw [List.getLast?_concat, ← hscope]
      exact loadSelectionState_of_committed h
  · have hstates : committedStates (history ++ [persisted]) policyId =
        committedStates history policyId := by
      simp [committedStates, hpersisted, Ne.symm hpolicy]
    rw [hstates]
    refine ⟨hnumbered.revisions, ?_, ?_⟩
    · rw [hrevision, if_neg hpolicy, add_zero, hnumbered.stored]
    · rw [loadSelectionState_of_ne h scope hpolicy, hnumbered.loaded]

end Steps

/-! ## Runs -/

section Runs

variable {scope : CatalogScope}

/-- The commit of a client that returns had the effect of a load, a selection and a write that
nothing came between. -/
structure Linearized (scope : CatalogScope) (w w' : World codec) (i : Nat) : Prop where
  exists_selection : ∃ (v : CatalogView codec.toCatalogCodec) (fixed : ResolvedFixedSelection)
    (policy : SelectionPolicy) (previous : Option (SelectionState codec.toCatalogCodec))
    (nowNs : Int) (result : SelectionResult codec.toCatalogCodec)
    (persisted : SelectionState codec.toCatalogCodec),
    (w.clients i).result = some result ∧
    loadView scope w.tables = .ok v ∧
    loadSelectionState scope (policy.policyId codec.toCatalogCodec) w.tables = .ok previous ∧
    select v fixed policy previous nowNs = .ok result ∧
    persisted.1 = { result.1.nextState.1 with revision := revisionOf previous + 1 } ∧
    w'.history = w.history ++ [persisted] ∧
    loadView scope w'.tables = .ok v ∧
    loadSelectionState scope (policy.policyId codec.toCatalogCodec) w'.tables =
      .ok (some persisted) ∧
    ∀ other, other ≠ policy.policyId codec.toCatalogCodec →
      loadSelectionState scope other w'.tables = loadSelectionState scope other w.tables

/-- Nothing is stored at first. -/
theorem loadSelectionState_initial (scope : CatalogScope) (policyId : codec.Digest) :
    loadSelectionState scope policyId (Tables.initial codec.toCatalogCodec) = .ok none := by
  have hstates : (Tables.initial codec.toCatalogCodec).selectionStates.get? policyId = none := rfl
  rw [loadSelectionState, hstates]
  rfl

theorem lawful_initial : (World.initial codec).Lawful scope where
  clients i := ⟨by simp [World.initial], by simp [World.initial], by simp [World.initial]⟩
  history policyId := by
    have hnone : committedStates (World.initial codec).history policyId = [] := rfl
    have hstates : (World.initial codec).tables.selectionStates.get? policyId = none := rfl
    rw [hnone]
    refine ⟨rfl, ?_, loadSelectionState_initial scope policyId⟩
    rw [Tables.stateRevision, hstates]
    rfl

theorem lawful_set {w : World codec} (h : w.Lawful scope) {i : Nat} {c : Client codec}
    (hc : c.Lawful scope w.tables) : (w.set i c).Lawful scope where
  clients j := by
    change (if j = i then c else w.clients j).Lawful scope w.tables
    split_ifs
    · exact hc
    · exact h.clients j
  history := h.history

theorem eq_ok_of_toOption {ε α : Type} {x : Except ε α} {a : α} (h : a ∈ x.toOption) :
    x = .ok a := by
  cases x with
  | error e => cases h
  | ok b =>
    cases h
    rfl

/-- A view that is loaded is of the catalog as it is. -/
theorem current_of_loadView {t : Store codec} {v : CatalogView codec.toCatalogCodec}
    (h : loadView scope t = .ok v) : Current scope t v := by
  obtain ⟨_, -, hview⟩ := bind_eq_ok.1 h
  obtain ⟨_, -, hview⟩ := bind_eq_ok.1 hview
  obtain ⟨_, -, hview⟩ := bind_eq_ok.1 hview
  obtain ⟨_, -, hview⟩ := bind_eq_ok.1 hview
  obtain ⟨-, hview⟩ := checked_eq_ok.1 (raising_eq_ok.1 hview)
  cases hview
  exact ⟨rfl, le_rfl, le_rfl, fun _ _ => h⟩

/-- A state that is loaded is the one that is stored. -/
theorem stored_of_loadSelectionState {w : World codec} (hw : w.Lawful scope)
    {policyId : codec.Digest} {previous : Option (SelectionState codec.toCatalogCodec)}
    (h : loadSelectionState scope policyId w.tables = .ok previous) :
    ∀ s ∈ previous, Stored scope w.tables s := by
  rintro s ⟨⟩
  obtain ⟨hrevision, hpolicy⟩ := stateRevision_of_loadSelectionState h
  obtain rfl : s.1.policyId = policyId := hpolicy s rfl
  have hnumbered := hw.history s.1.policyId
  have hstored := hnumbered.stored
  have hlast := Except.ok.inj (hnumbered.loaded.symm.trans h)
  rw [hrevision] at hstored
  refine ⟨?_, hrevision.ge, fun _ => h⟩
  have hpositive : 0 < (committedStates w.history s.1.policyId).length := by
    rw [List.length_pos_iff]
    rintro hnil
    rw [hnil] at hlast
    cases hlast
  have hself : revisionOf (some s) = s.1.revision := rfl
  omega

/-- A selection is of what its client has loaded. -/
theorem lawful_selected {w : World codec} {i : Nat} (hc : (w.clients i).Lawful scope w.tables)
    (fixed : ResolvedFixedSelection) (policy : SelectionPolicy) (nowNs : Int) :
    ({ w.clients i with result := World.selected (w.clients i) fixed policy nowNs } :
      Client codec).Lawful scope w.tables where
  view := hc.view
  state := hc.state
  result := by
    intro result hresult
    obtain ⟨v, hv, hresult⟩ := Option.bind_eq_some_iff.1 hresult
    obtain ⟨previous, hprevious, hresult⟩ := Option.bind_eq_some_iff.1 hresult
    exact ⟨v, fixed, policy, previous, nowNs, eq_ok_of_toOption hresult, hc.view v hv,
      hc.state previous hprevious⟩

/-- The entries of a result are in the order of their keys. -/
theorem sorted_entries_of_select {v : CatalogView codec.toCatalogCodec}
    {fixed : ResolvedFixedSelection} {policy : SelectionPolicy}
    {previous : Option (SelectionState codec.toCatalogCodec)} {nowNs : Int}
    {result : SelectionResult codec.toCatalogCodec}
    (h : select v fixed policy previous nowNs = .ok result) :
    result.1.entries.sorted = result.1.entries := by
  obtain ⟨_, -, h⟩ := bind_eq_ok.1 h
  obtain ⟨_, -, h⟩ := bind_eq_ok.1 h
  obtain ⟨_, -, h⟩ := bind_eq_ok.1 h
  obtain ⟨_, -, h⟩ := bind_eq_ok.1 h
  obtain ⟨_, -, h⟩ := bind_eq_ok.1 h
  obtain ⟨entries, -, h⟩ := bind_eq_ok.1 h
  obtain ⟨nextState, -, h⟩ := bind_eq_ok.1 h
  obtain ⟨deltas, -, h⟩ := bind_eq_ok.1 h
  rw [construct_eq_ok.1 h]
  exact Dict.sorted_eq_self (Dict.pairwise_keys_sorted _)

/-- What a commit stores was computed from the view and the state that are loaded at the commit. -/
theorem inputs_of_committed {w : World codec} (hw : w.Lawful scope) {i : Nat}
    {result : SelectionResult codec.toCatalogCodec} (hresult : (w.clients i).result = some result)
    {previous : Option (SelectionState codec.toCatalogCodec)}
    {persisted : SelectionState codec.toCatalogCodec} {t' : Store codec}
    (h : SelectionCommitted result.1 previous persisted w.tables t') :
    result.1.scope = scope ∧ ∃ v fixed policy nowNs,
      result.1.policyId = SelectionPolicy.policyId codec.toCatalogCodec policy ∧
      loadView scope w.tables = .ok v ∧ select v fixed policy previous nowNs = .ok result := by
  obtain ⟨v, fixed, policy, prior, nowNs, hselect, hv, hprior⟩ :=
    (hw.clients i).result result hresult
  have hselects := selects_of_select hselect
  have hscope : result.1.scope = scope := by rw [hselects.scope, hv.scope_eq]
  have hcatalog : v.catalogRevision = w.tables.catalogRevision := by
    obtain ⟨state, hstate, hrevision⟩ := Option.map_eq_some_iff.1 h.catalogRevision
    rw [Tables.catalogRevision, hstate, Option.elim_some, hrevision, hselects.catalogRevision]
  have hturnover : v.turnoverRevision = w.tables.turnoverRevision := by
    obtain ⟨state, hstate, hrevision⟩ := Option.map_eq_some_iff.1 h.turnoverRevision
    rw [Tables.turnoverRevision, hstate, Option.elim_some, hrevision, hselects.turnoverRevision]
  have hloaded := h.loaded
  rw [hscope] at hloaded
  have hrevision : revisionOf previous = revisionOf prior := by
    rw [← h.revision, hselects.nextState]
    rfl
  have hstored := (stateRevision_of_loadSelectionState hloaded).1
  have hprevious : previous = prior := by
    cases prior with
    | none =>
      cases previous with
      | none => rfl
      | some s =>
        have hpositive := (stored_of_loadSelectionState hw hloaded s rfl).positive
        exact absurd hrevision hpositive.ne'
    | some s =>
      have hpolicy : s.1.policyId = result.1.policyId := by
        have hinputs := hselects.inputs
        simp only [validateInputs, orElse_eq_none, Option.bind_some, Storage.refuseIf_eq_none,
          decide_eq_false_iff_not, not_not] at hinputs
        rw [hselects.policyId]
        exact hinputs.2.2.2.2.1
      have hsame := (hprior s rfl).same (by rw [hpolicy, hstored, hrevision]; rfl)
      rw [hpolicy, hloaded] at hsame
      exact Except.ok.inj hsame
  exact ⟨hscope, v, fixed, policy, nowNs, hselects.policyId, hv.same hcatalog hturnover,
    hprevious ▸ hselect⟩

/-- A commit changes nothing, or nothing came between what it was computed from and its write. -/
theorem linearized_of_commit {w : World codec} (hw : w.Lawful scope) {i : Nat}
    {result : SelectionResult codec.toCatalogCodec} (hresult : (w.clients i).result = some result)
    (expectedCatalog expectedTurnover : Int) (expectedState : Option Int) :
    let w' := w.commit result expectedCatalog expectedTurnover expectedState
    w'.Lawful scope ∧ (w' = w ∨ Linearized scope w w' i) := by
  intro w'
  cases hcommit : commitSelection result expectedCatalog expectedTurnover expectedState w.tables with
  | error e =>
    have hsame : w' = w := by
      simp only [w', World.commit, transact, hcommit]
    rw [hsame]
    exact ⟨hw, .inl rfl⟩
  | ok committed =>
    obtain ⟨persisted, t'⟩ := committed
    have hnext : w' = { w with tables := t', history := w.history ++ [persisted] } := by
      simp only [w', World.commit, transact, hcommit]
    obtain ⟨previous, hcommitted⟩ := committed_of_commitSelection hcommit
    obtain ⟨hscope, v, fixed, policy, nowNs, hpolicy, hview, hselect⟩ :=
      inputs_of_committed hw hresult hcommitted
    have hlater : Later scope w.tables t' := later_of_committed hcommitted
    rw [hnext]
    refine ⟨⟨fun j => (hw.clients j).later hlater, fun policyId =>
      numbered_of_committed hcommitted hscope (hw.history policyId)⟩, .inr ⟨v, fixed, policy,
      previous, nowNs, result, persisted, hresult, hview, ?_, hselect, ?_, rfl, ?_, ?_, ?_⟩⟩
    · rw [← hscope, ← hpolicy, hcommitted.loaded]
    · have hnextState := (selects_of_select hselect).nextState
      rw [hcommitted.stored, hnextState, sorted_entries_of_select hselect]
    · obtain ⟨payload, events, hwritten⟩ := hcommitted.written
      rw [← hview, hwritten.tables]
      rfl
    · rw [← hscope, ← hpolicy]
      exact loadSelectionState_of_committed hcommitted
    · intro other hother
      exact loadSelectionState_of_ne hcommitted scope (hpolicy ▸ hother)

theorem lawful_act {w : World codec} (hw : w.Lawful scope) (action : Action codec scope) :
    (w.act action).Lawful scope := by
  cases action with
  | write op =>
    have hlater := later_exec op w.tables
    refine ⟨fun i => (hw.clients i).later hlater, fun policyId => ?_⟩
    obtain ⟨hrevision, hloaded⟩ := states_exec op w.tables policyId
    have hnumbered := hw.history policyId
    exact ⟨hnumbered.revisions, hrevision.trans hnumbered.stored, hloaded.trans hnumbered.loaded⟩
  | loadView i =>
    refine lawful_set hw ⟨fun v hv => ?_, (hw.clients i).state, (hw.clients i).result⟩
    exact current_of_loadView (eq_ok_of_toOption hv)
  | loadState i policyId =>
    refine lawful_set hw ⟨(hw.clients i).view, fun previous hprevious => ?_,
      (hw.clients i).result⟩
    exact stored_of_loadSelectionState hw (eq_ok_of_toOption hprevious)
  | select i fixed policy nowNs =>
    exact lawful_set hw (lawful_selected (hw.clients i) fixed policy nowNs)
  | commit i expectedCatalog expectedTurnover expectedState =>
    cases hresult : (w.clients i).result with
    | none => simpa only [World.act, hresult] using hw
    | some result =>
      simpa only [World.act, hresult] using
        (linearized_of_commit hw hresult expectedCatalog expectedTurnover expectedState).1

theorem lawful_after (actions : List (Action codec scope)) :
    (World.after codec actions).Lawful scope := by
  unfold World.after
  have hinitial : (World.initial codec).Lawful scope := lawful_initial
  generalize World.initial codec = w at hinitial
  induction actions generalizing w with
  | nil => exact hinitial
  | cons action actions ih => exact ih _ (lawful_act hinitial action)

end Runs

end CryptoCollector.Selection
