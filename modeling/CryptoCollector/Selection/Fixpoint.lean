import CryptoCollector.Selection.Grace
import CryptoCollector.Storage.Values

/-!
# A selection is settled at its time

`select` of the state that it has returned, at the same time and from the same catalog, returns
the same entries and no deltas. In general its deltas are the keys whose entries differ, and they
lead from the previous entries to the new ones.

* `marksOf_again`: the second selection marks what the first one has marked.
* `equalEntries_applyDeltas`: the deltas of any two selections.
* `select_fixpoint`: both, for every selection that returns.
-/

namespace CryptoCollector.Storage.Json

mutual

theorem Ordered.distinct : (j : Json) → j.Ordered → j.Distinct
  | .list items, h => OrderedItems.distinct items h
  | .object fields, h => ⟨h.1.imp ne_of_lt, OrderedFields.distinct fields h.2⟩
  | .null, _ => trivial
  | .bool _, _ => trivial
  | .int _, _ => trivial
  | .decimal _ _ _, _ => trivial
  | .str _, _ => trivial

theorem OrderedItems.distinct : (items : List Json) → OrderedItems items → DistinctItems items
  | [], _ => trivial
  | item :: items, h => ⟨Ordered.distinct item h.1, OrderedItems.distinct items h.2⟩

theorem OrderedFields.distinct : (fields : List (String × Json)) → OrderedFields fields →
    DistinctFields fields
  | [], _ => trivial
  | (_, value) :: fields, h => ⟨Ordered.distinct value h.1, OrderedFields.distinct fields h.2⟩

end

end CryptoCollector.Storage.Json

namespace CryptoCollector.Selection

open Lib
open Storage (Err Json refuseIf refuseIf_eq_none)

variable {codec : CatalogCodec}

/-! ## Equality -/

theorem equalTurnover_self (t : Option Turnover) : equalTurnover t t = true := by
  cases t with
  | none => rfl
  | some t => simp [equalTurnover, TurnoverFields.equal]

theorem CatalogFields.equal_self (c : CatalogFields) : c.equal c = true := by
  unfold CatalogFields.equal
  rw [decide_eq_true rfl, Json.equal_self c.lifecycle.1 (c.lifecycle.2.distinct _),
    equalTurnover_self]
  rfl

theorem equalEntry_self (e : Option SelectionEntry) : equalEntry e e = true := by
  cases e with
  | none => rfl
  | some e => simp [equalEntry, EntryFields.equal, CatalogFields.equal_self]

theorem isSome_of_equalEntry {a b : Option SelectionEntry} (h : equalEntry a b = true) :
    a.isSome = b.isSome := by
  cases a <;> cases b <;> first | rfl | cases h

/-- Entries are equal when those of every key are. -/
theorem equalEntries_of_get? {a b : Dict String SelectionEntry}
    (h : ∀ key, equalEntry (a.get? key) (b.get? key) = true) : equalEntries a b = true := by
  have hkeys : ∀ key, key ∈ a.keys ↔ key ∈ b.keys := fun key => by
    rw [← Dict.get?_isSome, ← Dict.get?_isSome, isSome_of_equalEntry (h key)]
  have hlength : a.entries.length = b.entries.length := by
    have hperm := (List.perm_ext_iff_of_nodup a.nodup b.nodup).mpr hkeys
    simpa using hperm.length_eq
  unfold equalEntries
  rw [decide_eq_true hlength, Bool.true_and, List.all_eq_true]
  intro e he
  have hget := h e.1
  rwa [Dict.get?_eq_some.mpr he] at hget

theorem equalEntries_self (entries : Dict String SelectionEntry) :
    equalEntries entries entries = true :=
  equalEntries_of_get? fun _ => equalEntry_self _

/-! ## Deltas -/

/-- Apply a delta to entries. -/
def applyDelta (entries : Dict String SelectionEntry) (d : SelectionDelta) :
    Dict String SelectionEntry :=
  match d.1.current with
  | none => entries.erase d.1.instrumentKey
  | some e => entries.set d.1.instrumentKey e

theorem get?_applyDelta (entries : Dict String SelectionEntry) (d : SelectionDelta)
    (key : String) : (applyDelta entries d).get? key =
      if key = d.1.instrumentKey then d.1.current else entries.get? key := by
  unfold applyDelta
  split
  · next hcurrent =>
    by_cases hkey : key = d.1.instrumentKey
    · rw [if_pos hkey, hkey, Dict.get?_erase_self, hcurrent]
    · rw [if_neg hkey, Dict.get?_erase_ne _ hkey]
  · next e hcurrent =>
    by_cases hkey : key = d.1.instrumentKey
    · rw [if_pos hkey, hkey, Dict.get?_set_self, hcurrent]
    · rw [if_neg hkey, Dict.get?_set_ne _ _ hkey]

/-- Deltas of different keys set the values of their keys. -/
theorem get?_foldl_applyDelta {deltas : List SelectionDelta}
    (hnodup : (deltas.map (·.1.instrumentKey)).Nodup) (entries : Dict String SelectionEntry)
    (key : String) :
    (∀ d ∈ deltas, d.1.instrumentKey = key →
      (deltas.foldl applyDelta entries).get? key = d.1.current) ∧
    (key ∉ deltas.map (·.1.instrumentKey) →
      (deltas.foldl applyDelta entries).get? key = entries.get? key) := by
  induction deltas generalizing entries with
  | nil => exact ⟨fun d hd => absurd hd List.not_mem_nil, fun _ => by rw [List.foldl_nil]⟩
  | cons first deltas ih =>
    rw [List.map_cons, List.nodup_cons] at hnodup
    obtain ⟨hset, hkept⟩ := ih hnodup.2 (applyDelta entries first)
    refine ⟨fun d hd hkey => ?_, fun hout => ?_⟩
    · rcases List.mem_cons.mp hd with rfl | hd
      · rw [List.foldl_cons, hkept (hkey ▸ hnodup.1), get?_applyDelta, if_pos hkey.symm]
      · exact hset d hd hkey
    · rw [List.map_cons, List.mem_cons, not_or] at hout
      rw [List.foldl_cons, hkept hout.2, get?_applyDelta, if_neg hout.1]

/-- The deltas of two selections: one for each key whose entries differ, with both of them. -/
theorem selectionDeltas_spec {previous entries : Dict String SelectionEntry}
    {deltas : List SelectionDelta} (h : selectionDeltas previous entries = .ok deltas) :
    (∀ d ∈ deltas, d.1.previous = previous.get? d.1.instrumentKey ∧
      d.1.current = entries.get? d.1.instrumentKey) ∧
    ∀ key, key ∈ deltas.map (·.1.instrumentKey) ↔
      equalEntry (previous.get? key) (entries.get? key) = false := by
  have hall := forall₂_of_mapM h
  have hof : ∀ d ∈ deltas, ∃ key ∈ sortedBy id ((previous.keys ∪ entries.keys).filter fun key =>
      !equalEntry (previous.get? key) (entries.get? key)),
      d.1 = ⟨key, previous.get? key, entries.get? key⟩ := by
    intro d hd
    obtain ⟨key, hkey, hd⟩ := exists_left_of_forall₂ hall hd
    exact ⟨key, hkey, construct_eq_ok.1 hd⟩
  constructor
  · intro d hd
    obtain ⟨key, -, hfields⟩ := hof d hd
    rw [hfields]
    exact ⟨rfl, rfl⟩
  · intro key
    constructor
    · intro hkey
      obtain ⟨d, hd, rfl⟩ := List.mem_map.1 hkey
      obtain ⟨key, hkey, hfields⟩ := hof d hd
      rw [hfields]
      simpa using (List.mem_filter.1 (mem_sortedBy.1 hkey)).2
    · intro hdiffers
      have hmem : key ∈ previous.keys ∪ entries.keys := by
        by_contra hout
        rw [List.mem_union_iff, not_or] at hout
        rw [Dict.get?_eq_none.2 hout.1, Dict.get?_eq_none.2 hout.2] at hdiffers
        cases hdiffers
      obtain ⟨d, hd, hfields⟩ := exists_right_of_forall₂ hall
        (mem_sortedBy.2 (List.mem_filter.2 ⟨hmem, by simp [hdiffers]⟩))
      refine List.mem_map.2 ⟨d, hd, ?_⟩
      rw [construct_eq_ok.1 hfields]

/-- The deltas lead from the previous entries to the new ones. -/
theorem equalEntries_applyDeltas {previous entries : Dict String SelectionEntry}
    {deltas : List SelectionDelta} (h : selectionDeltas previous entries = .ok deltas)
    (hnodup : (deltas.map (·.1.instrumentKey)).Nodup) :
    equalEntries (deltas.foldl applyDelta previous) entries = true := by
  obtain ⟨hdeltas, hkeys⟩ := selectionDeltas_spec h
  refine equalEntries_of_get? fun key => ?_
  obtain ⟨hset, hkept⟩ := get?_foldl_applyDelta hnodup previous key
  by_cases hmem : key ∈ deltas.map (·.1.instrumentKey)
  · obtain ⟨d, hd, rfl⟩ := List.mem_map.1 hmem
    rw [hset d hd rfl, (hdeltas d hd).2]
    exact equalEntry_self _
  · rw [hkept hmem]
    rw [hkeys, Bool.not_eq_false] at hmem
    exact hmem

/-- Equal selections have no deltas. -/
theorem selectionDeltas_self (entries : Dict String SelectionEntry) :
    selectionDeltas entries entries = .ok [] := by
  have hnone : (entries.keys ∪ entries.keys).filter (fun key =>
      !equalEntry (entries.get? key) (entries.get? key)) = [] := by
    rw [List.filter_eq_nil_iff]
    intro key _
    rw [equalEntry_self]
    exact Bool.false_ne_true
  unfold selectionDeltas
  rw [hnone]
  rfl

/-! ## The second selection -/

section Again

variable {v : CatalogView codec} {fixed : ResolvedFixedSelection} {policy : SelectionPolicy}
  {previous : Option (SelectionState codec)} {nowNs : Int} {result : SelectionResult codec}

/-- A grace that has begun goes on, and none begins. -/
theorem graceOf_again (h : Selects v fixed policy previous nowNs result) (key : String) :
    graceOf v policy result.1.entries nowNs key =
      graceOf v policy (previousEntries previous) nowNs key := by
  ext start
  constructor
  · intro hgrace
    obtain ⟨htop, old, -, hold, -, -, -, -, -, hexit, -, -⟩ := graceOf_eq_some.1 hgrace
    rw [exitStarted_of_selects h hold, htop, if_neg Bool.false_ne_true] at hexit
    exact hexit
  · intro hgrace
    obtain ⟨htop, -, current, -, hcurrent, hpresent, htradable, hquote, -, -, hstart, hsoon⟩ :=
      graceOf_eq_some.1 hgrace
    have hgrace : graceOf v policy (previousEntries previous) nowNs key = some start := hgrace
    obtain ⟨old, hold⟩ := exists_entry h (.inr (by rw [hgrace]; rfl))
    have hinstrument := ((h.entries key).1 old hold).2.instrument
    rw [hcurrent] at hinstrument
    cases hinstrument
    refine graceOf_eq_some.2 ⟨htop, old, _, hold, hcurrent, hpresent, htradable, hquote, rfl, ?_,
      hstart, hsoon⟩
    rw [exitStarted_of_selects h hold, htop, if_neg Bool.false_ne_true, hgrace]

/-- The second selection marks what the first one has marked. -/
theorem marksOf_again (h : Selects v fixed policy previous nowNs result) (key : String) :
    marksOf v fixed policy result.1.entries nowNs key =
      marksOf v fixed policy (previousEntries previous) nowNs key := by
  have hgrace := graceOf_again h key
  have hrank : ((rankTopN v policy nowNs).get? key).or
      ((graceOf v policy (previousEntries previous) nowNs key).bind fun _ =>
        (result.1.entries.get? key).bind (·.1.topNRank)) =
      (marksOf v fixed policy (previousEntries previous) nowNs key).topNRank := by
    cases hstart : graceOf v policy (previousEntries previous) nowNs key with
    | none => simp [marksOf, hstart]
    | some start =>
      obtain ⟨e, he⟩ := exists_entry h (.inr (by rw [hstart]; rfl))
      have htop := (graceOf_eq_some.1 hstart).1
      have hnone : (rankTopN v policy nowNs).get? key = none := by
        rw [Dict.get?_eq_none, ← Dict.contains_iff, htop]
        exact Bool.false_ne_true
      rw [hnone, he]
      exact ((h.entries key).1 e he).2.topNRank
  unfold marksOf at hrank ⊢
  rw [hgrace, hrank]

/-- No grace of the new entries starts after the selection. -/
theorem graceClockCheck_again (h : Selects v fixed policy previous nowNs result)
    {e : SelectionEntry} (he : e ∈ result.1.entries.values) : graceClockCheck nowNs e = none := by
  obtain ⟨⟨key, e⟩, hentry, rfl⟩ := List.mem_map.1 he
  have hchosen := ((h.entries key).1 e (Dict.get?_eq_some.2 hentry)).2
  rw [graceClockCheck, refuseIf_eq_none, hchosen.topExitStartedAtNs, Bool.and_eq_false_iff]
  right
  change (graceOf v policy (previousEntries previous) nowNs key).any _ = false
  cases hstart : graceOf v policy (previousEntries previous) nowNs key with
  | none => rfl
  | some start =>
    obtain ⟨-, -, -, -, -, -, -, -, -, -, hle, -⟩ := graceOf_eq_some.1 hstart
    simpa using hle

/-- The new state is accepted where the previous one was. -/
theorem validateInputs_again (h : Selects v fixed policy previous nowNs result) :
    validateInputs v fixed policy (some result.1.nextState) = none := by
  have hinputs := h.inputs
  simp only [validateInputs, orElse_eq_none] at hinputs ⊢
  refine ⟨hinputs.1, hinputs.2.1, hinputs.2.2.1, ?_⟩
  simp [refuseIf_eq_none, h.nextState]

/-- The marks of the second selection are those of the first one. -/
theorem sorted_selectionMarks_again (h : Selects v fixed policy previous nowNs result) :
    (selectionMarks v fixed policy result.1.entries nowNs).sorted =
      (selectionMarks v fixed policy (previousEntries previous) nowNs).sorted := by
  have hnodup := nodup_of_validateCatalog h.catalog
  refine Dict.sorted_congr fun key => ?_
  rw [get?_selectionMarks hnodup, get?_selectionMarks hnodup, marksOf_again h key]

/-- A result stays valid without its deltas. -/
theorem check_without_deltas (result : SelectionResult codec) :
    ResultFields.check { result.1 with deltas := [] } = none := by
  have hresult := result.2
  simp only [ResultFields.check, orElse_eq_none] at hresult ⊢
  obtain ⟨h1, h2, h3, h4, -, -⟩ := hresult
  exact ⟨h1, h2, h3, h4, by simp [refuseIf_eq_none], rfl⟩

theorem select_again (h : select v fixed policy previous nowNs = .ok result) :
    select v fixed policy (some result.1.nextState) nowNs =
      .ok ⟨{ result.1 with deltas := [] }, check_without_deltas result⟩ := by
  have hselects := selects_of_select h
  obtain ⟨_, hnow, h⟩ := bind_eq_ok.1 h
  obtain ⟨_, hcatalog, h⟩ := bind_eq_ok.1 h
  obtain ⟨_, -, h⟩ := bind_eq_ok.1 h
  obtain ⟨_, hfixed, h⟩ := bind_eq_ok.1 h
  obtain ⟨_, -, h⟩ := bind_eq_ok.1 h
  obtain ⟨entries, hentries, h⟩ := bind_eq_ok.1 h
  obtain ⟨nextState, hnext, h⟩ := bind_eq_ok.1 h
  obtain ⟨deltas, hdeltas, h⟩ := bind_eq_ok.1 h
  have hresult := construct_eq_ok.1 h
  have hstate : result.1.nextState = nextState := by rw [hresult]
  have hprevious : previousEntries (some result.1.nextState) = result.1.entries := by
    simp [previousEntries, hselects.nextState]
  have hsorted : entries.sorted = entries := by
    refine Dict.sorted_eq_self ?_
    rw [Dict.keys_of_mapValuesM hentries]
    exact Dict.pairwise_keys_sorted _
  have hsame : result.1.entries = entries := by rw [hresult, hsorted]
  refine bind_eq_ok.2 ⟨_, hnow, bind_eq_ok.2 ⟨_, hcatalog, ?_⟩⟩
  refine bind_eq_ok.2 ⟨(), checked_eq_ok.2 ⟨validateInputs_again hselects, rfl⟩, ?_⟩
  refine bind_eq_ok.2 ⟨_, hfixed, ?_⟩
  refine bind_eq_ok.2 ⟨(), checked_eq_ok.2 ⟨?_, rfl⟩, ?_⟩
  · rw [hprevious]
    exact List.findSome?_eq_none_iff.2 fun e he => graceClockCheck_again hselects he
  rw [hprevious]
  refine bind_eq_ok.2 ⟨entries, ?_, bind_eq_ok.2 ⟨nextState, ?_, bind_eq_ok.2 ⟨[], ?_, ?_⟩⟩⟩
  · rw [sorted_selectionMarks_again hselects]
    exact hentries
  · have hrevision : (some result.1.nextState).elim 0 (·.1.revision) =
        previous.elim 0 (·.1.revision) := by
      simp [hselects.nextState]
    rw [hrevision]
    exact hnext
  · rw [hsame]
    exact selectionDeltas_self entries
  · exact construct_eq_ok.2
      (congrArg (fun r : ResultFields codec => { r with deltas := [] }) hresult)

end Again

/-- For every selection that returns: the selection from its state at the same time returns the
same entries, the same state and no deltas; its own deltas are, in order, the keys whose entries
differ, with the entries before and after, and applied to the previous entries they yield the new
ones. -/
theorem select_fixpoint {v : CatalogView codec} {fixed : ResolvedFixedSelection}
    {policy : SelectionPolicy} {previous : Option (SelectionState codec)} {nowNs : Int}
    {result : SelectionResult codec} (h : select v fixed policy previous nowNs = .ok result) :
    (∃ again, select v fixed policy (some result.1.nextState) nowNs = .ok again ∧
      again.1.entries = result.1.entries ∧ again.1.nextState = result.1.nextState ∧
      again.1.deltas = []) ∧
    (result.1.deltas.map (·.1.instrumentKey)).Pairwise (· < ·) ∧
    (∀ key, key ∈ result.1.deltas.map (·.1.instrumentKey) ↔
      equalEntry ((previousEntries previous).get? key) (result.1.entries.get? key) = false) ∧
    (∀ d ∈ result.1.deltas,
      d.1.previous = (previousEntries previous).get? d.1.instrumentKey ∧
      d.1.current = result.1.entries.get? d.1.instrumentKey) ∧
    equalEntries (result.1.deltas.foldl applyDelta (previousEntries previous))
      result.1.entries = true := by
  have hdeltas := (selects_of_select h).deltas
  have hsorted : (result.1.deltas.map (·.1.instrumentKey)).Pairwise (· < ·) := by
    have hresult := result.2
    simp only [ResultFields.check, orElse_eq_none, refuseIf_eq_none, decide_eq_false_iff_not,
      not_not] at hresult
    exact hresult.2.2.2.2.1
  obtain ⟨hvalues, hkeys⟩ := selectionDeltas_spec hdeltas
  exact ⟨⟨_, select_again h, rfl, rfl, rfl⟩, hsorted, hkeys, hvalues,
    equalEntries_applyDeltas hdeltas (hsorted.imp ne_of_lt)⟩

theorem one_lt_four : 1 < 4 := by
  decide

/-- The first revision. -/
def firstRevision : Fin 4 := ⟨1, one_lt_four⟩

theorem check_quotedItem : (quotedItem firstRevision true).check = none := by
  decide +kernel

theorem one_le_revision : 1 ≤ ((firstRevision : Nat) : Int) := by
  decide

/-- The instrument is ranked, and then its turnover is too old. -/
def agedInputs : List (SelectionInput .plain) :=
  [quotedInput firstRevision one_le_revision 10 ⟨quotedItem firstRevision true, check_quotedItem⟩,
    quotedInput firstRevision one_le_revision 200 ⟨quotedItem firstRevision true, check_quotedItem⟩]

/-- The second selection begins a grace, and selecting again keeps it. -/
theorem select_fixpoint_aged : ∃ x results second again, agedInputs[1]? = some x ∧
    runSelections onePolicy none agedInputs = .ok results ∧ results[1]? = some second ∧
    second.1.entries.values.map (·.1.topExitStartedAtNs) = [some 200] ∧
    second.1.deltas.map (·.1.instrumentKey) = ["BTC-USDT"] ∧
    select x.view x.fixed onePolicy (some second.1.nextState) x.nowNs = .ok again ∧
    again.1.entries = second.1.entries ∧ again.1.deltas = [] := by
  have hrun : (runSelections onePolicy none agedInputs).toOption.map (List.map fun r =>
      (r.1.entries.values.map (·.1.topExitStartedAtNs), r.1.deltas.map (·.1.instrumentKey))) =
      some [([none], ["BTC-USDT"]), ([some 200], ["BTC-USDT"])] := by
    decide +kernel
  obtain ⟨results, hrun, hmap⟩ := ok_of_map hrun
  obtain ⟨first, second, rfl⟩ : ∃ a b, results = [a, b] := by
    rcases results with _ | ⟨a, _ | ⟨b, _ | ⟨c, rest⟩⟩⟩ <;> simp at hmap
    exact ⟨a, b, rfl⟩
  obtain ⟨result, hresult, hselect⟩ := select_of_runSelections hrun (i := 1) rfl
  cases hresult
  simp only [List.map_cons, List.map_nil, List.cons.injEq, Prod.mk.injEq] at hmap
  obtain ⟨again, hagain, hentries, -, hdeltas⟩ := (select_fixpoint hselect).1
  exact ⟨_, _, second, again, rfl, hrun, rfl, hmap.2.1.1, hmap.2.1.2, hagain, hentries, hdeltas⟩

end CryptoCollector.Selection
