import CryptoCollector.Selection.Selector

/-!
# What is selected

An instrument is ranked by the number of eligible instruments of its quote that come before it. A
key is selected when it is fixed, an active new listing, ranked, or in grace, and its entry says
which.

* `get?_rankTopN`: the ranks.
* `Chosen`: what an entry says.
* `chosen_of_select`: the entries of a result.
-/

namespace CryptoCollector.Selection

open Lib
open Storage (Err Json refuseIf refuseIf_eq_none)

variable {codec : CatalogCodec}

/-! ## Ranks -/

/-- The instrument comes before another: it has a larger turnover, or the same and a smaller
key. -/
def Outranks (a b : CatalogInstrument) : Prop :=
  turnoverValue b < turnoverValue a ∨
    turnoverValue b = turnoverValue a ∧ a.1.instrumentKey < b.1.instrumentKey

instance : DecidableRel Outranks := fun _ _ => inferInstanceAs (Decidable (_ ∨ _))

theorem not_outranks_self (a : CatalogInstrument) : ¬ Outranks a a := by
  simp [Outranks]

theorem Outranks.asymm {a b : CatalogInstrument} (h : Outranks a b) : ¬ Outranks b a := by
  rintro (hlt | ⟨heq, hkey⟩)
  · rcases h with hlt' | ⟨heq', -⟩
    · exact lt_asymm hlt hlt'
    · exact absurd heq' hlt.ne'
  · rcases h with hlt' | ⟨-, hkey'⟩
    · exact absurd heq hlt'.ne'
    · exact lt_asymm hkey hkey'

/-- The eligible instruments of a quote. -/
def eligibleOf (v : CatalogView codec) (policy : SelectionPolicy) (nowNs : Int)
    (quote : String) : List CatalogInstrument :=
  v.instruments.filter (eligible v policy nowNs quote)

/-- The instrument is ranked: the turnover is that of the catalog, the instrument is eligible in a
quote of the policy, and fewer than `top_n` eligible instruments of the quote come before it. -/
structure RankedAt (v : CatalogView codec) (policy : SelectionPolicy) (nowNs : Int)
    (item : CatalogInstrument) (rank : Int) : Prop where
  turnover : v.turnoverRevision ≠ 0
  current : v.turnoverCatalogRevision = some v.catalogRevision
  quote : item.1.quoteAsset ∈ policy.quoteAssets
  eligible : item ∈ eligibleOf v policy nowNs item.1.quoteAsset
  rank_eq : rank =
    ((eligibleOf v policy nowNs item.1.quoteAsset).countP fun other => Outranks other item) + 1
  rank_le : rank ≤ policy.topN

theorem quote_of_mem_eligibleOf {v : CatalogView codec} {policy : SelectionPolicy} {nowNs : Int}
    {quote : String} {item : CatalogInstrument} (h : item ∈ eligibleOf v policy nowNs quote) :
    item ∈ v.instruments ∧ item.1.quoteAsset = quote := by
  obtain ⟨hmem, h⟩ := List.mem_filter.1 h
  simp only [eligible, Bool.and_eq_true, decide_eq_true_eq] at h
  exact ⟨hmem, h.1.2⟩

/-- The order of the ranked instruments of a quote. -/
theorem pairwise_ranked {items : List CatalogInstrument}
    (hnodup : (items.map (·.1.instrumentKey)).Nodup) :
    (sortedBy (fun item => OrderDual.toDual (turnoverValue item))
      (sortedBy (·.1.instrumentKey) items)).Pairwise fun a b =>
        Outranks a b ∧ ¬ Outranks b a := by
  have hsorted : (sortedBy (·.1.instrumentKey) items).Pairwise fun a b =>
      a.1.instrumentKey < b.1.instrumentKey := by
    have hle := pairwise_sortedBy (·.1.instrumentKey) items
    have hne : (sortedBy (·.1.instrumentKey) items).Pairwise fun a b =>
        a.1.instrumentKey ≠ b.1.instrumentKey :=
      List.pairwise_map.1 (nodup_map_sortedBy hnodup)
    exact hle.imp₂ (fun _ _ => lt_of_le_of_ne) hne
  refine (stably_sortedBy hsorted).imp ?_
  intro a b h
  have houtranks : Outranks a b := h.imp OrderDual.toDual_lt_toDual.1 fun h =>
    ⟨(OrderDual.toDual_inj.1 h.1).symm, h.2⟩
  exact ⟨houtranks, houtranks.asymm⟩

/-- The ranks of a quote are the numbers of the instruments that come before. -/
theorem mem_rankedOf {v : CatalogView codec} {policy : SelectionPolicy} {nowNs : Int}
    {quote : String} (hnodup : (v.instruments.map (·.1.instrumentKey)).Nodup) {key : String}
    {rank : Int} : (key, rank) ∈ rankedOf v policy nowNs quote ↔
      ∃ item ∈ eligibleOf v policy nowNs quote, item.1.instrumentKey = key ∧
        rank = ((eligibleOf v policy nowNs quote).countP fun other => Outranks other item) + 1 ∧
        rank ≤ policy.topN := by
  have hfiltered : ((eligibleOf v policy nowNs quote).map (·.1.instrumentKey)).Nodup :=
    hnodup.sublist (List.filter_sublist.map _)
  have hpairwise := pairwise_ranked hfiltered
  have hperm := (sortedBy_perm (fun item => OrderDual.toDual (turnoverValue item))
    (sortedBy (·.1.instrumentKey) (eligibleOf v policy nowNs quote))).trans
      (sortedBy_perm _ _)
  have hplaces := fun n i a => mem_zipIdx_take hpairwise (fun a _ => not_outranks_self a)
    (n := n) (i := i) (a := a)
  simp only [rankedOf, List.mem_map, Prod.mk.injEq, Prod.exists]
  constructor
  · rintro ⟨item, i, hmem, hkey, hrank⟩
    obtain ⟨hitem, hi, hlt⟩ := (hplaces _ _ _).1 hmem
    rw [hperm.countP_eq] at hi
    exact ⟨item, hperm.mem_iff.1 hitem, hkey, by rw [← hrank, hi], by omega⟩
  · rintro ⟨item, hitem, hkey, hrank, hle⟩
    refine ⟨item, _, (hplaces _ _ _).2 ⟨hperm.mem_iff.2 hitem, rfl, ?_⟩, hkey, ?_⟩
    · rw [hperm.countP_eq]
      omega
    · rw [hperm.countP_eq, hrank]

/-- No instrument is ranked twice. -/
theorem nodup_ranked {v : CatalogView codec} {policy : SelectionPolicy} {nowNs : Int}
    (hnodup : (v.instruments.map (·.1.instrumentKey)).Nodup) :
    ((policy.quoteAssets.flatMap (rankedOf v policy nowNs)).map Prod.fst).Nodup := by
  have hof : ∀ quote key, key ∈ (rankedOf v policy nowNs quote).map Prod.fst →
      ∃ item ∈ v.instruments, item.1.instrumentKey = key ∧ item.1.quoteAsset = quote := by
    intro quote key hkey
    obtain ⟨⟨_, rank⟩, hmem, rfl⟩ := List.mem_map.1 hkey
    obtain ⟨item, hitem, hkey, -⟩ := (mem_rankedOf hnodup).1 hmem
    obtain ⟨hmem, hquote⟩ := quote_of_mem_eligibleOf hitem
    exact ⟨item, hmem, hkey, hquote⟩
  rw [List.map_flatMap, List.nodup_flatMap]
  refine ⟨?_, policy.quoteAssets_nodup.imp ?_⟩
  · intro quote _
    have hitems : ((eligibleOf v policy nowNs quote).map (·.1.instrumentKey)).Nodup :=
      hnodup.sublist (List.filter_sublist.map _)
    have hsorted := ((sortedBy_perm (fun item => OrderDual.toDual (turnoverValue item))
      (sortedBy (·.1.instrumentKey) (eligibleOf v policy nowNs quote))).trans
        (sortedBy_perm _ _)).map (·.1.instrumentKey)
    have htaken := (hsorted.nodup_iff.2 hitems).sublist ((List.take_sublist policy.topN _).map _)
    rw [rankedOf, map_fst_numbered (fun item : CatalogInstrument => item.1.instrumentKey)
      fun i => (i : Int) + 1]
    exact htaken
  · intro quote quote' hne
    rw [Function.onFun_apply, List.disjoint_left]
    intro key hkey hkey'
    obtain ⟨item, hitem, hsame, rfl⟩ := hof quote key hkey
    obtain ⟨item', hitem', hsame', rfl⟩ := hof quote' key hkey'
    have := keyed_of_nodup_map hnodup item hitem item' hitem' (hsame.trans hsame'.symm)
    exact hne (by rw [this])

/-- The ranks of a view. -/
theorem get?_rankTopN {v : CatalogView codec} {policy : SelectionPolicy} {nowNs : Int}
    (hnodup : (v.instruments.map (·.1.instrumentKey)).Nodup) {key : String} {rank : Int} :
    (rankTopN v policy nowNs).get? key = some rank ↔
      ∃ item, instrumentOf v.instruments key = some item ∧ RankedAt v policy nowNs item rank := by
  have hitem : ∀ item ∈ v.instruments, instrumentOf v.instruments item.1.instrumentKey =
      some item := fun item hmem => find?_key_of_mem hnodup hmem
  unfold rankTopN
  split
  · rename_i hempty
    refine iff_of_false (fun h => by cases h) ?_
    rintro ⟨item, -, hranked⟩
    rcases hempty with h | h | h
    · exact hranked.turnover h
    · exact h hranked.current
    · have hle := hranked.rank_le
      have heq := hranked.rank_eq
      omega
  · rename_i hcurrent
    simp only [not_or, not_not] at hcurrent
    obtain ⟨hturnover, hbound, -⟩ := hcurrent
    rw [Dict.get?_ofList (nodup_ranked hnodup), List.mem_flatMap]
    constructor
    · rintro ⟨quote, hquote, hmem⟩
      obtain ⟨item, heligible, rfl, hrank, hle⟩ := (mem_rankedOf hnodup).1 hmem
      obtain ⟨hlisted, rfl⟩ := quote_of_mem_eligibleOf heligible
      exact ⟨item, hitem item hlisted, hturnover, hbound, hquote, heligible, hrank, hle⟩
    · rintro ⟨item, hinstrument, hranked⟩
      have hkey : item.1.instrumentKey = key := by
        simpa using List.find?_some hinstrument
      exact ⟨_, hranked.quote, (mem_rankedOf hnodup).2
        ⟨item, hranked.eligible, hkey, hranked.rank_eq, hranked.rank_le⟩⟩

/-! ## Marks -/

/-- The start of the grace of a key. -/
def graceOf (v : CatalogView codec) (policy : SelectionPolicy)
    (previous : Dict String SelectionEntry) (nowNs : Int) (key : String) : Option Int :=
  (previous.get? key).bind (graceStart v policy (rankTopN v policy nowNs) nowNs key)

/-- The marks of a key. -/
def marksOf (v : CatalogView codec) (fixed : ResolvedFixedSelection) (policy : SelectionPolicy)
    (previous : Dict String SelectionEntry) (nowNs : Int) (key : String) : Marks where
  reasons := {
    fixed := decide (key ∈ fixed.instrumentKeys)
    newListing := (instrumentOf v.instruments key).any (isActiveNewListing policy nowNs)
    topN := (rankTopN v policy nowNs).contains key
    topNGrace := (graceOf v policy previous nowNs key).isSome }
  topNRank := ((rankTopN v policy nowNs).get? key).or
    ((graceOf v policy previous nowNs key).bind fun _ =>
      (previous.get? key).bind (·.1.topNRank))
  topExitStartedAtNs := graceOf v policy previous nowNs key

section Select

variable {v : CatalogView codec} {fixed : ResolvedFixedSelection} {policy : SelectionPolicy}
  {previous : Dict String SelectionEntry} {nowNs : Int}

/-- A key is ranked or in grace, not both. -/
theorem graceOf_of_ranked {key : String}
    (h : (rankTopN v policy nowNs).contains key = true) :
    graceOf v policy previous nowNs key = none := by
  cases hold : previous.get? key with
  | none => simp [graceOf, hold]
  | some old => simp [graceOf, graceStart, hold, h]

/-- The instruments that pass a test, by their keys. -/
theorem mem_keys_filter {items : List CatalogInstrument}
    (hnodup : (items.map (·.1.instrumentKey)).Nodup) {p : CatalogInstrument → Bool}
    {key : String} : key ∈ (items.filter p).map (·.1.instrumentKey) ↔
      (instrumentOf items key).any p = true := by
  constructor
  · intro h
    obtain ⟨item, hitem, rfl⟩ := List.mem_map.1 h
    obtain ⟨hmem, hp⟩ := List.mem_filter.1 hitem
    have hfind : instrumentOf items item.1.instrumentKey = some item :=
      find?_key_of_mem hnodup hmem
    simpa [hfind] using hp
  · intro h
    obtain ⟨item, hfind, hp⟩ := (Option.any_eq_true _ _).1 h
    have hkey : item.1.instrumentKey = key := by simpa using List.find?_some hfind
    exact List.mem_map.2 ⟨item, List.mem_filter.2 ⟨List.mem_of_find?_eq_some hfind, hp⟩, hkey⟩

/-- The keys in grace. -/
theorem mem_graceKeys {key : String} :
    key ∈ previous.keys.filter (fun key =>
        ((previous.get? key).bind (graceStart v policy (rankTopN v policy nowNs) nowNs key)).isSome) ↔
      (graceOf v policy previous nowNs key).isSome = true := by
  rw [List.mem_filter]
  refine and_iff_right_of_imp fun h => ?_
  cases hold : previous.get? key with
  | none => simp [hold] at h
  | some old => exact Dict.mem_keys_of_get? hold

/-- The marks that are made are those of each key. -/
theorem get?_selectionMarks (hnodup : (v.instruments.map (·.1.instrumentKey)).Nodup)
    (key : String) : (selectionMarks v fixed policy previous nowNs).get? key =
      if (marksOf v fixed policy previous nowNs key).reasons = {} then none
      else some (marksOf v fixed policy previous nowNs key) := by
  have hranked : (rankTopN v policy nowNs).contains key = true →
      graceOf v policy previous nowNs key = none := graceOf_of_ranked
  have hrank : key ∈ (rankTopN v policy nowNs).keys ↔
      (rankTopN v policy nowNs).contains key = true := Dict.contains_iff.symm
  have hget : (rankTopN v policy nowNs).contains key = false →
      (rankTopN v policy nowNs).get? key = none := fun h => by
    rw [Dict.get?_eq_none, hrank, h]
    exact Bool.false_ne_true
  have hsome : (rankTopN v policy nowNs).contains key = true →
      ∃ rank, (rankTopN v policy nowNs).get? key = some rank := fun h =>
    Dict.exists_of_mem_keys (hrank.2 h)
  have hempty : (Dict.empty : Dict String Marks).get? key = none := rfl
  simp only [selectionMarks]
  rw [Dict.get?_foldl_mark, Dict.get?_foldl_mark, Dict.get?_foldl_mark, Dict.get?_foldl_mark]
  any_goals exact fun _ _ => rfl
  simp only [mem_graceKeys, mem_keys_filter hnodup, hrank, hempty]
  rcases Option.eq_none_or_eq_some (graceOf v policy previous nowNs key) with
    hgrace | ⟨start, hgrace⟩
  · rcases Bool.eq_false_or_eq_true ((rankTopN v policy nowNs).contains key) with htop | htop
    · obtain ⟨rank, hvalue⟩ := hsome htop
      simp only [marksOf, hgrace, htop, hvalue]
      by_cases hfixed : key ∈ fixed.instrumentKeys <;>
        rcases Bool.eq_false_or_eq_true
          ((instrumentOf v.instruments key).any (isActiveNewListing policy nowNs)) with hnew | hnew <;>
        simp [hfixed, hnew, Marks.withFixed, Marks.withNewListing, Marks.withTopN]
    · simp only [marksOf, hgrace, htop, hget htop]
      by_cases hfixed : key ∈ fixed.instrumentKeys <;>
        rcases Bool.eq_false_or_eq_true
          ((instrumentOf v.instruments key).any (isActiveNewListing policy nowNs)) with hnew | hnew <;>
        simp [hfixed, hnew, Marks.withFixed, Marks.withNewListing]
  · have htop : (rankTopN v policy nowNs).contains key = false := by
      by_contra h
      rw [hranked (by simpa using h)] at hgrace
      cases hgrace
    have hstart : (previous.get? key).bind
        (graceStart v policy (rankTopN v policy nowNs) nowNs key) = some start := hgrace
    simp only [marksOf, hgrace, htop, hget htop, hstart]
    by_cases hfixed : key ∈ fixed.instrumentKeys <;>
      rcases Bool.eq_false_or_eq_true
        ((instrumentOf v.instruments key).any (isActiveNewListing policy nowNs)) with hnew | hnew <;>
      simp [hfixed, hnew, Marks.withFixed, Marks.withNewListing, Marks.withTopNGrace]

end Select

/-! ## Results -/

/-- The entry of a key has its instrument and its marks. -/
structure Chosen (v : CatalogView codec) (key : String) (m : Marks) (e : SelectionEntry) :
    Prop where
  instrument : instrumentOf v.instruments key = some e.1.instrument
  reasons : e.1.reasons = m.reasons
  topNRank : e.1.topNRank = m.topNRank
  topExitStartedAtNs : e.1.topExitStartedAtNs = m.topExitStartedAtNs

theorem selectedEntry_eq_ok {v : CatalogView codec} {key : String} {m : Marks}
    {e : SelectionEntry} (h : selectedEntry v key m = .ok e) : Chosen v key m e := by
  unfold selectedEntry at h
  split at h
  · cases h
  · rename_i instrument hinstrument
    have hfields := construct_eq_ok.1 h
    exact ⟨by rw [hinstrument, hfields], by rw [hfields], by rw [hfields], by rw [hfields]⟩

/-- What a selection that returns has checked, and what it returns. -/
structure Selects (v : CatalogView codec) (fixed : ResolvedFixedSelection)
    (policy : SelectionPolicy) (previous : Option (SelectionState codec)) (nowNs : Int)
    (result : SelectionResult codec) : Prop where
  now : 0 ≤ nowNs ∧ nowNs ≤ maxInt64
  catalog : validateCatalog v = none
  inputs : validateInputs v fixed policy previous = none
  fixedKeys : ∀ key ∈ fixed.instrumentKeys, fixedCheck v key = none
  clock : ∀ old ∈ (previousEntries previous).values, graceClockCheck nowNs old = none
  entries : ∀ key,
    (∀ e, result.1.entries.get? key = some e →
      (marksOf v fixed policy (previousEntries previous) nowNs key).reasons ≠ {} ∧
        Chosen v key (marksOf v fixed policy (previousEntries previous) nowNs key) e) ∧
    (result.1.entries.get? key = none →
      (marksOf v fixed policy (previousEntries previous) nowNs key).reasons = {})
  scope : result.1.scope = v.scope
  catalogRevision : result.1.catalogRevision = v.catalogRevision
  turnoverRevision : result.1.turnoverRevision = v.turnoverRevision
  policyId : result.1.policyId = policy.policyId codec
  nextState : result.1.nextState.1 = {
    scope := v.scope
    catalogRevision := v.catalogRevision
    turnoverRevision := v.turnoverRevision
    policyId := policy.policyId codec
    revision := previous.elim 0 (·.1.revision)
    entries := result.1.entries }
  deltas : selectionDeltas (previousEntries previous) result.1.entries = .ok result.1.deltas

theorem of_viewInstrumentsCheck {scope : CatalogScope} {mismatch duplicate : String}
    {more : CatalogInstrument → Option Err} {keys : List String}
    {items : List CatalogInstrument}
    (h : viewInstrumentsCheck scope mismatch duplicate more keys items = none) :
    (∀ item ∈ items, item.1.scope = scope ∧ more item = none ∧ item.1.instrumentKey ∉ keys) ∧
      (items.map (·.1.instrumentKey)).Nodup := by
  induction items generalizing keys with
  | nil => simp
  | cons item items ih =>
    simp only [viewInstrumentsCheck, orElse_eq_none, refuseIf_eq_none, decide_eq_false_iff_not,
      not_not] at h
    obtain ⟨hscope, hkey, hmore, h⟩ := h
    obtain ⟨hitems, hnodup⟩ := ih h
    refine ⟨?_, ?_⟩
    · rw [List.forall_mem_cons]
      refine ⟨⟨hscope, hmore, hkey⟩, fun other hother => ?_⟩
      obtain ⟨hscope', hmore', hkey'⟩ := hitems other hother
      exact ⟨hscope', hmore', fun hmem => hkey' (List.mem_cons_of_mem _ hmem)⟩
    · rw [List.map_cons, List.nodup_cons]
      refine ⟨fun hmem => ?_, hnodup⟩
      obtain ⟨other, hother, hsame⟩ := List.mem_map.1 hmem
      exact (hitems other hother).2.2 (hsame ▸ List.mem_cons_self)

/-- The instruments of a catalog that is accepted have their own keys. -/
theorem nodup_of_validateCatalog {v : CatalogView codec} (h : validateCatalog v = none) :
    (v.instruments.map (·.1.instrumentKey)).Nodup := by
  simp only [validateCatalog, orElse_eq_none] at h
  exact (of_viewInstrumentsCheck h.2.2.2.2.2.2.2.2).2

theorem selects_of_select {v : CatalogView codec} {fixed : ResolvedFixedSelection}
    {policy : SelectionPolicy} {previous : Option (SelectionState codec)} {nowNs : Int}
    {result : SelectionResult codec} (h : select v fixed policy previous nowNs = .ok result) :
    Selects v fixed policy previous nowNs result := by
  obtain ⟨_, hnow, h⟩ := bind_eq_ok.1 h
  obtain ⟨_, hcatalog, h⟩ := bind_eq_ok.1 h
  obtain ⟨_, hinputs, h⟩ := bind_eq_ok.1 h
  obtain ⟨_, hfixed, h⟩ := bind_eq_ok.1 h
  obtain ⟨_, hclock, h⟩ := bind_eq_ok.1 h
  obtain ⟨entries, hentries, h⟩ := bind_eq_ok.1 h
  obtain ⟨nextState, hnext, h⟩ := bind_eq_ok.1 h
  obtain ⟨deltas, hdeltas, h⟩ := bind_eq_ok.1 h
  have hcatalog := (checked_eq_ok.1 hcatalog).1
  have hsorted : entries.sorted = entries := by
    refine Dict.sorted_eq_self ?_
    rw [Dict.keys_of_mapValuesM hentries]
    exact Dict.pairwise_keys_sorted _
  have hresult := construct_eq_ok.1 h
  have hstate := construct_eq_ok.1 hnext
  have hmarks : ∀ key, (selectionMarks v fixed policy (previousEntries previous) nowNs).get? key =
      if (marksOf v fixed policy (previousEntries previous) nowNs key).reasons = {} then none
      else some (marksOf v fixed policy (previousEntries previous) nowNs key) :=
    get?_selectionMarks (nodup_of_validateCatalog hcatalog)
  rw [hsorted] at hstate hresult
  have hentry : result.1.entries = entries := by rw [hresult]
  exact {
    now := by simpa using (checked_eq_ok.1 hnow).1
    catalog := hcatalog
    inputs := (checked_eq_ok.1 hinputs).1
    fixedKeys := fun key hkey =>
      List.findSome?_eq_none_iff.1 (checked_eq_ok.1 hfixed).1 key (mem_sortedBy.2 hkey)
    clock := List.findSome?_eq_none_iff.1 (checked_eq_ok.1 hclock).1
    entries := by
      intro key
      rw [hentry]
      constructor
      · intro e he
        obtain ⟨m, hm, hselected⟩ := Dict.exists_of_mapValuesM hentries he
        rw [Dict.get?_sorted, hmarks] at hm
        split at hm
        · cases hm
        · rename_i hne
          cases hm
          exact ⟨hne, selectedEntry_eq_ok hselected⟩
      · intro hnone
        by_contra hne
        have hsome := hmarks key
        rw [if_neg hne, ← Dict.get?_sorted] at hsome
        rw [Dict.get?_eq_none, Dict.keys_of_mapValuesM hentries] at hnone
        exact hnone (Dict.mem_keys_of_get? hsome)
    scope := by rw [hresult]
    catalogRevision := by rw [hresult]
    turnoverRevision := by rw [hresult]
    policyId := by rw [hresult]
    nextState := by rw [hentry, hresult, hstate]
    deltas := by rw [hentry, hresult]; exact hdeltas }

end CryptoCollector.Selection
