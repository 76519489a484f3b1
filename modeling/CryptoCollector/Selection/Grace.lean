import CryptoCollector.Selection.Choices

/-!
# Runs of selections

Each selection starts from the state that the one before returned. An instrument that left the
ranks is in grace as long as every selection since then has seen it there, in the same listing, and
soon enough.

* `inGrace_iff`: the entries in grace.
* `selections_lawful`: the law of a run.
-/

namespace CryptoCollector.Selection

open Lib
open Storage (Err Json refuseIf refuseIf_eq_none)

variable {codec : CatalogCodec}

/-! ## Runs -/

/-- What a selection is made of, after its policy and the previous state. -/
structure SelectionInput (codec : CatalogCodec) where
  view : CatalogView codec
  fixed : ResolvedFixedSelection
  nowNs : Int

/-- The selections of a run. -/
def runSelections (policy : SelectionPolicy) : Option (SelectionState codec) →
    List (SelectionInput codec) → Except Err (List (SelectionResult codec))
  | _, [] => .ok []
  | previous, x :: xs => do
    let result ← select x.view x.fixed policy previous x.nowNs
    let results ← runSelections policy (some result.1.nextState) xs
    return result :: results

theorem runSelections_cons {policy : SelectionPolicy} {previous : Option (SelectionState codec)}
    {x : SelectionInput codec} {xs : List (SelectionInput codec)}
    {results : List (SelectionResult codec)}
    (h : runSelections policy previous (x :: xs) = .ok results) :
    ∃ result rest, select x.view x.fixed policy previous x.nowNs = .ok result ∧
      runSelections policy (some result.1.nextState) xs = .ok rest ∧ results = result :: rest := by
  obtain ⟨result, hresult, h⟩ := bind_eq_ok.1 h
  obtain ⟨rest, hrest, h⟩ := bind_eq_ok.1 h
  cases h
  exact ⟨result, rest, hresult, hrest, rfl⟩

/-- The state from which a selection of a run starts. -/
def previousOf (results : List (SelectionResult codec)) : Nat → Option (SelectionState codec)
  | 0 => none
  | i + 1 => results[i]?.map (·.1.nextState)

theorem select_of_runSelections {policy : SelectionPolicy}
    {previous : Option (SelectionState codec)} {xs : List (SelectionInput codec)}
    {results : List (SelectionResult codec)} (h : runSelections policy previous xs = .ok results)
    {i : Nat} {x : SelectionInput codec} (hx : xs[i]? = some x) :
    ∃ result, results[i]? = some result ∧ select x.view x.fixed policy
      (if i = 0 then previous else previousOf results i) x.nowNs = .ok result := by
  induction xs generalizing previous results i with
  | nil => simp at hx
  | cons y ys ih =>
    obtain ⟨first, rest, hfirst, hrest, rfl⟩ := runSelections_cons h
    cases i with
    | zero =>
      obtain rfl : y = x := by simpa using hx
      exact ⟨first, rfl, by simpa using hfirst⟩
    | succ i =>
      rw [List.getElem?_cons_succ] at hx
      obtain ⟨result, hresult, hselect⟩ := ih hrest hx
      refine ⟨result, by simpa using hresult, ?_⟩
      cases i with
      | zero => simpa [previousOf] using hselect
      | succ i => simpa [previousOf] using hselect

/-! ## Grace -/

/-- The instrument of a key is ranked. -/
def Ranked (policy : SelectionPolicy) (x : SelectionInput codec) (key : String) : Prop :=
  ∃ item rank, instrumentOf x.view.instruments key = some item ∧
    RankedAt x.view policy x.nowNs item rank

/-- The instrument of a key is present and tradable, in a quote of the policy, and in the same
listing. -/
def Stays (policy : SelectionPolicy) (x : SelectionInput codec) (key : String)
    (generation : Int) : Prop :=
  ∃ item, instrumentOf x.view.instruments key = some item ∧ item.1.present = true ∧
    item.1.tradable = true ∧ item.1.quoteAsset ∈ policy.quoteAssets ∧
    item.1.listingGeneration = generation

/-- The instrument of a key was last ranked by one selection, and no longer by the following
one. -/
structure LeftRanks (policy : SelectionPolicy) (xs : List (SelectionInput codec)) (i : Nat)
    (key : String) (j : Nat) (item : CatalogInstrument) (start : Int) : Prop where
  lt : j < i
  last : ∃ x, xs[j]? = some x ∧ Ranked policy x key ∧
    instrumentOf x.view.instruments key = some item
  first : ∃ x, xs[j + 1]? = some x ∧ x.nowNs = start
  unranked : ∀ k x, j < k → k ≤ i → xs[k]? = some x → ¬ Ranked policy x key

/-- The instrument of a key left the ranks, and every selection since then has seen it stay, before
its grace was over. -/
def InGrace (policy : SelectionPolicy) (xs : List (SelectionInput codec)) (i : Nat)
    (key : String) (start : Int) : Prop :=
  ∃ j item, LeftRanks policy xs i key j item start ∧
    ∀ k x, j < k → k ≤ i → xs[k]? = some x →
      Stays policy x key item.1.listingGeneration ∧ x.nowNs - start < policy.exitGraceNs

/-- The grace of a selection goes on from the one before, or begins with it. -/
theorem inGrace_succ {policy : SelectionPolicy} {xs : List (SelectionInput codec)} {i : Nat}
    {x x' : SelectionInput codec} (hx : xs[i]? = some x) (hx' : xs[i + 1]? = some x')
    {key : String} {start : Int} : InGrace policy xs (i + 1) key start ↔
      ¬ Ranked policy x' key ∧ x'.nowNs - start < policy.exitGraceNs ∧
      ∃ item, instrumentOf x.view.instruments key = some item ∧
        Stays policy x' key item.1.listingGeneration ∧
        (Ranked policy x key ∧ start = x'.nowNs ∨ InGrace policy xs i key start) := by
  constructor
  · rintro ⟨j, item, hleft, hstays⟩
    have hunranked := hleft.unranked (i + 1) x' hleft.lt (le_refl _) hx'
    obtain ⟨hstay, hsoon⟩ := hstays (i + 1) x' hleft.lt (le_refl _) hx'
    refine ⟨hunranked, hsoon, ?_⟩
    obtain ⟨y, hy, hranked, hitem⟩ := hleft.last
    obtain ⟨first, hfirst, hstart⟩ := hleft.first
    rcases Nat.lt_succ_iff_lt_or_eq.1 hleft.lt with hlt | rfl
    · obtain ⟨hstay', -⟩ := hstays i x hlt (Nat.le_succ i) hx
      have hstay'' := hstay'
      obtain ⟨current, hcurrent, -, -, -, hgeneration⟩ := hstay'
      refine ⟨current, hcurrent, hgeneration.symm ▸ hstay, .inr ⟨j, item, ?_, ?_⟩⟩
      · exact ⟨hlt, hleft.last, hleft.first, fun k z hk hki hz =>
          hleft.unranked k z hk (Nat.le_succ_of_le hki) hz⟩
      · exact fun k z hk hki hz => hstays k z hk (Nat.le_succ_of_le hki) hz
    · rw [hx] at hy
      cases hy
      rw [hx'] at hfirst
      cases hfirst
      exact ⟨item, hitem, hstay, .inl ⟨hranked, hstart.symm⟩⟩
  · rintro ⟨hunranked, hsoon, item, hitem, hstay, hcase⟩
    rcases hcase with ⟨hranked, rfl⟩ | ⟨j, old, hleft, hstays⟩
    · have honly : ∀ k, i < k → k ≤ i + 1 → k = i + 1 := fun k h h' => by omega
      refine ⟨i, item, ⟨Nat.lt_succ_self i, ⟨x, hx, hranked, hitem⟩, ⟨x', hx', rfl⟩, ?_⟩, ?_⟩
      · intro k z hk hki hz
        obtain rfl := honly k hk hki
        rw [hx'] at hz
        cases hz
        exact hunranked
      · intro k z hk hki hz
        obtain rfl := honly k hk hki
        rw [hx'] at hz
        cases hz
        exact ⟨hstay, hsoon⟩
    · obtain ⟨⟨current, hcurrent, -, -, -, hgeneration⟩, -⟩ :=
        hstays i x hleft.lt (le_refl _) hx
      rw [hitem] at hcurrent
      cases hcurrent
      refine ⟨j, old, ⟨Nat.lt_succ_of_lt hleft.lt, hleft.last, hleft.first, ?_⟩, ?_⟩
      · intro k z hk hki hz
        rcases Nat.le_succ_iff.1 hki with hki | rfl
        · exact hleft.unranked k z hk hki hz
        · rw [hx'] at hz
          cases hz
          exact hunranked
      · intro k z hk hki hz
        rcases Nat.le_succ_iff.1 hki with hki | rfl
        · exact hstays k z hk hki hz
        · rw [hx'] at hz
          cases hz
          exact ⟨hgeneration ▸ hstay, hsoon⟩

theorem not_inGrace_zero {policy : SelectionPolicy} {xs : List (SelectionInput codec)}
    {key : String} {start : Int} : ¬ InGrace policy xs 0 key start := by
  rintro ⟨j, item, hleft, -⟩
  exact Nat.not_lt_zero j hleft.lt

/-! ## Entries in grace -/

theorem ranked_iff {policy : SelectionPolicy} {x : SelectionInput codec}
    (hnodup : (x.view.instruments.map (·.1.instrumentKey)).Nodup) {key : String} :
    Ranked policy x key ↔ (rankTopN x.view policy x.nowNs).contains key = true := by
  rw [Dict.contains_iff, ← Dict.get?_isSome, Option.isSome_iff_exists]
  simp only [get?_rankTopN hnodup, Ranked]
  exact exists_comm

/-- The conditions of a grace. -/
theorem graceOf_eq_some {v : CatalogView codec} {policy : SelectionPolicy}
    {previous : Dict String SelectionEntry} {nowNs : Int} {key : String} {start : Int} :
    graceOf v policy previous nowNs key = some start ↔
      (rankTopN v policy nowNs).contains key = false ∧ ∃ old current,
        previous.get? key = some old ∧ instrumentOf v.instruments key = some current ∧
        current.1.present = true ∧ current.1.tradable = true ∧
        current.1.quoteAsset ∈ policy.quoteAssets ∧
        current.1.listingGeneration = old.1.instrument.1.listingGeneration ∧
        exitStarted nowNs old = some start ∧ start ≤ nowNs ∧
        nowNs - start < policy.exitGraceNs := by
  cases hold : previous.get? key with
  | none => simp [graceOf, hold]
  | some old =>
    cases htop : (rankTopN v policy nowNs).contains key with
    | true => simp [graceOf, graceStart, hold, htop]
    | false =>
      cases hcurrent : instrumentOf v.instruments key with
      | none => simp [graceOf, graceStart, hold, htop, hcurrent]
      | some current =>
        simp only [graceOf, graceStart, hold, htop, hcurrent, Option.bind_some,
          Bool.false_eq_true, if_false, true_and, Option.some.injEq]
        split
        · rename_i h
          simp only [Bool.and_eq_true, decide_eq_true_eq] at h
          simp [h, Option.filter_eq_some_iff]
        · rename_i h
          simp only [Bool.and_eq_true, decide_eq_true_eq, not_and] at h
          refine iff_of_false (fun h => by cases h) ?_
          rintro ⟨_, _, rfl, rfl, hpresent, htradable, hquote, hgeneration, -⟩
          exact h ⟨⟨hpresent, htradable⟩, hquote⟩ hgeneration

section Runs

variable {policy : SelectionPolicy} {xs : List (SelectionInput codec)}
  {results : List (SelectionResult codec)}

/-- The selections of a run from no state. -/
theorem selects_of_run (h : runSelections policy none xs = .ok results) {i : Nat}
    {x : SelectionInput codec} (hx : xs[i]? = some x) : ∃ result, results[i]? = some result ∧
      Selects x.view x.fixed policy (previousOf results i) x.nowNs result := by
  obtain ⟨result, hresult, hselect⟩ := select_of_runSelections h hx
  refine ⟨result, hresult, selects_of_select ?_⟩
  cases i with
  | zero => exact hselect
  | succ i => exact hselect

/-- What the next selection starts a grace from. -/
theorem exitStarted_of_selects {v : CatalogView codec} {fixed : ResolvedFixedSelection}
    {previous : Option (SelectionState codec)} {nowNs nextNs : Int}
    {result : SelectionResult codec} (h : Selects v fixed policy previous nowNs result)
    {key : String} {old : SelectionEntry} (hold : result.1.entries.get? key = some old) :
    exitStarted nextNs old =
      if (rankTopN v policy nowNs).contains key then some nextNs
      else graceOf v policy (previousEntries previous) nowNs key := by
  obtain ⟨-, hchosen⟩ := (h.entries key).1 old hold
  have htop : old.1.reasons.topN = (rankTopN v policy nowNs).contains key := by
    rw [hchosen.reasons]
    rfl
  have hgrace : old.1.reasons.topNGrace =
      (graceOf v policy (previousEntries previous) nowNs key).isSome := by
    rw [hchosen.reasons]
    rfl
  have hexit : old.1.topExitStartedAtNs =
      graceOf v policy (previousEntries previous) nowNs key := hchosen.topExitStartedAtNs
  rw [exitStarted, htop, hgrace, hexit]
  refine if_congr Iff.rfl rfl ?_
  cases graceOf v policy (previousEntries previous) nowNs key <;> rfl

/-- The entry of a key that is ranked or in grace. -/
theorem exists_entry {v : CatalogView codec} {fixed : ResolvedFixedSelection}
    {previous : Option (SelectionState codec)} {nowNs : Int} {result : SelectionResult codec}
    (h : Selects v fixed policy previous nowNs result) {key : String}
    (hkey : (rankTopN v policy nowNs).contains key = true ∨
      (graceOf v policy (previousEntries previous) nowNs key).isSome = true) :
    ∃ e, result.1.entries.get? key = some e := by
  cases hentry : result.1.entries.get? key with
  | some e => exact ⟨e, rfl⟩
  | none =>
    have hempty := (h.entries key).2 hentry
    simp only [marksOf, SelectionReason.mk.injEq] at hempty
    rcases hkey with htop | hgrace
    · rw [htop] at hempty
      cases hempty.2.2.1
    · rw [hgrace] at hempty
      cases hempty.2.2.2

/-- The keys in grace after a selection are those that the run has in grace. -/
theorem graceOf_iff (h : runSelections policy none xs = .ok results) {i : Nat}
    {x : SelectionInput codec} (hx : xs[i]? = some x) {key : String} {start : Int} :
    graceOf x.view policy (previousEntries (previousOf results i)) x.nowNs key = some start ↔
      InGrace policy xs i key start := by
  induction i generalizing x start with
  | zero => exact iff_of_false nofun not_inGrace_zero
  | succ i ih =>
    have hlt : i < xs.length := by
      have := (List.getElem?_eq_some_iff.1 hx).1
      omega
    obtain ⟨y, hy⟩ : ∃ y, xs[i]? = some y := ⟨_, List.getElem?_eq_getElem hlt⟩
    obtain ⟨result, hresult, hselects⟩ := selects_of_run h hy
    obtain ⟨_, -, hnext⟩ := selects_of_run h hx
    have hprevious : previousEntries (previousOf results (i + 1)) = result.1.entries := by
      simp [previousOf, hresult, previousEntries, hselects.nextState]
    have hranked : Ranked policy y key ↔ (rankTopN y.view policy y.nowNs).contains key = true :=
      ranked_iff (nodup_of_validateCatalog hselects.catalog)
    have hranked' : Ranked policy x key ↔ (rankTopN x.view policy x.nowNs).contains key = true :=
      ranked_iff (nodup_of_validateCatalog hnext.catalog)
    rw [graceOf_eq_some, inGrace_succ hy hx, hprevious, hranked', Bool.not_eq_true, hranked]
    refine and_congr_right fun _ => ?_
    constructor
    · rintro ⟨old, current, hold, hcurrent, hpresent, htradable, hquote, hgeneration, hexit, -,
        hsoon⟩
      obtain ⟨-, hchosen⟩ := (hselects.entries key).1 old hold
      refine ⟨hsoon, old.1.instrument, hchosen.instrument,
        ⟨current, hcurrent, hpresent, htradable, hquote, hgeneration⟩, ?_⟩
      rw [exitStarted_of_selects hselects hold] at hexit
      split at hexit
      · rename_i htop
        exact .inl ⟨htop, (Option.some.inj hexit).symm⟩
      · exact .inr ((ih hy).1 hexit)
    · rintro ⟨hsoon, item, hitem, ⟨current, hcurrent, hpresent, htradable, hquote, hgeneration⟩,
        hcase⟩
      have hkey : (rankTopN y.view policy y.nowNs).contains key = true ∨
          (graceOf y.view policy (previousEntries (previousOf results i)) y.nowNs key).isSome =
            true := by
        refine hcase.imp And.left fun hgrace => ?_
        rw [(ih hy).2 hgrace]
        rfl
      obtain ⟨old, hold⟩ := exists_entry hselects hkey
      obtain ⟨-, hchosen⟩ := (hselects.entries key).1 old hold
      have hsame : old.1.instrument = item := by
        have hinstrument := hchosen.instrument
        rw [hitem] at hinstrument
        exact (Option.some.inj hinstrument).symm
      have hexit : exitStarted x.nowNs old = _ := exitStarted_of_selects hselects hold
      refine ⟨old, current, hold, hcurrent, hpresent, htradable, hquote, hsame ▸ hgeneration, ?_,
        ?_, hsoon⟩
      · rw [hexit]
        rcases hcase with ⟨htop, rfl⟩ | hgrace
        · rw [if_pos htop]
        · have hstart := (ih hy).2 hgrace
          rw [if_neg ?_, hstart]
          intro htop
          rw [graceOf_of_ranked htop] at hstart
          cases hstart
      · -- The clock does not run behind the start of a grace.
        rcases hcase with ⟨-, rfl⟩ | hgrace
        · exact le_refl _
        · have hstart := (ih hy).2 hgrace
          have hclock := hnext.clock old (by
            rw [hprevious]
            exact List.mem_map_of_mem (Dict.get?_eq_some.1 hold))
          simp only [graceClockCheck, refuseIf_eq_none, hchosen.reasons,
            hchosen.topExitStartedAtNs, marksOf, hstart] at hclock
          simpa using hclock

/-- The reasons of an entry. -/
theorem reasons_of_run (h : runSelections policy none xs = .ok results) {i : Nat}
    {x : SelectionInput codec} (hx : xs[i]? = some x) {result : SelectionResult codec}
    (hresult : results[i]? = some result) {key : String} {e : SelectionEntry}
    (he : result.1.entries.get? key = some e) :
    (e.1.reasons.fixed = true ↔ key ∈ x.fixed.instrumentKeys) ∧
      (e.1.reasons.newListing = true ↔ ∃ item, instrumentOf x.view.instruments key = some item ∧
        isActiveNewListing policy x.nowNs item = true) ∧
      (e.1.reasons.topN = true ↔ Ranked policy x key) ∧
      (e.1.reasons.topNGrace = true ↔ ∃ start, InGrace policy xs i key start) := by
  obtain ⟨result', hresult', hselects⟩ := selects_of_run h hx
  rw [hresult] at hresult'
  cases hresult'
  obtain ⟨-, hchosen⟩ := (hselects.entries key).1 e he
  rw [hchosen.reasons, ranked_iff (nodup_of_validateCatalog hselects.catalog)]
  refine ⟨decide_eq_true_iff, Option.any_eq_true _ _, Iff.rfl, ?_⟩
  refine Option.isSome_iff_exists.trans ?_
  exact exists_congr fun start => graceOf_iff h hx

/-- The entries of ranked instruments and of those in grace have ranks. -/
theorem rank_isSome_of_run (h : runSelections policy none xs = .ok results) {i : Nat}
    {x : SelectionInput codec} (hx : xs[i]? = some x) {result : SelectionResult codec}
    (hresult : results[i]? = some result) {key : String} {e : SelectionEntry}
    (he : result.1.entries.get? key = some e)
    (hreasons : e.1.reasons.topN = true ∨ e.1.reasons.topNGrace = true) :
    e.1.topNRank.isSome = true := by
  induction i generalizing x result e with
  | zero =>
    have hentry := e.2
    have hgrace := (reasons_of_run h hx hresult he).2.2.2
    simp only [EntryFields.check, orElse_eq_none, refuseIf_eq_none] at hentry
    rcases hreasons with htop | hreason
    · simpa [htop] using hentry.2.2.2.1
    · obtain ⟨start, hstart⟩ := hgrace.1 hreason
      exact absurd hstart not_inGrace_zero
  | succ i ih =>
    have hentry := e.2
    simp only [EntryFields.check, orElse_eq_none, refuseIf_eq_none] at hentry
    obtain ⟨-, hexclusive, -, htop, -⟩ := hentry
    rcases hreasons with hreason | hreason
    · simpa [hreason] using htop
    · -- The rank of an entry in grace is that of the entry before it.
      have hlt : i < xs.length := by
        have := (List.getElem?_eq_some_iff.1 hx).1
        omega
      obtain ⟨y, hy⟩ : ∃ y, xs[i]? = some y := ⟨_, List.getElem?_eq_getElem hlt⟩
      obtain ⟨before, hbefore, hselects⟩ := selects_of_run h hy
      obtain ⟨result', hresult', hnext⟩ := selects_of_run h hx
      rw [hresult] at hresult'
      cases hresult'
      have hprevious : previousEntries (previousOf results (i + 1)) = before.1.entries := by
        simp [previousOf, hbefore, previousEntries, hselects.nextState]
      obtain ⟨-, hchosen⟩ := (hnext.entries key).1 e he
      rw [hprevious] at hchosen
      have hsome : (graceOf x.view policy before.1.entries x.nowNs key).isSome = true := by
        rw [hchosen.reasons] at hreason
        exact hreason
      obtain ⟨start, hstart⟩ := Option.isSome_iff_exists.1 hsome
      obtain ⟨hnot, old, -, hold, -, -, -, -, -, hexit, -⟩ := graceOf_eq_some.1 hstart
      have hnone : (rankTopN x.view policy x.nowNs).get? key = none := by
        rw [Dict.get?_eq_none, ← Dict.contains_iff, hnot]
        exact Bool.false_ne_true
      have hrank : e.1.topNRank = old.1.topNRank := by
        rw [hchosen.topNRank]
        simp [marksOf, hnone, hstart, hold]
      rw [hrank]
      refine ih hy hbefore hold ?_
      simp only [exitStarted] at hexit
      split_ifs at hexit with h₁ h₂
      · exact .inl h₁
      · exact .inr h₂

end Runs

theorem exists_capacityCandidate {key : String} {priority : AdmissionPriority} {seen : Int}
    {rank : Option Int} (hkey : key ≠ "") (hseen : integer seen "first_seen_ns" 0 = none)
    (hrank : rank.bind (integer · "top_n_rank" 1) = none)
    (hpriority : priority = .topN ↔ rank.isSome = true) :
    ∃ c, capacityCandidate key priority seen rank = .ok c := by
  unfold capacityCandidate
  rw [dif_neg hkey]
  split
  · rename_i e he
    rw [hseen] at he
    cases he
  split
  · rename_i e he
    rw [hrank] at he
    cases he
  have hmissing : ¬ (priority = .topN ∧ rank = none) := by
    rintro ⟨htop, rfl⟩
    cases hpriority.1 htop
  have hextra : ¬ (priority ≠ .topN ∧ rank ≠ none) := by
    rintro ⟨htop, hne⟩
    exact htop (hpriority.2 (Option.isSome_iff_ne_none.2 hne))
  rw [dif_neg hmissing, dif_neg hextra]
  exact ⟨_, rfl⟩

/-- A candidate is made of an entry whose priority has a rank. -/
theorem exists_fromSelectionEntry (e : SelectionEntry)
    (hrank : e.1.reasons.topN = true ∨ e.1.reasons.topNGrace = true →
      e.1.topNRank.isSome = true) : ∃ c, fromSelectionEntry e = .ok c := by
  have hentry := e.2
  simp only [EntryFields.check, orElse_eq_none, refuseIf_eq_none,
    selectorOptionalInteger_eq_none, decide_eq_false_iff_not] at hentry
  obtain ⟨hne, -, hrange, -⟩ := hentry
  have hvalid := CatalogFields.check_eq_none.1 e.1.instrument.2
  have hkey := hvalid.record.instrumentKey
  have hseen : integer e.1.instrument.1.firstSeenNs "first_seen_ns" 0 = none := by
    have h1 := hvalid.firstSeenNs
    have h2 := hvalid.seen
    have h3 := hvalid.lastSeenNs
    rw [integer, if_neg (by omega), if_neg (by omega)]
  have hranked : e.1.admissionPriority = .topN → e.1.topNRank.isSome = true := by
    intro hpriority
    apply hrank
    cases hreasons : e.1.reasons with
    | mk fixed newListing topN topNGrace =>
      rw [hreasons] at hne
      cases fixed <;> cases newListing <;> cases topN <;> cases topNGrace <;>
        simp_all [EntryFields.admissionPriority]
  refine exists_capacityCandidate hkey hseen ?_ ?_
  · split
    · cases hvalue : e.1.topNRank with
      | none => rfl
      | some rank =>
        obtain ⟨hone, hmax⟩ := hrange rank hvalue
        rw [Option.bind_some, integer, if_neg (by omega), if_neg (by omega)]
    · rfl
  · by_cases hpriority : e.1.admissionPriority = .topN
    · simp [hpriority, hranked hpriority]
    · simp [hpriority]

/-! ## The law of a run -/

/-- The instrument of a key is an active new listing. -/
def NewlyListed (policy : SelectionPolicy) (x : SelectionInput codec) (key : String) : Prop :=
  ∃ item, instrumentOf x.view.instruments key = some item ∧
    isActiveNewListing policy x.nowNs item = true

/-- In every run of selections, the selected instruments are those that are fixed, newly listed,
ranked, or in grace, their entries say which, and every entry makes a candidate. -/
theorem selections_lawful (policy : SelectionPolicy) (xs : List (SelectionInput codec))
    (results : List (SelectionResult codec)) (hrun : runSelections policy none xs = .ok results)
    (i : Nat) (x : SelectionInput codec) (hx : xs[i]? = some x) :
    ∃ result, results[i]? = some result ∧ result.1.nextState.1.entries = result.1.entries ∧
      ∀ key,
        (key ∈ result.1.entries.keys ↔ key ∈ x.fixed.instrumentKeys ∨ NewlyListed policy x key ∨
          Ranked policy x key ∨ ∃ start, InGrace policy xs i key start) ∧
        ∀ e, result.1.entries.get? key = some e →
          (e.1.reasons.fixed = true ↔ key ∈ x.fixed.instrumentKeys) ∧
          (e.1.reasons.newListing = true ↔ NewlyListed policy x key) ∧
          (e.1.reasons.topN = true ↔ Ranked policy x key) ∧
          (e.1.reasons.topNGrace = true ↔ ∃ start, InGrace policy xs i key start) ∧
          (e.1.reasons.topN = true ∨ e.1.reasons.topNGrace = true →
            e.1.topNRank.isSome = true) ∧
          ∃ c, fromSelectionEntry e = .ok c := by
  obtain ⟨result, hresult, hselects⟩ := selects_of_run hrun hx
  refine ⟨result, hresult, by rw [hselects.nextState], fun key => ?_⟩
  have hentries : ∀ e, result.1.entries.get? key = some e → _ := fun e he =>
    reasons_of_run hrun hx hresult he
  refine ⟨?_, fun e he => ?_⟩
  · constructor
    · intro hkey
      obtain ⟨e, he⟩ := Dict.exists_of_mem_keys hkey
      obtain ⟨hfixed, hlisted, hranked, hgrace⟩ := hentries e he
      have hentry := e.2
      simp only [EntryFields.check, orElse_eq_none, refuseIf_eq_none,
        decide_eq_false_iff_not] at hentry
      have hne := hentry.1
      rw [← hfixed, NewlyListed, ← hlisted, ← hranked, ← hgrace]
      by_contra hnone
      simp only [not_or, Bool.not_eq_true] at hnone
      obtain ⟨h1, h2, h3, h4⟩ := hnone
      apply hne
      cases hreasons : e.1.reasons
      rw [hreasons] at h1 h2 h3 h4
      cases h1; cases h2; cases h3; cases h4
      rfl
    · intro hcase
      by_contra hkey
      have hempty := (hselects.entries key).2 (Dict.get?_eq_none.2 hkey)
      simp only [marksOf, SelectionReason.mk.injEq, decide_eq_false_iff_not] at hempty
      obtain ⟨hfixed, hlisted, hranked, hgrace⟩ := hempty
      rcases hcase with h | h | h | ⟨start, h⟩
      · exact hfixed h
      · rw [(Option.any_eq_true _ _).2 h] at hlisted
        cases hlisted
      · rw [(ranked_iff (nodup_of_validateCatalog hselects.catalog)).1 h] at hranked
        cases hranked
      · rw [(graceOf_iff hrun hx).2 h] at hgrace
        cases hgrace
  · obtain ⟨hfixed, hlisted, hranked, hgrace⟩ := hentries e he
    have hrank := rank_isSome_of_run hrun hx hresult he
    exact ⟨hfixed, hlisted, hranked, hgrace, hrank, exists_fromSelectionEntry e hrank⟩

/-! ## An instrument that was away -/

/-- Grace by the last selection alone: the instrument stays, and the first selection without its
rank is not long ago. -/
def StaysSince (policy : SelectionPolicy) (xs : List (SelectionInput codec)) (i : Nat)
    (key : String) (start : Int) : Prop :=
  ∃ j item x, LeftRanks policy xs i key j item start ∧ xs[i]? = some x ∧
    Stays policy x key item.1.listingGeneration ∧ x.nowNs - start < policy.exitGraceNs

/-- An instrument at a time of the catalog. -/
def quotedItem (revision : Fin 4) (present : Bool) : CatalogFields where
  exchange := .okx
  market := .spot
  instrumentKey := "BTC-USDT"
  canonicalPair := "BTC-USDT"
  wireSymbols := ⟨[("ws", "BTC-USDT")], by decide⟩
  baseAsset := "BTC"
  quoteAsset := "USDT"
  settlementAsset := none
  status := "live"
  lifecyclePhase := .tradable
  tradable := true
  lifecycle := freezeJson (.object [])
  tradableAtNs := none
  tradableAtSource := none
  turnover :=
    some ⟨⟨⟨false, 5, 0⟩, .exchangeQuoteTurnover, "USDT", some 1, some "turnover-1"⟩, rfl⟩
  rawCatalogReference := "raw-1"
  firstSeenNs := 1
  lastSeenNs := revision
  present
  listingState := .baseline
  firstTradableSeenNs := some 1
  listingGeneration := 0
  lastTerminalSeenNs := none
  newListingStartedAtNs := none
  newListingSource := none
  newListingEligible := false

/-- A view of the catalog, with the turnover of its first revision. -/
def quotedInput (revision : Fin 4) (hrevision : 1 ≤ (revision : Int)) (nowNs : Int)
    (item : CatalogInstrument) : SelectionInput .plain where
  view := {
    scope := ⟨.okx, .spot⟩
    catalogObservedAtNs := some (revision : Int)
    catalogRevision := revision
    catalogDigestSha256 := some .null
    catalogSnapshotId := some "catalog"
    catalogPageRawReferences := ["page"]
    turnoverObservedAtNs := some 1
    turnoverRevision := 1
    turnoverDigestSha256 := some .null
    turnoverCatalogRevision := some 1
    turnoverSnapshotId := some "turnover"
    turnoverPageRawReferences := ["page"]
    turnoverCoveredInstrumentKeys := ["BTC-USDT"]
    instruments := [item] }
  fixed := {
    scope := ⟨.okx, .spot⟩
    catalogRevision := revision
    instrumentKeys := []
    catalogRevision_mem := ⟨hrevision, by
      have := revision.isLt
      unfold maxInt64
      omega⟩
    instrumentKeys_nodup := by decide
    instrumentKeys_text := by decide }
  nowNs

/-- A policy of one instrument and a grace of a hundred nanoseconds. -/
def onePolicy : SelectionPolicy where
  scope := ⟨.okx, .spot⟩
  quoteAssets := ["USDT"]
  topN := 1
  turnoverMaxAgeNs := 100
  newListingsEnabled := false
  newListingCaptureDurationNs := 1
  exitGraceNs := 100
  quoteAssets_ne := by decide
  quoteAssets_text := by decide
  quoteAssets_nodup := by decide
  topN_le := one_le_maxInt64
  turnoverMaxAgeNs_mem := by decide
  newListingCaptureDurationNs_mem := by decide
  exitGraceNs_mem := by decide

/-- The instrument is ranked, then away, then back. -/
def awayInputs : List (SelectionInput .plain) := [
  quotedInput 1 (by decide) 10 ⟨quotedItem 1 true, by decide +kernel⟩,
  quotedInput 2 (by decide) 11 ⟨quotedItem 1 false, by decide +kernel⟩,
  quotedInput 3 (by decide) 12 ⟨quotedItem 3 true, by decide +kernel⟩]

theorem keys_awayInputs : (runSelections onePolicy none awayInputs).toOption.map
    (List.map (·.1.entries.keys)) = some [["BTC-USDT"], [], []] := by
  decide +kernel

theorem exists_awayResults : ∃ results, runSelections onePolicy none awayInputs = .ok results ∧
    results.map (·.1.entries.keys) = [["BTC-USDT"], [], []] := by
  have hkeys := keys_awayInputs
  cases hrun : runSelections onePolicy none awayInputs with
  | error e =>
    rw [hrun] at hkeys
    cases hkeys
  | ok results =>
    rw [hrun] at hkeys
    exact ⟨results, rfl, Option.some.inj hkeys⟩

theorem selections_lawful_away : ∃ results, runSelections onePolicy none awayInputs = .ok results ∧
    ∃ x, awayInputs[0]? = some x ∧ ∃ result, results[0]? = some result ∧
      ("BTC-USDT" ∈ result.1.entries.keys ↔ "BTC-USDT" ∈ x.fixed.instrumentKeys ∨
        NewlyListed onePolicy x "BTC-USDT" ∨ Ranked onePolicy x "BTC-USDT" ∨
          ∃ start, InGrace onePolicy awayInputs 0 "BTC-USDT" start) := by
  obtain ⟨results, hrun, -⟩ := exists_awayResults
  obtain ⟨result, hresult, -, hlaw⟩ :=
    selections_lawful onePolicy awayInputs results hrun 0 _ rfl
  exact ⟨results, hrun, _, rfl, result, hresult, (hlaw "BTC-USDT").1⟩

/-- The instrument is back before its grace would be over, and it is not selected. -/
theorem away_not_selected : ¬ ∀ (policy : SelectionPolicy) (xs : List (SelectionInput .plain))
    (results : List (SelectionResult .plain)), (∀ x ∈ xs, x.view.check = none) →
    runSelections policy none xs = .ok results → ∀ i key start,
      StaysSince policy xs i key start → ∀ result, results[i]? = some result →
        key ∈ result.1.entries.keys := by
  intro hclaim
  obtain ⟨results, hrun, hkeys⟩ := exists_awayResults
  have hviews : ∀ x ∈ awayInputs, x.view.check = none := by
    simp only [awayInputs, List.forall_mem_cons]
    exact ⟨by decide +kernel, by decide +kernel, by decide +kernel, by simp⟩
  have hnodup : ∀ x ∈ awayInputs, (x.view.instruments.map (·.1.instrumentKey)).Nodup := by
    simp [awayInputs, quotedInput]
  have hleft : LeftRanks onePolicy awayInputs 2 "BTC-USDT" 0
      ⟨quotedItem 1 true, by decide +kernel⟩ 11 := by
    refine ⟨by decide, ⟨_, rfl, ?_, rfl⟩, ⟨_, rfl, rfl⟩, ?_⟩
    · exact (ranked_iff (hnodup _ (by simp [awayInputs]))).2 (by decide +kernel)
    · intro k x hk hki hx
      rw [ranked_iff (hnodup x (List.mem_of_getElem? hx)), Bool.not_eq_true]
      obtain rfl | rfl : k = 1 ∨ k = 2 := by omega
      · cases hx
        decide +kernel
      · cases hx
        decide +kernel
  have hstays : StaysSince onePolicy awayInputs 2 "BTC-USDT" 11 :=
    ⟨0, _, _, hleft, rfl, ⟨_, rfl, rfl, rfl, by decide, rfl⟩, by decide⟩
  obtain ⟨_, _, _, rfl⟩ : ∃ a b c, results = [a, b, c] := by
    rcases results with _ | ⟨a, _ | ⟨b, _ | ⟨c, _ | ⟨d, rest⟩⟩⟩⟩ <;> simp at hkeys
    exact ⟨a, b, c, rfl⟩
  have hmem := hclaim onePolicy awayInputs _ hviews hrun 2 "BTC-USDT" 11 hstays _ rfl
  simp only [List.map_cons, List.cons.injEq] at hkeys
  rw [hkeys.2.2.1] at hmem
  cases hmem

end CryptoCollector.Selection
