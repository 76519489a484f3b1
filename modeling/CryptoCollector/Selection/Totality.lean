import CryptoCollector.Selection.Listing

/-!
# Transitions never fail

A snapshot reports a valid record at a later time than the instrument was seen before. Then each
value that the transition builds passes its checks.

* `valid_materialized`, `valid_activated`, `valid_withListingState`: the values in between.
* `transition_total`: the transition returns.
-/

namespace CryptoCollector.Selection

open Lib
open Storage (Err)

/-! ## Materialization -/

section Materialized

variable {r : RecordFields} {prior : Option CatalogFields} {observedAt : Int}

/-- What is known of the prior record when a snapshot is applied. -/
def EarlierThan (observedAt : Int) (prior : Option CatalogFields) : Prop :=
  ∀ p ∈ prior, p.Valid ∧ p.lastSeenNs < observedAt

theorem earlierThan_none : EarlierThan observedAt none := by simp [EarlierThan]

theorem valid_materializedTradableAt (hr : r.Valid) (hprior : EarlierThan observedAt prior)
    (hobserved : 0 ≤ observedAt ∧ observedAt ≤ maxInt64) :
    (∀ n ∈ (materializedTradableAt r prior observedAt).1, 0 ≤ n ∧ n ≤ maxInt64) ∧
      (materializedTradableAt r prior observedAt).1.isNone =
        (materializedTradableAt r prior observedAt).2.isNone := by
  unfold materializedTradableAt
  split
  · exact ⟨hr.tradableAtNs, hr.tradableAt_paired⟩
  · split
    · rename_i p hp
      obtain ⟨hmem, -⟩ := Option.filter_eq_some_iff.1 hp
      have hvalid := (hprior p hmem).1.record
      exact ⟨hvalid.tradableAtNs, hvalid.tradableAt_paired⟩
    · split
      · refine ⟨?_, rfl⟩
        rintro n ⟨⟩
        exact hobserved
      · exact ⟨by simp, rfl⟩

theorem valid_materializedTurnover (hr : r.Valid) (hprior : EarlierThan observedAt prior) :
    ∀ t ∈ materializedTurnover r prior, t.1.currency = r.quoteAsset := by
  unfold materializedTurnover
  split
  · exact hr.turnover
  · rename_i p
    split_ifs with hcurrent
    · exact hr.turnover
    · simp only [Bool.or_eq_true, decide_eq_true_eq, not_or, not_not] at hcurrent
      rw [← hcurrent.2]
      exact (hprior p rfl).1.record.turnover

/-- The state of a materialized record: a delisted one awaits a relisting, a tradable one awaits
nothing, and any other stays in its state. -/
theorem materializedState_cases (r : RecordFields) (prior : Option CatalogFields) :
    r.lifecyclePhase = .delisted ∧ materializedState r prior = .relistPending ∨
      r.lifecyclePhase ≠ .delisted ∧ r.tradable = true ∧
        materializedState r prior = .baseline ∨
      r.lifecyclePhase ≠ .delisted ∧
        materializedState r prior = prior.elim .pending (·.listingState) ∧
        (r.tradable = true →
          (prior.elim .pending (·.listingState) : ListingState).awaitsTrading = false) := by
  unfold materializedState
  dsimp only
  split_ifs with hdelisted hawaits
  · exact .inl ⟨hdelisted, rfl⟩
  · exact .inr (.inl ⟨hdelisted, (Bool.and_eq_true _ _ ▸ hawaits).1, rfl⟩)
  · refine .inr (.inr ⟨hdelisted, rfl, ?_⟩)
    intro htradable
    simpa [htradable] using hawaits

theorem record_materialized (hr : r.Valid) (hprior : EarlierThan observedAt prior)
    (hobserved : 0 ≤ observedAt ∧ observedAt ≤ maxInt64) :
    (materializedFields r prior observedAt).toRecordFields.Valid := by
  obtain ⟨hat, hpaired⟩ := valid_materializedTradableAt hr hprior hobserved
  have hturnover := valid_materializedTurnover hr hprior
  exact { hr with tradableAtNs := hat, tradableAt_paired := hpaired, turnover := hturnover }

/-- A record without the history of an episode. -/
theorem valid_of_unretained {c : CatalogFields} (hrecord : c.toRecordFields.Valid)
    (hfirstSeen : 0 ≤ c.firstSeenNs) (hlastSeen : c.lastSeenNs ≤ maxInt64)
    (hseen : c.firstSeenNs ≤ c.lastSeenNs)
    (hfirst : ∀ t ∈ c.firstTradableSeenNs, c.firstSeenNs ≤ t ∧ t ≤ c.lastSeenNs)
    (hgeneration : 0 ≤ c.listingGeneration ∧ c.listingGeneration ≤ maxInt64)
    (hdelisted : c.lifecyclePhase ≠ .delisted)
    (hawaits : c.tradable = true → c.listingState.awaitsTrading = false)
    (hretains : c.listingState.retainsEpisode = false) (hterminal : c.lastTerminalSeenNs = none)
    (hstarted : c.newListingStartedAtNs = none) (hsource : c.newListingSource = none)
    (heligible : c.newListingEligible = decide (c.listingState = .activeNew)) : c.Valid := by
  have hactive : c.listingState ≠ .activeNew := by
    intro h
    rw [h] at hretains
    cases hretains
  have hrelist : c.listingState ≠ .relistPending := by
    intro h
    rw [h] at hretains
    cases hretains
  exact {
    record := hrecord
    firstSeenNs := hfirstSeen
    lastSeenNs := hlastSeen
    seen := hseen
    awaitsTrading := hawaits
    delisted := fun h => absurd h hdelisted
    firstTradable := hfirst
    generation := hgeneration
    terminal := by simp [hterminal]
    terminal_isSome := fun h => absurd h hrelist
    terminal_retained := by simp [hterminal]
    terminal_delisted := fun h => absurd h hdelisted
    started := by simp [hstarted]
    started_paired := by simp [hstarted, hsource]
    eligible := heligible
    started_retained := by simp [hstarted]
    started_isSome := fun h => absurd h hactive
    started_after := fun h => absurd h hactive
    started_tradable := by simp [hstarted]
    started_firstTradable := by simp [hsource] }

/-- The first sight of a trade is between the sights of the instrument. -/
theorem firstTradable_materialized (hprior : EarlierThan observedAt prior) :
    let c := materializedFields r prior observedAt
    (∀ t ∈ c.firstTradableSeenNs, c.firstSeenNs ≤ t ∧ t ≤ c.lastSeenNs) ∧
      c.firstSeenNs ≤ c.lastSeenNs ∧
      ∀ p ∈ prior, p.firstTradableSeenNs.isSome = true →
        c.firstTradableSeenNs = p.firstTradableSeenNs := by
  intro c
  cases prior with
  | none =>
    refine ⟨?_, le_refl _, by simp⟩
    intro t ht
    have htime : t = observedAt := by
      cases htradable : r.tradable <;> simp_all [c, materializedFields]
    rw [htime]
    exact ⟨le_refl _, le_refl _⟩
  | some p =>
    obtain ⟨hp, hearlier⟩ := hprior p rfl
    have hseen := hp.seen
    have hfirst : c.firstTradableSeenNs = if r.tradable && p.firstTradableSeenNs.isNone
      then some observedAt else p.firstTradableSeenNs := rfl
    have hbetween : p.firstSeenNs ≤ observedAt := by omega
    refine ⟨?_, hbetween, ?_⟩
    · intro t ht
      rw [hfirst] at ht
      split at ht
      · cases ht
        exact ⟨hbetween, le_refl _⟩
      · have ht := hp.firstTradable t ht
        exact ⟨ht.1, ht.2.trans hearlier.le⟩
    · rintro p' ⟨⟩ hsome
      rw [hfirst, if_neg]
      simp [Option.isSome_iff_ne_none.1 hsome]

/-- A materialized record that keeps the history of an episode. -/
theorem valid_of_retained {p : CatalogFields} (hr : r.Valid)
    (hprior : EarlierThan observedAt (some p))
    (hobserved : 0 ≤ observedAt ∧ observedAt ≤ maxInt64)
    (hretains : (materializedState r (some p)).retainsEpisode = true)
    (hstate : r.lifecyclePhase = .delisted ∧ materializedState r (some p) = .relistPending ∨
      r.lifecyclePhase ≠ .delisted ∧ materializedState r (some p) = p.listingState ∧
        (r.tradable = true → p.listingState.awaitsTrading = false)) :
    (materializedFields r (some p) observedAt).Valid := by
  obtain ⟨hfirst, hseen, hkept⟩ := firstTradable_materialized (r := r) hprior
  obtain ⟨hp, hearlier⟩ := hprior p rfl
  have hkept := hkept p rfl
  have hphase := hr.phase
  have hrecord := record_materialized hr hprior hobserved
  generalize hc : materializedFields r (some p) observedAt = c at *
  have hlisting : c.listingState = materializedState r (some p) := by rw [← hc]; rfl
  have hlast : c.lastSeenNs = observedAt := by rw [← hc]; rfl
  have hfirstSeen : c.firstSeenNs = p.firstSeenNs := by rw [← hc]; rfl
  have hgeneration : c.listingGeneration = p.listingGeneration := by rw [← hc]; rfl
  have heligible : c.newListingEligible = decide (c.listingState = .activeNew) := by
    rw [← hc]
    rfl
  have hlifecycle : c.lifecyclePhase = r.lifecyclePhase := by rw [← hc]; rfl
  have htradable : c.tradable = r.tradable := by rw [← hc]; rfl
  have hfiltered : (some p).filter (fun _ => (materializedState r (some p)).retainsEpisode) =
      some p := by
    rw [hretains]
    rfl
  have hstarted : c.newListingStartedAtNs = p.newListingStartedAtNs := by
    simp [← hc, materializedFields, hfiltered]
  have hsource : c.newListingSource = p.newListingSource := by
    simp [← hc, materializedFields, hfiltered]
  have hterminal : c.lastTerminalSeenNs =
      if r.lifecyclePhase = .delisted then some observedAt else p.lastTerminalSeenNs := by
    simp [← hc, materializedFields, hfiltered]
  have hold := hp.seen
  -- The listing is active only as the prior one, with the evidence of the prior one.
  have hactive : c.listingState = .activeNew →
      p.listingState = .activeNew ∧ c.lastTerminalSeenNs = p.lastTerminalSeenNs := by
    intro h
    rw [hlisting] at h
    rcases hstate with ⟨-, hrelist⟩ | ⟨hdelisted, hsame, -⟩
    · rw [hrelist] at h
      cases h
    · exact ⟨hsame ▸ h, by rw [hterminal, if_neg hdelisted]⟩
  exact {
    record := hrecord
    firstSeenNs := hfirstSeen ▸ hp.firstSeenNs
    lastSeenNs := hlast ▸ hobserved.2
    seen := hseen
    awaitsTrading := fun h => by
      rw [htradable] at h
      rcases hstate with ⟨hdelisted, -⟩ | ⟨-, hsame, hawaits⟩
      · rw [hphase.2 h] at hdelisted
        cases hdelisted
      · rw [hlisting, hsame]
        exact hawaits h
    delisted := fun h => by
      rcases hstate with ⟨-, hrelist⟩ | ⟨hdelisted, -, -⟩
      · rw [hlisting, hrelist]
      · exact absurd (hlifecycle ▸ h) hdelisted
    firstTradable := hfirst
    generation := hgeneration ▸ hp.generation
    terminal := fun t ht => by
      rw [hfirstSeen, hlast]
      rw [hterminal] at ht
      split at ht
      · cases ht
        omega
      · have := hp.terminal t ht
        omega
    terminal_isSome := fun h => by
      rw [hterminal]
      split
      · rfl
      · rename_i hdelisted
        rcases hstate with ⟨hyes, -⟩ | ⟨-, hsame, -⟩
        · exact absurd hyes hdelisted
        · exact hp.terminal_isSome (hsame ▸ hlisting ▸ h)
    terminal_retained := fun _ => hlisting ▸ hretains
    terminal_delisted := fun h => by
      rw [hterminal, hlast, if_pos (hlifecycle ▸ h)]
    started := hstarted ▸ hp.started
    started_paired := by rw [hstarted, hsource, hp.started_paired]
    eligible := heligible
    started_retained := fun _ => hlisting ▸ hretains
    started_isSome := fun h => hstarted ▸ hp.started_isSome (hactive h).1
    started_after := fun h => by
      rw [(hactive h).2, hstarted]
      exact hp.started_after (hactive h).1
    started_tradable := fun started h => by
      rw [hstarted] at h
      obtain ⟨t, ht, hle⟩ := hp.started_tradable started h
      rw [hkept (Option.isSome_of_mem ht)]
      exact ⟨t, ht, hle⟩
    started_firstTradable := fun h => by
      rw [hsource] at h
      have hsame := hp.started_firstTradable h
      have hpaired := hp.started_paired
      rw [h] at hpaired
      have hsome : p.firstTradableSeenNs.isSome = true := by
        rw [← hsame, Option.isSome_iff_ne_none]
        intro hnone
        rw [hnone] at hpaired
        cases hpaired
      rw [hstarted, hkept hsome, hsame] }

/-- A materialized record passes its checks. -/
theorem valid_materialized (hr : r.Valid) (hprior : EarlierThan observedAt prior)
    (hobserved : 0 ≤ observedAt ∧ observedAt ≤ maxInt64) :
    (materializedFields r prior observedAt).Valid := by
  obtain ⟨hfirst, hseen, hkept⟩ := firstTradable_materialized (r := r) hprior
  have hrecord := record_materialized hr hprior hobserved
  have hgeneration : 0 ≤ (materializedFields r prior observedAt).listingGeneration ∧
      (materializedFields r prior observedAt).listingGeneration ≤ maxInt64 := by
    cases prior with
    | none => exact ⟨le_refl _, (by decide : (0 : Int) ≤ maxInt64)⟩
    | some p => exact (hprior p rfl).1.generation
  have hfirstSeen : 0 ≤ (materializedFields r prior observedAt).firstSeenNs := by
    cases prior with
    | none => exact hobserved.1
    | some p => exact (hprior p rfl).1.firstSeenNs
  cases hretains : (materializedState r prior).retainsEpisode with
  | false =>
    have hfiltered : prior.filter (fun _ => (materializedState r prior).retainsEpisode) = none := by
      rw [hretains]
      cases prior <;> rfl
    have hdelisted : r.lifecyclePhase ≠ .delisted := by
      intro hdelisted
      rcases materializedState_cases r prior with ⟨-, h⟩ | ⟨h, -⟩ | ⟨h, -⟩
      · rw [h] at hretains
        cases hretains
      · exact h hdelisted
      · exact h hdelisted
    have hawaits : r.tradable = true → (materializedState r prior).awaitsTrading = false := by
      intro htradable
      rcases materializedState_cases r prior with ⟨h, -⟩ | ⟨-, -, h⟩ | ⟨-, h, hawaits⟩
      · exact absurd h hdelisted
      · rw [h]
        rfl
      · rw [h]
        exact hawaits htradable
    exact valid_of_unretained hrecord hfirstSeen hobserved.2 hseen hfirst hgeneration hdelisted
      hawaits hretains (by simp [materializedFields, hdelisted, hfiltered])
      (by simp [materializedFields, hfiltered]) (by simp [materializedFields, hfiltered]) rfl
  | true =>
    cases prior with
    | some p =>
      refine valid_of_retained hr hprior hobserved hretains ?_
      rcases materializedState_cases r (some p) with h | ⟨-, -, h⟩ | h
      · exact .inl h
      · rw [h] at hretains
        cases hretains
      · exact .inr h
    | none =>
      -- Without a prior record, the history is the terminal observation alone.
      have hdelisted : r.lifecyclePhase = .delisted := by
        rcases materializedState_cases r none with ⟨h, -⟩ | ⟨-, -, h⟩ | ⟨-, h, -⟩
        · exact h
        · rw [h] at hretains
          cases hretains
        · rw [h] at hretains
          cases hretains
      have htradable : r.tradable = false := by
        have hphase := hr.phase
        simpa [hdelisted] using hphase
      have hstate : materializedState r none = .relistPending := if_pos hdelisted
      exact {
        record := hrecord
        firstSeenNs := hobserved.1
        lastSeenNs := hobserved.2
        seen := le_refl _
        awaitsTrading := fun h => absurd (htradable.symm.trans h) Bool.false_ne_true
        delisted := fun _ => hstate
        firstTradable := hfirst
        generation := hgeneration
        terminal := by simp [materializedFields, hdelisted]
        terminal_isSome := by simp [materializedFields, hdelisted]
        terminal_retained := fun _ => hretains
        terminal_delisted := by simp [materializedFields, hdelisted]
        started := by simp [materializedFields]
        started_paired := by simp [materializedFields]
        eligible := rfl
        started_retained := fun _ => hretains
        started_isSome := by simp [materializedFields, hstate]
        started_after := by simp [materializedFields]
        started_tradable := by simp [materializedFields]
        started_firstTradable := by simp [materializedFields] }

end Materialized

/-! ## Decisions -/

section Decisions

variable {observedAt : Int} {d : Decision} {c : CatalogFields}

/-- What a new listing needs: it is tradable, and its listing time is a start of an episode that
follows the terminal observation. -/
structure Starts (observedAt : Int) (d : Decision) (c : CatalogFields) : Prop where
  tradable : c.tradable = true
  start : ∃ start, (timedFields observedAt d c).tradableAtNs = some start ∧ start ≤ observedAt ∧
    ((timedFields observedAt d c).tradableAtSource = some .firstTradableSeen →
      start = observedAt) ∧
    ∀ t ∈ d.relistingTerminalSeenNs, c.firstSeenNs ≤ t ∧ t ≤ c.lastSeenNs ∧ t < start

/-- A replaced listing time starts an episode. -/
theorem starts_of_retimed (htradable : c.tradable = true) (hretimed : d.retimed = true)
    (hterminal : ∀ t ∈ d.relistingTerminalSeenNs,
      c.firstSeenNs ≤ t ∧ t ≤ c.lastSeenNs ∧ t < observedAt) : Starts observedAt d c where
  tradable := htradable
  start := ⟨observedAt, by simp [timedFields, hretimed], le_refl _, fun _ => rfl, hterminal⟩

theorem officialTime_eq_some {t : Int} (h : officialTime c = some t) :
    c.tradableAtNs = some t ∧ c.tradableAtSource ≠ some .firstTradableSeen := by
  unfold officialTime at h
  split at h
  · rename_i hofficial
    refine ⟨h, ?_⟩
    intro hsource
    rw [hsource] at hofficial
    cases hofficial
  · cases h

/-- An official listing time that was observed starts an episode. -/
theorem starts_of_official {start : Int} (htradable : c.tradable = true)
    (hretimed : d.retimed = false) (hofficial : officialTime c = some start)
    (hstart : start ≤ observedAt)
    (hterminal : ∀ t ∈ d.relistingTerminalSeenNs,
      c.firstSeenNs ≤ t ∧ t ≤ c.lastSeenNs ∧ t < start) : Starts observedAt d c where
  tradable := htradable
  start := by
    obtain ⟨hat, hsource⟩ := officialTime_eq_some hofficial
    refine ⟨start, by simp [timedFields, hretimed, hat], hstart, ?_, hterminal⟩
    intro hfirst
    exact absurd (by simpa [timedFields, hretimed] using hfirst) hsource

/-- A new listing passes its checks. -/
theorem valid_activated {old : Option CatalogFields} (hc : (timedFields observedAt d c).Valid)
    (hlast : c.lastSeenNs = observedAt) (hstarts : Starts observedAt d c)
    (hgeneration : ∀ o ∈ old, 0 ≤ o.listingGeneration ∧ o.listingGeneration < maxInt64) :
    (activatedFields observedAt old d.relistingTerminalSeenNs
      (timedFields observedAt d c)).Valid := by
  obtain ⟨start, hstart, hle, hsource, hterminal⟩ := hstarts.start
  have hphase : c.lifecyclePhase = .tradable := hc.record.phase.2 hstarts.tradable
  have hseen : c.firstSeenNs ≤ c.lastSeenNs := hc.seen
  have hat := hc.record.tradableAtNs start hstart
  have hpaired := hc.record.tradableAt_paired
  have hnotDelisted : ¬ (timedFields observedAt d c).lifecyclePhase = .delisted := by
    intro h
    change c.lifecyclePhase = .delisted at h
    rw [hphase] at h
    cases h
  exact {
    record := hc.record
    firstSeenNs := hc.firstSeenNs
    lastSeenNs := hc.lastSeenNs
    seen := hc.seen
    awaitsTrading := fun _ => rfl
    delisted := fun h => absurd h hnotDelisted
    firstTradable := by
      rintro t ⟨⟩
      exact ⟨hlast ▸ hseen, hlast.ge⟩
    generation := by
      cases old with
      | none =>
        change (0 : Int) ≤ 1 ∧ (1 : Int) ≤ maxInt64
        decide
      | some o =>
        obtain ⟨hnonneg, hlt⟩ := hgeneration o rfl
        change 0 ≤ o.listingGeneration + 1 ∧ o.listingGeneration + 1 ≤ maxInt64
        omega
    terminal := fun t ht => ⟨(hterminal t ht).1, (hterminal t ht).2.1⟩
    terminal_isSome := nofun
    terminal_retained := fun _ => rfl
    terminal_delisted := fun h => absurd h hnotDelisted
    started := hc.record.tradableAtNs
    started_paired := hpaired
    eligible := rfl
    started_retained := fun _ => rfl
    started_isSome := fun _ => Option.isSome_of_mem hstart
    started_after := by
      intro _ t ht started hstarted
      change (timedFields observedAt d c).tradableAtNs = some started at hstarted
      rw [hstart] at hstarted
      cases hstarted
      exact (hterminal t ht).2.2
    started_tradable := by
      intro started hstarted
      change (timedFields observedAt d c).tradableAtNs = some started at hstarted
      rw [hstart] at hstarted
      cases hstarted
      exact ⟨observedAt, rfl, hle⟩
    started_firstTradable := by
      intro h
      change (timedFields observedAt d c).tradableAtNs = some observedAt
      rw [hstart, hsource h] }

/-- A record in its own state. -/
theorem withListingState_self (hc : c.Valid) : withListingState c c.listingState = c := by
  have hterminal : (if c.listingState = .relistPending ∧ c.lifecyclePhase = .delisted then
      some c.lastSeenNs else if c.listingState.retainsEpisode then c.lastTerminalSeenNs
      else none) = c.lastTerminalSeenNs := by
    split
    · rename_i h
      exact (hc.terminal_delisted h.2).symm
    · cases hretains : c.listingState.retainsEpisode with
      | true => rfl
      | false => exact (hc.unretained hretains).1.symm
  have hstarted : (if c.listingState.retainsEpisode then c.newListingStartedAtNs else none) =
      c.newListingStartedAtNs := by
    cases hretains : c.listingState.retainsEpisode with
    | true => rfl
    | false => exact (hc.unretained hretains).2.1.symm
  have hsource : (if c.listingState.retainsEpisode then c.newListingSource else none) =
      c.newListingSource := by
    cases hretains : c.listingState.retainsEpisode with
    | true => rfl
    | false => exact (hc.unretained hretains).2.2.symm
  rw [withListingState, hterminal, hstarted, hsource, ← hc.eligible]

/-- A record in another state that keeps no history. -/
theorem valid_withListingState {state : ListingState} (hc : c.Valid)
    (hdelisted : c.lifecyclePhase ≠ .delisted) (hretains : state.retainsEpisode = false)
    (hawaits : c.tradable = true → state.awaitsTrading = false) :
    (withListingState c state).Valid :=
  valid_of_unretained hc.record hc.firstSeenNs hc.lastSeenNs hc.seen hc.firstTradable hc.generation
    hdelisted hawaits hretains (by simp [withListingState, hdelisted, hretains])
    (by simp [withListingState, hretains]) (by simp [withListingState, hretains]) rfl

/-- A decision whose record passes its checks. -/
structure Sound (observedAt : Int) (d : Decision) (c : CatalogFields) : Prop where
  new : d.isNewListing = true → Starts observedAt d c
  kept : d.isNewListing = false → d.retimed = false ∧ (withListingState c d.listingState).Valid

/-- A decision that keeps the state. -/
theorem sound_of_kept (hc : c.Valid) (hnew : d.isNewListing = false) (hretimed : d.retimed = false)
    (hstate : d.listingState = c.listingState) : Sound observedAt d c where
  new h := by
    rw [hnew] at h
    cases h
  kept _ := ⟨hretimed, by rw [hstate, withListingState_self hc]; exact hc⟩

theorem starts_of_recent {lookback : Int} (htradable : c.tradable = true)
    (hretimed : d.retimed = false) (hterminal : d.relistingTerminalSeenNs = none)
    (h : officialRecent lookback observedAt c = true) : Starts observedAt d c := by
  simp only [officialRecent, Bool.and_eq_true, Option.any_eq_true, decide_eq_true_eq] at h
  obtain ⟨-, start, hofficial, hle, -⟩ := h
  exact starts_of_official htradable hretimed hofficial hle (by simp [hterminal])

/-- A first sight that is no new listing. -/
theorem sound_untraded {record : InstrumentRecord}
    (hobserved : 0 ≤ observedAt ∧ observedAt ≤ maxInt64) (official : Bool) :
    let c := materializedFields record.1 none observedAt
    Sound observedAt { listingState := untradedState official c, isNewListing := false } c := by
  intro c
  have hr := RecordFields.check_eq_none.1 record.2
  have hc : c.Valid := valid_materialized hr earlierThan_none hobserved
  have hphase := hr.phase
  have hstate : c.listingState = materializedState record.1 none := rfl
  have hlifecycle : c.lifecyclePhase = record.1.lifecyclePhase := rfl
  cases hp : record.1.lifecyclePhase with
  | delisted =>
    refine sound_of_kept hc rfl rfl ?_
    rw [hstate, materializedState, if_pos hp, untradedState, hlifecycle, hp]
  | tradable =>
    refine sound_of_kept hc rfl rfl ?_
    have htradable := hphase.1 hp
    simp [hstate, materializedState, hp, htradable, untradedState, hlifecycle,
      ListingState.awaitsTrading]
  | preopen | unknown | paused =>
    have htradable : c.tradable = false := by
      change record.1.tradable = false
      simpa [hp] using hphase
    refine ⟨fun h => absurd h Bool.false_ne_true, fun _ => ⟨rfl, valid_withListingState hc (by simp [hlifecycle, hp]) ?_ ?_⟩⟩
    · cases official <;> simp [untradedState, hlifecycle, hp, ListingState.retainsEpisode]
    · simp [htradable]

/-- The decision at a first sight. -/
theorem sound_firstDecision {record : InstrumentRecord} (lookback : Int) (isInitial : Bool)
    (hobserved : 0 ≤ observedAt ∧ observedAt ≤ maxInt64)
    (hsource : record.1.tradableAtSource ≠ some .firstTradableSeen) :
    let c := materializedFields record.1 none observedAt
    Sound observedAt (firstDecision lookback observedAt isInitial c) c := by
  intro c
  unfold firstDecision
  split_ifs with hrecent hinitial htradable
  · simp only [Bool.and_eq_true] at hrecent
    exact ⟨fun _ => starts_of_recent hrecent.1.2 rfl rfl hrecent.2, fun h => by cases h⟩
  · exact sound_untraded hobserved _
  · refine ⟨fun _ => ?_, fun h => by cases h⟩
    cases hretimed : c.tradableAtNs.any fun t => decide (observedAt < t) with
    | true => exact starts_of_retimed htradable rfl fun _ h => by cases h
    | false =>
      -- A listing time that is not later is the reported one, or the time of the snapshot.
      change record.1.tradable = true at htradable
      have hat : c.tradableAtNs = (materializedTradableAt record.1 none observedAt).1 := rfl
      have hatSource : c.tradableAtSource = (materializedTradableAt record.1 none observedAt).2 :=
        rfl
      refine ⟨htradable, ?_⟩
      simp only [timedFields, Bool.false_eq_true, if_false]
      cases hreported : record.1.tradableAtNs with
      | some t =>
        simp only [materializedTradableAt, hreported, Option.isSome_some, if_true] at hat hatSource
        rw [hat] at hretimed ⊢
        refine ⟨t, rfl, by simpa using hretimed, ?_, fun _ h => by cases h⟩
        rw [hatSource]
        exact fun h => absurd h hsource
      | none =>
        simp only [materializedTradableAt, hreported, Option.isSome_none, Bool.false_eq_true,
          if_false, Option.filter_none, htradable, if_true] at hat
        rw [hat]
        exact ⟨observedAt, rfl, le_refl _, fun _ => rfl, fun _ h => by cases h⟩
  · exact sound_untraded hobserved _

/-- The decision at a later sight. -/
theorem sound_nextDecision {record : InstrumentRecord} {o : CatalogFields} (ho : o.Valid)
    (hearlier : o.lastSeenNs < observedAt)
    (hobserved : 0 ≤ observedAt ∧ observedAt ≤ maxInt64) :
    let c := materializedFields record.1 (some o) observedAt
    ∃ d, nextDecision observedAt o c = .ok d ∧ Sound observedAt d c := by
  intro c
  have hr := RecordFields.check_eq_none.1 record.2
  have hprior : EarlierThan observedAt (some o) := by
    rintro p ⟨⟩
    exact ⟨ho, hearlier⟩
  have hc : c.Valid := valid_materialized hr hprior hobserved
  have hstate : c.listingState = materializedState record.1 (some o) := rfl
  have hphase := hc.record.phase
  unfold nextDecision
  split_ifs with hdelisted hrelisting hpending
  · refine ⟨_, rfl, sound_of_kept hc rfl rfl ?_⟩
    rw [hc.delisted hdelisted]
  · obtain ⟨hrelist, htradable⟩ := hrelisting
    obtain ⟨t, ht⟩ := Option.isSome_iff_exists.1 (ho.terminal_isSome hrelist)
    have hbetween := ho.terminal t ht
    have hfirst : c.firstSeenNs = o.firstSeenNs := rfl
    have hlast : c.lastSeenNs = observedAt := rfl
    rw [ht]
    refine ⟨_, rfl, ⟨fun _ => ?_, nofun⟩⟩
    cases hnew : hasNewOfficialTime observedAt t c with
    | false =>
      refine starts_of_retimed (hphase.1 htradable) rfl ?_
      rintro t' ⟨⟩
      omega
    | true =>
      simp only [hasNewOfficialTime, Option.any_eq_true, Bool.and_eq_true,
        decide_eq_true_eq] at hnew
      obtain ⟨start, hofficial, hle, hlt⟩ := hnew
      refine starts_of_official (hphase.1 htradable) rfl hofficial hle ?_
      rintro t' ⟨⟩
      omega
  · refine ⟨_, rfl, ⟨fun _ => ?_, nofun⟩⟩
    cases heligible : hasEligibleOfficialTime observedAt o c with
    | false => exact starts_of_retimed hpending.2 rfl nofun
    | true =>
      simp only [hasEligibleOfficialTime, Option.any_eq_true, Bool.and_eq_true,
        decide_eq_true_eq] at heligible
      obtain ⟨start, hofficial, floor, -, -, hle⟩ := heligible
      exact starts_of_official hpending.2 rfl hofficial hle nofun
  · refine ⟨_, rfl, sound_of_kept hc rfl rfl ?_⟩
    -- A state that awaits trading stays only while the instrument is not tradable.
    change ¬ record.1.lifecyclePhase = .delisted at hdelisted
    have hawaits : ¬ (record.1.tradable = true ∧ o.listingState.awaitsTrading = true) := by
      rintro ⟨htradable, hawaits⟩
      have htraded : c.lifecyclePhase = .tradable := hphase.2 htradable
      cases hlisting : o.listingState <;> simp_all [ListingState.awaitsTrading]
    have hcond : ¬ (record.1.tradable && o.listingState.awaitsTrading) = true := by
      rw [Bool.and_eq_true]
      exact hawaits
    simp only [hstate, materializedState, if_neg hdelisted, Option.elim_some]
    exact (if_neg hcond).symm

end Decisions

/-! ## Transitions -/

theorem valid_timed {observedAt : Int} {d : Decision} {c : CatalogFields} (hc : c.Valid)
    (hobserved : 0 ≤ observedAt ∧ observedAt ≤ maxInt64) : (timedFields observedAt d c).Valid := by
  refine { hc with record := { hc.record with tradableAtNs := ?_, tradableAt_paired := ?_ } }
  · intro n hn
    simp only [timedFields] at hn
    split at hn
    · cases hn
      exact hobserved
    · exact hc.record.tradableAtNs n hn
  · simp only [timedFields]
    split
    · rfl
    · exact hc.record.tradableAt_paired

theorem retime_eq {observedAt : Int} (d : Decision) (item : CatalogInstrument)
    (hobserved : 0 ≤ observedAt ∧ observedAt ≤ maxInt64) :
    ∃ timed, retime observedAt d item = .ok timed ∧ timed.1 = timedFields observedAt d item.1 := by
  have hvalid := CatalogFields.check_eq_none.2
    (valid_timed (d := d) (CatalogFields.check_eq_none.1 item.2) hobserved)
  unfold retime
  cases hretimed : d.retimed with
  | false => exact ⟨item, rfl, by simp [timedFields, hretimed]⟩
  | true =>
    have hsame : retimedFields observedAt item.1 = timedFields observedAt d item.1 := by
      simp [retimedFields, timedFields, hretimed]
    rw [if_pos rfl, hsame]
    exact ⟨⟨_, hvalid⟩, construct_of_valid hvalid, rfl⟩

/-- The rest of a transition, after the record was materialized and the decision was made. -/
theorem decided_total {observedAt : Int} {old : Option CatalogFields} {d : Decision}
    {c : CatalogFields} (hc : c.Valid) (hlast : c.lastSeenNs = observedAt)
    (hobserved : 0 ≤ observedAt ∧ observedAt ≤ maxInt64) (hsound : Sound observedAt d c)
    (hgeneration : ∀ o ∈ old, 0 ≤ o.listingGeneration ∧ o.listingGeneration < maxInt64) :
    (decidedFields observedAt old d (timedFields observedAt d c)).Valid := by
  rw [decidedFields]
  cases hnew : d.isNewListing with
  | true =>
    rw [if_pos rfl]
    exact valid_activated (valid_timed hc hobserved) hlast (hsound.new hnew) hgeneration
  | false =>
    obtain ⟨hretimed, hvalid⟩ := hsound.kept hnew
    rw [if_neg Bool.false_ne_true]
    simpa [timedFields, hretimed] using hvalid

/-- The decision about a materialized record. -/
theorem decision_total {observedAt : Int} (lookback : Int) (isInitial : Bool)
    {record : InstrumentRecord} {old : Option CatalogInstrument} (hobserved : 0 ≤ observedAt ∧ observedAt ≤ maxInt64)
    (hsource : record.1.tradableAtSource ≠ some .firstTradableSeen)
    (hold : ∀ o ∈ old, o.1.lastSeenNs < observedAt) :
    ∃ d, decision lookback observedAt isInitial (old.map (·.1))
      (materializedFields record.1 (old.map (·.1)) observedAt) = .ok d ∧
      Sound observedAt d (materializedFields record.1 (old.map (·.1)) observedAt) := by
  cases old with
  | none => exact ⟨_, rfl, sound_firstDecision lookback isInitial hobserved hsource⟩
  | some o => exact sound_nextDecision (CatalogFields.check_eq_none.1 o.2) (hold o rfl) hobserved

/-- The transition of a record at a later time returns. -/
theorem transition_total {observedAt : Int} (lookback : Int) (isInitial : Bool)
    {record : InstrumentRecord} {old : Option CatalogInstrument} (hobserved : 0 ≤ observedAt ∧ observedAt ≤ maxInt64)
    (hsource : record.1.tradableAtSource ≠ some .firstTradableSeen)
    (hold : ∀ o ∈ old, o.1.lastSeenNs < observedAt ∧ o.1.listingGeneration < maxInt64) :
    ∃ n isNew, transition lookback observedAt isInitial record old = .ok (n, isNew) := by
  have hprior : EarlierThan observedAt (old.map (·.1)) := by
    intro p hp
    obtain ⟨o, ho, rfl⟩ := Option.map_eq_some_iff.1 hp
    exact ⟨CatalogFields.check_eq_none.1 o.2, (hold o ho).1⟩
  have hgeneration : ∀ p ∈ old.map (·.1),
      0 ≤ p.listingGeneration ∧ p.listingGeneration < maxInt64 := by
    intro p hp
    obtain ⟨o, ho, rfl⟩ := Option.map_eq_some_iff.1 hp
    exact ⟨(CatalogFields.check_eq_none.1 o.2).generation.1, (hold o ho).2⟩
  have hc := valid_materialized (RecordFields.check_eq_none.1 record.2) hprior hobserved
  have hlast : (materializedFields record.1 (old.map (·.1)) observedAt).lastSeenNs =
      observedAt := rfl
  obtain ⟨d, hd, hsound⟩ := decision_total lookback isInitial hobserved hsource fun o ho =>
    (hold o ho).1
  unfold transition
  dsimp only
  generalize materializedFields record.1 (old.map (·.1)) observedAt = c at *
  have hcheck := CatalogFields.check_eq_none.2 hc
  obtain ⟨timed, htimed, htimedEq⟩ := retime_eq d ⟨c, hcheck⟩ hobserved
  have hdecided := CatalogFields.check_eq_none.2
    (decided_total hc hlast hobserved hsound hgeneration)
  rw [construct_of_valid hcheck, ok_bind, hd, ok_bind, htimed, ok_bind, htimedEq,
    construct_of_valid hdecided]
  exact ⟨⟨_, hdecided⟩, d.isNewListing, rfl⟩

end CryptoCollector.Selection
