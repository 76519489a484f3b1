import CryptoCollector.Selection.Runs
import Mathlib.Data.List.Induction

/-!
# Listing episodes

A new listing starts an episode, and a terminal observation ends it. The laws of the episodes of an
instrument hold over every run of writes.

* `persists`, `persists_until_delisted`: what a step keeps, a run keeps.
* `episodes`: generations, starts and the terminal observations between them.
-/

namespace CryptoCollector.Selection

open Lib

variable {codec : CatalogCodec} {scope : CatalogScope} {key : String}

/-! ## Runs of a key -/

theorem after_append_singleton (ops : List (CatalogOp scope)) (op : CatalogOp scope) :
    Tables.after codec (ops ++ [op]) = (op.exec (Tables.after codec ops)).2 := by
  simp [Tables.after, List.foldl_append]

/-- Every write of a run is a step of a key. -/
theorem step_after (ops : List (CatalogOp scope)) (op : CatalogOp scope)
    {r : Option CatalogInstrument} (hr : Records scope (Tables.after codec ops) key r) :
    ∃ isNew r', StepOf op (Tables.after codec ops) (Tables.after codec (ops ++ [op])) key r isNew
      r' := by
  obtain ⟨before, isNew, r', h⟩ := keyStep_exec (sound_after ops) op key
  obtain rfl := h.before.unique hr
  rw [← after_append_singleton] at h
  exact ⟨isNew, r', h⟩

/-- What every step keeps, a run keeps. -/
theorem persists {Q : CatalogInstrument → Prop}
    (hstep : ∀ {op : CatalogOp scope} {isInitial : Bool} {o : CatalogInstrument} {isNew : Bool}
      {r' : Option CatalogInstrument}, KeyStep op isInitial key (some o) isNew r' → Q o →
        ∃ n, r' = some n ∧ Q n)
    {before : List (CatalogOp scope)} {o : CatalogInstrument}
    (ho : Records scope (Tables.after codec before) key (some o)) (hQ : Q o)
    (more : List (CatalogOp scope)) :
    ∃ n, Records scope (Tables.after codec (before ++ more)) key (some n) ∧ Q n := by
  induction more using List.reverseRecOn with
  | nil => exact ⟨o, by simpa using ho, hQ⟩
  | append_singleton more op ih =>
    obtain ⟨n, hn, hQn⟩ := ih
    obtain ⟨isNew, r', h⟩ := step_after (before ++ more) op hn
    obtain ⟨n', rfl, hQn'⟩ := hstep h.step hQn
    exact ⟨n', by simpa using h.after, hQn'⟩

/-- An instrument is recorded as delisted. -/
def DelistedAt (scope : CatalogScope) (t : Tables codec) (key : String) : Prop :=
  ∃ d, Records scope t key (some d) ∧ d.1.lifecyclePhase = .delisted

/-- What every step keeps or ends with a terminal observation, a run keeps or has such an
observation. -/
theorem persists_until_delisted {Q : CatalogInstrument → Prop}
    (hstep : ∀ {op : CatalogOp scope} {isInitial : Bool} {o : CatalogInstrument} {isNew : Bool}
      {r' : Option CatalogInstrument}, KeyStep op isInitial key (some o) isNew r' → Q o →
        ∃ n, r' = some n ∧ (Q n ∨ n.1.lifecyclePhase = .delisted))
    {before : List (CatalogOp scope)} {o : CatalogInstrument}
    (ho : Records scope (Tables.after codec before) key (some o)) (hQ : Q o)
    (more : List (CatalogOp scope)) :
    (∃ n, Records scope (Tables.after codec (before ++ more)) key (some n) ∧ Q n) ∨
      ∃ mid rest, more = mid ++ rest ∧
        DelistedAt scope (Tables.after codec (before ++ mid)) key := by
  induction more using List.reverseRecOn with
  | nil => exact .inl ⟨o, by simpa using ho, hQ⟩
  | append_singleton more op ih =>
    rcases ih with ⟨n, hn, hQn⟩ | ⟨mid, rest, rfl, hmid⟩
    · obtain ⟨isNew, r', h⟩ := step_after (before ++ more) op hn
      obtain ⟨n', rfl, hQn' | hdelisted⟩ := hstep h.step hQn
      · exact .inl ⟨n', by simpa using h.after, hQn'⟩
      · exact .inr ⟨more ++ [op], [], by simp, n', by simpa using h.after, hdelisted⟩
    · exact .inr ⟨mid, rest ++ [op], by simp, hmid⟩

/-! ## Steps of an episode -/

/-- The generation of a record. -/
def generationOf (r : Option CatalogInstrument) : Int := r.elim 0 (·.1.listingGeneration)

theorem generation_keyStep {op : CatalogOp scope} {isInitial isNew : Bool}
    {r r' : Option CatalogInstrument} (h : KeyStep op isInitial key r isNew r') :
    generationOf r' = generationOf r + if isNew then 1 else 0 := by
  cases h with
  | same => simp
  | observed h => simp [generationOf, h]
  | moved hop hlater h =>
    cases h with
    | removed hkey hpresent h => simp [generationOf, h]
    | kept hkey hpresent => simp
    | seen record hrecord hkey h =>
      cases r with
      | none => simp [generationOf, (sighted_of_transition h).generation]
      | some o => exact (resighted_of_transition h).generation

/-- A record stays in the generation that it is in with its start, or it gets a new one. -/
theorem started_keyStep {op : CatalogOp scope} {isInitial isNew : Bool} {o : CatalogInstrument}
    {r' : Option CatalogInstrument} (h : KeyStep op isInitial key (some o) isNew r') :
    ∃ n, r' = some n ∧ n.1.listingGeneration = o.1.listingGeneration + (if isNew then 1 else 0) ∧
      (isNew = false → n.1.newListingStartedAtNs = o.1.newListingStartedAtNs) := by
  cases h with
  | same => exact ⟨o, rfl, by simp⟩
  | @observed _ n turnover h => exact ⟨n, rfl, by simp [h]⟩
  | moved hop hlater h =>
    cases h with
    | @removed _ n hkey hpresent h => exact ⟨n, rfl, by simp [h]⟩
    | kept hkey hpresent => exact ⟨o, rfl, by simp⟩
    | @seen _ _ n record hrecord hkey h =>
      have hseen := resighted_of_transition h
      exact ⟨n, rfl, hseen.generation, fun hnew => (hseen.started hnew).1⟩

/-- A state that awaits nothing stays until a terminal observation. -/
theorem state_keyStep {state : ListingState} (hstate : state.awaitsTrading = false)
    {op : CatalogOp scope} {isInitial isNew : Bool} {o : CatalogInstrument}
    {r' : Option CatalogInstrument} (h : KeyStep op isInitial key (some o) isNew r')
    (ho : o.1.listingState = state) :
    ∃ n, r' = some n ∧ (n.1.listingState = state ∨ n.1.lifecyclePhase = .delisted) := by
  cases h with
  | same => exact ⟨o, rfl, .inl ho⟩
  | @observed _ n turnover h => exact ⟨n, rfl, .inl (by simp [h, ho])⟩
  | moved hop hlater h =>
    cases h with
    | @removed _ n hkey hpresent h => exact ⟨n, rfl, .inl (by simp [h, ho])⟩
    | kept hkey hpresent => exact ⟨o, rfl, .inl ho⟩
    | @seen _ isNew n record hrecord hkey h =>
      have hseen := resighted_of_transition h
      have hnew : isNew = false := by
        cases isNew with
        | false => rfl
        | true =>
          have := (hseen.awaited rfl).1
          rw [ho, hstate] at this
          cases this
      subst hnew
      refine ⟨n, rfl, ?_⟩
      by_cases hdelisted : n.1.lifecyclePhase = .delisted
      · exact .inr hdelisted
      · exact .inl (by simpa [hdelisted, ho] using hseen.state)

/-- The terminal evidence of a record is not older than a time. -/
def TerminalSince (time : Int) (o : CatalogInstrument) : Prop :=
  o.1.listingState.retainsEpisode = true ∧ ∃ t, o.1.lastTerminalSeenNs = some t ∧ time ≤ t

theorem terminalSince_keyStep {time : Int} {op : CatalogOp scope} {isInitial isNew : Bool}
    {o : CatalogInstrument} {r' : Option CatalogInstrument}
    (h : KeyStep op isInitial key (some o) isNew r') (ho : TerminalSince time o) :
    ∃ n, r' = some n ∧ TerminalSince time n := by
  obtain ⟨hretains, t, ht, hle⟩ := ho
  cases h with
  | same => exact ⟨o, rfl, hretains, t, ht, hle⟩
  | @observed _ n turnover h =>
    exact ⟨n, rfl, by simpa [h] using hretains, t, by simpa [h] using ht, hle⟩
  | @moved _ _ _ s lookback hscope hop hlater h =>
    cases h with
    | @removed _ n hkey hpresent h =>
      exact ⟨n, rfl, by simpa [h] using hretains, t, by simpa [h] using ht, hle⟩
    | kept hkey hpresent => exact ⟨o, rfl, hretains, t, ht, hle⟩
    | @seen _ isNew n record hrecord hkey h =>
      have hseen := resighted_of_transition h
      have hvalid := CatalogFields.check_eq_none.1 o.2
      refine ⟨n, rfl, ?_⟩
      cases isNew with
      | true =>
        -- Only a state that awaits a relisting both awaits trading and retains an episode.
        have hrelist : o.1.listingState = .relistPending := by
          have hawaits := (hseen.awaited rfl).1
          cases hstate : o.1.listingState <;> simp_all [ListingState.awaitsTrading,
            ListingState.retainsEpisode]
        refine ⟨by simp [hseen.state, ListingState.retainsEpisode], t, ?_, hle⟩
        simpa [hrelist, ht] using hseen.terminal
      | false =>
        by_cases hdelisted : n.1.lifecyclePhase = .delisted
        · refine ⟨by simp [hseen.state, hdelisted, ListingState.retainsEpisode],
            s.1.observedAtNs, by simpa [hdelisted] using hseen.terminal, ?_⟩
          have hlast := (hvalid.terminal t ht).2
          have hearlier := hlater o rfl
          omega
        · refine ⟨?_, t, ?_, hle⟩
          · rw [hseen.state]
            simpa [hdelisted] using hretains
          · simpa [hdelisted, ht] using hseen.terminal

/-- A new listing records its start, after the terminal evidence and no later than the write. -/
theorem started_of_new {op : CatalogOp scope} {isInitial : Bool}
    {r r' : Option CatalogInstrument} (h : KeyStep op isInitial key r true r') :
    ∃ n start, r' = some n ∧ n.1.listingState = .activeNew ∧
      n.1.newListingStartedAtNs = some start ∧ start ≤ op.observedAtNs ∧
      ∀ o ∈ r, ∀ time, TerminalSince time o → time < start := by
  cases h with
  | @moved _ _ _ s lookback hscope hop hlater h =>
    subst hop
    cases h with
    | @seen _ _ n record hrecord hkey h =>
      have hvalid := CatalogFields.check_eq_none.1 n.2
      have hactive : n.1.listingState = .activeNew := by
        cases r with
        | none => exact (sighted_of_transition h).state.2 rfl
        | some o => simpa using (resighted_of_transition h).state
      have hfirst : n.1.firstTradableSeenNs = some s.1.observedAtNs := by
        cases r with
        | none =>
          have hseen := sighted_of_transition h
          simpa [hseen.tradable rfl] using hseen.firstTradable
        | some o => simpa using (resighted_of_transition h).firstTradable
      obtain ⟨start, hstart⟩ := Option.isSome_iff_exists.1 (hvalid.started_isSome hactive)
      obtain ⟨t, ht, hle⟩ := hvalid.started_tradable start hstart
      rw [hfirst] at ht
      cases ht
      refine ⟨n, start, rfl, hactive, hstart, hle, ?_⟩
      intro o ho time htime
      cases ho
      have hstep : KeyStep (CatalogOp.snapshot s lookback hscope) isInitial key (some o) true
          (some n) :=
        .moved rfl hlater (.seen record hrecord hkey h)
      obtain ⟨n', hn', -, t, ht, hsince⟩ := terminalSince_keyStep hstep htime
      cases hn'
      exact lt_of_le_of_lt hsince (hvalid.started_after hactive t ht start hstart)

/-! ## The law of the episodes -/

/-- A terminal observation is terminal evidence. -/
theorem terminalSince_of_delisted {d : CatalogInstrument}
    (h : d.1.lifecyclePhase = .delisted) : TerminalSince d.1.lastSeenNs d := by
  have hvalid := CatalogFields.check_eq_none.1 d.2
  exact ⟨by simp [hvalid.delisted h, ListingState.retainsEpisode], d.1.lastSeenNs,
    hvalid.terminal_delisted h, le_refl _⟩

/-- An active new listing or a baseline instrument is not delisted. -/
theorem not_delistedAt {t : Tables codec} {n : CatalogInstrument}
    (hn : Records scope t key (some n)) (hstate : n.1.listingState ≠ .relistPending) :
    ¬ DelistedAt scope t key := by
  rintro ⟨d, hd, hdelisted⟩
  have hsame := hd.unique hn
  cases hsame
  exact hstate ((CatalogFields.check_eq_none.1 n.2).delisted hdelisted)

/-- The laws of the episodes of an instrument, after every run:

* a write adds one to its generation if it reports it as a new listing, and keeps it otherwise;
* its generation does not decrease, and the start of an episode is kept within its generation;
* an episode starts no later than the write that reports it and after every terminal observation
  before, and between two episodes there is such an observation;
* after a baseline record it is active only when a terminal observation came in between. -/
theorem episodes (codec : CatalogCodec) (scope : CatalogScope) (key : String)
    (before more : List (CatalogOp scope)) (op : CatalogOp scope) :
    let first := Tables.after codec before
    let last := Tables.after codec (before ++ more)
    let next := Tables.after codec (before ++ more ++ [op])
    (∀ r r', Records scope last key r → Records scope next key r' →
      (op.Reports last key → generationOf r' = generationOf r + 1) ∧
      (¬ op.Reports last key → generationOf r' = generationOf r)) ∧
    (∀ o n, Records scope first key (some o) → Records scope last key (some n) →
      o.1.listingGeneration ≤ n.1.listingGeneration ∧
      (o.1.listingGeneration = n.1.listingGeneration →
        n.1.newListingStartedAtNs = o.1.newListingStartedAtNs)) ∧
    (op.Reports last key → ∃ n start, Records scope next key (some n) ∧
      n.1.newListingStartedAtNs = some start ∧ start ≤ op.observedAtNs ∧
      (∀ d, Records scope first key (some d) → d.1.lifecyclePhase = .delisted →
        d.1.lastSeenNs < start) ∧
      ∀ earlier : CatalogOp scope, ∀ ops, before = ops ++ [earlier] →
        earlier.Reports (Tables.after codec ops) key →
        ∃ mid rest, more = mid ++ rest ∧
          DelistedAt scope (Tables.after codec (before ++ mid)) key) ∧
    ∀ o n, Records scope first key (some o) → o.1.listingState = .baseline →
      Records scope last key (some n) → n.1.listingState = .activeNew →
      ∃ mid rest, more = mid ++ rest ∧ rest ≠ [] ∧
        DelistedAt scope (Tables.after codec (before ++ mid)) key := by
  intro first last next
  refine ⟨?_, ?_, ?_, ?_⟩
  · intro r r' hr hr'
    obtain ⟨isNew, r'', h⟩ := step_after (before ++ more) op hr
    obtain rfl := h.after.unique hr'
    have hgeneration := generation_keyStep h.step
    constructor
    · intro hreports
      simpa [h.reports.2 hreports] using hgeneration
    · intro hreports
      have hnew : isNew = false := by
        cases isNew with
        | false => rfl
        | true => exact absurd (h.reports.1 rfl) hreports
      simpa [hnew] using hgeneration
  · intro o n ho hn
    obtain ⟨n', hn', hkept⟩ := persists
      (Q := fun n => o.1.listingGeneration ≤ n.1.listingGeneration ∧
        (o.1.listingGeneration = n.1.listingGeneration →
          n.1.newListingStartedAtNs = o.1.newListingStartedAtNs))
      (fun h hQ => by
        obtain ⟨n, hn, hgeneration, hstarted⟩ := started_keyStep h
        refine ⟨n, hn, ?_⟩
        rename_i isNew _
        cases isNew with
        | true =>
          simp only [if_true] at hgeneration
          exact ⟨by omega, fun heq => absurd heq (by omega)⟩
        | false =>
          simp only [Bool.false_eq_true, if_false, add_zero] at hgeneration
          exact ⟨by omega, fun heq => (hstarted rfl).trans (hQ.2 (by omega))⟩)
      ho ⟨le_refl _, fun _ => rfl⟩ more
    cases hn'.unique hn
    exact hkept
  · intro hreports
    have hsound : last.Sound scope := sound_after (before ++ more)
    obtain ⟨r, hr⟩ := hsound.encoded key
    obtain ⟨isNew, r', h⟩ := step_after (before ++ more) op hr
    obtain rfl := h.reports.2 hreports
    obtain ⟨n, start, rfl, hactive, hstart, hle, hafter⟩ := started_of_new h.step
    refine ⟨n, start, h.after, hstart, hle, ?_, ?_⟩
    · intro d hd hdelisted
      obtain ⟨o, ho, hsince⟩ := persists (fun h hQ => terminalSince_keyStep h hQ) hd
        (terminalSince_of_delisted hdelisted) more
      cases ho.unique hr
      exact hafter o rfl _ hsince
    · rintro earlier ops rfl hearlier
      have hsound₀ : (Tables.after codec ops).Sound scope := sound_after ops
      obtain ⟨r₀, hr₀⟩ := hsound₀.encoded key
      obtain ⟨isNew, r₁, h₁⟩ := step_after ops earlier hr₀
      obtain rfl := h₁.reports.2 hearlier
      obtain ⟨n₁, -, rfl, hactive₁, -⟩ := started_of_new h₁.step
      rcases persists_until_delisted (fun h hQ => state_keyStep rfl h hQ) h₁.after hactive₁ more
        with ⟨o, ho, hstate⟩ | hdelisted
      · -- A listing that is active is not reported as new.
        cases ho.unique hr
        have hstep := h.step
        cases hstep with
        | moved hop hlater hmoved =>
          cases hmoved with
          | seen record hrecord hkey htransition =>
            have hawaits := ((resighted_of_transition htransition).awaited rfl).1
            rw [hstate] at hawaits
            cases hawaits
      · exact hdelisted
  · intro o n ho hbaseline hn hactive
    rcases persists_until_delisted (fun h hQ => state_keyStep rfl h hQ) ho hbaseline more
      with ⟨n', hn', hstate⟩ | ⟨mid, rest, rfl, hdelisted⟩
    · cases hn'.unique hn
      rw [hstate] at hactive
      cases hactive
    · refine ⟨mid, rest, rfl, ?_, hdelisted⟩
      rintro rfl
      refine not_delistedAt (n := n) ?_ (by simp [hactive]) hdelisted
      simpa [last] using hn

end CryptoCollector.Selection
