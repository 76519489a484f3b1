import CryptoCollector.Storage.Barrier.Session

/-!
# The parts of a session

What every operation of a part keeps: each of its rows is reported as durable, waits in the buffer
or in a claim, or the part has counted a failure (`Part.Accounted`), and a frozen part keeps its
rows and its control events (`Part.Later`).
-/

namespace CryptoCollector.Storage

open Lib

namespace Part

/-- The rows of the claim in flight. -/
def claimRows (p : Part) : List Record := (p.claimed.map (·.rows)).getD []

/-- The failures that a part has counted. -/
def failures (p : Part) : Nat := p.accumulator.writeFailureCount + p.accumulator.syncFailureCount

/-- Where the rows of a part are; a claim that is settled has no batch. -/
structure Accounted (reported : List (GenerationId × Record)) (g : GenerationId) (p : Part) :
    Prop where
  rows : ∀ r ∈ p.rows, (g, r) ∈ reported ∨ r ∈ p.pending ∨ r ∈ p.claimRows ∨ p.failures ≠ 0
  events : p.accumulator.controlEventIds.Nodup
  frozen : p.accumulator.frozen = true → ∀ r ∈ p.rows, (g, r) ∈ reported
  batch : p.claimed = none → p.claimBatch = none

/-- `q` is the part `p` at a later time. -/
structure Later (p q : Part) : Prop where
  path : q.path = p.path
  events : ∀ e ∈ p.accumulator.controlEventIds, e ∈ q.accumulator.controlEventIds
  frozen : p.accumulator.frozen = true → q.accumulator.frozen = true ∧ q.rows = p.rows ∧
    q.accumulator.controlEventIds = p.accumulator.controlEventIds

theorem Later.refl (p : Part) : p.Later p := ⟨rfl, fun _ h => h, fun h => ⟨h, rfl, rfl⟩⟩

theorem Later.trans {p q r : Part} (h : p.Later q) (h' : q.Later r) : p.Later r where
  path := h'.path.trans h.path
  events := fun e he => h'.events e (h.events e he)
  frozen := fun hp =>
    have hq := h.frozen hp
    have hr := h'.frozen hq.1
    ⟨hr.1, hr.2.1.trans hq.2.1, hr.2.2.trans hq.2.2⟩

section Operations

variable {reported reported' : List (GenerationId × Record)} {g : GenerationId} {p : Part}

theorem Accounted.mono (h : p.Accounted reported g)
    (hsub : ∀ x ∈ reported, x ∈ reported') : p.Accounted reported' g where
  rows := fun r hr => (h.rows r hr).imp_left (hsub _)
  events := h.events
  frozen := fun hf r hr => hsub _ (h.frozen hf r hr)
  batch := h.batch

theorem later_append (limit : Nat) (r : Record) : p.Later (appendAccepted limit r p).2 := by
  unfold appendAccepted
  split
  · exact Later.refl p
  · split
    · exact Later.refl p
    · next hvalid =>
      split
      · exact Later.refl p
      · refine ⟨rfl, fun _ h => h, fun hfrozen => ?_⟩
        simp [validateRecord, hfrozen] at hvalid

theorem Accounted.append (h : p.Accounted reported g) (limit : Nat) (r : Record) :
    (appendAccepted limit r p).2.Accounted reported g := by
  unfold appendAccepted
  split
  · exact h
  · split
    · exact h
    · next hvalid =>
      split
      · exact h
      · refine ⟨?_, h.events, fun hfrozen => ?_, h.batch⟩
        · intro x hx
          rcases List.mem_append.1 hx with hx | hx
          · rcases h.rows x hx with hx | hx | hx | hx
            · exact .inl hx
            · exact .inr (.inl (List.mem_append_left _ hx))
            · exact .inr (.inr (.inl hx))
            · exact .inr (.inr (.inr hx))
          · exact .inr (.inl (List.mem_append_right _ hx))
        · have hfrozen : p.accumulator.frozen = true := hfrozen
          simp [validateRecord, hfrozen] at hvalid

theorem later_seal (force : Bool) : p.Later (sealForSync force p).2 := by
  unfold sealForSync
  split_ifs <;> exact ⟨rfl, fun _ h => h, fun h => ⟨h, rfl, rfl⟩⟩

theorem Accounted.seal (h : p.Accounted reported g) (force : Bool) :
    (sealForSync force p).2.Accounted reported g := by
  unfold sealForSync
  split
  · exact h
  · next hfree =>
    split
    · exact h
    · refine ⟨?_, h.events, h.frozen, fun hclaimed => by simp at hclaimed⟩
      intro r hr
      have hnone : p.claimed = none := by simpa using hfree
      rcases h.rows r hr with hr | hr | hr | hr
      · exact .inl hr
      · exact .inr (.inr (.inl hr))
      · simp [claimRows, hnone] at hr
      · exact .inr (.inr (.inr hr))

theorem later_oversized (limit : Nat) (r : Record) : p.Later (sealOversized limit r p).2 := by
  unfold sealOversized
  split
  · exact Later.refl p
  · split
    · exact Later.refl p
    · split
      · exact Later.refl p
      · split
        · exact Later.refl p
        · next hvalid =>
          refine ⟨rfl, fun _ h => h, fun hfrozen => ?_⟩
          simp [validateRecord, hfrozen] at hvalid

theorem Accounted.oversized (h : p.Accounted reported g) (limit : Nat) (r : Record) :
    (sealOversized limit r p).2.Accounted reported g := by
  unfold sealOversized
  split
  · exact h
  · split
    · exact h
    · next hquiet =>
      split
      · exact h
      · split
        · exact h
        · next hvalid =>
          have hnone : p.claimed = none := by
            rw [not_or] at hquiet
            simpa using hquiet.2
          refine ⟨?_, h.events, fun hfrozen => ?_, fun hclaimed => by simp at hclaimed⟩
          · intro x hx
            rcases List.mem_append.1 hx with hx | hx
            · rcases h.rows x hx with hx | hx | hx | hx
              · exact .inl hx
              · exact .inr (.inl hx)
              · simp [claimRows, hnone] at hx
              · exact .inr (.inr (.inr hx))
            · exact .inr (.inr (.inl hx))
          · have hfrozen : p.accumulator.frozen = true := hfrozen
            simp [validateRecord, hfrozen] at hvalid

/-- The accumulator is credited, or the completion is refused. -/
theorem accumulator_applyCompletion (slo : Nat) (result : FileDurabilityResult)
    (claims : List Record) (a : PartAccumulator) :
    (∃ e, a.applyCompletion slo result claims = (some e, a)) ∨
      a.frozen = false ∧ ∃ completed,
        a.applyCompletion slo result claims =
          (none, a.credit slo completed result.syncDurationNs claims) := by
  unfold PartAccumulator.applyCompletion
  split
  · exact .inl ⟨_, rfl⟩
  · next hfrozen =>
    split
    · exact .inl ⟨_, rfl⟩
    · split
      · exact .inl ⟨_, rfl⟩
      · next completed _ =>
        split
        · exact .inl ⟨_, rfl⟩
        · split
          · exact .inl ⟨_, rfl⟩
          · split
            · exact .inl ⟨_, rfl⟩
            · exact .inr ⟨by simpa using hfrozen, completed, rfl⟩

/-- A completion credits the claim in flight, or changes nothing. -/
theorem applyCompletion_cases (slo : Nat) (result : FileDurabilityResult) :
    (∃ e, applyCompletion slo result p = (some e, p)) ∨
      p.accumulator.frozen = false ∧ ∃ completed,
        applyCompletion slo result p = (none, { p with
          accumulator := p.accumulator.credit slo completed result.syncDurationNs p.claimRows
          claimed := none
          claimBatch := none }) := by
  unfold applyCompletion
  split
  · exact .inl ⟨_, rfl⟩
  · next claimed hclaimed =>
    have hrows : p.claimRows = claimed.rows := by simp [claimRows, hclaimed]
    split
    · exact .inl ⟨_, rfl⟩
    · rcases accumulator_applyCompletion slo result claimed.rows p.accumulator with
        ⟨e, he⟩ | ⟨hfrozen, completed, hcredit⟩
      · exact .inl ⟨e, by rw [he]⟩
      · exact .inr ⟨hfrozen, completed, by rw [hcredit, hrows]⟩

theorem later_completion (slo : Nat) (result : FileDurabilityResult) :
    p.Later (applyCompletion slo result p).2 := by
  rcases applyCompletion_cases (p := p) slo result with ⟨e, he⟩ | ⟨hfrozen, completed, hok⟩
  · rw [he]
    exact Later.refl p
  · rw [hok]
    exact ⟨rfl, fun _ h => h, fun h => by simp [hfrozen] at h⟩

/-- The rows of the claim are reported when its completion is applied. -/
theorem Accounted.completion (h : p.Accounted reported g) (slo : Nat)
    (result : FileDurabilityResult) (hsub : ∀ x ∈ reported, x ∈ reported')
    (hclaim : ∀ r ∈ p.claimRows, (g, r) ∈ reported') :
    (applyCompletion slo result p).2.Accounted reported' g := by
  rcases applyCompletion_cases (p := p) slo result with ⟨e, he⟩ | ⟨hfrozen, completed, hok⟩
  · rw [he]
    exact h.mono hsub
  · rw [hok]
    refine ⟨?_, h.events, fun hf => ?_, fun _ => rfl⟩
    · intro r hr
      rcases h.rows r hr with hr | hr | hr | hr
      · exact .inl (hsub _ hr)
      · exact .inr (.inl hr)
      · exact .inl (hclaim r hr)
      · exact .inr (.inr (.inr hr))
    · have hf : p.accumulator.frozen = true := hf
      simp [hfrozen] at hf

theorem failures_applyFailure (a : PartAccumulator) (e : Err) :
    (a.applyFailure e).writeFailureCount + (a.applyFailure e).syncFailureCount =
      a.writeFailureCount + a.syncFailureCount + 1 := by
  unfold PartAccumulator.applyFailure
  split <;> simp <;> omega

theorem later_failure (e : Err) : p.Later (applyFailure e p).2 := by
  unfold applyFailure
  split
  · exact Later.refl p
  · refine ⟨rfl, ?_, ?_⟩ <;> unfold PartAccumulator.applyFailure <;> split
    · exact fun _ h => h
    · exact fun _ h => h
    · exact fun h => ⟨h, rfl, rfl⟩
    · exact fun h => ⟨h, rfl, rfl⟩

theorem Accounted.failure (h : p.Accounted reported g) (e : Err) :
    (applyFailure e p).2.Accounted reported g := by
  unfold applyFailure
  split
  · exact h
  · refine ⟨fun r _ => .inr (.inr (.inr ?_)), ?_, ?_, fun _ => rfl⟩
    · have := failures_applyFailure p.accumulator e
      simp only [failures]
      omega
    · unfold PartAccumulator.applyFailure
      split <;> exact h.events
    · unfold PartAccumulator.applyFailure
      split <;> exact h.frozen

theorem later_fold (association : ControlAssociation) :
    p.Later (foldDurableControl association p).2 := by
  unfold foldDurableControl
  split
  · exact Later.refl p
  · next hvalid =>
    refine ⟨rfl, fun _ h => List.mem_append_left _ h, fun hfrozen => ?_⟩
    simp [PartAccumulator.validateDurableControl, hfrozen] at hvalid

theorem Accounted.fold (h : p.Accounted reported g) (association : ControlAssociation) :
    (foldDurableControl association p).2.Accounted reported g := by
  unfold foldDurableControl
  split
  · exact h
  · next hvalid =>
    refine ⟨h.rows, ?_, h.frozen, h.batch⟩
    have hnew : association.controlEventId ∉ p.accumulator.controlEventIds := by
      intro hmem
      simp only [PartAccumulator.validateDurableControl, hmem, if_true] at hvalid
      split_ifs at hvalid
    simpa [PartAccumulator.fold, List.nodup_append] using ⟨h.events, fun a ha => by
      rintro rfl
      exact hnew ha⟩

theorem later_freeze : p.Later (freezeSummary p).2 := by
  unfold freezeSummary
  split
  · exact Later.refl p
  · split
    · exact Later.refl p
    · exact ⟨rfl, fun _ h => h, fun _ => ⟨rfl, rfl, rfl⟩⟩

/-- A part can be frozen only when every row is reported. -/
theorem Accounted.freeze (h : p.Accounted reported g) :
    (freezeSummary p).2.Accounted reported g := by
  unfold freezeSummary
  split
  · exact h
  · next hquiet =>
    split
    · exact h
    · next hvalid =>
      refine ⟨h.rows, h.events, fun _ r hr => ?_, h.batch⟩
      rw [not_or] at hquiet
      have hpending : p.pending = [] := by simpa using hquiet.1
      have hclaimed : p.claimed = none := by simpa using hquiet.2
      have hfailures : p.failures = 0 := by
        unfold PartAccumulator.validateFreeze at hvalid
        split at hvalid
        · simp at hvalid
        · split at hvalid
          · simp at hvalid
          · split at hvalid
            · simp at hvalid
            · split at hvalid
              · simp at hvalid
              · split at hvalid
                · simp at hvalid
                · next hzero =>
                  rw [not_or, not_not, not_not] at hzero
                  simp [failures, hzero.1, hzero.2]
      rcases h.rows r hr with hr | hr | hr | hr
      · exact hr
      · simp [hpending] at hr
      · simp [claimRows, hclaimed] at hr
      · exact absurd hfailures hr

theorem later_retire (reason : CloseReason) (closedAtNs : Nat) :
    p.Later (p.retire reason closedAtNs) := by
  unfold retire
  split
  · exact Later.refl p
  · exact ⟨rfl, fun _ h => h, fun h => ⟨h, rfl, rfl⟩⟩

theorem Accounted.retire (h : p.Accounted reported g) (reason : CloseReason)
    (closedAtNs : Nat) : (p.retire reason closedAtNs).Accounted reported g := by
  unfold Part.retire
  split
  · exact h
  · exact ⟨h.rows, h.events, h.frozen, h.batch⟩

end Operations

end Part

/-! ## The parts of the controller -/

namespace Core

variable {c c' c'' : Core} {g h : GenerationId}

/-- Every part of the controller is accounted for. -/
def Accounted (reported : List (GenerationId × Record)) (c : Core) : Prop :=
  ∀ g p, c.parts.part? g = some p → p.Accounted reported g

/-- `c'` has the parts of `c` at a later time, and no descriptor was opened again. -/
structure Later (c c' : Core) : Prop where
  parts : ∀ g p, c.parts.part? g = some p → ∃ q, c'.parts.part? g = some q ∧ p.Later q
  closed : ∀ g, (c.disk.file g).closed = true → (c'.disk.file g).closed = true

theorem Later.refl (c : Core) : c.Later c :=
  ⟨fun _ p hp => ⟨p, hp, Part.Later.refl p⟩, fun _ h => h⟩

theorem Later.trans (h : c.Later c') (h' : c'.Later c'') : c.Later c'' where
  parts := by
    intro g p hp
    obtain ⟨q, hq, hpq⟩ := h.parts g p hp
    obtain ⟨r, hr, hqr⟩ := h'.parts g q hq
    exact ⟨r, hr, hpq.trans hqr⟩
  closed := fun g hg => h'.closed g (h.closed g hg)

/-- Run an operation of a part. -/
abbrev onPart (g : GenerationId) (f : Proc Err Part) : Proc Err Core :=
  onParts (ActivePartSet.onPart g f)

theorem part?_onPart (g : GenerationId) (f : Proc Err Part) (c : Core) (h : GenerationId) :
    (onPart g f c).2.parts.part? h =
      if h = g then (c.parts.part? h).map fun p => (f p).2 else c.parts.part? h := by
  unfold onPart onParts ActivePartSet.onPart
  dsimp only
  split
  · next hnone =>
    split
    · next heq => simp [heq, hnone]
    · rfl
  · next p hp =>
    simp only [ActivePartSet.part?, ActivePartSet.updatePart, Dict.get?_update]
    split
    · next heq =>
      have hp : c.parts.store.get? g = some p := hp
      simp [heq, hp]
    · rfl

theorem claimOf_onPart (g : GenerationId) (f : Proc Err Part) (c : Core) (h : GenerationId) :
    (onPart g f c).2.claimOf h =
      if h = g then (c.parts.part? h).bind fun p => (f p).2.claimed else c.claimOf h := by
  unfold claimOf
  rw [part?_onPart]
  split <;> cases c.parts.part? h <;> rfl

theorem later_onPart {f : Proc Err Part} (hf : ∀ p : Part, p.Later (f p).2) :
    c.Later (onPart g f c).2 where
  parts := by
    intro h p hp
    rw [part?_onPart, hp]
    split
    · exact ⟨(f p).2, rfl, hf p⟩
    · exact ⟨p, rfl, Part.Later.refl p⟩
  closed := fun _ h => h

theorem Accounted.onPart {reported : List (GenerationId × Record)} {f : Proc Err Part}
    (hc : c.Accounted reported)
    (hf : ∀ p, p.Accounted reported g → (f p).2.Accounted reported g) :
    (onPart g f c).2.Accounted reported := by
  intro h q hq
  rw [part?_onPart] at hq
  split at hq
  · next heq =>
    subst heq
    obtain ⟨p, hp, rfl⟩ := Option.map_eq_some_iff.1 hq
    exact hf p (hc h p hp)
  · exact hc h q hq

end Core

end CryptoCollector.Storage
