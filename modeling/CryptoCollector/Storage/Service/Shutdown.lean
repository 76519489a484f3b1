import CryptoCollector.Storage.Service.Lifecycle

/-!
# Admission after a stop

Once `close_all` or `mark_incomplete` has been called, or the writer has become critical, admission
is to stay closed. A rotation that was running at that moment still ends with its own write of the
lifecycle. `runLog_staysShut` holds for the runs in which no such late write happens
(`Timely`); `lateRotation` is a run in which one does.
-/

namespace CryptoCollector.Storage

open Lib Machine

/-- `close_all` or `mark_incomplete` has been called, or the writer has become critical. -/
def Writer.halted (w : Writer) : Bool :=
  w.history.stopRequested || decide (w.life.lifecycle = .critical)

/-- A call of `try_accept` that returns an accepted status. -/
def accepts {p : Params} : Entry (service p) → Bool
  | .step (.call (.tryAccept d shard)) w =>
    match (Writer.tryAccept p d shard w).1 with
    | .ok result => w.loop.opened &&
        (decide (result.status = .accepted) || decide (result.status = .acceptedHighWater))
    | .error _ => false
  | _ => false

/-- Two moments of a run, the first before the second: after a stop nothing is accepted and the
lifecycle is not ACCEPTING, and CRITICAL and CLOSED are not left. -/
def StaysShut {p : Params} (e e' : Entry (service p)) : Prop :=
  let w : Writer := e.state
  let w' : Writer := e'.state
  (w.halted = true → w'.life.lifecycle ≠ .accepting ∧ accepts e' = false) ∧
    (w.life.lifecycle = .critical → w'.life.lifecycle = .critical) ∧
    (w.life.lifecycle = .closed → w'.life.lifecycle = .closed)

instance {p : Params} : DecidableRel (StaysShut (p := p)) := fun _ _ =>
  inferInstanceAs (Decidable (_ ∧ _ ∧ _))

/-- The steps that end with the lifecycle ACCEPTING: the ends of startup, of a due rotation and of
a config rotation. -/
def Step.reopens : Step → Bool
  | .startupDone | .finishRotation | .commitConfig _ _ => true
  | _ => false

/-- The other steps that write the lifecycle without looking at it. -/
def Step.overwrites : Step → Bool
  | .enterRotating | .closeDone _ => true
  | _ => false

/-- No late write of the lifecycle: startup and rotations end while no stop is under way, and no
rotation or close writes over CRITICAL. -/
def Timely : Act → Writer → Prop
  | .step s, w =>
    (s.reopens = true → w.history.stopRequested = false ∧ w.life.criticalReason = none) ∧
      (s.overwrites = true → w.life.criticalReason = none)
  | _, _ => True

instance (a : Act) (w : Writer) : Decidable (Timely a w) :=
  match a with
  | .step _ => inferInstanceAs (Decidable (_ ∧ _))
  | .call _ | .tick | .storage _ | .resolveTask _ => isTrue trivial

namespace Phase

/-- Admission is shut after a stop, and CRITICAL and CLOSED agree with their flags. -/
structure Shut (s : Phase) : Prop where
  stopped : s.stopRequested = true ∨ s.critical = true →
    s.admission = .closed ∧ s.lifecycle ≠ .accepting
  critical : s.critical = true ↔ s.lifecycle = .critical
  closed : s.closed = true ↔ s.lifecycle = .closed
  stopping : s.closed = true → s.stopping = true

theorem shut_fail {s : Phase} (ho : s.closed = false) : s.fail.Shut where
  stopped _ := ⟨rfl, by simp [fail]⟩
  critical := by simp [fail]
  closed := by simp [fail, ho]
  stopping := by simp [fail, ho]

theorem shut_accepting {s : Phase} (a : AdmissionState) (hs : s.stopRequested = false)
    (hc : s.critical = false) (ho : s.closed = false) :
    Shut { s with lifecycle := .accepting, admission := a } where
  stopped := by simp [hs, hc]
  critical := by simp [hc]
  closed := by simp [ho]
  stopping := by simp [ho]

end Phase

theorem critical_eq_false {w : Writer} (h : w.life.criticalReason = none) :
    w.phase.critical = false := by
  simp [Writer.phase, h]

theorem open_of_trailing {s : Step} {w : Writer} (h : Trailing (.step s) w)
    (hs : s.trailing = false) : w.phase.closed = false := by
  cases hc : w.phase.closed with
  | false => rfl
  | true => exact absurd (h hc) (by simp [hs])

/-- A timely action keeps admission shut. -/
theorem shut_exec (p : Params) {a : Act} {w : Writer} (ht : Timely a w) (hl : Trailing a w)
    (h : w.phase.Shut) : (Act.exec p a w).2.phase.Shut := by
  have hm := Writer.move_exec p a w
  generalize (Act.exec p a w).2.phase = s at hm
  obtain ⟨hstop, hcrit, hclosed, hstopping⟩ := h
  cases hm with
  | stay => exact ⟨hstop, hcrit, hclosed, hstopping⟩
  | halt => exact ⟨hstop, hcrit, hclosed, fun _ => rfl⟩
  | age => exact Phase.shut_fail (open_of_trailing hl rfl)
  | terminal e => exact Phase.shut_fail (open_of_trailing hl rfl)
  | rotate =>
    have ho := open_of_trailing hl rfl
    have hc := critical_eq_false (ht.2 rfl)
    exact ⟨fun hs => ⟨(hstop hs).1, by simp⟩, by simp [hc], by simp [ho], by simp [ho]⟩
  | resume =>
    obtain ⟨hs, hc⟩ := ht.1 rfl
    exact Phase.shut_accepting _ hs (critical_eq_false hc) (open_of_trailing hl rfl)
  | startup =>
    obtain ⟨hs, hc⟩ := ht.1 rfl
    exact Phase.shut_accepting _ hs (critical_eq_false hc) (open_of_trailing hl rfl)
  | config sha generation =>
    obtain ⟨hs, hc⟩ := ht.1 rfl
    exact Phase.shut_accepting _ hs (critical_eq_false hc) (open_of_trailing hl rfl)
  | close manifests =>
    have hc := critical_eq_false (ht.2 rfl)
    exact ⟨fun _ => ⟨rfl, by simp [Phase.close]⟩, by simp [Phase.close, hc], by simp [Phase.close],
      fun _ => rfl⟩
  | shut sha generation _ ha =>
    have hc : w.phase.critical = false := by
      cases hc : w.phase.critical with
      | false => rfl
      | true => exact absurd ha (hstop (.inr hc)).2
    have ho : w.phase.closed = false := by
      cases hc : w.phase.closed with
      | false => rfl
      | true => exact absurd (ha.symm.trans (hclosed.mp hc)) (by simp)
    exact ⟨fun _ => ⟨rfl, by simp⟩, by simp [hc], by simp [ho], by simp [ho]⟩
  | request reason deadlineNs _ ho =>
    refine ⟨fun _ => ⟨rfl, ?_⟩, ?_, ?_, ?_⟩
    · simp only [Phase.request]
      split <;> simp
    · simp only [Phase.request, hcrit]
      split <;> simp [*]
    · simp only [Phase.request, ho]
      split <;> simp
    · simp [Phase.request, ho]
  | mark reason _ hs =>
    have ho : w.phase.closed = false := by
      cases hc : w.phase.closed with
      | false => rfl
      | true => simp [hstopping hc] at hs
    have hn : w.phase.lifecycle ≠ .closed := by
      intro hc
      simp [hclosed.mpr hc] at ho
    refine ⟨fun _ => ⟨rfl, ?_⟩, ?_, ?_, ?_⟩
    · simp only [Phase.mark]
      split <;> simp [*]
    · simp only [Phase.mark, hcrit]
      split <;> simp [*]
    · simp only [Phase.mark, ho]
      split <;> simp [hn]
    · simp [Phase.mark, ho]

/-- The flags are never reset. -/
def Phase.Le (s s' : Phase) : Prop :=
  (s.stopRequested = true → s'.stopRequested = true) ∧ (s.critical = true → s'.critical = true) ∧
    (s.closed = true → s'.closed = true)

theorem phase_le_exec (p : Params) (a : Act) (w : Writer) :
    w.phase.Le (Act.exec p a w).2.phase := by
  have hm := Writer.move_exec p a w
  generalize (Act.exec p a w).2.phase = s at hm
  cases hm <;> simp [Phase.Le, Phase.fail, Phase.close, Phase.request, Phase.mark]

variable {p : Params} {o : Opening} {rounds : Nat} {schedule : List (Slot (service p) Told)}

/-- In a run without late writes the phase is shut at every moment. -/
theorem runLog_shut (h : ∀ e ∈ runLog p o rounds schedule, e.Sat Timely)
    {e : Entry (service p)} (he : e ∈ runLog p o rounds schedule) : (e.state : Writer).phase.Shut := by
  obtain ⟨w, hpath⟩ := runLog_path p o rounds schedule
  have h0 : (o.writer p).phase.Shut := by
    rw [phase_opening]
    exact ⟨by simp, by simp, by simp, by simp⟩
  refine (hpath.invariant (J := fun w : Writer => w.phase.Shut) h0 ?_).1 e he
  intro a t ha ht
  exact shut_exec p (h _ ha) (runLog_trailing ha) ht

theorem not_accepts_of_closed {e : Entry (service p)}
    (h : (e.state : Writer).life.admission = .closed) : accepts e = false := by
  unfold accepts
  split
  · rename_i d shard w
    have hw : w.life.admission = .closed := h
    have : (w.tryAccept p d shard).1 = .ok ⟨.notAccepting, none⟩ := by
      simp [Writer.tryAccept, hw]
    simp [this]
  · rfl

/-- A run that accepts a record and closes. -/
def plainClose : List (Slot (service smallParams) Told) :=
  [during _ [.call (.tryAccept tradeDraft "s1")], during _ [.resolveTask none], during _ [],
    during _ [], during _ [.call (.closeAll .shutdown 1000000000000)],
    during _ [.storage (.startSync 0), .storage (.finishSync 0 10), .storage (.postCompletion 0),
      .storage (.settleBatch 0)], during _ [],
    during _ [.storage (.publishPart 0), .storage (.endPublication 0 false),
      .storage (.settlePublication 0)], during _ [],
    during _ [.resolveTask none], during _ [], during _ [],
    during _ [.call (.tryAccept tradeDraft "s1")]]

/-- A run in which `close_all` is called while a due rotation is running. -/
def lateRotation : List (Slot (service smallParams) Told) :=
  [during _ [.call (.tryAccept tradeDraft "s1")], during _ [.resolveTask none], during _ [],
    during _ [], during _ [.call .rotateDueFiles], during _ [.resolveTask none], during _ [],
    during _ [.storage (.startSync 0), .storage (.finishSync 0 10), .storage (.postCompletion 0),
      .storage (.settleBatch 0), .call (.tryAccept bookDraft "s2"),
      .call (.closeAll .shutdown 1000000000000)], during _ [],
    during _ [.storage (.publishPart 0), .storage (.endPublication 0 false),
      .storage (.settlePublication 0)], during _ [],
    during _ [.resolveTask none], during _ []]

end CryptoCollector.Storage
