import CryptoCollector.Storage.Service.Footprint
import CryptoCollector.Storage.Service.Scope

/-!
# The lifecycle of the writer

Lifecycle and admission are written by callers at once and by the actor at the end of operations
that suspend. `Phase` is what these writes are about, and `Phase.Move` says what each action can
do to it. The last section is about what may happen after a close has succeeded.
-/

namespace CryptoCollector.Storage

open Lib Proc

/-- Lifecycle, admission, and the flags that are never reset. -/
structure Phase where
  lifecycle : WriterLifecycle
  admission : AdmissionState
  critical : Bool
  stopRequested : Bool
  closed : Bool
  stopping : Bool
  deriving DecidableEq

/-- The phase of a writer. -/
def Writer.phase (w : Writer) : Phase where
  lifecycle := w.life.lifecycle
  admission := w.life.admission
  critical := w.life.criticalReason.isSome
  stopRequested := w.history.stopRequested
  closed := w.life.closedManifests.isSome
  stopping := w.life.stopping

namespace Phase

/-- The writer is past its oldest age, or has a terminal error. -/
def fail (s : Phase) : Phase :=
  { s with lifecycle := .critical, admission := .closed, critical := true }

/-- `close_all`. -/
def request (s : Phase) : Phase :=
  { s with
    lifecycle := if s.lifecycle = .critical then .critical else .closing
    admission := .closed
    stopRequested := true }

/-- `mark_incomplete`. -/
def mark (s : Phase) : Phase :=
  { s with
    lifecycle := if s.lifecycle = .accepting then .closing else s.lifecycle
    admission := .closed
    stopRequested := true }

/-- The end of command `close`. -/
def close (s : Phase) : Phase :=
  { s with lifecycle := .closed, admission := .closed, closed := true, stopping := true }

/-- What an action can do to the phase. -/
inductive Move : Act → Phase → Phase → Prop where
  | stay (a : Act) (s : Phase) : Move a s s
  | halt (s : Phase) : Move (.step .setStopping) s { s with stopping := true }
  | age (s : Phase) : Move (.step .beginOldestCritical) s s.fail
  | terminal (e : Err) (s : Phase) : Move (.step (.captureTerminalError e)) s s.fail
  | rotate (s : Phase) : Move (.step .enterRotating) s { s with lifecycle := .rotating }
  | resume (s : Phase) : Move (.step .finishRotation) s { s with lifecycle := .accepting }
  | startup (s : Phase) :
      Move (.step .startupDone) s { s with lifecycle := .accepting, admission := .opened }
  | config (sha : String) (generation : Nat) (s : Phase) :
      Move (.step (.commitConfig sha generation)) s
        { s with lifecycle := .accepting, admission := .opened }
  | close (manifests : List Manifest) (s : Phase) : Move (.step (.closeDone manifests)) s s.close
  | shut (sha : String) (generation : Nat) (s : Phase) (h : s.lifecycle = .accepting) :
      Move (.call (.rotateForConfig sha generation)) s
        { s with lifecycle := .rotating, admission := .closed }
  | request (reason : CloseReason) (deadlineNs : Nat) (s : Phase) (h : s.closed = false) :
      Move (.call (.closeAll reason deadlineNs)) s s.request
  | mark (reason : String) (s : Phase) (h : s.stopping = false) :
      Move (.call (.markIncomplete reason)) s s.mark

end Phase

namespace Writer

theorem phase_of_control {w w' : Writer} (h : w'.control = w.control) : w'.phase = w.phase := by
  simp only [control, Prod.mk.injEq] at h
  obtain ⟨hl, -, hh, -⟩ := h
  simp [phase, hl, hh]

@[simp] theorem phase_invalidate (w : Writer) : w.invalidate.phase = w.phase := rfl

theorem phase_enqueueCommand (kind : CommandKind) (w : Writer) :
    (w.enqueueCommand kind).phase = w.phase := by
  unfold enqueueCommand
  dsimp only
  split <;> rfl

/-! ## Calls -/

theorem move_rotateForConfig (sha : String) (generation : Nat) (w : Writer) :
    Phase.Move (.call (.rotateForConfig sha generation)) w.phase
      (rotateForConfig sha generation w).2.phase := by
  unfold rotateForConfig
  split
  · exact .stay ..
  split
  · exact .stay ..
  split
  · rw [phase_enqueueCommand]
    exact .stay ..
  split
  · exact .stay ..
  · rename_i hl
    dsimp only
    rw [phase_enqueueCommand]
    split
    · exact .shut sha generation w.phase (not_not.mp hl)
    · exact .stay ..

theorem move_closeAll (reason : CloseReason) (deadlineNs : Nat) (w : Writer) :
    Phase.Move (.call (.closeAll reason deadlineNs)) w.phase
      (closeAll reason deadlineNs w).2.phase := by
  unfold closeAll
  split
  · exact .stay ..
  split
  · exact .stay ..
  split
  · exact .stay ..
  split
  · exact .stay ..
  · rename_i hc
    rw [phase_enqueueCommand, phase_invalidate]
    exact .request reason deadlineNs w.phase (by simpa [phase] using hc)

theorem move_markIncomplete (reason : String) (w : Writer) :
    Phase.Move (.call (.markIncomplete reason)) w.phase (markIncomplete reason w).2.phase := by
  unfold markIncomplete
  split
  · exact .stay ..
  · dsimp only
    rw [phase_enqueueCommand]
    split
    · exact .stay ..
    · rename_i hs
      exact .mark reason w.phase (by simpa [phase] using hs)

theorem phase_tryAccept (p : Params) (d : Draft) (shard : String) (w : Writer) :
    (w.tryAccept p d shard).2.phase = w.phase := by
  unfold tryAccept
  split
  · rfl
  split
  · rfl
  split
  · rfl
  split
  · rename_i he
    exact (congrArg (phase ·.2) he).symm
  · rename_i he
    exact (congrArg (phase ·.2) he).symm

theorem phase_buildStatus (p : Params) (w : Writer) : (w.buildStatus p).2.phase = w.phase := by
  unfold buildStatus
  split <;> rfl

theorem phase_assembleMetricsSnapshot (p : Params) (w : Writer) :
    (w.assembleMetricsSnapshot p).2.phase = w.phase := by
  have h := phase_buildStatus p w
  unfold assembleMetricsSnapshot
  split
  · rename_i he
    rw [he] at h
    exact h
  · rename_i he
    rw [he] at h
    repeat' split
    all_goals exact h

theorem phase_refreshMetricsCache (p : Params) (w : Writer) :
    (refreshMetricsCache p w).2.phase = w.phase := by
  have h := phase_assembleMetricsSnapshot p w
  unfold refreshMetricsCache
  split
  · rename_i he
    rw [he] at h
    exact h
  · rename_i he
    rw [he] at h
    exact h

theorem phase_metricsSnapshot (p : Params) (w : Writer) :
    (w.metricsSnapshot p).2.phase = w.phase := by
  have h := phase_refreshMetricsCache p w
  unfold metricsSnapshot
  split
  · split
    · rename_i he
      rw [he] at h
      exact h
    · rename_i he
      rw [he] at h
      exact h
  · rfl

theorem move_call (p : Params) (c : Call) (w : Writer) :
    Phase.Move (.call c) w.phase (Act.exec p (.call c) w).2.phase := by
  have hstay {w' : Writer} (h : w'.phase = w.phase) :
      Phase.Move (.call c) w.phase w'.phase := h ▸ .stay ..
  simp only [Act.exec, whenOpened, Proc.read]
  split
  · cases c with
    | tryAccept d shard =>
      apply hstay
      simp only [Call.exec]
      split <;> rename_i he <;> simpa [he] using phase_tryAccept p d shard w
    | syncNow => exact hstay (phase_enqueueCommand ..)
    | rotateDueFiles => exact hstay (phase_enqueueCommand ..)
    | rotateForConfig sha generation => exact move_rotateForConfig sha generation w
    | closeAll reason deadlineNs => exact move_closeAll reason deadlineNs w
    | markIncomplete reason => exact move_markIncomplete reason w
    | status =>
      apply hstay
      simp only [Call.exec]
      split <;> rename_i he <;> simpa [he] using phase_buildStatus p w
    | metricsSnapshot =>
      apply hstay
      simp only [Call.exec]
      split <;> rename_i he <;> simpa [he] using phase_metricsSnapshot p w
  · exact .stay ..

/-! ## Steps -/

theorem move_beginOldestCritical (p : Params) (w : Writer) :
    Phase.Move (.step .beginOldestCritical) w.phase (w.beginOldestCritical p).phase := by
  unfold beginOldestCritical
  split
  · exact .stay ..
  split
  · exact .stay ..
  · exact .age ..

theorem phase_onAcct (f : Proc Err Accounts) (w : Writer) : (onAcct f w).2.phase = w.phase := rfl

theorem phase_enterTerminalError (p : Params) (e : Err) (w : Writer) :
    (enterTerminalError p e w).2.phase = w.phase.fail := by
  have hrest : Frame phase (seq (onAcct Accounts.markAllUncertain) <|
      seq (modify fun w => { w with flow := { w.flow with deferred := Dict.empty } }) <|
      refreshMetricsCache p) :=
    frame_seq ⟨phase_onAcct _⟩ (frame_seq ⟨fun _ => rfl⟩ ⟨phase_refreshMetricsCache p⟩)
  exact hrest.eq _

theorem move_captureTerminalError (p : Params) (e : Err) (w : Writer) :
    Phase.Move (.step (.captureTerminalError e)) w.phase (w.captureTerminalError p e).phase := by
  have h := phase_enterTerminalError p e w
  unfold captureTerminalError
  split
  · exact .stay ..
  split
  · rename_i he
    rw [he] at h
    have : (terminate (criticalError p w e) _).phase = w.phase.fail := h
    exact this ▸ .terminal e w.phase
  · rename_i captureError w' he
    rw [he] at h
    have : ((refreshMetricsCache p w').2.terminate captureError).phase = w.phase.fail :=
      (phase_refreshMetricsCache p w').trans h
    exact this ▸ .terminal e w.phase

theorem move_commitConfig (sha : String) (generation : Nat) (w : Writer) :
    Phase.Move (.step (.commitConfig sha generation)) w.phase
      (commitConfig sha generation w).2.phase := by
  unfold commitConfig
  rcases seq_cases (onParts (ActivePartSet.commitConfigRotation sha generation))
    (replaceIngress sha generation) (w.clearPendingHourMembers w.flow.members) with
    ⟨-, h⟩ | ⟨-, h⟩
  · have : (seq (modify fun w => w.clearPendingHourMembers w.flow.members)
        (seq (onParts (ActivePartSet.commitConfigRotation sha generation))
          (replaceIngress sha generation)) w).2.phase = w.phase := by
      change (seq (onParts _) _ (w.clearPendingHourMembers _)).2.phase = _
      rw [h]
      rfl
    rw [this]
    exact .stay ..
  · change Phase.Move _ _ (seq (onParts _) _ (w.clearPendingHourMembers _)).2.phase
    rw [h]
    unfold replaceIngress
    split
    · exact .stay ..
    · exact .config sha generation w.phase

theorem phase_enterClose (p : Params) (members : List CloseMember) (trigger : DurabilityTrigger) :
    Frame phase (enterClose p members trigger) := by
  refine frame_seq (frame_modify fun _ => rfl) (frame_read fun w => ?_)
  split
  · exact frame_fail _
  · refine frame_seq (frame_forEach fun g _ => ⟨fun w => ?_⟩) (frame_modify fun _ => rfl)
    exact phase_of_control ((control_claimFinal g).eq w)

theorem phase_finishClose (w : Writer) : w.finishClose.phase = w.phase := by
  unfold finishClose
  split <;> rfl

theorem phase_beginClose (p : Params) (reason : CloseReason) (deadlineNs : Nat) :
    Frame phase (beginClose p reason deadlineNs) := by
  constructor
  intro w
  unfold beginClose
  split
  · rfl
  · have h : Frame phase (detachForClose p reason w.sampleMonotonic.2.sampleWall.1 deadlineNs) :=
      frame_read fun _ => frame_seq ⟨fun _ => rfl⟩ (frame_modify fun _ => rfl)
    exact h.eq _

theorem phase_registerRecovery (r : Record) : Frame phase (registerRecovery r) :=
  frame_seq ⟨fun w => phase_of_control ((control_of_quiet (quiet_takeRecord _)).eq w)⟩ <|
    frame_seq (frame_require _) (frame_seq ⟨phase_onAcct _⟩ (frame_modify fun _ => rfl))

theorem phase_acceptRecovery (p : Params) (d : Draft) : Frame phase (acceptRecovery p d) := by
  constructor
  intro w
  unfold acceptRecovery
  split
  · rfl
  split
  · rfl
  · exact (phase_registerRecovery _).eq _

theorem phase_takeCommand (w : Writer) : w.takeCommand.phase = w.phase := by
  unfold takeCommand
  split <;> rfl

theorem phase_settleCommand (w : Writer) : w.settleCommand.phase = w.phase := by
  unfold settleCommand
  split <;> rfl

theorem move_step (p : Params) (s : Step) (w : Writer) :
    Phase.Move (.step s) w.phase (s.exec p w).2.phase := by
  have hstay {w' : Writer} (h : w'.phase = w.phase) : Phase.Move (.step s) w.phase w'.phase :=
    h ▸ .stay ..
  cases hs : s.writesControl with
  | false => exact hstay (phase_of_control ((control_step p hs).eq w))
  | true =>
    cases s with
    | clearWork | setWork | endCommand | clearPeriodic | setCriticalDraining _ => exact .stay ..
    | publicationFailed _ | clearDeadline | incomplete _ | releaseResources => exact .stay ..
    | finishRun => exact .stay ..
    | takeCommand => exact hstay (phase_takeCommand w)
    | settleCommand => exact hstay (phase_settleCommand w)
    | beginOldestCritical => exact move_beginOldestCritical p w
    | enterRotating => exact .rotate w.phase
    | finishRotation => exact .resume w.phase
    | enterClose members trigger => exact hstay ((phase_enterClose p members trigger).eq w)
    | finishClose => exact hstay (phase_finishClose w)
    | beginClose reason deadlineNs => exact hstay ((phase_beginClose p reason deadlineNs).eq w)
    | closeDone manifests => exact .close manifests w.phase
    | commitConfig sha generation => exact move_commitConfig sha generation w
    | acceptRecovery d => exact hstay ((phase_acceptRecovery p d).eq w)
    | startupDone => exact .startup w.phase
    | captureTerminalError e => exact move_captureTerminalError p e w
    | setStopping => exact .halt w.phase
    | _ => cases hs

theorem phase_noteRaised (r : Option Err × Writer) : (noteRaised r).2.phase = r.2.phase := by
  unfold noteRaised
  split <;> rfl

theorem phase_resolveTask (failure : Option Err) (w : Writer) :
    (w.resolveTask failure).phase = w.phase := by
  unfold resolveTask
  repeat' split
  all_goals rfl

/-- What an action does to the phase. -/
theorem move_exec (p : Params) (a : Act) (w : Writer) :
    Phase.Move a w.phase (Act.exec p a w).2.phase := by
  cases a with
  | call c => exact move_call p c w
  | tick =>
    have : w.tick.phase = w.phase := by
      unfold tick
      split <;> rfl
    exact (show (Act.exec p .tick w).2.phase = w.phase from this) ▸ .stay ..
  | storage e => exact .stay ..
  | resolveTask failure =>
    have : (Act.exec p (.resolveTask failure) w).2.phase = w.phase := phase_resolveTask failure w
    exact this ▸ .stay ..
  | step s =>
    have : (Act.exec p (.step s) w).2.phase = (s.exec p w).2.phase := phase_noteRaised _
    exact this ▸ move_step p s w

end Writer

/-! ## After a successful close -/

/-- The steps that the actor takes after a successful close. -/
def Step.trailing : Step → Bool
  | .endCommand | .setStopping | .releaseResources | .finishRun => true
  | _ => false

/-- The steps other than the end of command `close`. -/
def Step.unclosing : Step → Bool
  | .closeDone _ => false
  | _ => true

/-- After a successful close the actor takes only trailing steps. -/
def Trailing : Act → Writer → Prop
  | .step s, w => w.phase.closed = true → s.trailing = true
  | _, _ => True

namespace Actor

open Co

variable (p : Params)

/-- No action of a class without `closeDone` makes the writer closed. -/
theorem closed_exec {a : Act} {w : Writer} (ha : a.outside = true ∨ scope Step.unclosing a)
    (h : w.phase.closed = false) : (Act.exec p a w).2.phase.closed = false := by
  have hm := Writer.move_exec p a w
  generalize (Act.exec p a w).2.phase = s at hm
  cases hm with
  | close manifests => rcases ha with ha | ha <;> cases ha
  | _ => exact h

theorem trailing_of_open {a : Act} {w : Writer} (h : w.phase.closed = false) : Trailing a w := by
  cases a with
  | step s =>
    intro hc
    rw [h] at hc
    cases hc
  | _ => trivial

/-- Before the end of command `close` nothing is asked of the steps. -/
theorem wp_unclosing {α : Type} {m : Actor p α} (hm : Within (scope Step.unclosing) m)
    {w : Writer} (h : w.phase.closed = false) :
    Wp (fun _ _ => True) Trailing m (fun _ t => t.phase.closed = false)
      (fun _ t => t.phase.closed = false) w :=
  wp_of_within hm (fun _ _ ha ht _ => ⟨trailing_of_open ht, closed_exec p ha ht⟩) h

theorem wp_step {Q : Unit → Writer → Prop} {E : Err → Writer → Prop} {s : Step} {w : Writer}
    (hP : Trailing (.step s) w) (hn : (Act.exec p (.step s) w).1 = none)
    (hQ : Q () (Act.exec p (.step s) w).2) :
    Wp (fun _ _ => True) Trailing (step p s) Q E w := by
  refine wp_act fun _ => ⟨hP, ?_⟩
  have : ((service p).exec (.step s) w).1 = none := hn
  rw [this]
  exact hQ

theorem unclosing_of_draining (s : Step) (h : s.draining = true) : s.unclosing = true := by
  cases s <;> first | rfl | cases h

theorem unclosing_of_routine (s : Step) (h : s.routine = true) : s.unclosing = true := by
  cases s <;> first | rfl | cases h

theorem unclosing_of_rotating (s : Step) (h : s.rotating = true) : s.unclosing = true := by
  cases s <;> first | rfl | cases h

theorem within_closeMembers_unclosing (members : List CloseMember) (trigger : DurabilityTrigger) :
    Within (scope Step.unclosing) (closeMembers p members trigger) :=
  (within_closeMembers p members trigger).mono
    (scope_mono fun s h => unclosing_of_rotating s (rotating_of_closing s h))

theorem within_rotateDueParts_unclosing : Within (scope Step.unclosing) (rotateDueParts p) :=
  (within_rotateDueParts p).mono (scope_mono unclosing_of_rotating)

theorem within_syncActive_unclosing (trigger : DurabilityTrigger) :
    Within (scope Step.unclosing) (syncActive p trigger) :=
  (within_syncActive p trigger).mono (scope_mono unclosing_of_draining)

theorem within_processPendingRecoveryControl (d : Draft) :
    Within (scope Step.unclosing) (processPendingRecoveryControl p d) := by
  refine within_bind (within_step p rfl) fun _ => within_bind (within_state p) fun w =>
    within_handle ?_ fun _ => within_bind (within_step p rfl) fun _ => within_raise _
  exact within_bind (within_storageCall p) fun _ => within_bind (within_storageCall p) fun _ =>
    within_bind (within_step p rfl) fun _ => within_bind (within_step p rfl) fun _ =>
      within_bind (within_state p) fun _ => within_bind (within_closeMembers_unclosing p _ _)
        fun _ => within_bind (within_step p rfl) fun _ => within_storageCall p

theorem within_executeCommand {c : Command} (h : c.isClose = false) :
    Within (scope Step.unclosing) (executeCommand p c) := by
  unfold executeCommand
  unfold Command.isClose at h
  split
  · exact within_bind (within_forEach fun d => within_processPendingRecoveryControl p d) fun _ =>
      within_step p rfl
  · exact within_bind (within_syncActive_unclosing p _) fun _ =>
      within_bind (within_rotateDueParts_unclosing p) fun _ => within_step p rfl
  · exact within_rotateDueParts_unclosing p
  · exact within_bind (within_step p rfl) fun _ => within_bind (within_state p) fun _ =>
      within_bind (within_closeMembers_unclosing p _ _) fun _ => within_step p rfl
  · rename_i hk
    rw [hk] at h
    cases h
  · exact within_step p rfl

theorem wp_close (reason : CloseReason) (deadlineNs : Nat) {w : Writer}
    (h : w.phase.closed = false) :
    Wp (fun _ _ => True) Trailing (close p reason deadlineNs) (fun _ t => t.life.stopping = true)
      (fun _ t => t.phase.closed = false) w := by
  refine wp_bind (wp_post (wp_unclosing p (within_step p rfl) h) fun _ t ht => ?_)
  refine wp_bind (wp_get ?_)
  refine wp_bind (wp_post (wp_unclosing p
    (within_ensure (within_closeMembers_unclosing p _ _) (within_step p rfl)) ht) fun _ t ht => ?_)
  exact wp_step p (trailing_of_open ht) rfl rfl

/-- A command leaves the writer open, unless it is a close that succeeded. -/
def Ended (c : Command) (succeeded : Bool) (w : Writer) : Prop :=
  w.phase.closed = false ∨ succeeded = true ∧ c.isClose = true ∧ w.life.stopping = true

theorem wp_executeCommand (c : Command) {w : Writer} (h : w.phase.closed = false) :
    Wp (fun _ _ => True) Trailing (executeCommand p c) (fun _ t => Ended c true t)
      (fun _ t => t.phase.closed = false) w := by
  by_cases hc : c.isClose = true
  · unfold executeCommand
    have hc' := hc
    unfold Command.isClose at hc'
    split <;> rename_i hk <;> simp only [hk, Bool.false_eq_true] at hc'
    rename_i reason deadlineNs
    exact wp_post (wp_close p reason deadlineNs h) fun _ t ht => .inr ⟨rfl, hc, ht⟩
  · refine wp_post (wp_unclosing p (within_executeCommand p (by simpa using hc)) h) ?_
    intro _ t ht
    exact .inl ht

theorem wp_runCommand (c : Command) {w : Writer} (h : w.phase.closed = false) :
    Wp (fun _ _ => True) Trailing (runCommand p c) (Ended c) (fun _ t => t.phase.closed = false)
      w := by
  have hend (succeeded : Bool) (t : Writer) (ht : Ended c succeeded t) :
      Wp (fun _ _ => True) Trailing (do
        step p .endCommand
        pure succeeded) (Ended c) (fun _ t => t.phase.closed = false) t :=
    wp_bind (wp_step p (fun _ => rfl) rfl (wp_pure ht))
  refine wp_bind (wp_post (wp_unclosing p (within_step p rfl) h) fun _ t ht => ?_)
  apply wp_bind
  refine wp_post ?_ hend
  apply wp_handle
  have hfailed (e : Err) (t : Writer) (ht : t.phase.closed = false) :
      Wp (fun _ _ => True) Trailing (do
        step p (.captureTerminalError e)
        step p .setStopping
        pure false) (Ended c) (fun _ t => t.phase.closed = false) t :=
    wp_post (wp_unclosing p (within_bind (within_step p rfl) fun _ =>
      within_bind (within_step p rfl) fun _ => within_pure _) ht) fun _ _ ht => .inl ht
  refine wp_bind (wp_bind (wp_mono (wp_unclosing p (within_when ((within_drainIngress p _ _).mono
    (scope_mono unclosing_of_draining))) ht) (fun _ t ht => ?_) hfailed))
  exact wp_mono (wp_executeCommand p c ht) (fun _ _ ht => wp_pure ht) hfailed

theorem wp_commandLoop {w : Writer} (h : w.phase.closed = false) :
    Wp (fun _ _ => True) Trailing (commandLoop p)
      (fun _ t => t.phase.closed = false ∨ t.life.stopping = true)
      (fun _ t => t.phase.closed = false) w := by
  refine wp_loop (fun _ (t : Writer) => t.phase.closed = false) (fun _ t ht => wp_bind (wp_get ?_)) h
  split
  · exact wp_pure (.inl ht)
  · rename_i c _ _
    refine wp_bind (wp_post (wp_runCommand p c ht) fun succeeded t ht => ?_)
    refine wp_ite (fun hs => wp_pure ?_) fun hs => wp_ite (fun hc => ?_) fun hc => ?_
    · rcases ht with ht | ⟨hs', -⟩
      · exact .inl ht
      · simp [hs'] at hs
    · exact wp_bind (wp_step p (fun _ => rfl) rfl (wp_pure (.inr rfl)))
    · rcases ht with ht | ⟨-, hc', -⟩
      · exact wp_bind (wp_post (wp_unclosing p (within_step p rfl) ht) fun _ _ ht => wp_pure ht)
      · exact absurd hc' hc

theorem wp_mainLoop {w : Writer} (h : w.phase.closed = false) :
    Wp (fun _ _ => True) Trailing (mainLoop p) (fun _ _ => True)
      (fun _ t => t.phase.closed = false) w := by
  refine wp_loop (fun _ (t : Writer) => t.phase.closed = false) (fun _ t ht => wp_bind (wp_get ?_)) h
  refine wp_ite (fun _ => wp_pure trivial) fun _ => ?_
  refine wp_bind (wp_post (wp_unclosing p ((within_waitForWork p).mono
    (scope_mono unclosing_of_routine)) ht) fun _ t ht => ?_)
  refine wp_bind (wp_post (wp_unclosing p (within_step p rfl) ht) fun _ t ht => ?_)
  refine wp_bind (wp_get (wp_bind (wp_post (wp_unclosing p (within_when ((within_drainIngress p _ _).mono
    (scope_mono unclosing_of_draining))) ht) fun _ t ht => ?_)))
  refine wp_bind (wp_post (wp_commandLoop p ht) fun _ t ht => wp_bind (wp_get ?_))
  refine wp_ite (fun _ => wp_pure trivial) fun hs => ?_
  have ht : t.phase.closed = false := ht.resolve_right hs
  exact wp_bind (wp_post (wp_unclosing p (within_when ((within_periodicWork p).mono
    (scope_mono unclosing_of_routine))) ht)
    fun _ t ht => wp_pure ht)

theorem wp_finish (w : Writer) :
    Wp (fun _ _ => True) Trailing (finish p) (fun _ _ => True) (fun _ _ => True) w := by
  have hm : Within (scope Step.trailing) (finish p) :=
    within_bind (within_state p) fun _ => within_bind (within_when (within_yielding p)) fun _ =>
      within_bind (within_step p rfl) fun _ => within_bind (within_step p rfl) fun _ =>
        within_loop (fun _ => within_bind (within_yielding p) fun _ => within_pure _) _
  refine wp_of_within hm (fun a t ha _ _ => ⟨?_, trivial⟩) trivial
  cases a with
  | step s => exact fun _ => ha.resolve_left Bool.false_ne_true
  | _ => trivial

theorem wp_run {w : Writer} (h : w.phase.closed = false) :
    Wp (fun _ _ => True) Trailing (run p) (fun _ _ => True) (fun _ _ => True) w := by
  refine wp_bind (wp_handle (wp_mono (wp_mainLoop p h) (fun _ t _ => wp_finish p t) ?_))
  intro e t ht
  exact wp_mono (wp_unclosing p (within_bind (within_step p rfl) fun _ => within_step p rfl) ht)
    (fun _ t _ => wp_finish p t) fun _ _ _ => trivial

end Actor

/-! ## Runs -/

theorem phase_opening (p : Params) (o : Opening) :
    (o.writer p).phase = ⟨.starting, .closed, false, false, false, false⟩ := by
  unfold Opening.writer
  rw [Writer.phase_enqueueCommand, Writer.phase_refreshMetricsCache]
  rfl

variable {p : Params} {o : Opening} {rounds : Nat} {schedule : List (Slot (service p) Told)}

theorem runLog_path (p : Params) (o : Opening) (rounds : Nat)
    (schedule : List (Slot (service p) Told)) :
    ∃ w, (service p).Path (o.writer p) (runLog p o rounds schedule) w :=
  ⟨_, (Actor.run p).path rounds schedule (o.writer p)⟩

/-- After a successful close the actor takes only trailing steps. -/
theorem runLog_trailing {a : Act} {w : Writer}
    (h : .step a w ∈ runLog p o rounds schedule) : Trailing a w := by
  have hc : (o.writer p).phase.closed = false := by rw [phase_opening]
  obtain ⟨w', hpath⟩ := runLog_path p o rounds schedule
  have hg := (Actor.wp_run p hc rounds schedule).1
  have := (Co.guarded_invariant (J := fun _ => True) hpath trivial hg (fun _ _ _ _ => trivial)
    (fun _ _ _ _ _ => trivial)).1 _ h
  exact this.2

end CryptoCollector.Storage
