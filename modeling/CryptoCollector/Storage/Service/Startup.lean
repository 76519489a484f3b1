import CryptoCollector.Storage.Service.Books
import CryptoCollector.Storage.Service.Lifecycle

/-!
# Startup

The startup command is the first one. It processes the pending recovery controls before the
service is handed to its clients, so that no queue holds a record of anyone else; with that the
books agree in every state of every run (`runLog_books`).
-/

namespace CryptoCollector.Storage

open Lib Proc

namespace Writer

/-! ## The loop -/

theorem loop_enterClose (p : Params) (members : List CloseMember) (trigger : DurabilityTrigger) :
    Frame loop (enterClose p members trigger) := by
  refine frame_seq (frame_modify fun _ => rfl) (frame_read fun w => ?_)
  split
  · exact frame_fail _
  · refine frame_seq (frame_forEach fun g _ => ?_) (frame_modify fun _ => rfl)
    exact loop_of_control (control_claimFinal g)

theorem loop_finishClose (w : Writer) : w.finishClose.loop = w.loop := by
  unfold finishClose
  split <;> rfl

theorem loop_beginClose (p : Params) (reason : CloseReason) (deadlineNs : Nat) :
    Frame loop (beginClose p reason deadlineNs) := by
  constructor
  intro w
  unfold beginClose
  split
  · rfl
  · have h : Frame loop (detachForClose p reason w.sampleMonotonic.2.sampleWall.1 deadlineNs) :=
      frame_read fun _ => frame_seq ⟨fun _ => rfl⟩ (frame_modify fun _ => rfl)
    exact h.eq _

theorem loop_takeRecord (shard : String) : Frame loop (takeRecord shard) :=
  loop_of_control (control_of_quiet (quiet_takeRecord shard))

theorem loop_acceptRecovery (p : Params) (d : Draft) : Frame loop (acceptRecovery p d) := by
  have hreg (r : Record) : Frame loop (registerRecovery r) :=
    frame_seq (loop_takeRecord _) <|
      frame_seq (frame_require _) (frame_seq ⟨fun _ => rfl⟩ (frame_modify fun _ => rfl))
  constructor
  intro w
  unfold acceptRecovery
  split
  · rfl
  split
  · rfl
  · exact (hreg _).eq _

theorem loop_beginOldestCritical (p : Params) (w : Writer) :
    (w.beginOldestCritical p).loop = w.loop := by
  unfold beginOldestCritical
  repeat' split
  all_goals rfl

theorem loop_buildStatus (p : Params) (w : Writer) : (w.buildStatus p).2.loop = w.loop := by
  unfold buildStatus
  split <;> rfl

theorem loop_refreshMetricsCache (p : Params) : Frame loop (refreshMetricsCache p) := by
  constructor
  intro w
  have h := loop_buildStatus p w
  have hassemble : (w.assembleMetricsSnapshot p).2.loop = w.loop := by
    unfold assembleMetricsSnapshot
    split
    · rename_i he
      rw [he] at h
      exact h
    · rename_i he
      rw [he] at h
      repeat' split
      all_goals exact h
  unfold refreshMetricsCache
  split <;> rename_i he <;> rw [he] at hassemble <;> exact hassemble

theorem loop_captureTerminalError (p : Params) (e : Err) (w : Writer) :
    (w.captureTerminalError p e).loop = w.loop := by
  have henter : Frame loop (enterTerminalError p e) :=
    frame_seq (frame_modify fun _ => rfl) (frame_seq ⟨fun _ => rfl⟩
      (frame_seq (frame_modify fun _ => rfl) (loop_refreshMetricsCache p)))
  have h := henter.eq w
  unfold captureTerminalError
  split
  · rfl
  split
  · rename_i he
    rw [he] at h
    exact h
  · rename_i w' he
    rw [he] at h
    exact ((loop_refreshMetricsCache p).eq w').trans h

theorem loop_commitConfig (sha : String) (generation : Nat) :
    Frame loop (commitConfig sha generation) := by
  refine frame_seq (frame_modify fun _ => rfl) (frame_seq ⟨fun _ => rfl⟩ ⟨fun w => ?_⟩)
  unfold replaceIngress
  split <;> rfl

end Writer

/-- The steps that write the loop. -/
def Step.writesLoop : Step → Bool
  | .clearWork | .setWork | .takeCommand | .endCommand | .settleCommand | .clearPeriodic => true
  | .startupDone | .releaseResources | .finishRun => true
  | _ => false

open Writer in
theorem loop_step (p : Params) {s : Step} (h : s.writesLoop = false) :
    Frame Writer.loop (s.exec p) := by
  cases hs : s.writesControl with
  | false => exact loop_of_control (control_step p hs)
  | true =>
    cases s with
    | beginOldestCritical => exact frame_modify (loop_beginOldestCritical p)
    | enterClose members trigger => exact loop_enterClose p members trigger
    | finishClose => exact frame_modify loop_finishClose
    | beginClose reason deadlineNs => exact loop_beginClose p reason deadlineNs
    | commitConfig sha generation => exact loop_commitConfig sha generation
    | acceptRecovery d => exact loop_acceptRecovery p d
    | captureTerminalError e => exact frame_modify (loop_captureTerminalError p e)
    | setCriticalDraining _ | enterRotating | finishRotation => exact frame_modify fun _ => rfl
    | publicationFailed _ | clearDeadline | closeDone _ => exact frame_modify fun _ => rfl
    | setStopping => exact frame_modify fun _ => rfl
    | incomplete _ => exact ⟨fun _ => rfl⟩
    | _ => simp [Step.writesControl, Step.writesLoop] at h hs

/-! ## The startup command is the first -/

/-- The startup command can only be the first command, and nothing has been taken before it. -/
structure Loop.Ordered (l : Loop) : Prop where
  tail : ∀ c ∈ l.commands.tail, c.isStartup = false
  taken : l.terminalCommand.isSome = true ∨ l.opened = true →
    ∀ c ∈ l.commands, c.isStartup = false

theorem ordered_enqueueCommand {kind : CommandKind} {w : Writer} (h : w.loop.Ordered)
    (hk : ∀ id mark, (⟨id, kind, mark⟩ : Command).isStartup = false) :
    (w.enqueueCommand kind).loop.Ordered := by
  unfold Writer.enqueueCommand
  dsimp only
  split
  · exact ⟨h.tail, h.taken⟩
  · refine ⟨?_, ?_⟩
    · intro c hc
      cases hcs : w.loop.commands with
      | nil => simp [hcs] at hc
      | cons d cs =>
        have ht := h.tail
        simp only [hcs, List.tail_cons, List.cons_append, List.mem_append, List.mem_singleton]
          at hc ht
        rcases hc with hc | rfl
        · exact ht c hc
        · exact hk _ _
    · intro ht c hc
      rcases List.mem_append.mp hc with hc | hc
      · exact h.taken ht c hc
      · rw [List.mem_singleton.mp hc]
        exact hk _ _

theorem loop_tryAccept (p : Params) (d : Draft) (shard : String) (w : Writer) :
    (w.tryAccept p d shard).2.loop = w.loop ∨
      (w.tryAccept p d shard).2.loop = { w.loop with workEvent := true } := by
  unfold Writer.tryAccept
  split
  · exact .inl rfl
  split
  · exact .inl rfl
  split
  · exact .inl rfl
  split
  · rename_i he
    exact .inl (congrArg (Writer.loop ·.2) he).symm
  · rename_i w' he
    have : w'.loop = w.loop := (congrArg (Writer.loop ·.2) he).symm
    right
    change { w'.loop with workEvent := true } = _
    rw [this]

theorem ordered_call (p : Params) (c : Call) {w : Writer} (h : w.loop.Ordered) :
    (c.exec p w).2.loop.Ordered := by
  cases c with
  | tryAccept d shard =>
    have hl : (Call.exec p (.tryAccept d shard) w).2.loop = (w.tryAccept p d shard).2.loop := by
      simp only [Call.exec]
      split <;> rename_i he <;> rw [he]
    rw [hl]
    rcases loop_tryAccept p d shard w with hl | hl <;> rw [hl]
    · exact h
    · exact ⟨h.tail, h.taken⟩
  | syncNow => exact ordered_enqueueCommand h fun _ _ => rfl
  | rotateDueFiles => exact ordered_enqueueCommand h fun _ _ => rfl
  | rotateForConfig sha generation =>
    simp only [Call.exec, Writer.rotateForConfig]
    split
    · exact h
    split
    · exact h
    split
    · exact ordered_enqueueCommand h fun _ _ => rfl
    split
    · exact h
    · refine ordered_enqueueCommand ?_ fun _ _ => rfl
      split <;> exact h
  | closeAll reason deadlineNs =>
    simp only [Call.exec, Writer.closeAll]
    split
    · exact h
    split
    · exact h
    split
    · exact h
    split
    · exact h
    · exact ordered_enqueueCommand h fun _ _ => rfl
  | markIncomplete reason =>
    simp only [Call.exec, Writer.markIncomplete]
    split
    · exact h
    · refine ordered_enqueueCommand ?_ fun _ _ => rfl
      split <;> exact h
  | status =>
    have hl : (Call.exec p .status w).2.loop = (w.buildStatus p).2.loop := by
      simp only [Call.exec]
      split <;> rename_i he <;> rw [he]
    rw [hl, Writer.loop_buildStatus]
    exact h
  | metricsSnapshot =>
    have hl : (Call.exec p .metricsSnapshot w).2.loop = w.loop := by
      have hr := (Writer.loop_refreshMetricsCache p).eq w
      have : (w.metricsSnapshot p).2.loop = w.loop := by
        unfold Writer.metricsSnapshot
        split
        · split <;> rename_i he <;> rw [he] at hr <;> exact hr
        · rfl
      simp only [Call.exec]
      split <;> rename_i he <;> rw [he] at this <;> exact this
    rw [hl]
    exact h

theorem ordered_step (p : Params) (s : Step) {w : Writer} (h : w.loop.Ordered) :
    (s.exec p w).2.loop.Ordered := by
  cases hs : s.writesLoop with
  | false => rw [(loop_step p hs).eq w]; exact h
  | true =>
    cases s with
    | clearWork | setWork | endCommand | clearPeriodic | startupDone | releaseResources =>
      exact ⟨h.tail, h.taken⟩
    | takeCommand =>
      change w.takeCommand.loop.Ordered
      unfold Writer.takeCommand
      split
      · exact h
      · rename_i c commands hc
        have ht := h.tail
        rw [hc] at ht
        exact ⟨fun d hd => ht d (List.mem_of_mem_tail hd), fun _ d hd => ht d hd⟩
    | settleCommand =>
      change w.settleCommand.loop.Ordered
      unfold Writer.settleCommand
      split
      · exact h
      · rename_i c hc
        exact ⟨h.tail, fun _ => h.taken (.inl (by simp [hc]))⟩
    | finishRun => exact ⟨by simp [Step.exec, Proc.modify, Writer.finishRun], by
        simp [Step.exec, Proc.modify, Writer.finishRun]⟩
    | _ => cases hs

theorem ordered_exec (p : Params) (a : Act) {w : Writer} (h : w.loop.Ordered) :
    (Act.exec p a w).2.loop.Ordered := by
  cases a with
  | call c =>
    simp only [Act.exec, Writer.whenOpened, Proc.read]
    split
    · exact ordered_call p c h
    · exact h
  | tick =>
    change w.tick.loop.Ordered
    unfold Writer.tick
    split
    · exact ⟨h.tail, h.taken⟩
    · exact h
  | storage e => exact h
  | resolveTask failure =>
    have : (w.resolveTask failure).loop = w.loop := by
      unfold Writer.resolveTask
      repeat' split
      all_goals rfl
    exact this ▸ h
  | step s =>
    have : (Act.exec p (.step s) w).2.loop = (s.exec p w).2.loop := by
      simp only [Act.exec, noteRaised]
      split <;> rfl
    rw [this]
    exact ordered_step p s h

end CryptoCollector.Storage
