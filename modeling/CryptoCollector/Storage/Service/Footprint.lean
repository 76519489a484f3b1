import CryptoCollector.Storage.Service.Actor

/-!
# What the steps leave alone

Most steps of the actor move records and parts and do not touch lifecycle, commands, history and
configuration. `control` reads these; `control_step` says that only the steps of `writesControl`
change them. Of the other steps, only those of `writesAccounts` change the accounts (`quiet_step`).
-/

namespace CryptoCollector.Storage

open Lib Proc

/-- Lifecycle, commands, history and configuration of the service. -/
def Writer.control (w : Writer) : Life × Loop × History × String × Nat :=
  (w.life, w.loop, w.history, w.configSha256, w.configGeneration)

/-- What `control` reads, the accounts, and the next acceptance ordinal. -/
def Writer.quiet (w : Writer) : (Life × Loop × History × String × Nat) × Accounts × Nat :=
  (w.control, w.acct, w.ingress.nextAcceptanceOrdinal)

namespace Writer

theorem control_of_quiet {f : Proc Err Writer} (h : Frame quiet f) : Frame control f :=
  h.comp Prod.fst

theorem loop_of_control {f : Proc Err Writer} (h : Frame control f) : Frame loop f :=
  ⟨fun w => congrArg (fun c => c.2.1) (h.eq w)⟩

theorem control_onAcct (f : Proc Err Accounts) : Frame control (onAcct f) := ⟨fun _ => rfl⟩

theorem quiet_onParts (f : Proc Err ActivePartSet) : Frame quiet (onParts f) := ⟨fun _ => rfl⟩

theorem quiet_onPart (g : GenerationId) (f : Proc Err Part) : Frame quiet (onPart g f) :=
  ⟨fun _ => rfl⟩

/-! ## Draining -/

theorem quiet_takeRecord (shard : String) : Frame quiet (takeRecord shard) := by
  constructor
  intro w
  unfold takeRecord
  split <;> rfl

theorem quiet_drainOne (shard : String) : Frame quiet (drainOne shard) :=
  frame_seq (quiet_takeRecord shard) (frame_modify fun _ => rfl)

theorem quiet_ensureCurrent (shard : String) (w : Writer) :
    (w.ensureCurrent shard).quiet = w.quiet := by
  unfold ensureCurrent
  repeat' split
  all_goals rfl

theorem quiet_reservePart (shard : String) (w : Writer) :
    (w.reservePart shard).quiet = w.quiet := by
  unfold reservePart
  repeat' split
  all_goals rfl

theorem quiet_assignPart (shard : String) (g : GenerationId) (retired : Option GenerationId)
    (w : Writer) : (w.assignPart shard g retired).quiet = w.quiet := rfl

theorem quiet_installPart (shard : String) : Frame quiet (installPart shard) := by
  constructor
  intro w
  unfold installPart
  repeat' split
  · rfl
  · rfl
  · rfl
  · exact (frame_seq (quiet_onParts _) (frame_modify (quiet_assignPart _ _ _))).eq w
  · exact (frame_seq (quiet_onParts _) (frame_modify (quiet_assignPart _ _ _))).eq
      w.sampleWall.2

theorem quiet_reserveInitial (shard : String) : Frame quiet (reserveInitial shard) := by
  constructor
  intro w
  unfold reserveInitial
  split
  · rfl
  · refine Frame.eq ?_ w
    exact frame_seq (quiet_onParts _) (frame_modify fun _ => rfl)

theorem quiet_rollbackReserved (shards : List String) :
    Frame quiet (rollbackReserved shards) := by
  constructor
  intro w
  unfold rollbackReserved
  split <;> rfl

theorem quiet_beginInitial (shards : List String) : Frame quiet (beginInitial shards) := by
  constructor
  intro w
  have hs : Frame quiet (forEach shards reserveInitial) :=
    frame_forEach fun s _ => quiet_reserveInitial s
  have h := hs.eq w
  unfold beginInitial
  split
  · rename_i w' he
    rw [he] at h
    exact h
  · rename_i e w' he
    rw [he] at h
    exact ((quiet_rollbackReserved shards).eq w').trans h

theorem quiet_assignReserved (shards : List String) (w : Writer) :
    (w.assignReserved shards).quiet = w.quiet := by
  unfold assignReserved
  induction shards generalizing w with
  | nil => rfl
  | cons s shards ih => exact ih _

theorem quiet_commitReserved (shards : List String) : Frame quiet (commitReserved shards) := by
  constructor
  intro w
  unfold commitReserved
  split
  · rfl
  · exact (frame_seq (quiet_onParts _) (frame_modify (quiet_assignReserved shards))).eq w

theorem quiet_pendHour (shard : String) (w : Writer) :
    (w.pendHour shard).quiet = w.quiet := by
  unfold pendHour
  split <;> rfl

theorem control_claimPart (g : GenerationId) : Frame control (claimPart g) :=
  frame_read fun _ => frame_seq (control_onAcct _) (frame_modify fun _ => rfl)

theorem control_syncClaims (gs : List GenerationId) (trigger : DurabilityTrigger) :
    Frame control (syncClaims gs trigger) := by
  refine frame_seq (frame_forEach fun g _ => control_claimPart g) ⟨fun w => ?_⟩
  dsimp only
  split <;> rfl

theorem control_syncParts (gs : List GenerationId) (trigger : DurabilityTrigger) :
    Frame control (syncParts gs trigger) := by
  refine frame_seq (frame_modify fun _ => rfl) (frame_seq ?_ (frame_read fun w => ?_))
  · exact frame_forEach fun g _ => control_of_quiet (quiet_onPart g _)
  · dsimp only
    split
    · exact frame_skip
    · exact control_syncClaims _ _

theorem control_appendAs (p : Params) (shard : String) (g : GenerationId) (r : Record)
    (k : AppendKind) : Frame control (appendAs p shard g r k) := by
  cases k with
  | defer => exact frame_seq (control_onAcct _) (frame_modify fun _ => rfl)
  | sizeSync => exact frame_skip
  | append =>
    exact frame_seq (control_of_quiet (quiet_onPart g _)) (frame_seq (frame_modify fun _ => rfl)
      (frame_seq (control_onAcct _) (control_of_quiet (frame_modify (quiet_pendHour shard)))))
  | oversized =>
    exact frame_seq (control_of_quiet (quiet_onPart g _)) (frame_seq (frame_modify fun _ => rfl)
      (frame_seq (control_onAcct _) (control_syncClaims _ _)))

theorem control_appendDrained (p : Params) (shard : String) (allowStorageIo : Bool) :
    Frame control (appendDrained p shard allowStorageIo) := by
  refine frame_read fun w => ?_
  split
  · exact frame_skip
  · exact frame_seq (frame_modify fun _ => rfl) (control_appendAs ..)

theorem quiet_appendDeferred (p : Params) (g : GenerationId) :
    Frame quiet (appendDeferred p g) := by
  constructor
  intro w
  unfold appendDeferred
  split
  · rfl
  · refine Frame.eq ?_ w
    exact frame_seq (quiet_onPart g _) (frame_modify fun _ => rfl)

theorem control_sealDeferred (p : Params) (g : GenerationId) :
    Frame control (sealDeferred p g) := by
  constructor
  intro w
  unfold sealDeferred
  split
  · rfl
  · refine Frame.eq ?_ w
    exact frame_seq (control_of_quiet (quiet_onPart g _)) (frame_seq (frame_modify fun _ => rfl)
      (control_syncClaims _ _))

theorem quiet_dropDeferred (g : GenerationId) (w : Writer) :
    (w.dropDeferred g).quiet = w.quiet := by
  unfold dropDeferred
  split <;> rfl

/-! ## Completions -/

theorem control_evaluateSlo (p : Params) (observed : Nat) :
    Frame control (evaluateSlo p observed) := by
  constructor
  intro w
  unfold evaluateSlo
  repeat' split
  all_goals rfl

theorem quiet_foldControlAssociation (a : ControlAssociation) :
    Frame quiet (foldControlAssociation a) := by
  refine frame_forEach fun t _ => frame_read fun w => ?_
  split
  · exact quiet_onPart _ _
  · exact frame_fail _

theorem control_accountRow (p : Params) (final : Bool) (completed : Nat) (r : Record) :
    Frame control (accountRow p final completed r) := by
  refine frame_seq (frame_require _) (frame_seq (frame_read fun w => ?_)
    (frame_seq (control_onAcct _) (frame_modify fun _ => rfl)))
  split
  · split
    · exact frame_skip
    · exact control_of_quiet (quiet_foldControlAssociation _)
  · exact frame_skip

theorem control_accountDurable (p : Params) (claim : CompletionClaim)
    (result : FileDurabilityResult) : Frame control (accountDurable p claim result) := by
  unfold accountDurable
  split
  · exact frame_fail _
  · split
    · exact frame_fail _
    · exact frame_seq (frame_forEach fun r _ => control_accountRow ..)
        (frame_seq (frame_modify fun _ => rfl) (control_evaluateSlo ..))

theorem control_accountUncertain (claim : CompletionClaim) (e : Err) :
    Frame control (accountUncertain claim e) :=
  frame_seq (frame_forEach fun _ _ => frame_seq (control_onAcct _) (frame_modify fun _ => rfl))
    (frame_modify fun _ => rfl)

theorem quiet_toBarrier (p : Params) (m : Message) (unknown : String) :
    Frame quiet (toBarrier p m unknown) := by
  constructor
  intro w
  unfold toBarrier
  split <;> rfl

theorem quiet_barrierError (w : Writer) (claim : CompletionClaim) :
    (w.barrierError claim).2.quiet = w.quiet := by
  unfold barrierError
  repeat' split
  all_goals rfl

theorem control_completeClaim (p : Params) (claim : CompletionClaim)
    (result : FileDurabilityResult) : Frame control (completeClaim p claim result) := by
  refine frame_seq ?_ (control_accountDurable ..)
  split
  · exact ⟨fun w => ((control_of_quiet (quiet_toBarrier ..)).eq _).trans
      (congrArg Prod.fst (quiet_barrierError w claim))⟩
  · exact control_of_quiet (quiet_onPart _ _)

theorem control_failClaim (p : Params) (claim : CompletionClaim) (g : GenerationId) (e : Err) :
    Frame control (failClaim p claim g e) := by
  refine frame_seq ?_ (control_accountUncertain ..)
  split
  · exact control_of_quiet (quiet_toBarrier ..)
  · exact control_of_quiet (quiet_onPart _ _)

theorem control_thenAlways {f : Proc Err Writer} {g : Writer → Writer} (hf : Frame control f)
    (hg : ∀ w, (g w).control = w.control) : Frame control (thenAlways f g) :=
  ⟨fun w => (hg _).trans (hf.eq w)⟩

theorem control_handleCompletion (p : Params) (m : Message) :
    Frame control (handleCompletion p m) := by
  refine control_thenAlways (frame_read fun w => ?_) fun _ => rfl
  split
  · split
    · exact control_of_quiet (quiet_toBarrier ..)
    · exact control_thenAlways (control_completeClaim ..) fun _ => rfl
  · split
    · exact control_of_quiet (quiet_toBarrier ..)
    · exact control_thenAlways (control_failClaim ..) fun _ => rfl
  · exact control_of_quiet (quiet_toBarrier ..)

theorem control_handleNext (p : Params) : Frame control (handleNext p) := by
  constructor
  intro w
  unfold handleNext
  split
  · rfl
  · exact (control_handleCompletion p _).eq _

theorem quiet_dropUnownedFinal (w : Writer) : w.dropUnownedFinal.quiet = w.quiet := by
  unfold dropUnownedFinal
  split <;> rfl

/-! ## Rotation and close -/

theorem quiet_beginRotations (p : Params) : Frame quiet (beginRotations p) := by
  constructor
  intro w
  unfold beginRotations
  split
  · rfl
  · refine Frame.eq ?_ _
    exact frame_seq (quiet_onParts _) (frame_modify fun _ => rfl)

theorem quiet_commitRotations (p : Params) : Frame quiet (commitRotations p) :=
  frame_read fun _ => frame_seq (quiet_onParts _) (frame_modify fun _ => rfl)

theorem quiet_discardEmpty (g : GenerationId) (failure : Option Err) :
    Frame quiet (discardEmpty g failure) := by
  constructor
  intro w
  unfold discardEmpty
  repeat' split
  all_goals rfl

theorem control_claimFinal (g : GenerationId) : Frame control (claimFinal g) := by
  refine frame_read fun w => ?_
  dsimp only
  split
  · exact frame_skip
  · exact frame_seq (control_onAcct _) (frame_modify fun _ => rfl)

theorem quiet_prepareConfig (p : Params) (generation : Nat) :
    Frame quiet (prepareConfig p generation) := by
  refine ⟨fun w => Frame.eq ?_ w.sampleWall.2⟩
  exact frame_seq (quiet_onParts _) (frame_modify fun _ => rfl)

theorem quiet_installRecovery : Frame quiet installRecovery := by
  constructor
  intro w
  unfold installRecovery
  repeat' split
  all_goals rfl

theorem control_appendRecovery (p : Params) : Frame control (appendRecovery p) := by
  constructor
  intro w
  unfold appendRecovery
  repeat' split
  · rfl
  · rfl
  · refine Frame.eq ?_ w
    exact frame_seq (control_of_quiet (quiet_onPart _ _)) (frame_seq (frame_modify fun _ => rfl)
      (frame_seq (control_onAcct _) (frame_modify fun _ => rfl)))

theorem quiet_endRecovery (failed : Bool) (w : Writer) :
    (w.endRecovery failed).quiet = w.quiet := by
  unfold endRecovery
  repeat' split
  all_goals rfl

theorem quiet_beginDrain : Frame quiet beginDrain := by
  constructor
  intro w
  unfold beginDrain
  split <;> rfl

end Writer

/-! ## All steps -/

/-- The steps that write lifecycle, commands, history or configuration. -/
def Step.writesControl : Step → Bool
  | .clearWork | .setWork | .takeCommand | .endCommand | .settleCommand | .clearPeriodic => true
  | .beginOldestCritical | .setCriticalDraining _ | .enterRotating | .finishRotation => true
  | .enterClose _ _ | .publicationFailed _ | .finishClose => true
  | .beginClose _ _ | .clearDeadline | .closeDone _ | .commitConfig _ _ | .incomplete _ => true
  | .acceptRecovery _ | .startupDone | .captureTerminalError _ | .setStopping => true
  | .releaseResources | .finishRun => true
  | _ => false

/-- The steps that write the accounts. -/
def Step.writesAccounts : Step → Bool
  | .appendDrained _ _ | .sealDeferred _ | .syncParts _ _ | .handleNext | .evaluateSlo => true
  | .beginOldestCritical | .enterClose _ _ | .publicationFailed _ | .acceptRecovery _ => true
  | .appendRecovery | .captureTerminalError _ => true
  | _ => false

open Writer in
theorem quiet_step (p : Params) {s : Step} (h : s.writesControl = false)
    (ha : s.writesAccounts = false) : Frame quiet (s.exec p) := by
  cases s with
  | beginDrain => exact quiet_beginDrain
  | endDrain => exact frame_modify fun _ => rfl
  | drainOne shard => exact quiet_drainOne shard
  | releaseShard shard => exact frame_modify fun _ => rfl
  | ensureCurrent shard => exact frame_modify (quiet_ensureCurrent shard)
  | reservePart shard => exact frame_modify (quiet_reservePart shard)
  | installPart shard => exact quiet_installPart shard
  | beginInitial shards => exact quiet_beginInitial shards
  | commitReserved shards => exact quiet_commitReserved shards
  | rollbackReserved shards => exact quiet_rollbackReserved shards
  | pendHour shard => exact frame_modify (quiet_pendHour shard)
  | appendDeferred g => exact quiet_appendDeferred p g
  | popDeferred g => exact frame_modify fun _ => rfl
  | dropDeferred g => exact frame_modify (quiet_dropDeferred g)
  | invalidate => exact frame_modify fun _ => rfl
  | startStorage => exact frame_modify fun _ => rfl
  | dropUnownedFinal => exact frame_modify quiet_dropUnownedFinal
  | beginRotations => exact quiet_beginRotations p
  | commitRotations => exact quiet_commitRotations p
  | discardEmpty g failure => exact quiet_discardEmpty g failure
  | prepareConfig generation => exact quiet_prepareConfig p generation
  | installRecovery => exact quiet_installRecovery
  | endRecovery failed => exact frame_modify (quiet_endRecovery failed)
  | _ => simp [Step.writesControl, Step.writesAccounts] at h ha

open Writer in
theorem control_step (p : Params) {s : Step} (h : s.writesControl = false) :
    Frame control (s.exec p) := by
  cases ha : s.writesAccounts with
  | false => exact control_of_quiet (quiet_step p h ha)
  | true =>
    cases s with
    | appendDrained shard io => exact control_appendDrained p shard io
    | sealDeferred g => exact control_sealDeferred p g
    | syncParts gs trigger => exact control_syncParts gs trigger
    | handleNext => exact control_handleNext p
    | appendRecovery => exact control_appendRecovery p
    | evaluateSlo => exact ⟨fun w => (control_evaluateSlo p _).eq _⟩
    | _ => simp [Step.writesControl, Step.writesAccounts] at h ha

end CryptoCollector.Storage
