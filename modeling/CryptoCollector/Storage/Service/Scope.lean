import CryptoCollector.Storage.Service.Actor

/-!
# The steps that each coroutine uses

A property that the world and a class of steps keep is kept by every coroutine that uses only
steps of that class. The classes follow the nesting of the coroutines: a quick drain, the pump
around it, drains with storage I/O, closes and rotations.
-/

namespace CryptoCollector.Storage

open Lib

/-- The steps of a drain without storage I/O. -/
def Step.quick : Step → Bool
  | .setWork | .drainOne _ | .ensureCurrent _ | .appendDrained _ false => true
  | .releaseShard _ | .invalidate => true
  | _ => false

/-- The steps of `_pump_task`. -/
def Step.pumping : Step → Bool
  | .clearWork | .beginOldestCritical | .beginDrain | .endDrain => true
  | .handleNext | .dropUnownedFinal => true
  | s => s.quick

/-- The steps of drains and syncs. -/
def Step.draining : Step → Bool
  | .reservePart _ | .installPart _ | .beginInitial _ | .commitReserved _ => true
  | .rollbackReserved _ | .appendDrained _ _ | .pendHour _ => true
  | .appendDeferred _ | .sealDeferred _ | .popDeferred _ | .dropDeferred _ => true
  | .syncParts _ _ | .startStorage | .setCriticalDraining _ => true
  | s => s.pumping

/-- The steps of `_close_members`. -/
def Step.closing : Step → Bool
  | .discardEmpty _ _ | .enterClose _ _ | .publicationFailed _ | .finishClose => true
  | s => s.pumping

/-- The steps of `_rotate_due_parts`. -/
def Step.rotating : Step → Bool
  | .beginRotations | .startStorage | .commitRotations | .enterRotating => true
  | .finishRotation => true
  | s => s.closing

/-- The steps of `_execute_command` itself. -/
def Step.commanding : Step → Bool
  | .startupDone | .prepareConfig _ | .commitConfig _ _ | .incomplete _ => true
  | .beginClose _ _ | .clearDeadline | .closeDone _ => true
  | .acceptRecovery _ | .installRecovery | .appendRecovery | .endRecovery _ => true
  | _ => false

/-- The steps outside of `_execute_command`. -/
def Step.routine (s : Step) : Bool := !s.commanding

/-- The actions that are steps of a class. -/
def scope (c : Step → Bool) : Act → Prop
  | .step s => c s = true
  | _ => False

theorem scope_mono {c d : Step → Bool} (h : ∀ s, c s = true → d s = true) (a : Act)
    (ha : scope c a) : scope d a := by
  cases a with
  | step s => exact h s ha
  | _ => exact ha

theorem pumping_of_quick (s : Step) (h : s.quick = true) : s.pumping = true := by
  cases s <;> first | exact h | rfl

theorem draining_of_pumping (s : Step) (h : s.pumping = true) : s.draining = true := by
  cases s <;> first | exact h | rfl

theorem closing_of_pumping (s : Step) (h : s.pumping = true) : s.closing = true := by
  cases s <;> first | exact h | cases h

theorem rotating_of_closing (s : Step) (h : s.closing = true) : s.rotating = true := by
  cases s <;> first | exact h | cases h

theorem routine_of_draining (s : Step) (h : s.draining = true) : s.routine = true := by
  cases s <;> first | rfl | cases h

theorem routine_of_rotating (s : Step) (h : s.rotating = true) : s.routine = true := by
  cases s <;> first | rfl | cases h

namespace Actor

open Co

variable (p : Params) {c : Step → Bool}

theorem within_step {s : Step} (h : c s = true) : Within (scope c) (step p s) :=
  within_act h

theorem within_state : Within (scope c) (state p) := within_get

theorem within_yielding : Within (scope c) (yielding p) :=
  within_bind within_await fun _ => within_pure _

theorem within_storageCall : Within (scope c) (storageCall p) := by
  refine within_bind within_await fun told => ?_
  split
  · exact within_pure _
  · exact within_raise _

/-! ## Pumping -/

theorem within_drainQuickShards (watermark : Option Nat) (maxRecords : Nat) (shards : List String)
    (drained : Nat) (progressed : Bool) :
    Within (scope Step.quick)
      (drainQuickShards p watermark maxRecords shards drained progressed) := by
  induction shards generalizing drained progressed with
  | nil => exact within_pure _
  | cons shard shards ih =>
    refine within_bind (within_state p) fun w => ?_
    split
    · exact within_bind (within_step p rfl) fun _ =>
        within_bind (within_yielding p) fun _ => within_pure _
    · split
      · refine within_bind (within_step p rfl) fun _ => within_bind ?_ fun _ => ih _ _
        refine within_ensure ?_ (within_step p rfl)
        exact within_bind (within_step p rfl) fun _ => within_step p rfl
      · exact ih _ _

theorem within_drainQuick (watermark : Option Nat) (maxRecords : Nat) :
    Within (scope Step.quick) (drainQuick p watermark maxRecords) := by
  refine within_loop (fun drained => within_bind (within_state p) fun w => ?_) _
  split
  · exact within_pure _
  · refine within_bind (within_drainQuickShards ..) fun r => ?_
    split
    · exact within_pure _
    · exact within_bind (within_step p rfl) fun _ => within_pure _

theorem within_drainMessages : Within (scope Step.pumping) (drainMessages p) := by
  refine within_loop (fun _ => within_bind (within_state p) fun w => ?_) _
  split
  · exact within_pure _
  · exact within_bind (within_step p rfl) fun _ => within_pure _

theorem within_nestedDrain (watermark : Option Nat) :
    Within (scope Step.pumping) (nestedDrain p watermark) := by
  have hquick : Within (scope Step.pumping) (drainQuick p watermark drainServiceQuantumRecords) :=
    (within_drainQuick p watermark _).mono (scope_mono pumping_of_quick)
  refine within_bind (within_state p) fun w => ?_
  split
  · exact hquick
  · exact within_bind (within_step p rfl) fun _ => within_ensure hquick (within_step p rfl)

theorem within_pumpWake (wake : Bool) : Within (scope Step.pumping) (pumpWake p wake) := by
  refine within_bind (within_step p rfl) fun _ => within_bind (within_step p rfl) fun _ =>
    within_bind (within_state p) fun w => within_bind ?_ fun again =>
      within_bind (within_state p) fun _ => within_pure _
  unfold pumpIngress
  split
  · exact within_pure _
  · split
    · exact within_bind (within_nestedDrain p _) fun _ =>
        within_bind (within_state p) fun _ => within_pure _
    · exact within_pure _

theorem within_taskError (wake : Bool) : Within (scope Step.pumping) (taskError p wake) :=
  within_bind (within_when (within_step p rfl)) fun _ =>
    within_bind (within_state p) fun _ => within_pure _

theorem within_pumpWaited (told : Told) (wake : Bool) :
    Within (scope Step.pumping) (pumpWaited p told wake) := by
  refine within_bind (within_state p) fun w => within_bind (within_when (within_step p rfl)) fun _ =>
    within_bind (within_state p) fun w => within_bind ?_ fun _ =>
      within_bind (within_state p) fun _ => within_bind (within_when (within_step p rfl)) fun _ =>
        within_pure _
  split
  · exact within_pumpWake p wake
  · exact within_pure _

theorem within_pump : Within (scope Step.pumping) (pump p) := by
  have hend (wake : Bool) : Within (scope Step.pumping) (do
      let e ← taskError p wake
      pure (.inr e : Bool ⊕ Option Err)) :=
    within_bind (within_taskError p wake) fun _ => within_pure _
  refine within_loop (fun wake => within_bind (within_drainMessages p) fun _ =>
    within_bind (within_state p) fun w => within_bind (within_when (within_step p rfl)) fun _ =>
      within_bind (within_state p) fun w => ?_) _
  split
  · exact hend wake
  · refine within_bind within_await fun told => within_bind (within_pumpWaited p told wake)
      fun wake => within_bind (within_yielding p) fun _ => within_bind (within_state p) fun w => ?_
    split
    · exact hend wake
    · exact within_pure _

theorem within_pumpTask : Within (scope Step.pumping) (pumpTask p) := by
  refine within_bind (within_pump p) fun r => ?_
  split
  · exact within_pure _
  · exact within_raise _

theorem within_pumpIfTask : Within (scope Step.pumping) (pumpIfTask p) := by
  refine within_bind (within_state p) fun w => ?_
  split
  · exact within_bind (within_pumpTask p) fun _ => within_pure _
  · exact within_pure _

/-! ## Draining -/

theorem within_pumpTask_draining : Within (scope Step.draining) (pumpTask p) :=
  (within_pumpTask p).mono (scope_mono draining_of_pumping)

theorem within_pumpIfTask_draining : Within (scope Step.draining) (pumpIfTask p) :=
  (within_pumpIfTask p).mono (scope_mono draining_of_pumping)

theorem within_ensurePart (shard : String) : Within (scope Step.draining) (ensurePart p shard) := by
  refine within_bind (within_state p) fun w => ?_
  split
  · exact within_pure _
  · split
    · exact within_step p rfl
    · exact within_bind (within_step p rfl) fun _ =>
        within_bind (within_storageCall p) fun _ => within_step p rfl

theorem within_appendDrainedRecord (shard : String) (io : Bool) :
    Within (scope Step.draining) (appendDrainedRecord p shard io) := by
  refine within_bind (within_state p) fun w => within_bind (within_step p rfl) fun _ =>
    within_bind (within_when ?_) fun _ => within_pure _
  exact within_bind (within_pumpTask_draining p) fun _ => within_step p rfl

theorem within_selectCold (watermark : Option Nat) (limit : Nat) (shards selected : List String)
    (keys : List LogicalKey) :
    Within (scope Step.draining) (selectCold p watermark limit shards selected keys) := by
  induction shards generalizing selected keys with
  | nil => exact within_pure _
  | cons shard shards ih =>
    refine within_bind (within_state p) fun w => ?_
    dsimp only
    split
    · exact within_bind (within_step p rfl) fun _ => ih _ _
    · exact ih _ _

theorem within_materializeIngressBatch (shards : List String) :
    Within (scope Step.draining) (materializeIngressBatch p shards) := by
  refine within_bind (within_step p rfl) fun _ => within_bind (within_step p rfl) fun _ =>
    within_bind ((within_pump p).mono (scope_mono draining_of_pumping)) fun failure =>
      within_handle ?_ fun e => ?_
  · split
    · exact within_step p rfl
    · exact within_raise _
  · exact within_bind (within_yielding p) fun _ =>
      within_bind (within_handle (within_step p rfl) fun _ => within_pure _) fun _ =>
        within_raise _

theorem within_drainColdIngressBatch (shards : List String) (watermark : Option Nat)
    (limit : Nat) :
    Within (scope Step.draining) (drainColdIngressBatch p shards watermark limit) := by
  refine within_bind (within_selectCold ..) fun selected => ?_
  split
  · exact within_pure _
  · refine within_bind (within_ensure ?_ (within_forEach fun _ => within_step p rfl)) fun _ =>
      within_pure _
    exact within_bind (within_materializeIngressBatch p _) fun _ =>
      within_forEach fun shard => within_bind (within_appendDrainedRecord p shard true) fun _ =>
        within_pure _

theorem within_drainGeneration (watermark maxRecords : Option Nat) (g : GenerationId)
    (drained : Nat) :
    Within (scope Step.draining) (drainGeneration p watermark maxRecords g drained) := by
  refine within_loop (fun drained => within_bind (within_state p) fun w => ?_) _
  repeat' split
  · exact within_pure _
  · exact within_pure _
  · exact within_pure _
  · exact within_bind (within_step p rfl) fun _ => within_bind (within_pumpTask_draining p) fun _ =>
      within_bind (within_step p rfl) fun _ => within_pure _
  · exact within_pure _
  · exact within_bind (within_step p rfl) fun _ =>
      within_bind (within_when (within_yielding p)) fun _ => within_pure _
  · exact within_pure _

theorem within_drainGenerations (watermark maxRecords : Option Nat) (gs : List GenerationId)
    (drained : Nat) (sizeParts : List GenerationId) :
    Within (scope Step.draining)
      (drainGenerations p watermark maxRecords gs drained sizeParts) := by
  induction gs generalizing drained sizeParts with
  | nil => exact within_pure _
  | cons g gs ih =>
    refine within_bind (within_state p) fun w => ?_
    split
    · exact within_raise _
    · refine within_bind (within_drainGeneration ..) fun r => ?_
      split
      split
      · exact within_pure _
      · refine within_bind (within_step p rfl) fun _ => ?_
        exact within_ite (within_pure _) (ih _ _)

theorem within_drainDeferred (watermark maxRecords : Option Nat) :
    Within (scope Step.draining) (drainDeferred p watermark maxRecords) := by
  refine within_loop (fun drained => within_bind (within_state p) fun w =>
    within_bind (within_drainGenerations ..) fun r => ?_) _
  split
  split
  · exact within_pure _
  · refine within_bind (within_step p rfl) fun _ =>
      within_bind (within_pumpIfTask_draining p) fun _ => ?_
    split
    · exact within_pure _
    · exact within_raise _

theorem within_drainShards (watermark maxRecords : Option Nat) (shards : List String)
    (s : DrainState) : Within (scope Step.draining) (drainShards p watermark maxRecords shards s) := by
  induction shards generalizing s with
  | nil => exact within_pure _
  | cons shard shards ih =>
    refine within_bind (within_state p) fun w => ?_
    split
    · refine within_bind (within_step p rfl) fun _ => ?_
      split
      · exact within_bind (within_yielding p) fun _ => within_pure _
      · exact within_pure _
    · split
      · refine within_bind (within_step p rfl) fun _ => within_bind (within_handle ?_ fun e => ?_)
          fun r => within_bind (within_when (within_step p rfl)) fun _ => ?_
        · exact within_bind (within_when (within_yielding p)) fun _ =>
            within_bind (within_ensurePart p shard) fun _ => within_appendDrainedRecord p shard true
        · exact within_bind (within_step p rfl) fun _ => within_raise _
        · exact within_ite (within_pure _) (ih _)
      · exact ih _

theorem within_rollOver (shards : List String) :
    Within (scope Step.draining) (rollOver p shards) := by
  refine within_ensure (within_bind (within_state p) fun w => within_bind (within_step p rfl) fun _ =>
    within_bind (within_pumpIfTask_draining p) fun _ => ?_) (within_forEach fun _ => within_step p rfl)
  split
  · exact within_forEach fun shard => within_bind (within_appendDrainedRecord p shard true) fun _ =>
      within_when (within_raise _)
  · exact within_raise _

theorem within_drainRound (watermark maxRecords : Option Nat) (drained sinceYield : Nat) :
    Within (scope Step.draining) (drainRound p watermark maxRecords drained sinceYield) := by
  have hend : Within (scope Step.draining) (do
      step p .setWork
      yielding p
      pure (.inr () : (Nat × Nat) ⊕ Unit)) :=
    within_bind (within_step p rfl) fun _ => within_bind (within_yielding p) fun _ => within_pure _
  refine within_bind (within_state p) fun w => within_ite (within_pure _) <|
    within_bind (within_ite (within_drainColdIngressBatch ..) (within_pure _)) fun cold =>
      within_ite hend <| within_bind (within_drainShards ..) fun r => within_ite (within_pure _) <|
        within_bind (within_when (within_rollOver p _)) fun _ =>
          within_bind (within_step p rfl) fun _ => ?_
  refine within_ite ?_ (within_ite hend (within_ite (within_pure _) (within_pure _)))
  exact within_bind (within_yielding p) fun _ => within_pure _

theorem within_drainOwned (watermark maxRecords : Option Nat) :
    Within (scope Step.draining) (drainOwned p watermark maxRecords) := by
  refine within_bind (within_step p rfl) fun _ => within_ensure ?_ (within_step p rfl)
  refine within_bind (within_drainDeferred ..) fun drained => ?_
  split
  · exact within_bind (within_step p rfl) fun _ => within_yielding p
  · exact within_loop (fun s => within_drainRound ..) _

theorem within_finishOldestCriticalDrain :
    Within (scope Step.draining) (finishOldestCriticalDrain p) := by
  refine within_bind (within_state p) fun w => ?_
  split
  · exact within_pure _
  · refine within_bind (within_step p rfl) fun _ => within_ensure (within_bind
      (within_drainOwned p _ _) fun _ => within_loop (fun _ => ?_) _) (within_step p rfl)
    refine within_bind (within_state p) fun w => within_bind (within_step p rfl) fun _ =>
      within_bind (within_pumpIfTask_draining p) fun r => within_pure _

theorem within_raiseOldest : Within (scope Step.draining) (raiseOldest p) := by
  refine within_bind (within_state p) fun w => ?_
  repeat' split
  · exact within_pure _
  · exact within_pure _
  · exact within_bind (within_finishOldestCriticalDrain p) fun _ => within_raise _

theorem within_drainIngress (watermark maxRecords : Option Nat) :
    Within (scope Step.draining) (drainIngress p watermark maxRecords) :=
  within_bind (within_drainOwned p _ _) fun _ => within_raiseOldest p

theorem within_syncActive (trigger : DurabilityTrigger) :
    Within (scope Step.draining) (syncActive p trigger) :=
  within_bind (within_state p) fun _ => within_bind (within_step p rfl) fun _ =>
    within_bind (within_pumpIfTask_draining p) fun _ => within_when (within_raiseOldest p)

/-! ## Closing and rotating -/

theorem within_closeMembers (members : List CloseMember) (trigger : DurabilityTrigger) :
    Within (scope Step.closing) (closeMembers p members trigger) := by
  refine within_bind (within_state p) fun w => within_bind (within_forEach fun m => ?_) fun _ => ?_
  · exact within_bind within_await fun _ => within_step p rfl
  · dsimp only
    split
    · exact within_pure _
    · refine within_bind (within_step p rfl) fun _ => within_bind (within_handle
        ((within_pumpTask p).mono (scope_mono closing_of_pumping)) fun e => ?_) fun _ =>
          within_bind (within_state p) fun _ => within_bind (within_step p rfl) fun _ =>
            within_pure _
      exact within_bind (within_step p rfl) fun _ => within_raise _

theorem within_rotateDueParts : Within (scope Step.rotating) (rotateDueParts p) := by
  refine within_bind (within_step p rfl) fun _ => within_bind (within_state p) fun w =>
    within_bind (within_handle ?_ fun e => ?_) fun _ => within_bind (within_state p) fun w => ?_
  · refine within_bind (within_forEach fun _ => ?_) fun _ => within_step p rfl
    exact within_bind (within_step p rfl) fun _ => (within_pumpTask p).mono
      (scope_mono fun s h => rotating_of_closing s (closing_of_pumping s h))
  · exact within_bind (within_yielding p) fun _ => within_raise _
  · split
    · exact within_pure _
    · exact within_bind (within_step p rfl) fun _ => within_bind
        ((within_closeMembers p _ _).mono (scope_mono rotating_of_closing)) fun _ =>
          within_step p rfl

/-! ## The whole run -/

theorem within_waitForWork : Within (scope Step.routine) (waitForWork p) := by
  refine within_loop (fun _ => within_bind (within_state p) fun w => ?_) _
  exact within_ite (within_pure _) (within_bind (within_yielding p) fun _ => within_pure _)

theorem within_periodicWork : Within (scope Step.routine) (periodicWork p) := by
  refine within_bind (within_step p rfl) fun _ => within_bind (within_step p rfl) fun _ =>
    within_bind (within_state p) fun w => ?_
  split
  · exact within_bind ((within_finishOldestCriticalDrain p).mono
      (scope_mono routine_of_draining)) fun _ => within_raise _
  · exact within_bind ((within_syncActive p _).mono (scope_mono routine_of_draining)) fun _ =>
      within_bind ((within_rotateDueParts p).mono (scope_mono routine_of_rotating)) fun _ =>
        within_step p rfl

theorem within_finish : Within (scope Step.routine) (finish p) :=
  within_bind (within_state p) fun _ => within_bind (within_when (within_yielding p)) fun _ =>
    within_bind (within_step p rfl) fun _ => within_bind (within_step p rfl) fun _ =>
      within_loop (fun _ => within_bind (within_yielding p) fun _ => within_pure _) _

/-- The rule for whole runs: what the world and all steps outside of commands keep, and what every
command keeps when it is taken from the queue, is there all along. -/
theorem wp_run_of_commands {A P : Act → Writer → Prop} {K : Writer → Prop}
    (hK : ∀ a t, a.outside = true ∨ scope Step.routine a → K t → A a t →
      P a t ∧ K (Act.exec p a t).2)
    (hc : ∀ c t, t.loop.commands.head? = some c → K t → A (.step .takeCommand) t →
      Wp A P (commandBody p c) (fun _ => K) (fun _ => K) (Act.exec p (.step .takeCommand) t).2)
    {w : Writer} (h : K w) : Wp A P (run p) (fun _ => K) (fun _ => K) w := by
  have hroutine {α : Type} {m : Actor p α} (hm : Within (scope Step.routine) m) {t : Writer}
      (ht : K t) : Wp A P m (fun _ => K) (fun _ => K) t := wp_of_within hm hK ht
  have hrun (c : Command) (t : Writer) (hh : t.loop.commands.head? = some c) (ht : K t) :
      Wp A P (runCommand p c) (fun _ => K) (fun _ => K) t := by
    have hend (b : Bool) (t : Writer) (ht : K t) : Wp A P (do
        step p .endCommand
        pure b) (fun _ => K) (fun _ => K) t :=
      hroutine (within_bind (within_step p rfl) fun _ => within_pure _) ht
    have hfailed (e : Err) (t : Writer) (ht : K t) : Wp A P (do
        step p (.captureTerminalError e)
        step p .setStopping
        pure false) (fun _ => K) (fun _ => K) t :=
      hroutine (within_bind (within_step p rfl) fun _ => within_bind (within_step p rfl)
        fun _ => within_pure _) ht
    have htake : scope Step.routine (.step .takeCommand) := rfl
    refine wp_bind (wp_act fun hA => ⟨(hK _ t (.inr htake) ht hA).1, ?_⟩)
    change Wp (M := service p) A P _ _ _ (Act.exec p (.step .takeCommand) t).2
    apply wp_bind
    refine wp_post ?_ hend
    apply wp_handle
    exact wp_bind (wp_mono (hc c t hh ht hA) (fun _ t ht => wp_pure ht) hfailed)
  have hloop (t : Writer) (ht : K t) :
      Wp A P (commandLoop p) (fun _ => K) (fun _ => K) t := by
    refine wp_loop (fun _ => K) (fun _ t ht => wp_bind (wp_get ?_)) ht
    split
    · exact wp_pure ht
    · rename_i c _ he
      refine wp_bind (wp_post (hrun c t (by rw [he]; rfl) ht) fun succeeded t ht => ?_)
      refine wp_ite (fun _ => wp_pure ht) fun _ => wp_ite (fun _ => ?_) fun _ => ?_
      · exact wp_bind (wp_post (hroutine (within_step p rfl) ht) fun _ t ht => wp_pure ht)
      · exact wp_bind (wp_post (hroutine (within_step p rfl) ht) fun _ t ht => wp_pure ht)
  have hmain (t : Writer) (ht : K t) : Wp A P (mainLoop p) (fun _ => K) (fun _ => K) t := by
    refine wp_loop (fun _ => K) (fun _ t ht => wp_bind (wp_get ?_)) ht
    refine wp_ite (fun _ => wp_pure ht) fun _ => ?_
    refine wp_bind (wp_post (hroutine (within_waitForWork p) ht) fun _ t ht => ?_)
    refine wp_bind (wp_post (hroutine (within_step p rfl) ht) fun _ t ht => ?_)
    refine wp_bind (wp_get (wp_bind (wp_post (hroutine (within_when ((within_drainIngress p _ _).mono
      (scope_mono routine_of_draining))) ht) fun _ t ht => ?_)))
    refine wp_bind (wp_post (hloop t ht) fun _ t ht => wp_bind (wp_get ?_))
    refine wp_ite (fun _ => wp_pure ht) fun _ => ?_
    exact wp_bind (wp_post (hroutine (within_when (within_periodicWork p)) ht) fun _ t ht =>
      wp_pure ht)
  have hfinish (_ : Unit) (t : Writer) (ht : K t) : Wp A P (finish p) (fun _ => K) (fun _ => K) t :=
    hroutine (within_finish p) ht
  have hfailed (e : Err) (t : Writer) (ht : K t) : Wp A P (do
      step p (.captureTerminalError e)
      step p .setStopping) (fun _ => K) (fun _ => K) t :=
    hroutine (within_bind (within_step p rfl) fun _ => within_step p rfl) ht
  apply wp_bind
  refine wp_post ?_ hfinish
  apply wp_handle
  exact wp_mono (hmain w h) (fun _ _ ht => ht) hfailed

end Actor

end CryptoCollector.Storage
