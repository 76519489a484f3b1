import CryptoCollector.Storage.Barrier.Parts

/-!
# The commands of a final barrier

A command waits for prerequisite claims, syncs its final batch, and ends in a publication or a
clean-up task (`Waiting`, `Syncing`, `Ending`). What is done for one command leaves every other
command alone (`Serves`).
-/

namespace CryptoCollector.Storage.Core

open Lib

/-- The command that a generation belongs to. -/
def owner (c : Core) (g : GenerationId) : Option Nat := c.barrier.commandByGeneration.get? g

/-- The state of a command that is not settled. -/
def command (c : Core) (id : Nat) : Option BarrierCommand := c.barrier.commands.get? id

/-- Nothing that command `k` relies on has changed. -/
structure Spares (k : Nat) (c c' : Core) : Prop where
  command : c'.command k = c.command k
  owner : ∀ g, c'.owner g = some k ↔ c.owner g = some k
  claims : ∀ g, c.owner g = some k → c'.claimOf g = c.claimOf g

/-- Work in flight has its claim, and the batch that the claim is bound to. -/
def Busy (c : Core) : Prop :=
  ∀ w ∈ c.disk.works, ∃ p, c.parts.part? w.generationId = some p ∧ p.claimed.isSome ∧
    ∀ batch, p.claimBatch = some batch → w.batch = batch

/-- What is done for command `id` leads from `c` to `c'`. -/
structure Serves (reported : List (GenerationId × Record)) (id : Nat) (c c' : Core) : Prop where
  later : c.Later c'
  accounted : c.Accounted reported → c'.Accounted reported
  busy : c.Busy → c'.Busy
  spares : ∀ k, k ≠ id → Spares k c c'
  owner : ∀ g k, c'.owner g = some k → c.owner g = some k
  live : ∀ k, (c'.command k).isSome = (c.command k).isSome
  results : c'.barrier.results = c.barrier.results
  next : c'.barrier.nextCommand = c.barrier.nextCommand
  queue : c'.disk.queue = c.disk.queue
  files : c'.disk.files = c.disk.files
  works : ∀ w ∈ c'.disk.works, w ∈ c.disk.works ∨ c.owner w.generationId = some id

variable {reported : List (GenerationId × Record)} {id k : Nat} {c c' c'' : Core}
  {g : GenerationId}

theorem Spares.refl (k : Nat) (c : Core) : Spares k c c := ⟨rfl, fun _ => .rfl, fun _ _ => rfl⟩

theorem Spares.trans (h : Spares k c c') (h' : Spares k c' c'') : Spares k c c'' where
  command := h'.command.trans h.command
  owner := fun g => (h'.owner g).trans (h.owner g)
  claims := fun g hg => (h'.claims g ((h.owner g).2 hg)).trans (h.claims g hg)

theorem Serves.refl (reported : List (GenerationId × Record)) (id : Nat) (c : Core) :
    Serves reported id c c where
  later := .refl c
  accounted := fun h => h
  busy := fun h => h
  spares := fun k _ => .refl k c
  owner := fun _ _ h => h
  live := fun _ => rfl
  results := rfl
  next := rfl
  queue := rfl
  files := rfl
  works := fun _ h => .inl h

theorem Serves.trans (h : Serves reported id c c') (h' : Serves reported id c' c'') :
    Serves reported id c c'' where
  later := h.later.trans h'.later
  accounted := fun hc => h'.accounted (h.accounted hc)
  busy := fun hc => h'.busy (h.busy hc)
  spares := fun k hk => (h.spares k hk).trans (h'.spares k hk)
  owner := fun g k hg => h.owner g k (h'.owner g k hg)
  live := fun k => (h'.live k).trans (h.live k)
  results := h'.results.trans h.results
  next := h'.next.trans h.next
  queue := h'.queue.trans h.queue
  files := h'.files.trans h.files
  works := by
    intro w hw
    rcases h'.works w hw with hw | hw
    · exact h.works w hw
    · exact .inr (h.owner _ _ hw)

/-! ## Bookkeeping -/

theorem command_updateCommand (c : Core) (id : Nat) (f : BarrierCommand → BarrierCommand)
    (k : Nat) :
    (c.updateCommand id f).command k = if k = id then (c.command k).map f else c.command k :=
  Dict.get?_update _ _ _ _

theorem serves_updateCommand (f : BarrierCommand → BarrierCommand) :
    Serves reported id c (c.updateCommand id f) where
  later := ⟨fun _ p hp => ⟨p, hp, .refl p⟩, fun _ h => h⟩
  accounted := fun h => h
  busy := fun h => h
  spares := fun k hk => ⟨by rw [command_updateCommand, if_neg hk], fun _ => .rfl, fun _ _ => rfl⟩
  owner := fun _ _ h => h
  live := by
    intro k
    rw [command_updateCommand]
    split <;> simp
  results := rfl
  next := rfl
  queue := rfl
  files := rfl
  works := fun _ h => .inl h

/-- Generations of the command are taken out of the index. -/
theorem serves_index {index : Dict GenerationId Nat}
    (hindex : ∀ g, index.get? g = c.owner g ∨ c.owner g = some id ∧ index.get? g = none) :
    Serves reported id c { c with barrier := { c.barrier with commandByGeneration := index } } where
  later := ⟨fun _ p hp => ⟨p, hp, .refl p⟩, fun _ h => h⟩
  accounted := fun h => h
  busy := fun h => h
  spares := by
    intro k hk
    refine ⟨rfl, fun g => ?_, fun _ _ => rfl⟩
    change index.get? g = some k ↔ _
    rcases hindex g with h | ⟨h, hnone⟩
    · rw [h]
    · rw [h, hnone]
      simpa using fun h => hk h.symm
  owner := by
    intro g k hg
    have hg : index.get? g = some k := hg
    rcases hindex g with h | ⟨h, hnone⟩
    · rw [← h, hg]
    · simp [hnone] at hg
  live := fun _ => rfl
  results := rfl
  next := rfl
  queue := rfl
  files := rfl
  works := fun _ h => .inl h

/-- A generation of the command is released. -/
theorem releaseGeneration_owned (reported : List (GenerationId × Record))
    (h : c.owner g = some id) :
    ∃ c', releaseGeneration id g c = (none, c') ∧ Serves reported id c c' ∧
      (∀ a, c'.owner a = if a = g then none else c.owner a) ∧ c'.parts = c.parts ∧
      c'.disk = c.disk ∧ c'.barrier.commands = c.barrier.commands := by
  have howner : c.barrier.commandByGeneration.get? g = some id := h
  refine ⟨{ c with barrier := { c.barrier with
      commandByGeneration := c.barrier.commandByGeneration.erase g } },
    by rw [releaseGeneration, if_pos howner], serves_index ?_, ?_, rfl, rfl, rfl⟩
  · intro a
    rw [Dict.get?_erase]
    split
    · next ha => exact .inr ⟨by rw [ha, h], rfl⟩
    · exact .inl rfl
  · exact fun a => Dict.get?_erase _ _ _

theorem get?_foldl_erase {κ α : Type} [DecidableEq κ] (d : Dict κ α) (ks : List κ) (k : κ) :
    (ks.foldl Dict.erase d).get? k = if k ∈ ks then none else d.get? k := by
  induction ks generalizing d with
  | nil => simp
  | cons a ks ih =>
    rw [List.foldl_cons, ih, Dict.get?_erase]
    by_cases ha : k = a <;> by_cases hk : k ∈ ks <;> simp [ha, hk]

/-- The generations of the command are released. -/
theorem releaseCommandReservations_owned (reported : List (GenerationId × Record))
    (cmd : BarrierCommand)
    (hwork : ∀ g, c.owner g = some id → g ∈ cmd.workParts) :
    Serves reported id c (c.releaseCommandReservations id cmd) ∧
      ∀ g, (c.releaseCommandReservations id cmd).owner g ≠ some id := by
  have hget : ∀ g, (c.releaseCommandReservations id cmd).owner g =
      if c.owner g = some id then none else c.owner g := by
    intro g
    unfold releaseCommandReservations owner
    rw [get?_foldl_erase]
    by_cases hg : c.barrier.commandByGeneration.get? g = some id
    · simp [hg, hwork g hg]
    · simp [hg]
  refine ⟨serves_index fun g => ?_, fun g => ?_⟩
  · have h := hget g
    by_cases hg : c.owner g = some id
    · exact .inr ⟨hg, by rw [if_pos hg] at h; exact h⟩
    · exact .inl (by rw [if_neg hg] at h; exact h)
  · rw [hget]
    split
    · simp
    · next hg => exact hg

/-! ## Operations on parts -/

/-- An operation that leaves the claim of the part alone. -/
theorem serves_onPart_still (id : Nat) (c : Core) {f : Proc Err Part}
    (hlater : ∀ p : Part, p.Later (f p).2)
    (haccounted : ∀ p : Part, p.Accounted reported g → (f p).2.Accounted reported g)
    (hclaim : ∀ p, (f p).2.claimed = p.claimed ∧ (f p).2.claimBatch = p.claimBatch) :
    Serves reported id c (onPart g f c).2 ∧ ∀ h, (onPart g f c).2.claimOf h = c.claimOf h := by
  have hclaims : ∀ h, (onPart g f c).2.claimOf h = c.claimOf h := by
    intro h
    rw [claimOf_onPart]
    split
    · simp [claimOf, hclaim]
    · rfl
  refine ⟨?_, hclaims⟩
  exact {
    later := later_onPart hlater
    accounted := fun hc => hc.onPart haccounted
    busy := by
      intro hbusy w hw
      obtain ⟨p, hp, hclaimed, hbatch⟩ := hbusy w hw
      rw [part?_onPart]
      split
      · refine ⟨(f p).2, by rw [hp]; rfl, by rw [(hclaim p).1]; exact hclaimed, ?_⟩
        rw [(hclaim p).2]
        exact hbatch
      · exact ⟨p, hp, hclaimed, hbatch⟩
    spares := fun k _ => ⟨rfl, fun _ => .rfl, fun h _ => hclaims h⟩
    owner := fun _ _ h => h
    live := fun _ => rfl
    results := rfl
    next := rfl
    queue := rfl
    files := rfl
    works := fun _ h => .inl h }

/-- An operation on a part that no other command owns and no work is in flight for. -/
theorem serves_onPart_claim {f : Proc Err Part} (hlater : ∀ p : Part, p.Later (f p).2)
    (haccounted : ∀ p : Part, c.parts.part? g = some p → p.Accounted reported g →
      (f p).2.Accounted reported g)
    (howner : ∀ k, k ≠ id → c.owner g ≠ some k)
    (hworks : ∀ w ∈ c.disk.works, w.generationId ≠ g) :
    Serves reported id c (onPart g f c).2 where
  later := later_onPart hlater
  accounted := by
    intro hc h q hq
    rw [part?_onPart] at hq
    split at hq
    · next heq =>
      subst heq
      obtain ⟨p, hp, rfl⟩ := Option.map_eq_some_iff.1 hq
      exact haccounted p hp (hc h p hp)
    · exact hc h q hq
  busy := by
    intro hbusy w hw
    rw [part?_onPart, if_neg (hworks w hw)]
    exact hbusy w hw
  spares := by
    intro k hk
    refine ⟨rfl, fun _ => .rfl, fun h hh => ?_⟩
    rw [claimOf_onPart, if_neg]
    rintro rfl
    exact howner k hk hh
  owner := fun _ _ h => h
  live := fun _ => rfl
  results := rfl
  next := rfl
  queue := rfl
  files := rfl
  works := fun _ h => .inl h

/-! ## Settling claims -/

/-- A control event is folded into a part. -/
def HasEvent (c : Core) (g : GenerationId) (event : String) : Prop :=
  ∃ p, c.parts.part? g = some p ∧ event ∈ p.accumulator.controlEventIds

theorem HasEvent.later {event : String} (h : c.HasEvent g event) (hl : c.Later c') :
    c'.HasEvent g event := by
  obtain ⟨p, hp, he⟩ := h
  obtain ⟨q, hq, hpq⟩ := hl.parts g p hp
  exact ⟨q, hq, hpq.events event he⟩

theorem claimed_fold (association : ControlAssociation) (p : Part) :
    (Part.foldDurableControl association p).2.claimed = p.claimed ∧
      (Part.foldDurableControl association p).2.claimBatch = p.claimBatch := by
  unfold Part.foldDurableControl
  split <;> exact ⟨rfl, rfl⟩

/-- Only the accumulators of parts have changed, for command `id`. -/
structure Folds (reported : List (GenerationId × Record)) (id : Nat) (c c' : Core) : Prop where
  serves : Serves reported id c c'
  claims : ∀ g, c'.claimOf g = c.claimOf g
  barrier : c'.barrier = c.barrier
  disk : c'.disk = c.disk

theorem Folds.onPart {f : Proc Err Part} (h : Folds reported id c c')
    (hlater : ∀ p : Part, p.Later (f p).2)
    (haccounted : ∀ p : Part, p.Accounted reported g → (f p).2.Accounted reported g)
    (hclaim : ∀ p, (f p).2.claimed = p.claimed ∧ (f p).2.claimBatch = p.claimBatch) :
    Folds reported id c (Core.onPart g f c').2 := by
  obtain ⟨hserves, hclaims⟩ := serves_onPart_still id c' hlater haccounted hclaim
  exact ⟨h.serves.trans hserves, fun a => (hclaims a).trans (h.claims a), h.barrier, h.disk⟩

theorem folds_dependency (reported : List (GenerationId × Record)) (id : Nat)
    (dep : ControlDependency) :
    Proc.Keeps (Folds reported id c) (Proc.forEach dep.targets fun g =>
      onPart g (Part.foldDurableControl dep.association)) :=
  Proc.keeps_forEach fun _ _ _ h => h.onPart (fun _ => Part.later_fold _)
    (fun _ hp => hp.fold _) (claimed_fold _)

theorem onPart_eq_none {f : Proc Err Part} (h : (onPart g f c).1 = none) :
    ∃ p, c.parts.part? g = some p ∧ (f p).1 = none := by
  unfold onPart onParts ActivePartSet.onPart at h
  dsimp only at h
  split at h
  · simp at h
  · next p hp => exact ⟨p, hp, h⟩

theorem hasEvent_of_fold {association : ControlAssociation}
    (h : (onPart g (Part.foldDurableControl association) c).1 = none) :
    (onPart g (Part.foldDurableControl association) c).2.HasEvent g
      association.controlEventId := by
  obtain ⟨p, hp, hfold⟩ := onPart_eq_none h
  refine ⟨_, by rw [part?_onPart, if_pos rfl, hp]; rfl, ?_⟩
  unfold Part.foldDurableControl at hfold ⊢
  split at hfold
  · simp at hfold
  · next hvalid => simp [hvalid, PartAccumulator.fold]

/-- The dependencies are folded into all of their targets, or some check fails. -/
theorem foldDependencies_spec (reported : List (GenerationId × Record)) (id : Nat)
    (deps : List ControlDependency) (c : Core) :
    Folds reported id c (foldDependencies deps c).2 ∧
      ((foldDependencies deps c).1 = none → ∀ dep ∈ deps, ∀ g ∈ dep.targets,
        (foldDependencies deps c).2.HasEvent g dep.association.controlEventId) := by
  have hrefl : Folds reported id c c := ⟨.refl reported id c, fun _ => rfl, rfl, rfl⟩
  unfold foldDependencies
  split
  · exact ⟨hrefl, fun h => by simp at h⟩
  · refine ⟨Proc.keeps_forEach (fun dep _ => folds_dependency reported id dep) _ hrefl, ?_⟩
    refine Proc.forEach_eq_none
      (Q := fun (dep : ControlDependency) (c : Core) => ∀ g ∈ dep.targets,
        c.HasEvent g dep.association.controlEventId) ?_ ?_
    · intro dep _ c' hok
      refine Proc.forEach_eq_none
        (Q := fun g (c : Core) => c.HasEvent g dep.association.controlEventId) ?_ ?_ hok
      · intro g _ c' hfold
        exact hasEvent_of_fold hfold
      · intro g _ h _ c' hevent
        exact hevent.later (later_onPart fun _ => Part.later_fold _)
    · intro dep _ dep' _ c' hevents g hg
      have hlater := (folds_dependency [] id dep' c'
        ⟨.refl [] id c', fun _ => rfl, rfl, rfl⟩).serves.later
      exact (hevents g hg).later hlater

/-- What `_settle_claim_message` does with the claim of `g` for the command `id`. -/
structure Settles (reported : List (GenerationId × Record)) (id : Nat) (cmd : BarrierCommand)
    (g : GenerationId) (deps : List ControlDependency) (c : Core) (r : Bool × Core) : Prop where
  serves : Serves reported id c r.2
  claim : r.2.claimOf g = none
  claims : ∀ a, a ≠ g → r.2.claimOf a = c.claimOf a
  owner : ∀ a, r.2.owner a = c.owner a
  disk : r.2.disk = c.disk
  settled : r.1 = true → r.2.command id = some cmd ∧ ∀ dep ∈ deps, ∀ a ∈ dep.targets,
    r.2.HasEvent a dep.association.controlEventId
  failed : r.1 = false →
    ∃ e, r.2.command id = some { cmd with fileErrors := cmd.fileErrors.set g e }

section Settle

variable {cmd : BarrierCommand} {deps : List ControlDependency}

theorem claimOf_applyFailure (e : Err) (a : GenerationId) :
    (onPart g (Part.applyFailure e) c).2.claimOf a =
      if a = g then none else c.claimOf a := by
  rw [claimOf_onPart]
  split
  · cases hp : c.parts.part? a with
    | none => rfl
    | some p =>
      unfold Part.applyFailure
      cases hclaimed : p.claimed <;> simp [hclaimed]
  · rfl

/-- The claim is settled as a failure. -/
theorem settles_failure (reported : List (GenerationId × Record))
    (deps : List ControlDependency) (e note : Err) (hcmd : c.command id = some cmd)
    (howner : ∀ k, k ≠ id → c.owner g ≠ some k)
    (hworks : ∀ w ∈ c.disk.works, w.generationId ≠ g) :
    Settles reported id cmd g deps c
      (false, (onPart g (Part.applyFailure e) c).2.updateCommand id fun cmd =>
        { cmd with fileErrors := cmd.fileErrors.set g note }) where
  serves := (serves_onPart_claim (fun _ => Part.later_failure e)
    (fun _ _ hp => hp.failure e) howner hworks).trans (serves_updateCommand _)
  claim := (claimOf_applyFailure e g).trans (if_pos rfl)
  claims := fun a ha => (claimOf_applyFailure e a).trans (if_neg ha)
  owner := fun _ => rfl
  disk := rfl
  settled := fun h => by simp at h
  failed := by
    intro _
    refine ⟨note, ?_⟩
    rw [command_updateCommand, if_pos rfl]
    change (c.command id).map _ = _
    rw [hcmd]
    rfl

theorem settleClaimMessage_failed (slo : Nat) (e : Err) (hcmd : c.command id = some cmd)
    (howner : ∀ k, k ≠ id → c.owner g ≠ some k)
    (hworks : ∀ w ∈ c.disk.works, w.generationId ≠ g) :
    Settles reported id cmd g deps c (settleClaimMessage slo id g (.failed g e) deps c) := by
  unfold settleClaimMessage
  dsimp only
  split
  · next c' h =>
    have := settles_failure reported deps e e hcmd howner hworks
    rw [show (onPart g (Part.applyFailure e) c).2 = c' by rw [onPart, h]] at this
    exact this
  · next note c' h =>
    have := settles_failure reported deps e note hcmd howner hworks
    rw [show (onPart g (Part.applyFailure e) c).2 = c' by rw [onPart, h]] at this
    exact this

theorem claimOf_applyCompletion {slo : Nat} {result : FileDurabilityResult}
    (h : (onPart g (Part.applyCompletion slo result) c).1 = none) (a : GenerationId) :
    (onPart g (Part.applyCompletion slo result) c).2.claimOf a =
      if a = g then none else c.claimOf a := by
  rw [claimOf_onPart]
  split
  · next heq =>
    obtain ⟨p, hp, hok⟩ := onPart_eq_none h
    rw [heq, hp]
    rcases Part.applyCompletion_cases (p := p) slo result with ⟨e, he⟩ | ⟨-, t, hcredit⟩
    · simp [he] at hok
    · change (Part.applyCompletion slo result p).2.claimed = none
      rw [hcredit]
  · rfl

theorem onPart_applyCompletion_error {slo : Nat} {result : FileDurabilityResult}
    (h : (onPart g (Part.applyCompletion slo result) c).1 ≠ none) (a : GenerationId) :
    (onPart g (Part.applyCompletion slo result) c).2.parts.part? a = c.parts.part? a := by
  rw [part?_onPart]
  split
  · next heq =>
    cases hp : c.parts.part? a with
    | none => rfl
    | some p =>
      rcases Part.applyCompletion_cases (p := p) slo result with ⟨e, he⟩ | ⟨-, t, hcredit⟩
      · simp [he]
      · refine absurd ?_ h
        rw [heq] at hp
        unfold onPart onParts ActivePartSet.onPart
        simp [hp, hcredit]
  · rfl

/-- The same parts, after a refused operation. -/
theorem folds_of_same_parts (hparts : ∀ a, c'.parts.part? a = c.parts.part? a)
    (hbarrier : c'.barrier = c.barrier) (hdisk : c'.disk = c.disk) : Folds reported id c c' := by
  have hclaims : ∀ a, c'.claimOf a = c.claimOf a := by
    intro a
    unfold claimOf
    rw [hparts]
  refine ⟨?_, hclaims, hbarrier, hdisk⟩
  have howner : ∀ a, c'.owner a = c.owner a := by
    intro a
    unfold owner
    rw [hbarrier]
  have hcommand : ∀ a, c'.command a = c.command a := by
    intro a
    unfold command
    rw [hbarrier]
  exact {
    later := ⟨fun a p hp => ⟨p, by rw [hparts, hp], .refl p⟩, by rw [hdisk]; exact fun _ h => h⟩
    accounted := fun h a p hp => h a p (by rw [← hparts, hp])
    busy := by
      intro h
      unfold Busy
      simp only [hdisk, hparts]
      exact h
    spares := fun k _ => ⟨hcommand k, fun a => by rw [howner], fun a _ => hclaims a⟩
    owner := fun a k h => by rw [← howner, h]
    live := fun k => by rw [hcommand]
    results := by rw [hbarrier]
    next := by rw [hbarrier]
    queue := by rw [hdisk]
    files := by rw [hdisk]
    works := by
      rw [hdisk]
      exact fun _ h => .inl h }

theorem Settles.after {r : Bool × Core} (hf : Folds reported id c c')
    (h : Settles reported id cmd g deps c' r) : Settles reported id cmd g deps c r where
  serves := hf.serves.trans h.serves
  claim := h.claim
  claims := fun a ha => (h.claims a ha).trans (hf.claims a)
  owner := by
    intro a
    rw [h.owner]
    unfold Core.owner
    rw [hf.barrier]
  disk := h.disk.trans hf.disk
  settled := h.settled
  failed := h.failed

theorem settleClaimMessage_completed (slo : Nat) (result : FileDurabilityResult)
    (hcmd : c.command id = some cmd) (howner : ∀ k, k ≠ id → c.owner g ≠ some k)
    (hworks : ∀ w ∈ c.disk.works, w.generationId ≠ g)
    (hreported : ∀ r ∈ c.claimRows g, (g, r) ∈ reported) :
    Settles reported id cmd g deps c (settleClaimMessage slo id g (.completed result) deps c) := by
  have hserves : Serves reported id c (onPart g (Part.applyCompletion slo result) c).2 := by
    refine serves_onPart_claim (fun _ => Part.later_completion slo result) ?_ howner hworks
    intro p hp hacc
    refine hacc.completion slo result (fun _ h => h) fun r hr => hreported r ?_
    unfold claimRows claimOf
    rw [hp]
    exact hr
  unfold settleClaimMessage
  dsimp only
  split
  · next e c' h =>
    have hc' : (onPart g (Part.applyCompletion slo result) c).2 = c' := by rw [onPart, h]
    have herror : (onPart g (Part.applyCompletion slo result) c).1 ≠ none := by
      rw [onPart, h]
      simp
    have hfolds : Folds reported id c c' := by
      rw [← hc']
      exact folds_of_same_parts (onPart_applyCompletion_error herror) rfl rfl
    refine Settles.after hfolds (settles_failure _ _ _ e ?_ ?_ ?_)
    · unfold command
      rw [hfolds.barrier]
      exact hcmd
    · unfold owner
      rw [hfolds.barrier]
      exact howner
    · rw [hfolds.disk]
      exact hworks
  · next c' h =>
    have hc' : (onPart g (Part.applyCompletion slo result) c).2 = c' := by rw [onPart, h]
    have hok : (onPart g (Part.applyCompletion slo result) c).1 = none := by rw [onPart, h]
    have hclaims := claimOf_applyCompletion hok
    rw [hc'] at hserves hclaims
    have hbarrier : c'.barrier = c.barrier := by rw [← hc']; rfl
    have hdisk : c'.disk = c.disk := by rw [← hc']; rfl
    obtain ⟨hfolds, hevents⟩ := foldDependencies_spec reported id deps c'
    split
    · next c'' hfold =>
      rw [hfold] at hfolds hevents
      exact {
        serves := hserves.trans hfolds.serves
        claim := by rw [hfolds.claims, hclaims, if_pos rfl]
        claims := fun a ha => by rw [hfolds.claims, hclaims, if_neg ha]
        owner := fun a => by unfold owner; rw [hfolds.barrier, hbarrier]
        disk := hfolds.disk.trans hdisk
        settled := by
          intro _
          refine ⟨?_, hevents rfl⟩
          unfold command
          rw [hfolds.barrier, hbarrier]
          exact hcmd
        failed := fun h => by simp at h }
    · next e c'' hfold =>
      rw [hfold] at hfolds
      exact {
        serves := (hserves.trans hfolds.serves).trans (serves_updateCommand _)
        claim := by
          change c''.claimOf g = none
          rw [hfolds.claims, hclaims, if_pos rfl]
        claims := by
          intro a ha
          change c''.claimOf a = _
          rw [hfolds.claims, hclaims, if_neg ha]
        owner := by
          intro a
          change c''.owner a = _
          unfold owner
          rw [hfolds.barrier, hbarrier]
        disk := hfolds.disk.trans hdisk
        settled := fun h => by simp at h
        failed := by
          intro _
          refine ⟨e, ?_⟩
          rw [command_updateCommand, if_pos rfl]
          unfold command
          rw [hfolds.barrier, hbarrier]
          change (c.command id).map _ = _
          rw [hcmd]
          rfl }

end Settle

end CryptoCollector.Storage.Core
