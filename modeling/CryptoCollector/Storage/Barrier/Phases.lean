import CryptoCollector.Storage.Barrier.Commands

/-!
# The phases of a close command

Each function that moves a command keeps its facts: which generations it owns, which claims it
still waits for, and which control dependencies are folded already.
-/

namespace CryptoCollector.Storage.Core

open Lib

/-- A dependency is done: its control record is reported, and its event is in every target. -/
def Folded (reported : List (GenerationId × Record)) (c : Core) (dep : ControlDependency) : Prop :=
  (∃ r, (dep.controlPart, r) ∈ reported ∧ r.identity = dep.controlIdentity) ∧
    ∀ g ∈ dep.targets, c.HasEvent g dep.association.controlEventId

/-- A dependency is still in the books of a command. -/
def Pending (cmd : BarrierCommand) (dep : ControlDependency) : Prop :=
  dep ∈ (cmd.dependencies.get? dep.controlPart).getD []

/-- The parts of a command that do not change. -/
structure Shaped (cmd : BarrierCommand) (deps : List ControlDependency) : Prop where
  parts : cmd.parts ≠ []
  work : ∀ g ∈ cmd.parts, g ∈ cmd.workParts
  control : ∀ dep ∈ deps, dep.controlPart ∈ cmd.workParts

/-- A command that waits for prerequisite claims. -/
structure Waiting (reported : List (GenerationId × Record)) (deps : List ControlDependency)
    (c : Core) (id : Nat) (cmd : BarrierCommand) : Prop where
  task : cmd.batchTask = none
  unsettled : cmd.batchSettled = false
  unpublished : cmd.publication = none
  owned : ∀ g, c.owner g = some id ↔ g ∈ batchParts cmd
  claimed : ∀ g ∈ batchParts cmd, (c.claimOf g).isSome ↔ g ∈ cmd.remainingPrerequisites
  owing : ∀ g ∈ cmd.remainingPrerequisites, g ∈ batchParts cmd
  deps : ∀ dep ∈ deps, Folded reported c dep ∨ Pending cmd dep

/-- Every claim that a command waits for is of a batch whose settlement it waits for. -/
structure Listed (c : Core) (cmd : BarrierCommand) : Prop where
  exists_batch : ∀ g ∈ cmd.remainingPrerequisites, ∃ batch gs,
    cmd.prerequisiteBatches.get? batch = some gs ∧ g ∈ gs
  works : ∀ batch gs, cmd.prerequisiteBatches.get? batch = some gs → ∀ g ∈ gs,
    g ∈ cmd.remainingPrerequisites → ∀ w ∈ c.disk.works, w.generationId = g → w.batch = batch

/-- A command whose final batch is in flight. -/
structure Syncing (reported : List (GenerationId × Record)) (deps : List ControlDependency)
    (c : Core) (id : Nat) (cmd : BarrierCommand) : Prop where
  task : ∃ batch, cmd.batchTask = some batch ∧
    ∀ w ∈ c.disk.works, w.generationId ∈ cmd.remaining → w.batch = batch
  unpublished : cmd.publication = none
  prerequisites : cmd.remainingPrerequisites = []
  owned : ∀ g, c.owner g = some id ↔ g ∈ cmd.remaining
  claimed : ∀ g ∈ cmd.remaining, (c.claimOf g).isSome
  batch : ∀ g ∈ cmd.remaining, g ∈ cmd.batchGenerationIds
  nodup : cmd.batchGenerationIds.Nodup
  deps : ∀ dep ∈ deps, Folded reported c dep ∨ cmd.fileErrors.entries ≠ [] ∨
    Pending cmd dep ∧ dep.controlPart ∈ cmd.remaining ∧
      ∃ r ∈ c.claimRows dep.controlPart, r.identity = dep.controlIdentity

/-- A part is frozen. -/
def Frozen (c : Core) (g : GenerationId) : Prop :=
  ∃ p, c.parts.part? g = some p ∧ p.accumulator.frozen = true

/-- Every part of a group is frozen and every dependency is done. -/
structure Complete (reported : List (GenerationId × Record)) (c : Core)
    (parts : List GenerationId) (deps : List ControlDependency) : Prop where
  frozen : ∀ g ∈ parts, c.Frozen g
  deps : ∀ dep ∈ deps, Folded reported c dep

/-- The descriptors of a group are closed. -/
def Closed (c : Core) (parts : List GenerationId) : Prop :=
  ∀ g ∈ parts, (c.disk.file g).closed = true

/-- What the task that ends a command relies on. -/
def Publishes (reported : List (GenerationId × Record)) (deps : List ControlDependency) (c : Core)
    (cmd : BarrierCommand) : Option Publication → Prop
  | none => False
  | some (.publishing _ rest) => Complete reported c cmd.parts deps ∧
      ∀ g ∈ cmd.parts, g ∈ rest ∨ (c.disk.file g).closed = true
  | some (.cleaning _) => True
  | some (.finished _) => c.Closed cmd.parts
  | some .settled => c.Closed cmd.parts

/-- A command that ends: it owns nothing any more. -/
structure Ending (reported : List (GenerationId × Record)) (deps : List ControlDependency)
    (c : Core) (id : Nat) (cmd : BarrierCommand) : Prop where
  task : cmd.batchTask.isSome → cmd.batchSettled = true
  prerequisites : cmd.remainingPrerequisites = []
  owned : ∀ g, c.owner g ≠ some id
  publication : Publishes reported deps c cmd cmd.publication

/-- The facts of a command between two messages. -/
def Sound (reported : List (GenerationId × Record)) (deps : List ControlDependency) (c : Core)
    (id : Nat) (cmd : BarrierCommand) : Prop :=
  Waiting reported deps c id cmd ∧ Listed c cmd ∧ cmd.remainingPrerequisites ≠ [] ∨
    Syncing reported deps c id cmd ∧ cmd.batchSettled = false ∨ Ending reported deps c id cmd

/-- The task that ends a command starts with nothing published. -/
def Opens (parts : List GenerationId) : Option Publication → Prop
  | some (.publishing done rest) => done = [] ∧ rest = parts
  | some (.cleaning _) => True
  | _ => False

/-- What a command keeps on its way. -/
structure Continues (cmd cmd' : BarrierCommand) : Prop where
  parts : cmd'.parts = cmd.parts
  work : cmd'.workParts = cmd.workParts
  batches : cmd'.prerequisiteBatches = cmd.prerequisiteBatches
  task : cmd.batchTask.isSome → cmd'.batchTask = cmd.batchTask ∧
    cmd'.batchSettled = cmd.batchSettled
  publication : cmd'.publication = cmd.publication ∨
    cmd.publication = none ∧ Opens cmd.parts cmd'.publication

theorem Continues.refl (cmd : BarrierCommand) : Continues cmd cmd :=
  ⟨rfl, rfl, rfl, fun _ => ⟨rfl, rfl⟩, .inl rfl⟩

theorem Continues.trans {cmd cmd' cmd'' : BarrierCommand} (h : Continues cmd cmd')
    (h' : Continues cmd' cmd'') : Continues cmd cmd'' where
  parts := h'.parts.trans h.parts
  work := h'.work.trans h.work
  batches := h'.batches.trans h.batches
  task := by
    intro ht
    obtain ⟨htask, hsettled⟩ := h.task ht
    obtain ⟨htask', hsettled'⟩ := h'.task (by rw [htask]; exact ht)
    exact ⟨htask'.trans htask, hsettled'.trans hsettled⟩
  publication := by
    rcases h.publication with hsame | ⟨hnone, hopens⟩
    · rw [← hsame, ← h.parts]
      exact h'.publication
    · rcases h'.publication with hsame' | ⟨hnone', -⟩
      · exact .inr ⟨hnone, hsame' ▸ hopens⟩
      · simp [hnone', Opens] at hopens

variable {reported reported' : List (GenerationId × Record)} {deps : List ControlDependency}
  {id k : Nat} {c c' : Core} {g : GenerationId} {cmd : BarrierCommand}

theorem Shaped.continues {cmd' : BarrierCommand} (h : Shaped cmd deps) (hc : Continues cmd cmd') :
    Shaped cmd' deps where
  parts := by rw [hc.parts]; exact h.parts
  work := by rw [hc.parts, hc.work]; exact h.work
  control := by rw [hc.work]; exact h.control

theorem Folded.later {dep : ControlDependency} (h : Folded reported c dep)
    (hsub : ∀ x ∈ reported, x ∈ reported') (hl : c.Later c') : Folded reported' c' dep := by
  obtain ⟨⟨r, hr, hid⟩, hevents⟩ := h
  exact ⟨⟨r, hsub _ hr, hid⟩, fun a ha => (hevents a ha).later hl⟩

theorem Frozen.later (h : c.Frozen g) (hl : c.Later c') : c'.Frozen g := by
  obtain ⟨p, hp, hfrozen⟩ := h
  obtain ⟨q, hq, hpq⟩ := hl.parts g p hp
  exact ⟨q, hq, (hpq.frozen hfrozen).1⟩

theorem Complete.later {parts : List GenerationId} (h : Complete reported c parts deps)
    (hsub : ∀ x ∈ reported, x ∈ reported') (hl : c.Later c') :
    Complete reported' c' parts deps where
  frozen := fun a ha => (h.frozen a ha).later hl
  deps := fun dep hdep => (h.deps dep hdep).later hsub hl

theorem Closed.later {parts : List GenerationId} (h : c.Closed parts) (hl : c.Later c') :
    c'.Closed parts := fun a ha => hl.closed a (h a ha)

theorem claimRows_eq (h : c'.claimOf g = c.claimOf g) : c'.claimRows g = c.claimRows g := by
  unfold claimRows
  rw [h]

/-! ## What is done for others -/

/-- Work that is new belongs to generations of other commands. -/
def NewWorkElsewhere (k : Nat) (c c' : Core) : Prop :=
  ∀ w ∈ c'.disk.works, w ∈ c.disk.works ∨ c.owner w.generationId ≠ some k

theorem Waiting.spared (h : Waiting reported deps c k cmd)
    (hsub : ∀ x ∈ reported, x ∈ reported') (hs : Spares k c c') (hl : c.Later c') :
    Waiting reported' deps c' k cmd where
  task := h.task
  unsettled := h.unsettled
  unpublished := h.unpublished
  owned := fun a => (hs.owner a).trans (h.owned a)
  claimed := by
    intro a ha
    rw [hs.claims a ((h.owned a).2 ha)]
    exact h.claimed a ha
  owing := h.owing
  deps := fun dep hdep => (h.deps dep hdep).imp_left fun hf => hf.later hsub hl

theorem Listed.spared (h : Listed c cmd) (hwait : Waiting reported deps c k cmd)
    (hw : NewWorkElsewhere k c c') : Listed c' cmd where
  exists_batch := h.exists_batch
  works := by
    intro batch gs hget a ha howing w hwork hwa
    rcases hw w hwork with hwork | hother
    · exact h.works batch gs hget a ha howing w hwork hwa
    · exact absurd ((hwait.owned a).2 (hwait.owing a howing)) (by rw [← hwa]; exact hother)

theorem Syncing.spared (h : Syncing reported deps c k cmd)
    (hsub : ∀ x ∈ reported, x ∈ reported') (hs : Spares k c c') (hl : c.Later c')
    (hw : NewWorkElsewhere k c c') : Syncing reported' deps c' k cmd where
  task := by
    obtain ⟨batch, htask, hbatch⟩ := h.task
    refine ⟨batch, htask, fun w hwork hwa => ?_⟩
    rcases hw w hwork with hwork | hother
    · exact hbatch w hwork hwa
    · exact absurd ((h.owned _).2 hwa) hother
  unpublished := h.unpublished
  prerequisites := h.prerequisites
  owned := fun a => (hs.owner a).trans (h.owned a)
  claimed := by
    intro a ha
    rw [hs.claims a ((h.owned a).2 ha)]
    exact h.claimed a ha
  batch := h.batch
  nodup := h.nodup
  deps := by
    intro dep hdep
    rcases h.deps dep hdep with hf | he | ⟨hpending, hmem, hrow⟩
    · exact .inl (hf.later hsub hl)
    · exact .inr (.inl he)
    · refine .inr (.inr ⟨hpending, hmem, ?_⟩)
      rw [claimRows_eq (hs.claims _ ((h.owned _).2 hmem))]
      exact hrow

theorem Publishes.later (h : Publishes reported deps c cmd cmd.publication)
    (hsub : ∀ x ∈ reported, x ∈ reported') (hl : c.Later c') :
    Publishes reported' deps c' cmd cmd.publication := by
  cases hp : cmd.publication with
  | none => simp [hp, Publishes] at h
  | some p =>
    rw [hp] at h
    cases p with
    | publishing done rest =>
      exact ⟨h.1.later hsub hl, fun a ha => (h.2 a ha).imp_right (hl.closed a)⟩
    | cleaning e => trivial
    | finished o => exact Closed.later h hl
    | settled => exact Closed.later h hl

theorem Ending.spared (h : Ending reported deps c k cmd)
    (hsub : ∀ x ∈ reported, x ∈ reported') (hs : Spares k c c') (hl : c.Later c') :
    Ending reported' deps c' k cmd where
  task := h.task
  prerequisites := h.prerequisites
  owned := fun a ha => h.owned a ((hs.owner a).1 ha)
  publication := h.publication.later hsub hl

theorem Sound.spared (h : Sound reported deps c k cmd)
    (hsub : ∀ x ∈ reported, x ∈ reported') (hs : Spares k c c') (hl : c.Later c')
    (hw : NewWorkElsewhere k c c') : Sound reported' deps c' k cmd := by
  rcases h with ⟨h, hlisted, hne⟩ | ⟨h, hunsettled⟩ | h
  · exact .inl ⟨h.spared hsub hs hl, hlisted.spared h hw, hne⟩
  · exact .inr (.inl ⟨h.spared hsub hs hl hw, hunsettled⟩)
  · exact .inr (.inr (h.spared hsub hs hl))

/-! ## The final batch -/

/-- The batch is ready: its parts belong to the command and none has work in flight. -/
theorem validateFinalBatch_eq_none (h : c.validateFinalBatch id cmd = none) :
    (batchParts cmd).Nodup ∧ ∀ g ∈ batchParts cmd, c.claimOf g = none ∧ c.owner g = some id := by
  unfold validateFinalBatch at h
  split at h
  · simp at h
  · next hnodup =>
    split at h
    · simp at h
    · refine ⟨by simpa using hnodup, fun g hg => ?_⟩
      have hone := List.findSome?_eq_none_iff.1 h g hg
      split at hone
      · simp at hone
      · next hclaim =>
        split at hone
        · simp at hone
        · next howner =>
          exact ⟨by unfold claimOf; simpa using hclaim, by unfold owner; simpa using howner⟩

theorem mem_batchParts : g ∈ batchParts cmd ↔
    g ∈ cmd.parts ∨ g ∈ cmd.workParts ∧ g ∉ cmd.parts ∧ g ∈ cmd.dependencies.keys := by
  simp [batchParts, List.mem_filter]

/-- While the parts of a batch are sealed. -/
structure Seals (reported : List (GenerationId × Record)) (id : Nat) (gs : List GenerationId)
    (c c' : Core) : Prop where
  serves : Serves reported id c c'
  barrier : c'.barrier = c.barrier
  disk : c'.disk = c.disk
  free : ∀ g ∈ gs, ∀ p, c'.parts.part? g = some p → p.claimBatch = none

theorem claimBatch_seal (force : Bool) (p : Part) :
    (Part.sealForSync force p).2.claimBatch = p.claimBatch := by
  unfold Part.sealForSync
  split_ifs <;> rfl

theorem Seals.seal {gs : List GenerationId} (h : Seals reported id gs c c')
    (howner : ∀ k, k ≠ id → c.owner g ≠ some k)
    (hworks : ∀ w ∈ c.disk.works, w.generationId ≠ g) :
    Seals reported id gs c (onPart g (Part.sealForSync true) c').2 where
  serves := by
    refine h.serves.trans (serves_onPart_claim (fun _ => Part.later_seal true)
      (fun _ _ hp => hp.seal true) ?_ ?_)
    · unfold owner
      rw [h.barrier]
      exact howner
    · rw [h.disk]
      exact hworks
  barrier := h.barrier
  disk := h.disk
  free := by
    intro a ha q hq
    rw [part?_onPart] at hq
    split at hq
    · obtain ⟨p, hp, rfl⟩ := Option.map_eq_some_iff.1 hq
      rw [claimBatch_seal]
      exact h.free a ha p hp
    · exact h.free a ha q hq

/-- Sealing with `force_sync` leaves a claim. -/
theorem claimOf_seal_isSome (h : (onPart g (Part.sealForSync true) c).1 = none) :
    ((onPart g (Part.sealForSync true) c).2.claimOf g).isSome := by
  obtain ⟨p, hp, hok⟩ := onPart_eq_none h
  rw [claimOf_onPart, if_pos rfl, hp]
  change (Part.sealForSync true p).2.claimed.isSome
  unfold Part.sealForSync at hok ⊢
  split at hok
  · simp at hok
  · next hfree => simp [hfree]

theorem claimOf_seal_keep {a : GenerationId} (h : (c.claimOf a).isSome) :
    ((onPart g (Part.sealForSync true) c).2.claimOf a).isSome := by
  rw [claimOf_onPart]
  split
  · unfold claimOf at h
    cases hp : c.parts.part? a with
    | none => simp [hp] at h
    | some p =>
      change (Part.sealForSync true p).2.claimed.isSome
      have hclaimed : p.claimed.isSome := by simpa [hp] using h
      simp [Part.sealForSync, hclaimed]
  · exact h

theorem seals_forEach {gs : List GenerationId} (hacc : c.Accounted reported) (hbusy : c.Busy)
    (hfree : ∀ g ∈ gs, c.claimOf g = none ∧ c.owner g = some id) :
    Seals reported id gs c
        (Proc.forEach gs (fun g => onPart g (Part.sealForSync true)) c).2 ∧
      ((Proc.forEach gs (fun g => onPart g (Part.sealForSync true)) c).1 = none → ∀ g ∈ gs,
        ((Proc.forEach gs (fun g => onPart g (Part.sealForSync true)) c).2.claimOf g).isSome) := by
  have hclaimed : ∀ g ∈ gs, ∀ p, c.parts.part? g = some p → p.claimed = none := by
    intro g hg p hp
    have := (hfree g hg).1
    unfold claimOf at this
    simpa [hp] using this
  have hworks : ∀ g ∈ gs, ∀ w ∈ c.disk.works, w.generationId ≠ g := by
    intro g hg w hw heq
    obtain ⟨p, hp, hsome, -⟩ := hbusy w hw
    rw [heq] at hp
    simp [hclaimed g hg p hp] at hsome
  have hstart : Seals reported id gs c c :=
    ⟨.refl reported id c, rfl, rfl, fun g hg p hp => (hacc g p hp).batch (hclaimed g hg p hp)⟩
  refine ⟨Proc.keeps_forEach (J := Seals reported id gs c) (fun g hg c' h => ?_) c hstart, ?_⟩
  · refine h.seal (fun k hk => ?_) (hworks g hg)
    rw [(hfree g hg).2]
    simpa using fun h => hk h.symm
  · refine Proc.forEach_eq_none (Q := fun g (c : Core) => (c.claimOf g).isSome) ?_ ?_
    · intro g _ c' h
      exact claimOf_seal_isSome h
    · intro a _ b _ c' h
      exact claimOf_seal_keep h

theorem syncBatch_ok {gs : List GenerationId} (trigger : DurabilityTrigger) (hne : gs ≠ [])
    (hnodup : gs.Nodup) (hfree : ∀ g ∈ gs, ∀ w ∈ c.disk.works, w.generationId ≠ g) :
    ∃ c', syncBatch gs trigger c = (none, c') ∧ c'.parts = c.parts ∧ c'.barrier = c.barrier ∧
      c'.disk.queue = c.disk.queue ∧ c'.disk.files = c.disk.files ∧
      ∀ w ∈ c'.disk.works, w ∈ c.disk.works ∨
        w.generationId ∈ gs ∧ w.batch = c.disk.nextBatch := by
  unfold syncBatch
  rw [if_neg (by simpa using hne), if_neg]
  · refine ⟨_, rfl, rfl, rfl, rfl, rfl, fun w hw => ?_⟩
    rcases List.mem_append.1 hw with hw | hw
    · exact .inl hw
    · obtain ⟨g, hg, rfl⟩ := List.mem_map.1 hw
      exact .inr ⟨hg, rfl⟩
  · rw [not_or, not_not]
    refine ⟨hnodup, ?_⟩
    simp only [List.any_eq_true, decide_eq_true_eq, not_exists, not_and]
    exact fun g hg w hw => hfree g hg w hw

theorem serves_sync (gs : List GenerationId) (hparts : c'.parts = c.parts)
    (hbarrier : c'.barrier = c.barrier) (hqueue : c'.disk.queue = c.disk.queue)
    (hfiles : c'.disk.files = c.disk.files)
    (hnew : ∀ w ∈ c'.disk.works, w ∈ c.disk.works ∨ w.generationId ∈ gs)
    (hgs : ∀ g ∈ gs, c.owner g = some id ∧
      ∃ p, c.parts.part? g = some p ∧ p.claimed.isSome ∧ p.claimBatch = none) :
    Serves reported id c c' := by
  have hpart : ∀ a, c'.parts.part? a = c.parts.part? a := fun a => by rw [hparts]
  have hclaim : ∀ a, c'.claimOf a = c.claimOf a := fun a => by unfold claimOf; rw [hpart]
  have howner : ∀ a, c'.owner a = c.owner a := fun a => by unfold owner; rw [hbarrier]
  have hcommand : ∀ a, c'.command a = c.command a := fun a => by unfold command; rw [hbarrier]
  exact {
    later := by
      refine ⟨fun a p hp => ⟨p, by rw [hpart, hp], .refl p⟩, fun a ha => ?_⟩
      unfold Disk.file at ha ⊢
      rw [hfiles]
      exact ha
    accounted := fun h a p hp => h a p (by rw [← hpart, hp])
    busy := by
      intro hbusy w hw
      rw [hpart]
      rcases hnew w hw with hw | hw
      · exact hbusy w hw
      · obtain ⟨-, p, hp, hclaimed, hbatch⟩ := hgs _ hw
        exact ⟨p, hp, hclaimed, fun b hb => by simp [hbatch] at hb⟩
    spares := fun k _ => ⟨hcommand k, fun a => by rw [howner], fun a _ => hclaim a⟩
    owner := fun a k h => by rw [← howner, h]
    live := fun k => by rw [hcommand]
    results := by rw [hbarrier]
    next := by rw [hbarrier]
    queue := hqueue
    files := hfiles
    works := fun w hw => (hnew w hw).imp_right fun hw => (hgs _ hw).1 }

/-- The sealed parts are handed to the coordinator. -/
theorem submitted {c₁ : Core} (hcmd : c.command id = some cmd) (hshape : Shaped cmd deps)
    (hwait : Waiting reported deps c id cmd) (hprerequisites : cmd.remainingPrerequisites = [])
    (hnodup : (batchParts cmd).Nodup)
    (hfree : ∀ g ∈ batchParts cmd, c.claimOf g = none ∧ c.owner g = some id) (hbusy : c.Busy)
    (hseals : Seals reported id (batchParts cmd) c c₁)
    (hclaims : ∀ g ∈ batchParts cmd, (c₁.claimOf g).isSome)
    (hsealed : ∀ g ds, (g, ds) ∈ cmd.dependencies.entries → ∀ dep ∈ ds,
      (c₁.claimRows g).countP (·.identity = dep.controlIdentity) = 1) :
    ∃ c₂, syncBatch (batchParts cmd) cmd.trigger (c₁.updateCommand id fun cmd => { cmd with
        batchGenerationIds := batchParts cmd
        remaining := batchParts cmd }) = (none, c₂) ∧
      Serves reported id c (c₂.updateCommand id fun cmd => { cmd with
        batchTask := some c₁.disk.nextBatch }) ∧
      ∃ cmd', (c₂.updateCommand id fun cmd => { cmd with
          batchTask := some c₁.disk.nextBatch }).command id = some cmd' ∧
        Continues cmd cmd' ∧ cmd'.batchSettled = false ∧
        Syncing reported deps (c₂.updateCommand id fun cmd => { cmd with
          batchTask := some c₁.disk.nextBatch }) id cmd' := by
  have hworks : ∀ g ∈ batchParts cmd, ∀ w ∈ c.disk.works, w.generationId ≠ g := by
    intro g hg w hw heq
    obtain ⟨p, hp, hsome, -⟩ := hbusy w hw
    have hnone := (hfree g hg).1
    unfold claimOf at hnone
    rw [heq] at hp
    rw [hp] at hnone
    have hnone : p.claimed = none := hnone
    simp [hnone] at hsome
  have hparts : batchParts cmd ≠ [] := by
    intro hnil
    exact hshape.parts (List.append_eq_nil_iff.1 hnil).1
  have hcmd₁ : c₁.command id = some cmd := by
    unfold command
    rw [hseals.barrier]
    exact hcmd
  have howner₁ : ∀ a, c₁.owner a = c.owner a := by
    intro a
    unfold owner
    rw [hseals.barrier]
  generalize hd : (c₁.updateCommand id fun cmd => { cmd with
      batchGenerationIds := batchParts cmd
      remaining := batchParts cmd }) = d
  have hdparts : d.parts = c₁.parts := by rw [← hd]; rfl
  have hddisk : d.disk = c₁.disk := by rw [← hd]; rfl
  have hdowner : ∀ a, d.owner a = c.owner a := by rw [← hd]; exact howner₁
  have hdserves : Serves reported id c d := by
    rw [← hd]
    exact hseals.serves.trans (serves_updateCommand _)
  have hdcmd : d.command id = some { cmd with
      batchGenerationIds := batchParts cmd
      remaining := batchParts cmd } := by
    rw [← hd, command_updateCommand, if_pos rfl, hcmd₁]
    rfl
  obtain ⟨c₂, hsync, hp, hbarrier, hqueue, hfiles, hnew⟩ :=
    syncBatch_ok (c := d) cmd.trigger hparts hnodup (by
      rw [hddisk, hseals.disk]
      exact hworks)
  have hserves₂ : Serves reported id c c₂ := by
    refine hdserves.trans (serves_sync (batchParts cmd) hp hbarrier hqueue hfiles ?_ ?_)
    · exact fun w hw => (hnew w hw).imp_right And.left
    · intro g hg
      refine ⟨(hdowner g).trans (hfree g hg).2, ?_⟩
      have hclaim := hclaims g hg
      rw [hdparts]
      cases hpart : c₁.parts.part? g with
      | none => simp [claimOf, hpart] at hclaim
      | some p => exact ⟨p, rfl, by simpa [claimOf, hpart] using hclaim, hseals.free g hg p hpart⟩
  have hclaim₂ : ∀ a, (c₂.updateCommand id fun cmd => { cmd with
      batchTask := some c₁.disk.nextBatch }).claimOf a = c₁.claimOf a := by
    intro a
    change (c₂.parts.part? a).bind _ = _
    rw [hp, hdparts]
    rfl
  refine ⟨c₂, hsync, hserves₂.trans (serves_updateCommand _), { cmd with
      batchGenerationIds := batchParts cmd
      remaining := batchParts cmd
      batchTask := some c₁.disk.nextBatch }, ?_, ?_, hwait.unsettled, ?_⟩
  · rw [command_updateCommand, if_pos rfl]
    unfold command
    rw [hbarrier]
    change (d.command id).map _ = _
    rw [hdcmd]
    rfl
  · exact ⟨rfl, rfl, rfl, fun h => by simp [hwait.task] at h, .inl rfl⟩
  · exact {
      task := by
        refine ⟨_, rfl, fun w hw hmem => ?_⟩
        rcases hnew w hw with hw | ⟨-, hbatch⟩
        · rw [hddisk, hseals.disk] at hw
          exact absurd rfl (hworks _ hmem w hw)
        · rw [hbatch, hddisk]
      unpublished := hwait.unpublished
      prerequisites := hprerequisites
      owned := by
        intro a
        change c₂.owner a = some id ↔ a ∈ batchParts cmd
        unfold owner
        rw [hbarrier]
        change d.owner a = some id ↔ _
        rw [hdowner]
        exact hwait.owned a
      claimed := fun a ha => by rw [hclaim₂]; exact hclaims a ha
      batch := fun a ha => ha
      nodup := hnodup
      deps := by
        intro dep hdep
        rcases hwait.deps dep hdep with hfold | hpending
        · exact .inl (hfold.later (fun _ h => h) (hserves₂.trans (serves_updateCommand _)).later)
        · obtain ⟨ds, hds, hmem⟩ : ∃ ds, cmd.dependencies.get? dep.controlPart = some ds ∧
              dep ∈ ds := by
            unfold Pending at hpending
            cases hds : cmd.dependencies.get? dep.controlPart with
            | none => simp [hds] at hpending
            | some ds => exact ⟨ds, rfl, by simpa [hds] using hpending⟩
          have hbatch : dep.controlPart ∈ batchParts cmd := by
            rw [mem_batchParts]
            by_cases hclosing : dep.controlPart ∈ cmd.parts
            · exact .inl hclosing
            · exact .inr ⟨hshape.control dep hdep, hclosing, Dict.mem_keys_of_get? hds⟩
          refine .inr (.inr ⟨hpending, hbatch, ?_⟩)
          have hcount := hsealed _ _ (Dict.get?_eq_some.1 hds) dep hmem
          rw [claimRows_eq (hclaim₂ _)]
          have hpos : 0 < (c₁.claimRows dep.controlPart).countP
              (·.identity = dep.controlIdentity) := by omega
          simpa using List.countP_pos_iff.1 hpos }

/-- What submitting the final batch leads to. -/
theorem submitFinalBatch_spec (hcmd : c.command id = some cmd) (hshape : Shaped cmd deps)
    (hwait : Waiting reported deps c id cmd) (hacc : c.Accounted reported) (hbusy : c.Busy)
    (hprerequisites : cmd.remainingPrerequisites = []) :
    Serves reported id c (submitFinalBatch id c).2 ∧
      ((submitFinalBatch id c).1 = none → ∃ cmd', (submitFinalBatch id c).2.command id = some cmd' ∧
        Continues cmd cmd' ∧ cmd'.batchSettled = false ∧
        Syncing reported deps (submitFinalBatch id c).2 id cmd') ∧
      ((submitFinalBatch id c).1 ≠ none →
        (submitFinalBatch id c).2.barrier = c.barrier) := by
  have hget : c.barrier.commands.get? id = some cmd := hcmd
  unfold submitFinalBatch
  simp only [hget, hprerequisites, hwait.task, hwait.unsettled, List.isEmpty_nil, Bool.not_true,
    Bool.false_eq_true, if_false, Option.isSome_none, or_self]
  split
  · exact ⟨.refl reported id c, fun h => by simp at h, fun _ => rfl⟩
  · next hvalid =>
    obtain ⟨hnodup, hfree⟩ := validateFinalBatch_eq_none hvalid
    obtain ⟨hseals, hclaims⟩ := seals_forEach hacc hbusy hfree
    split
    · next e c₁ h =>
      have h : Proc.forEach (batchParts cmd) (fun g => onPart g (Part.sealForSync true)) c =
        (some e, c₁) := h
      rw [h] at hseals
      exact ⟨hseals.serves, fun h => by simp at h, fun _ => hseals.barrier⟩
    · next c₁ h =>
      have h : Proc.forEach (batchParts cmd) (fun g => onPart g (Part.sealForSync true)) c =
        (none, c₁) := h
      rw [h] at hseals hclaims
      split
      · exact ⟨hseals.serves, fun h => by simp at h, fun _ => hseals.barrier⟩
      · next hsealed =>
        obtain ⟨c₂, hsync, hserves, hnext⟩ := submitted hcmd hshape hwait hprerequisites hnodup
          hfree hbusy hseals (hclaims rfl) (by simpa [claimRows, claimOf] using hsealed)
        rw [hsync]
        exact ⟨hserves, fun _ => hnext, fun h => absurd rfl h⟩

/-! ## Moving a command on -/

theorem mem_workParts_of_batch (hshape : Shaped cmd deps) (h : g ∈ batchParts cmd) :
    g ∈ cmd.workParts := by
  rcases mem_batchParts.1 h with h | h
  · exact hshape.work g h
  · exact h.1

/-- A command that owns nothing and starts its clean-up. -/
theorem ending_cleanup (reported : List (GenerationId × Record))
    (deps : List ControlDependency) (e : Err) (hcmd : c.command id = some cmd)
    (htask : cmd.batchTask.isSome → cmd.batchSettled = true)
    (hunpublished : cmd.publication = none) (hprerequisites : cmd.remainingPrerequisites = [])
    (howned : ∀ g, c.owner g ≠ some id) :
    ∃ cmd', (c.startFailureCleanup id e).command id = some cmd' ∧ Continues cmd cmd' ∧
      Ending reported deps (c.startFailureCleanup id e) id cmd' := by
  refine ⟨{ cmd with publication := some (.cleaning e) }, ?_,
    ⟨rfl, rfl, rfl, fun _ => ⟨rfl, rfl⟩, .inr ⟨hunpublished, trivial⟩⟩, htask, hprerequisites,
    howned, trivial⟩
  unfold startFailureCleanup
  rw [command_updateCommand, if_pos rfl, hcmd]
  rfl

/-- The command after `_try_advance_prerequisites`. -/
theorem tryAdvancePrerequisites_spec (hcmd : c.command id = some cmd) (hshape : Shaped cmd deps)
    (hwait : Waiting reported deps c id cmd) (hlisted : Listed c cmd)
    (hacc : c.Accounted reported) (hbusy : c.Busy) :
    Serves reported id c (tryAdvancePrerequisites id c) ∧
      ∃ cmd', (tryAdvancePrerequisites id c).command id = some cmd' ∧ Continues cmd cmd' ∧
        Sound reported deps (tryAdvancePrerequisites id c) id cmd' := by
  have hget : c.barrier.commands.get? id = some cmd := hcmd
  have hwork : ∀ g, c.owner g = some id → g ∈ cmd.workParts := fun g hg =>
    mem_workParts_of_batch hshape ((hwait.owned g).1 hg)
  unfold tryAdvancePrerequisites
  simp only [hget, hwait.task, hwait.unsettled, hwait.unpublished, Option.isSome_none,
    Bool.false_eq_true, or_false]
  split
  · next hne =>
    refine ⟨.refl reported id c, cmd, hcmd, .refl cmd, .inl ⟨hwait, hlisted, ?_⟩⟩
    simpa using hne
  · next hempty =>
    have hprerequisites : cmd.remainingPrerequisites = [] := by simpa using hempty
    split
    · obtain ⟨hserves, howned⟩ := releaseCommandReservations_owned reported cmd hwork
      refine ⟨hserves.trans (serves_updateCommand _), ?_⟩
      obtain ⟨cmd', hcmd', hnext, hend⟩ := ending_cleanup reported deps
        (c := c.releaseCommandReservations id cmd) (criticalFromCommand cmd) hcmd
        (fun h => by simp [hwait.task] at h) hwait.unpublished hprerequisites howned
      exact ⟨cmd', hcmd', hnext, .inr (.inr hend)⟩
    · obtain ⟨hserves, hok, hkept⟩ := submitFinalBatch_spec hcmd hshape hwait hacc hbusy
        hprerequisites
      split
      · next c₁ h =>
        rw [h] at hserves hok
        obtain ⟨cmd', hcmd', hnext, hunsettled, hsync⟩ := hok rfl
        exact ⟨hserves, cmd', hcmd', hnext, .inr (.inl ⟨hsync, hunsettled⟩)⟩
      · next e c₁ h =>
        rw [h] at hserves hkept
        have hbarrier : c₁.barrier = c.barrier := hkept (by simp)
        have howner₁ : ∀ g, c₁.owner g = some id → g ∈ cmd.workParts := by
          unfold owner
          rw [hbarrier]
          exact hwork
        have hcmd₁ : (c₁.updateCommand id fun cmd =>
            { cmd with batchError := some e }).command id =
            some { cmd with batchError := some e } := by
          rw [command_updateCommand, if_pos rfl]
          unfold command
          rw [hbarrier, hget]
          rfl
        obtain ⟨hreleased, howned⟩ := releaseCommandReservations_owned reported
          (c := c₁.updateCommand id fun cmd => { cmd with batchError := some e })
          { cmd with batchError := some e } howner₁
        refine ⟨((hserves.trans (serves_updateCommand _)).trans hreleased).trans
          (serves_updateCommand _), ?_⟩
        obtain ⟨cmd', hcmd', hnext, hend⟩ := ending_cleanup reported deps
          (c := (c₁.updateCommand id fun cmd => { cmd with batchError := some e
            }).releaseCommandReservations id { cmd with batchError := some e })
          (criticalFromCommand { cmd with batchError := some e }) hcmd₁
          (fun h => by simp [hwait.task] at h) hwait.unpublished hprerequisites howned
        exact ⟨cmd', hcmd', ⟨hnext.parts, hnext.work, hnext.batches, hnext.task,
          hnext.publication⟩, .inr (.inr hend)⟩

theorem claimed_freeze (p : Part) :
    (Part.freezeSummary p).2.claimed = p.claimed ∧
      (Part.freezeSummary p).2.claimBatch = p.claimBatch := by
  unfold Part.freezeSummary
  split
  · exact ⟨rfl, rfl⟩
  · split <;> exact ⟨rfl, rfl⟩

theorem frozen_of_freeze (h : (onPart g Part.freezeSummary c).1 = none) :
    (onPart g Part.freezeSummary c).2.Frozen g := by
  obtain ⟨p, hp, hok⟩ := onPart_eq_none h
  refine ⟨_, by rw [part?_onPart, if_pos rfl, hp]; rfl, ?_⟩
  change (Part.freezeSummary p).2.accumulator.frozen = true
  unfold Part.freezeSummary at hok ⊢
  split at hok
  · simp at hok
  · next hquiet =>
    split at hok
    · simp at hok
    · rw [if_neg hquiet]

/-- Freezing the parts of a group, up to the first that cannot be frozen. -/
theorem freeze_forEach (reported : List (GenerationId × Record)) (id : Nat)
    (gs : List GenerationId) (c : Core) :
    Folds reported id c (Proc.forEach gs (fun g => onPart g Part.freezeSummary) c).2 ∧
      ((Proc.forEach gs (fun g => onPart g Part.freezeSummary) c).1 = none →
        ∀ g ∈ gs, (Proc.forEach gs (fun g => onPart g Part.freezeSummary) c).2.Frozen g) := by
  constructor
  · refine Proc.keeps_forEach (J := Folds reported id c) (fun g _ c' h => ?_) c
      ⟨.refl reported id c, fun _ => rfl, rfl, rfl⟩
    exact h.onPart (fun _ => Part.later_freeze) (fun _ hp => hp.freeze) claimed_freeze
  · refine Proc.forEach_eq_none (Q := fun g (c : Core) => c.Frozen g) ?_ ?_
    · intro g _ c' h
      exact frozen_of_freeze h
    · intro a _ b _ c' h
      exact h.later (later_onPart fun _ => Part.later_freeze)

/-- The command after `_try_finish_final_barrier`. -/
theorem tryFinishFinalBarrier_spec (hcmd : c.command id = some cmd)
    (hsync : Syncing reported deps c id cmd)
    (hready : cmd.remaining = [] ∨ cmd.batchSettled = false) :
    Serves reported id c (tryFinishFinalBarrier id c) ∧
      ∃ cmd', (tryFinishFinalBarrier id c).command id = some cmd' ∧ Continues cmd cmd' ∧
        Sound reported deps (tryFinishFinalBarrier id c) id cmd' := by
  have hget : c.barrier.commands.get? id = some cmd := hcmd
  unfold tryFinishFinalBarrier
  simp only [hget, hsync.unpublished, Option.isSome_none, Bool.false_eq_true, or_false]
  split
  · next hnot =>
    refine ⟨.refl reported id c, cmd, hcmd, .refl cmd, .inr (.inl ⟨hsync, ?_⟩)⟩
    rcases hnot with hne | hunsettled
    · rcases hready with hnil | hunsettled
      · simp [hnil] at hne
      · exact hunsettled
    · simpa using hunsettled
  · next hdone =>
    rw [not_or] at hdone
    have hremaining : cmd.remaining = [] := by simpa using hdone.1
    have hsettled : cmd.batchSettled = true := by simpa using hdone.2
    have howned : ∀ g, c.owner g ≠ some id := by
      intro g hg
      have := (hsync.owned g).1 hg
      simp [hremaining] at this
    have hclean : ∀ e c', Folds reported id c c' →
        Serves reported id c (c'.startFailureCleanup id e) ∧
          ∃ cmd', (c'.startFailureCleanup id e).command id = some cmd' ∧ Continues cmd cmd' ∧
            Sound reported deps (c'.startFailureCleanup id e) id cmd' := by
      intro e c' hf
      refine ⟨hf.serves.trans (serves_updateCommand _), ?_⟩
      obtain ⟨cmd', hcmd', hnext, hend⟩ := ending_cleanup reported deps
        (c := c') e (by unfold command; rw [hf.barrier]; exact hcmd) (fun _ => hsettled)
        hsync.unpublished hsync.prerequisites (by unfold owner; rw [hf.barrier]; exact howned)
      exact ⟨cmd', hcmd', hnext, .inr (.inr hend)⟩
    have hrefl : Folds reported id c c := ⟨.refl reported id c, fun _ => rfl, rfl, rfl⟩
    split
    · exact hclean _ c hrefl
    · next herrors =>
      split
      · exact hclean _ c hrefl
      · obtain ⟨hfolds, hfrozen⟩ := freeze_forEach reported id cmd.parts c
        split
        · next e c₁ h =>
          have h : Proc.forEach cmd.parts (fun g => onPart g Part.freezeSummary) c =
            (some e, c₁) := h
          rw [h] at hfolds
          exact hclean e c₁ hfolds
        · next c₁ h =>
          have h : Proc.forEach cmd.parts (fun g => onPart g Part.freezeSummary) c =
            (none, c₁) := h
          rw [h] at hfolds hfrozen
          have hupdate : Serves reported id c₁ (c₁.updateCommand id fun cmd =>
              { cmd with publication := some (.publishing [] cmd.parts) }) :=
            serves_updateCommand _
          have hserves := hfolds.serves.trans hupdate
          refine ⟨hserves, { cmd with publication := some (.publishing [] cmd.parts) }, ?_,
            ⟨rfl, rfl, rfl, fun _ => ⟨rfl, rfl⟩, .inr ⟨hsync.unpublished, rfl, rfl⟩⟩,
            .inr (.inr ?_)⟩
          · rw [command_updateCommand, if_pos rfl]
            unfold command
            rw [hfolds.barrier, hget]
            rfl
          · refine ⟨fun _ => hsettled, hsync.prerequisites, ?_, ⟨hfrozen rfl, ?_⟩,
              fun g hg => .inl hg⟩
            · intro g
              change c₁.owner g ≠ some id
              unfold owner
              rw [hfolds.barrier]
              exact howned g
            · intro dep hdep
              rcases hsync.deps dep hdep with hf | he | ⟨-, hmem, -⟩
              · exact hf.later (fun _ h => h) hserves.later
              · rw [not_or] at herrors
                exact absurd (by simpa using herrors.1) he
              · simp [hremaining] at hmem

end CryptoCollector.Storage.Core
