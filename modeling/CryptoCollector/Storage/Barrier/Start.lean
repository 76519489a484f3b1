import CryptoCollector.Storage.Barrier.Messages

/-!
# Starting a group

A group that passes the checks of `_start_mixed_close_group` has a command, which waits for the
claims in flight or has handed over its final batch: the checks of the start leave nothing for
`_submit_final_batch` to refuse. A group that is refused leaves no trace.
-/

namespace CryptoCollector.Storage

open Lib

/-- `q` has the rows, the claims and the summary of `p`. -/
structure Part.SameWork (p q : Part) : Prop where
  path : q.path = p.path
  accumulator : q.accumulator = p.accumulator
  pending : q.pending = p.pending
  claimed : q.claimed = p.claimed
  claimBatch : q.claimBatch = p.claimBatch
  rows : q.rows = p.rows

theorem Part.sameWork_retire (p : Part) (reason : CloseReason) (closedAtNs : Nat) :
    p.SameWork (p.retire reason closedAtNs) := by
  unfold Part.retire
  split <;> exact ⟨rfl, rfl, rfl, rfl, rfl, rfl⟩

theorem Part.SameWork.trans {p q r : Part} (h : p.SameWork q) (h' : q.SameWork r) :
    p.SameWork r :=
  ⟨h'.path.trans h.path, h'.accumulator.trans h.accumulator, h'.pending.trans h.pending,
    h'.claimed.trans h.claimed, h'.claimBatch.trans h.claimBatch, h'.rows.trans h.rows⟩

theorem Part.SameWork.later {p q : Part} (h : p.SameWork q) : p.Later q where
  path := h.path
  events := by rw [h.accumulator]; exact fun _ he => he
  frozen := by rw [h.accumulator, h.rows]; exact fun hf => ⟨hf, rfl, rfl⟩

theorem Part.SameWork.accounted {p q : Part} {reported : List (GenerationId × Record)}
    {g : GenerationId} (h : p.SameWork q) (hp : p.Accounted reported g) :
    q.Accounted reported g where
  rows := by
    unfold Part.claimRows Part.failures
    rw [h.rows, h.pending, h.claimed, h.accumulator]
    exact hp.rows
  events := by rw [h.accumulator]; exact hp.events
  frozen := by rw [h.accumulator, h.rows]; exact hp.frozen
  batch := by rw [h.claimed, h.claimBatch]; exact hp.batch

theorem Part.SameWork.validatePending {p q : Part} (h : p.SameWork q) (identity : Identity) :
    Core.validatePendingControlIdentity q identity =
      Core.validatePendingControlIdentity p identity := by
  unfold Core.validatePendingControlIdentity Core.locateControlIdentity Part.key
  rw [h.path, h.pending, h.claimed]

namespace Core

variable {reported : List (GenerationId × Record)} {members : List CloseMember}
  {trigger : DurabilityTrigger} {deps : List ControlDependency} {id : Nat} {c c' : Core}
  {g : GenerationId} {cmd : BarrierCommand}

/-! ## The checks -/

theorem validateStart_eq_none (h : c.validateStart members deps cmd = none) :
    cmd.parts.Nodup ∧ (∀ m ∈ members, (c.parts.part? m.generationId).isSome) ∧
      c.validateStartDependencies cmd.parts deps [] [] = none ∧
      (∀ g ∈ cmd.workParts, c.owner g = none) ∧
      ∀ g ∈ cmd.remainingPrerequisites, ((c.parts.part? g).bind (·.claimBatch)).isSome := by
  unfold validateStart at h
  split at h
  · simp at h
  · next hnodup =>
    split at h
    · simp at h
    · next hmembers =>
      split at h
      · simp at h
      · next hdeps =>
        split at h
        · simp at h
        · next howned =>
          split at h
          · simp at h
          · next hbatches =>
            refine ⟨by simpa using hnodup, fun m hm => ?_, hdeps, fun g hg => ?_, fun g hg => ?_⟩
            · have hone := List.findSome?_eq_none_iff.1 hmembers m hm
              cases hp : c.parts.part? m.generationId with
              | none => simp [hp] at hone
              | some p => rfl
            · unfold owner
              rw [Dict.get?_eq_none]
              intro hkey
              exact howned (List.any_eq_true.2 ⟨g, hg, Dict.contains_iff.2 hkey⟩)
            · by_contra hnone
              refine hbatches (List.any_eq_true.2 ⟨g, hg, ?_⟩)
              simpa using hnone

/-- Every control record of a group is in exactly one claim of its part. -/
theorem exists_located {closing : List GenerationId}
    {identityKeys : List (GenerationId × Nat × Nat × Nat)}
    {foldKeys : List (GenerationId × String)}
    (h : c.validateStartDependencies closing deps identityKeys foldKeys = none) :
    ∀ dep ∈ deps, ∃ p inClaim, c.parts.part? dep.controlPart = some p ∧
      locateControlIdentity p dep.controlIdentity = .ok inClaim := by
  induction deps generalizing identityKeys foldKeys with
  | nil => simp
  | cons dep deps ih =>
    unfold validateStartDependencies at h
    split at h
    · simp at h
    · next p hp =>
      split at h
      · simp at h
      · next inClaim hlocate =>
        split at h
        · simp at h
        · split at h
          · simp at h
          · split at h
            · simp at h
            · intro dep' hdep'
              rcases List.mem_cons.1 hdep' with rfl | hdep'
              · exact ⟨p, inClaim, hp, hlocate⟩
              · exact ih h dep' hdep'

/-! ## The new command -/

theorem getD_newCommand (c : Core) (members : List CloseMember) (trigger : DurabilityTrigger)
    (deps : List ControlDependency) (g : GenerationId) :
    ((c.newCommand members trigger deps).dependencies.get? g).getD [] =
      deps.filter (·.controlPart = g) := by
  refine (Dict.getD_foldl_push (fun dep : ControlDependency => some dep.controlPart) Dict.empty
    deps g).trans ?_
  simp

theorem mem_keys_newCommand :
    g ∈ (c.newCommand members trigger deps).dependencies.keys ↔
      ∃ dep ∈ deps, dep.controlPart = g := by
  refine (Dict.mem_keys_foldl_push (fun dep : ControlDependency => some dep.controlPart)
    Dict.empty deps g).trans ?_
  simp [Dict.keys]

theorem mem_workParts_newCommand : g ∈ (c.newCommand members trigger deps).workParts ↔
    g ∈ members.map (·.generationId) ∨
      g ∈ (c.newCommand members trigger deps).dependencies.keys := by
  change g ∈ members.map (·.generationId) ++
    (c.newCommand members trigger deps).dependencies.keys.filter _ ↔ _
  simp only [List.mem_append, List.mem_filter, decide_eq_true_eq]
  tauto

/-- The final batch of a new command is all its work. -/
theorem mem_batchParts_newCommand : g ∈ batchParts (c.newCommand members trigger deps) ↔
    g ∈ (c.newCommand members trigger deps).workParts := by
  rw [mem_batchParts, mem_workParts_newCommand]
  change g ∈ members.map (·.generationId) ∨ _ ∧ g ∉ members.map (·.generationId) ∧ _ ↔ _
  tauto

theorem nodup_batchParts_newCommand (h : (members.map (·.generationId)).Nodup) :
    (batchParts (c.newCommand members trigger deps)).Nodup := by
  have hwork : (c.newCommand members trigger deps).workParts.Nodup := by
    refine List.nodup_append.2 ⟨h, ?_, ?_⟩
    · exact List.Nodup.filter _ (Dict.nodup _)
    · rintro a ha b hb rfl
      have hb := (List.mem_filter.1 hb).2
      exact absurd ha (by simpa using hb)
  refine List.nodup_append.2 ⟨h, hwork.filter _, ?_⟩
  rintro a ha b hb rfl
  have hb := (List.mem_filter.1 hb).2
  rw [decide_eq_true_eq] at hb
  exact hb.1 ha

theorem mem_remaining_newCommand :
    g ∈ (c.newCommand members trigger deps).remainingPrerequisites ↔
      g ∈ (c.newCommand members trigger deps).workParts ∧ (c.claimOf g).isSome := by
  change g ∈ (c.newCommand members trigger deps).workParts.filter _ ↔ _
  rw [List.mem_filter]
  rfl

theorem prerequisiteBatches_newCommand (c : Core) (members : List CloseMember)
    (trigger : DurabilityTrigger) (deps : List ControlDependency) :
    (c.newCommand members trigger deps).prerequisiteBatches =
      (c.newCommand members trigger deps).remainingPrerequisites.foldl
        (Dict.push fun g => (c.parts.part? g).bind (·.claimBatch)) Dict.empty := by
  unfold newCommand
  dsimp only
  congr 1
  funext d g
  unfold Dict.push
  dsimp only
  cases (c.parts.part? g).bind (·.claimBatch) <;> rfl

/-- A claim in flight is listed under its batch. -/
theorem mem_prerequisiteBatches_newCommand {batch : Nat} {gs : List GenerationId}
    (h : (c.newCommand members trigger deps).prerequisiteBatches.get? batch = some gs) :
    g ∈ gs ↔ g ∈ (c.newCommand members trigger deps).remainingPrerequisites ∧
      (c.parts.part? g).bind (·.claimBatch) = some batch := by
  have hget := Dict.getD_foldl_push (fun g => (c.parts.part? g).bind (·.claimBatch)) Dict.empty
    (c.newCommand members trigger deps).remainingPrerequisites batch
  rw [← prerequisiteBatches_newCommand, h] at hget
  have hget : gs = _ := hget
  rw [hget]
  simp [List.mem_filter]

theorem shaped_newCommand (hne : members ≠ []) :
    Shaped (c.newCommand members trigger deps) deps where
  parts := by
    change members.map (·.generationId) ≠ []
    simpa using hne
  work := fun g hg => mem_workParts_newCommand.2 (.inl hg)
  control := fun dep hdep =>
    mem_workParts_newCommand.2 (.inr (mem_keys_newCommand.2 ⟨dep, hdep, rfl⟩))

/-! ## The registered command -/

/-- The parts of a group are retired and its command is in the books. -/
def register (members : List CloseMember) (cmd : BarrierCommand) (c : Core) : Core :=
  { c with
    parts := members.foldl
      (fun s m => s.updatePart m.generationId (·.retire m.reason m.closedAtNs)) c.parts
    barrier := { c.barrier with
      commands := c.barrier.commands.set c.barrier.nextCommand cmd
      commandByGeneration :=
        cmd.workParts.foldl (fun d g => d.set g c.barrier.nextCommand) c.barrier.commandByGeneration
      nextCommand := c.barrier.nextCommand + 1 } }

theorem startMixedCloseGroup_refused {e : Err}
    (h : c.validateStart members deps (c.newCommand members trigger deps) = some e) :
    startMixedCloseGroup members trigger deps c = (some e, c) := by
  unfold startMixedCloseGroup
  simp only [h]

theorem startMixedCloseGroup_accepted
    (h : c.validateStart members deps (c.newCommand members trigger deps) = none) :
    startMixedCloseGroup members trigger deps c =
      if (c.newCommand members trigger deps).remainingPrerequisites.isEmpty then
        submitFinalBatch c.barrier.nextCommand
          (c.register members (c.newCommand members trigger deps))
      else (none, c.register members (c.newCommand members trigger deps)) := by
  unfold startMixedCloseGroup
  simp only [h]
  rfl

theorem part?_retire (members : List CloseMember) (s : ActivePartSet) (g : GenerationId) :
    ∃ f : Part → Part, (∀ p : Part, p.SameWork (f p)) ∧
      (members.foldl (fun s m => s.updatePart m.generationId (·.retire m.reason m.closedAtNs))
        s).part? g = (s.part? g).map f := by
  induction members generalizing s with
  | nil => exact ⟨fun p => p, fun _ => ⟨rfl, rfl, rfl, rfl, rfl, rfl⟩, by simp⟩
  | cons m members ih =>
    obtain ⟨f, hf, hget⟩ := ih (s.updatePart m.generationId (·.retire m.reason m.closedAtNs))
    rw [List.foldl_cons, hget]
    simp only [ActivePartSet.part?, ActivePartSet.updatePart, Dict.get?_update]
    split
    · refine ⟨fun p => f (p.retire m.reason m.closedAtNs), fun p => ?_, Option.map_map _ _ _⟩
      exact (p.sameWork_retire m.reason m.closedAtNs).trans (hf _)
    · exact ⟨f, hf, rfl⟩

theorem part?_register (members : List CloseMember) (cmd : BarrierCommand) (c : Core)
    (g : GenerationId) :
    ∃ f : Part → Part, (∀ p : Part, p.SameWork (f p)) ∧
      (c.register members cmd).parts.part? g = (c.parts.part? g).map f :=
  part?_retire members c.parts g

theorem claimOf_register (members : List CloseMember) (cmd : BarrierCommand) (c : Core)
    (g : GenerationId) : (c.register members cmd).claimOf g = c.claimOf g := by
  obtain ⟨f, hf, hget⟩ := part?_register members cmd c g
  unfold claimOf
  rw [hget]
  cases c.parts.part? g with
  | none => rfl
  | some p => exact (hf p).claimed

theorem command_register (members : List CloseMember) (cmd : BarrierCommand) (c : Core)
    (k : Nat) : (c.register members cmd).command k =
      if k = c.barrier.nextCommand then some cmd else c.command k :=
  Dict.get?_set _ _ _ _

theorem get?_foldl_set {κ α : Type} [DecidableEq κ] (d : Dict κ α) (ks : List κ) (v : α) (k : κ) :
    (ks.foldl (fun d k => d.set k v) d).get? k = if k ∈ ks then some v else d.get? k := by
  induction ks generalizing d with
  | nil => simp
  | cons a ks ih =>
    rw [List.foldl_cons, ih, Dict.get?_set]
    by_cases ha : k = a <;> by_cases hk : k ∈ ks <;> simp [ha, hk]

theorem owner_register (members : List CloseMember) (cmd : BarrierCommand) (c : Core)
    (g : GenerationId) : (c.register members cmd).owner g =
      if g ∈ cmd.workParts then some c.barrier.nextCommand else c.owner g :=
  get?_foldl_set _ _ _ _

theorem later_register (members : List CloseMember) (cmd : BarrierCommand) (c : Core) :
    c.Later (c.register members cmd) where
  parts := by
    intro g p hp
    obtain ⟨f, hf, hget⟩ := part?_register members cmd c g
    exact ⟨f p, by rw [hget, hp]; rfl, (hf p).later⟩
  closed := fun _ h => h

theorem Accounted.register (h : c.Accounted reported) (members : List CloseMember)
    (cmd : BarrierCommand) : (c.register members cmd).Accounted reported := by
  intro g q hq
  obtain ⟨f, hf, hget⟩ := part?_register members cmd c g
  rw [hget] at hq
  obtain ⟨p, hp, rfl⟩ := Option.map_eq_some_iff.1 hq
  exact (hf p).accounted (h g p hp)

theorem Busy.register (h : c.Busy) (members : List CloseMember) (cmd : BarrierCommand) :
    (c.register members cmd).Busy := by
  intro w hw
  obtain ⟨p, hp, hclaimed, hbatch⟩ := h w hw
  obtain ⟨f, hf, hget⟩ := part?_register members cmd c w.generationId
  refine ⟨f p, by rw [hget, hp]; rfl, ?_, ?_⟩
  · rw [(hf p).claimed]
    exact hclaimed
  · rw [(hf p).claimBatch]
    exact hbatch

/-- A registered command waits for the claims in flight of its work. -/
theorem waiting_register
    (hfresh : ∀ g, c.owner g ≠ some c.barrier.nextCommand) :
    Waiting reported deps (c.register members (c.newCommand members trigger deps))
      c.barrier.nextCommand (c.newCommand members trigger deps) where
  task := rfl
  unsettled := rfl
  unpublished := rfl
  owned := by
    intro g
    rw [owner_register, mem_batchParts_newCommand]
    split
    · next hg => exact iff_of_true rfl hg
    · next hg => exact iff_of_false (hfresh g) hg
  claimed := by
    intro g hg
    rw [claimOf_register, mem_remaining_newCommand]
    exact (and_iff_right (mem_batchParts_newCommand.1 hg)).symm
  owing := fun g hg => mem_batchParts_newCommand.2 (mem_remaining_newCommand.1 hg).1
  deps := by
    intro dep hdep
    refine .inr ?_
    unfold Pending
    rw [getD_newCommand]
    exact List.mem_filter.2 ⟨hdep, by simp⟩

/-- The claims in flight are of batches whose settlement the command waits for. -/
theorem listed_register (hbusy : c.Busy)
    (hbatches : ∀ g ∈ (c.newCommand members trigger deps).remainingPrerequisites,
      ((c.parts.part? g).bind (·.claimBatch)).isSome) :
    Listed (c.register members (c.newCommand members trigger deps))
      (c.newCommand members trigger deps) where
  exists_batch := by
    intro g hg
    obtain ⟨batch, hbatch⟩ := Option.isSome_iff_exists.1 (hbatches g hg)
    have hkey : batch ∈ (c.newCommand members trigger deps).prerequisiteBatches.keys := by
      rw [prerequisiteBatches_newCommand, Dict.mem_keys_foldl_push]
      exact .inr ⟨g, hg, hbatch⟩
    obtain ⟨gs, hgs⟩ := Dict.exists_of_mem_keys hkey
    exact ⟨batch, gs, hgs, (mem_prerequisiteBatches_newCommand hgs).2 ⟨hg, hbatch⟩⟩
  works := by
    intro batch gs hgs g hg hmem w hw hwg
    obtain ⟨-, hbatch⟩ := (mem_prerequisiteBatches_newCommand hgs).1 hg
    obtain ⟨p, hp, -, hbound⟩ := hbusy w hw
    rw [← hwg, hp] at hbatch
    exact hbound batch hbatch

/-! ## Submitting at once -/

theorem locate_pending {p : Part} {identity : Identity} {inClaim : Bool}
    (h : locateControlIdentity p identity = .ok inClaim) (hfree : p.claimed = none) :
    inClaim = false ∧ p.pending.countP (·.identity = identity) = 1 := by
  unfold locateControlIdentity at h
  split at h
  · simp at h
  · simp only [hfree, Option.map_none, Option.any_none, Bool.false_eq_true, if_false,
      Nat.add_zero] at h
    split at h
    · simp at h
    · next hone => exact ⟨by simpa using h.symm, by simpa using hone⟩

/-- Parts without a claim are sealed without an error, and their buffers become their claims. -/
theorem forEach_seal_ok {gs : List GenerationId} (hnodup : gs.Nodup)
    (hfree : ∀ g ∈ gs, ∃ p, c.parts.part? g = some p ∧ p.claimed = none) :
    ∃ c', Proc.forEach gs (fun g => onPart g (Part.sealForSync true)) c = (none, c') ∧
      (∀ g, g ∉ gs → c'.parts.part? g = c.parts.part? g) ∧
      ∀ g ∈ gs, ∀ p, c.parts.part? g = some p → c'.claimRows g = p.pending := by
  induction gs generalizing c with
  | nil => exact ⟨c, rfl, fun _ _ => rfl, by simp⟩
  | cons g gs ih =>
    obtain ⟨hnotin, hnodup⟩ := List.nodup_cons.1 hnodup
    obtain ⟨p, hp, hclaimed⟩ := hfree g List.mem_cons_self
    generalize hc₁ : onPart g (Part.sealForSync true) c = r
    have hnone : r.1 = none := by
      rw [← hc₁]
      unfold onPart onParts ActivePartSet.onPart Part.sealForSync
      simp [hp, hclaimed]
    have hget : ∀ a, r.2.parts.part? a = if a = g then
        (c.parts.part? a).map fun p => (Part.sealForSync true p).2 else c.parts.part? a := by
      intro a
      rw [← hc₁, part?_onPart]
    obtain ⟨c', hrun, hothers, hrows⟩ := ih (c := r.2) hnodup (by
      intro a ha
      rw [hget, if_neg fun h : a = g => hnotin (h ▸ ha)]
      exact hfree a (List.mem_cons_of_mem _ ha))
    refine ⟨c', ?_, fun a ha => ?_, fun a ha q hq => ?_⟩
    · change Proc.seq (onPart g (Part.sealForSync true)) _ c = _
      unfold Proc.seq
      rw [hc₁, show r = (none, r.2) by rw [← hnone]]
      exact hrun
    · rw [List.mem_cons, not_or] at ha
      rw [hothers a ha.2, hget, if_neg ha.1]
    · by_cases hag : a = g
      · subst hag
        rw [hp] at hq
        obtain rfl := Option.some.inj hq
        unfold claimRows claimOf
        rw [hothers a hnotin, hget, if_pos rfl, hp]
        simp [Part.sealForSync, hclaimed]
      · have ha : a ∈ gs := by simpa [hag] using ha
        refine hrows a ha q ?_
        rw [hget, if_neg hag]
        exact hq

section Submit

variable (hstart : c.validateStart members deps (c.newCommand members trigger deps) = none)
  (hnil : (c.newCommand members trigger deps).remainingPrerequisites = [])

include hstart hnil

/-- The parts of a group without claims in flight. -/
theorem free_newCommand : ∀ g ∈ (c.newCommand members trigger deps).workParts,
    ∃ p, c.parts.part? g = some p ∧ p.claimed = none := by
  obtain ⟨-, hmembers, hdeps, -, -⟩ := validateStart_eq_none hstart
  intro g hg
  have hpart : (c.parts.part? g).isSome := by
    rcases mem_workParts_newCommand.1 hg with hg | hg
    · obtain ⟨m, hm, rfl⟩ := List.mem_map.1 hg
      exact hmembers m hm
    · obtain ⟨dep, hdep, rfl⟩ := mem_keys_newCommand.1 hg
      obtain ⟨p, _, hp, -⟩ := exists_located hdeps dep hdep
      simp [hp]
  obtain ⟨p, hp⟩ := Option.isSome_iff_exists.1 hpart
  refine ⟨p, hp, ?_⟩
  by_contra hclaimed
  have hmem : g ∈ (c.newCommand members trigger deps).remainingPrerequisites := by
    refine mem_remaining_newCommand.2 ⟨hg, ?_⟩
    unfold claimOf
    rw [hp]
    exact Option.isSome_iff_ne_none.2 hclaimed
  simp [hnil] at hmem

/-- The control records of a group without claims in flight are in the buffers of their parts. -/
theorem pending_newCommand {ds : List ControlDependency}
    (hds : (g, ds) ∈ (c.newCommand members trigger deps).dependencies.entries)
    {dep : ControlDependency} (hdep : dep ∈ ds) :
    g ∈ (c.newCommand members trigger deps).workParts ∧ ∃ p, c.parts.part? g = some p ∧
      validatePendingControlIdentity p dep.controlIdentity = none ∧
      p.pending.countP (·.identity = dep.controlIdentity) = 1 := by
  have hget := Dict.get?_eq_some.2 hds
  have hfilter := getD_newCommand c members trigger deps g
  rw [hget] at hfilter
  have hfilter : ds = _ := hfilter
  rw [hfilter] at hdep
  obtain ⟨hdep, hcontrol⟩ := List.mem_filter.1 hdep
  have hcontrol : dep.controlPart = g := by simpa using hcontrol
  have hwork : g ∈ (c.newCommand members trigger deps).workParts :=
    mem_workParts_newCommand.2 (.inr (Dict.mem_keys_of_get? hget))
  obtain ⟨p, hp, hclaimed⟩ := free_newCommand hstart hnil g hwork
  obtain ⟨-, -, hdeps, -, -⟩ := validateStart_eq_none hstart
  obtain ⟨q, inClaim, hq, hlocate⟩ := exists_located hdeps dep hdep
  rw [hcontrol, hp] at hq
  obtain rfl := Option.some.inj hq
  obtain ⟨rfl, hcount⟩ := locate_pending hlocate hclaimed
  refine ⟨hwork, p, hp, ?_, hcount⟩
  unfold validatePendingControlIdentity
  simp [hlocate, hclaimed]

theorem validateFinalBatch_register :
    (c.register members (c.newCommand members trigger deps)).validateFinalBatch
      c.barrier.nextCommand (c.newCommand members trigger deps) = none := by
  obtain ⟨hparts, -⟩ := validateStart_eq_none hstart
  unfold validateFinalBatch
  rw [if_neg (not_not.2 (nodup_batchParts_newCommand hparts))]
  split
  · next e hsome =>
    obtain ⟨⟨g, ds⟩, hds, hsome⟩ := List.exists_of_findSome?_eq_some hsome
    obtain ⟨dep, hdep, hsome⟩ := List.exists_of_findSome?_eq_some hsome
    obtain ⟨-, p, hp, hvalid, -⟩ := pending_newCommand hstart hnil hds hdep
    obtain ⟨f, hf, hget⟩ := part?_register members (c.newCommand members trigger deps) c g
    simp [hget, hp, (hf p).validatePending, hvalid] at hsome
  · refine List.findSome?_eq_none_iff.2 fun g hg => ?_
    have hwork := mem_batchParts_newCommand.1 hg
    obtain ⟨p, hp, hclaimed⟩ := free_newCommand hstart hnil g hwork
    obtain ⟨f, hf, hget⟩ := part?_register members (c.newCommand members trigger deps) c g
    have howner := owner_register members (c.newCommand members trigger deps) c g
    rw [if_pos hwork] at howner
    have hindex : (c.register members (c.newCommand members trigger deps)
      ).barrier.commandByGeneration.get? g = some c.barrier.nextCommand := howner
    simp [hget, hp, (hf p).claimed, hclaimed, hindex]

/-- With no claim in flight the final batch of a new command is submitted. -/
theorem submitFinalBatch_register :
    (submitFinalBatch c.barrier.nextCommand
      (c.register members (c.newCommand members trigger deps))).1 = none := by
  obtain ⟨hparts, -⟩ := validateStart_eq_none hstart
  have hvalid := validateFinalBatch_register hstart hnil
  have hpending : ∀ g ds, (g, ds) ∈ (c.newCommand members trigger deps).dependencies.entries →
      ∀ dep ∈ ds, g ∈ (c.newCommand members trigger deps).workParts ∧
        ∃ p, c.parts.part? g = some p ∧
          p.pending.countP (·.identity = dep.controlIdentity) = 1 := by
    intro g ds hds dep hdep
    obtain ⟨hwork, p, hp, -, hcount⟩ := pending_newCommand hstart hnil hds hdep
    exact ⟨hwork, p, hp, hcount⟩
  have hfree := free_newCommand hstart hnil
  have hbatch : ∀ g, g ∈ batchParts (c.newCommand members trigger deps) ↔
    g ∈ (c.newCommand members trigger deps).workParts := fun g => mem_batchParts_newCommand
  have hnodup : (batchParts (c.newCommand members trigger deps)).Nodup :=
    nodup_batchParts_newCommand hparts
  have htask : (c.newCommand members trigger deps).batchTask = none := rfl
  have hsettled : (c.newCommand members trigger deps).batchSettled = false := rfl
  generalize c.newCommand members trigger deps = cmd at *
  have hcommand : (c.register members cmd).barrier.commands.get? c.barrier.nextCommand =
    some cmd := (command_register members cmd c _).trans (if_pos rfl)
  obtain ⟨c', hseal, -, hrows⟩ := forEach_seal_ok (c := c.register members cmd) hnodup (by
    intro g hg
    obtain ⟨p, hp, hclaimed⟩ := hfree g ((hbatch g).1 hg)
    obtain ⟨f, hf, hget⟩ := part?_register members cmd c g
    exact ⟨f p, by rw [hget, hp]; rfl, (hf p).claimed.trans hclaimed⟩)
  have hsealed : (cmd.dependencies.entries.any fun e => e.2.any fun dep =>
      !decide ((((((c'.parts.part? e.1).bind (·.claimed)).map (·.rows)).getD []).countP
        (·.identity = dep.controlIdentity)) = 1)) = false := by
    simp only [List.any_eq_false, Bool.not_eq_true, Bool.not_eq_false', decide_eq_true_eq]
    rintro ⟨g, ds⟩ hds dep hdep
    obtain ⟨hwork, p, hp, hcount⟩ := hpending g ds hds dep hdep
    obtain ⟨f, hf, hget⟩ := part?_register members cmd c g
    have hclaim : c'.claimRows g = (f p).pending :=
      hrows g ((hbatch g).2 hwork) (f p) (by rw [hget, hp]; rfl)
    rw [(hf p).pending] at hclaim
    change (c'.claimRows g).countP _ = 1
    rw [hclaim]
    exact hcount
  unfold submitFinalBatch
  simp only [hcommand, hnil, htask, hsettled, hvalid, List.isEmpty_nil, Bool.not_true,
    Bool.false_eq_true, if_false, Option.isSome_none, or_self]
  split
  · next e c₁ h => exact absurd (hseal.symm.trans h) (by simp)
  · next c₁ h =>
    obtain rfl : c' = c₁ := congrArg Prod.snd (hseal.symm.trans h)
    rw [if_neg (by rw [hsealed]; simp)]
    split <;> rfl

end Submit

/-- Command `id` is started for the group `parts` with the dependencies `deps`. -/
structure Starts (reported : List (GenerationId × Record)) (deps : List ControlDependency)
    (id : Nat) (parts : List GenerationId) (c c' : Core) : Prop where
  later : c.Later c'
  accounted : c'.Accounted reported
  busy : c'.Busy
  spares : ∀ k, k ≠ id → Spares k c c'
  work : ∀ k, k ≠ id → NewWorkElsewhere k c c'
  command : ∃ cmd, c'.command id = some cmd ∧ cmd.parts = parts ∧ cmd.publication = none ∧
    Shaped cmd deps ∧ Sound reported deps c' id cmd
  owner : ∀ g k, c'.owner g = some k → k = id ∨ c.owner g = some k
  results : c'.barrier.results = c.barrier.results
  next : c'.barrier.nextCommand = id + 1
  queue : c'.disk.queue = c.disk.queue

/-- What is done for a new command after it was registered. -/
theorem starts_of_serves
    (hstart : c.validateStart members deps (c.newCommand members trigger deps) = none)
    (hne : members ≠ []) (hacc : c.Accounted reported) (hbusy : c.Busy)
    (hserves : Serves reported c.barrier.nextCommand
      (c.register members (c.newCommand members trigger deps)) c')
    (hcmd : c'.command c.barrier.nextCommand = some cmd)
    (hnext : Continues (c.newCommand members trigger deps) cmd)
    (hpublication : cmd.publication = none)
    (hsound : Sound reported deps c' c.barrier.nextCommand cmd) :
    Starts reported deps c.barrier.nextCommand (members.map (·.generationId)) c c' := by
  obtain ⟨-, -, -, hfree, -⟩ := validateStart_eq_none hstart
  have hshape : Shaped (c.newCommand members trigger deps) deps := shaped_newCommand hne
  have hparts : (c.newCommand members trigger deps).parts = members.map (·.generationId) := rfl
  generalize c.newCommand members trigger deps = new at *
  have howner := owner_register members new c
  have hspares : ∀ k, k ≠ c.barrier.nextCommand → Spares k c (c.register members new) := by
    intro k hk
    refine ⟨(command_register members new c k).trans (if_neg hk), fun g => ?_,
      fun g _ => claimOf_register members new c g⟩
    rw [howner]
    split
    · next hg =>
      rw [hfree g hg]
      simpa using fun h => hk h.symm
    · rfl
  exact {
    later := (later_register members new c).trans hserves.later
    accounted := hserves.accounted (hacc.register members new)
    busy := hserves.busy (hbusy.register members new)
    spares := fun k hk => (hspares k hk).trans (hserves.spares k hk)
    work := by
      intro k hk w hw
      refine (hserves.works w hw).imp_right fun hown hother => ?_
      rw [howner] at hown
      split at hown
      · next hg => simp [hfree _ hg] at hother
      · rw [hown] at hother
        exact hk (Option.some.inj hother).symm
    command := ⟨cmd, hcmd, hnext.parts.trans hparts, hpublication, hshape.continues hnext, hsound⟩
    owner := by
      intro g k hg
      have hg := hserves.owner g k hg
      rw [howner] at hg
      split at hg
      · exact .inl (Option.some.inj hg).symm
      · exact .inr hg
    results := hserves.results
    next := hserves.next
    queue := hserves.queue }

/-- A started group has a sound command; a refused group leaves no trace. -/
theorem startMixedCloseGroup_spec (trigger : DurabilityTrigger) (deps : List ControlDependency)
    (hne : members ≠ []) (hacc : c.Accounted reported) (hbusy : c.Busy)
    (hfresh : ∀ g, c.owner g ≠ some c.barrier.nextCommand) :
    (∃ e, startMixedCloseGroup members trigger deps c = (some e, c)) ∨
      (startMixedCloseGroup members trigger deps c).1 = none ∧
        Starts reported deps c.barrier.nextCommand (members.map (·.generationId)) c
          (startMixedCloseGroup members trigger deps c).2 := by
  cases hstart : c.validateStart members deps (c.newCommand members trigger deps) with
  | some e => exact .inl ⟨e, startMixedCloseGroup_refused hstart⟩
  | none =>
    refine .inr ?_
    rw [startMixedCloseGroup_accepted hstart]
    obtain ⟨-, -, -, hfree, hbatches⟩ := validateStart_eq_none hstart
    have hcmd : (c.register members (c.newCommand members trigger deps)).command
        c.barrier.nextCommand = some (c.newCommand members trigger deps) :=
      (command_register members _ c _).trans (if_pos rfl)
    have hwait : Waiting reported deps (c.register members (c.newCommand members trigger deps))
        c.barrier.nextCommand (c.newCommand members trigger deps) := waiting_register hfresh
    split
    · next hempty =>
      have hnil := List.isEmpty_iff.1 hempty
      have hok := submitFinalBatch_register hstart hnil
      obtain ⟨hserves, hsubmitted, -⟩ := submitFinalBatch_spec hcmd (shaped_newCommand hne) hwait
        (hacc.register members _) (hbusy.register members _) hnil
      obtain ⟨cmd, hcmd', hnext, hunsettled, hsync⟩ := hsubmitted hok
      exact ⟨hok, starts_of_serves hstart hne hacc hbusy hserves hcmd' hnext hsync.unpublished
        (.inr (.inl ⟨hsync, hunsettled⟩))⟩
    · next hempty =>
      refine ⟨rfl, starts_of_serves hstart hne hacc hbusy (.refl _ _ _) hcmd (.refl _) rfl
        (.inl ⟨hwait, listed_register hbusy hbatches, ?_⟩)⟩
      simpa using hempty

end Core

end CryptoCollector.Storage
