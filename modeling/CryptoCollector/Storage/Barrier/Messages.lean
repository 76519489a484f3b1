import CryptoCollector.Storage.Barrier.Phases

/-!
# Messages to a final barrier

`handle_message` does not raise for a message that may be delivered, and the command it is for is
sound again when it returns.
-/

namespace CryptoCollector.Storage.Core

open Lib

variable {reported : List (GenerationId × Record)} {deps : List ControlDependency}
  {id : Nat} {c c' : Core} {g : GenerationId} {cmd : BarrierCommand}

/-- Handling something for command `id` ends well. -/
structure Handled (reported : List (GenerationId × Record)) (deps : List ControlDependency)
    (id : Nat) (cmd : BarrierCommand) (c c' : Core) : Prop where
  serves : Serves reported id c c'
  command : ∃ cmd', c'.command id = some cmd' ∧ Continues cmd cmd' ∧ Sound reported deps c' id cmd'

theorem entries_set_ne_nil {κ α : Type} [DecidableEq κ] (d : Dict κ α) (k : κ) (v : α) :
    (d.set k v).entries ≠ [] := by
  intro h
  have hget := Dict.get?_set_self d k v
  rw [Dict.get?_eq_some, h] at hget
  simp at hget

/-! ## Prerequisite claims -/

/-- The dependencies of a command after a prerequisite claim of `g` was settled. -/
def restDependencies (cmd : BarrierCommand) (g : GenerationId) (succeeded : Bool)
    (durable : List ControlDependency) : Dict GenerationId (List ControlDependency) :=
  let pending := ((cmd.dependencies.get? g).getD []).filter (· ∉ durable)
  if succeeded ∧ !durable.isEmpty then
    if pending.isEmpty then cmd.dependencies.erase g else cmd.dependencies.set g pending
  else cmd.dependencies

theorem get?_restDependencies {succeeded : Bool} {durable : List ControlDependency}
    {a : GenerationId} (h : a ≠ g) :
    (restDependencies cmd g succeeded durable).get? a = cmd.dependencies.get? a := by
  unfold restDependencies
  dsimp only
  split
  · split
    · exact Dict.get?_erase_ne _ h
    · exact Dict.get?_set_ne _ _ h
  · rfl

theorem mem_keys_restDependencies {succeeded : Bool} {durable : List ControlDependency}
    {a : GenerationId} (h : a ≠ g) :
    a ∈ (restDependencies cmd g succeeded durable).keys ↔ a ∈ cmd.dependencies.keys := by
  rw [← Dict.get?_isSome, ← Dict.get?_isSome, get?_restDependencies h]

/-- A dependency of `g` that was not durable stays. -/
theorem mem_restDependencies {succeeded : Bool} {durable : List ControlDependency}
    {dep : ControlDependency} (hdep : dep ∈ (cmd.dependencies.get? g).getD [])
    (h : succeeded = false ∨ dep ∉ durable) :
    dep ∈ ((restDependencies cmd g succeeded durable).get? g).getD [] := by
  unfold restDependencies
  dsimp only
  split
  · next hdurable =>
    have hmem : dep ∈ ((cmd.dependencies.get? g).getD []).filter (· ∉ durable) := by
      rcases h with h | h
      · simp [h] at hdurable
      · simpa [List.mem_filter] using ⟨hdep, h⟩
    split
    · next hempty =>
      rw [List.isEmpty_iff] at hempty
      rw [hempty] at hmem
      simp at hmem
    · simpa using hmem
  · exact hdep

/-- The command after a prerequisite claim was settled; a control part without further
dependencies is released. -/
theorem waiting_settled (g : GenerationId) (succeeded : Bool) (durable : List ControlDependency)
    {errors : Dict GenerationId Err} {cmd' : BarrierCommand}
    (hcmd' : cmd' = { cmd with
      fileErrors := errors
      dependencies := restDependencies cmd g succeeded durable
      remainingPrerequisites := cmd.remainingPrerequisites.filter (· ≠ g) })
    (hwait : Waiting reported deps c id cmd) (hlater : c.Later c')
    (hclaim : c'.claimOf g = none)
    (hclaims : ∀ a, a ≠ g → c'.claimOf a = c.claimOf a)
    (howner : ∀ a, a ≠ g → c'.owner a = c.owner a)
    (howner' : c'.owner g = some id ↔ g ∈ batchParts cmd')
    (hfolded : succeeded = true → ∀ dep ∈ durable, dep.controlPart = g →
      Folded reported c' dep) :
    Waiting reported deps c' id cmd' := by
  have hbatch : ∀ a, a ≠ g → (a ∈ batchParts cmd' ↔ a ∈ batchParts cmd) := by
    intro a ha
    rw [mem_batchParts, mem_batchParts, hcmd']
    simp only [mem_keys_restDependencies ha]
  subst hcmd'
  exact {
    task := hwait.task
    unsettled := hwait.unsettled
    unpublished := hwait.unpublished
    owned := by
      intro a
      by_cases ha : a = g
      · rw [ha]
        exact howner'
      · rw [howner a ha, hbatch a ha]
        exact hwait.owned a
    claimed := by
      intro a hmem
      by_cases ha : a = g
      · rw [ha, hclaim]
        simp
      · rw [hclaims a ha]
        rw [hbatch a ha] at hmem
        simpa [List.mem_filter, ha] using hwait.claimed a hmem
    owing := by
      intro a hmem
      obtain ⟨hmem, ha⟩ := List.mem_filter.1 hmem
      have ha : a ≠ g := by simpa using ha
      exact (hbatch a ha).2 (hwait.owing a hmem)
    deps := by
      intro dep hdep
      rcases hwait.deps dep hdep with hf | hpending
      · exact .inl (hf.later (fun _ h => h) hlater)
      · unfold Pending at hpending ⊢
        by_cases hcontrol : dep.controlPart = g
        · by_cases hdone : succeeded = true ∧ dep ∈ durable
          · exact .inl (hfolded hdone.1 dep hdone.2 hcontrol)
          · refine .inr ?_
            rw [hcontrol] at hpending ⊢
            refine mem_restDependencies hpending ?_
            by_cases hs : succeeded = true
            · exact .inr fun hd => hdone ⟨hs, hd⟩
            · exact .inl (by simpa using hs)
        · refine .inr ?_
          dsimp only
          rw [get?_restDependencies hcontrol]
          exact hpending }

theorem Listed.settled {cmd' : BarrierCommand} (h : Listed c cmd)
    (hbatches : cmd'.prerequisiteBatches = cmd.prerequisiteBatches)
    (howing : ∀ a ∈ cmd'.remainingPrerequisites, a ∈ cmd.remainingPrerequisites)
    (hdisk : c'.disk.works = c.disk.works) : Listed c' cmd' where
  exists_batch := by
    intro a ha
    rw [hbatches]
    exact h.exists_batch a (howing a ha)
  works := by
    intro batch gs hget a ha hmem w hw
    rw [hbatches] at hget
    rw [hdisk] at hw
    exact h.works batch gs hget a ha (howing a hmem) w hw

/-- A message about the file of `g`. -/
def IsFileMessage (g : GenerationId) : Message → Prop
  | .completed result => result.generationId = g
  | .failed a _ => a = g
  | _ => False

/-- The records of a claim are reported by its completion. -/
def Reports (reported : List (GenerationId × Record)) (c : Core) (g : GenerationId) :
    Message → Prop
  | .completed _ => ∀ r ∈ c.claimRows g, (g, r) ∈ reported
  | _ => True

theorem settleClaimMessage_spec (reported : List (GenerationId × Record))
    {m : Message} (slo : Nat) (ds : List ControlDependency)
    (hm : IsFileMessage g m) (hreported : Reports reported c g m) (hcmd : c.command id = some cmd)
    (howner : ∀ k, k ≠ id → c.owner g ≠ some k)
    (hworks : ∀ w ∈ c.disk.works, w.generationId ≠ g) :
    Settles reported id cmd g ds c (settleClaimMessage slo id g m ds c) ∧
      ((settleClaimMessage slo id g m ds c).1 = true →
        ∀ r ∈ c.claimRows g, (g, r) ∈ reported) := by
  cases m with
  | completed result =>
    exact ⟨settleClaimMessage_completed slo result hcmd howner hworks hreported, fun _ => hreported⟩
  | failed a e =>
    obtain rfl : a = g := hm
    refine ⟨settleClaimMessage_failed slo e hcmd howner hworks, fun h => ?_⟩
    unfold settleClaimMessage at h
    dsimp only at h
    split at h <;> simp at h
  | prerequisiteSettled => exact hm.elim
  | batchSettled => exact hm.elim
  | publicationSettled => exact hm.elim

/-- The dependencies whose control record is in the claim of `g`. -/
def durableDependencies (c : Core) (cmd : BarrierCommand) (g : GenerationId) :
    List ControlDependency :=
  ((cmd.dependencies.get? g).getD []).filter
    (·.controlIdentity ∈ (c.claimRows g).map (·.identity))

/-- The command in the books after a prerequisite claim was settled. -/
def settlePrerequisiteClaim (slo id : Nat) (cmd : BarrierCommand) (g : GenerationId) (m : Message)
    (c : Core) : Bool × Core :=
  let durable := durableDependencies c cmd g
  let r := settleClaimMessage slo id g m durable c
  (r.1, r.2.updateCommand id fun cmd' => { cmd' with
    dependencies := restDependencies cmd g r.1 durable
    remainingPrerequisites := cmd'.remainingPrerequisites.filter (· ≠ g) })

theorem handlePrerequisiteCompletion_eq (slo : Nat) (m : Message) :
    handlePrerequisiteCompletion slo id cmd g m c =
      let r := settlePrerequisiteClaim slo id cmd g m c
      match
        if r.1 ∧ ¬(g ∈ cmd.parts ∨
            (restDependencies cmd g r.1 (durableDependencies c cmd g)).contains g) then
          releaseGeneration id g r.2
        else (none, r.2) with
      | (some e, c) => (some e, c)
      | (none, c) => (none, tryAdvancePrerequisites id c) := rfl

/-- The outcome of a prerequisite claim. -/
theorem handlePrerequisiteCompletion_spec {m : Message} (slo : Nat) (hm : IsFileMessage g m)
    (hreported : Reports reported c g m) (hcmd : c.command id = some cmd)
    (hshape : Shaped cmd deps) (hwait : Waiting reported deps c id cmd) (hlisted : Listed c cmd)
    (hg : g ∈ cmd.remainingPrerequisites) (hacc : c.Accounted reported) (hbusy : c.Busy)
    (hworks : ∀ w ∈ c.disk.works, w.generationId ≠ g) :
    (handlePrerequisiteCompletion slo id cmd g m c).1 = none ∧
      Handled reported deps id cmd c (handlePrerequisiteCompletion slo id cmd g m c).2 := by
  have hbatch : g ∈ batchParts cmd := hwait.owing g hg
  have hown : c.owner g = some id := (hwait.owned g).2 hbatch
  obtain ⟨hsettles, hrows⟩ := settleClaimMessage_spec reported slo (durableDependencies c cmd g) hm
    hreported hcmd (fun k hk h => hk (by simpa [hown] using h.symm)) hworks
  rw [handlePrerequisiteCompletion_eq]
  unfold settlePrerequisiteClaim
  dsimp only
  generalize settleClaimMessage slo id g m (durableDependencies c cmd g) c = r at hsettles hrows ⊢
  generalize hrest : restDependencies cmd g r.1 (durableDependencies c cmd g) = rest
  -- the books of the command after the claim
  obtain ⟨errors, hcmd₁⟩ : ∃ errors, r.2.command id = some { cmd with fileErrors := errors } := by
    cases hr : r.1 with
    | true => exact ⟨cmd.fileErrors, (hsettles.settled hr).1⟩
    | false =>
      obtain ⟨e, he⟩ := hsettles.failed hr
      exact ⟨_, he⟩
  let cmd' : BarrierCommand := { cmd with
    fileErrors := errors
    dependencies := rest
    remainingPrerequisites := cmd.remainingPrerequisites.filter (· ≠ g) }
  generalize hc₂ : (r.2.updateCommand id fun cmd' => { cmd' with
    dependencies := rest
    remainingPrerequisites := cmd'.remainingPrerequisites.filter (· ≠ g) }) = c₂
  have hserves₂ : Serves reported id c c₂ := by
    rw [← hc₂]
    exact hsettles.serves.trans (serves_updateCommand _)
  have hcmd₂ : c₂.command id = some cmd' := by
    rw [← hc₂, command_updateCommand, if_pos rfl, hcmd₁]
    rfl
  have hclaim₂ : ∀ a, c₂.claimOf a = r.2.claimOf a := fun a => by rw [← hc₂]; rfl
  have howner₂ : ∀ a, c₂.owner a = c.owner a := by
    intro a
    rw [← hsettles.owner a, ← hc₂]
    rfl
  have hdisk₂ : c₂.disk = c.disk := by
    rw [← hsettles.disk, ← hc₂]
    rfl
  have hfolded : ∀ c', c₂.Later c' → r.1 = true →
      ∀ dep ∈ durableDependencies c cmd g, dep.controlPart = g → Folded reported c' dep := by
    intro c' hlater hr dep hdep hcontrol
    obtain ⟨-, hid⟩ := List.mem_filter.1 hdep
    obtain ⟨row, hrow, hid⟩ := List.mem_map.1 (by simpa using hid)
    refine ⟨⟨row, by rw [hcontrol]; exact hrows hr row hrow, hid⟩, fun a ha => ?_⟩
    have hevent := (hsettles.settled hr).2 dep hdep a ha
    have hserves : Serves reported id r.2 c₂ := by
      rw [← hc₂]
      exact serves_updateCommand _
    exact (hevent.later hserves.later).later hlater
  have hadvance : ∀ c₃, Serves reported id c₂ c₃ → c₃.parts = c₂.parts → c₃.disk = c₂.disk →
      c₃.command id = some cmd' → (∀ a, a ≠ g → c₃.owner a = c₂.owner a) →
      (c₃.owner g = some id ↔ g ∈ batchParts cmd') →
      Handled reported deps id cmd c (tryAdvancePrerequisites id c₃) := by
    intro c₃ hserves₃ hparts hdisk hcmd₃ howner₃ howner₃'
    have hclaim₃ : ∀ a, c₃.claimOf a = r.2.claimOf a := by
      intro a
      rw [← hclaim₂ a]
      unfold claimOf
      rw [hparts]
    have hserves := hserves₂.trans hserves₃
    have hwait₃ : Waiting reported deps c₃ id cmd' := by
      refine waiting_settled g r.1 _ (by rw [hrest]) hwait hserves.later ?_ ?_
        ?_ howner₃' (hfolded c₃ hserves₃.later)
      · rw [hclaim₃, hsettles.claim]
      · exact fun a ha => (hclaim₃ a).trans (hsettles.claims a ha)
      · exact fun a ha => (howner₃ a ha).trans (howner₂ a)
    have hlisted₃ : Listed c₃ cmd' :=
      hlisted.settled rfl (fun a ha => (List.mem_filter.1 ha).1) (by rw [hdisk, hdisk₂])
    have hnext : Continues cmd cmd' := ⟨rfl, rfl, rfl, fun _ => ⟨rfl, rfl⟩, .inl rfl⟩
    obtain ⟨hserves₄, cmd'', hcmd₄, hnext', hsound⟩ := tryAdvancePrerequisites_spec hcmd₃
      (hshape.continues hnext) hwait₃ hlisted₃ (hserves.accounted hacc) (hserves.busy hbusy)
    exact ⟨hserves.trans hserves₄, cmd'', hcmd₄, hnext.trans hnext', hsound⟩
  by_cases hrelease : r.1 = true ∧ ¬(g ∈ cmd.parts ∨ rest.contains g = true)
  · rw [if_pos hrelease]
    obtain ⟨c₃, hc₃, hserves₃, howner₃, hparts₃, hdisk₃, hcommands₃⟩ :=
      releaseGeneration_owned reported ((howner₂ g).trans hown)
    rw [hc₃]
    refine ⟨rfl, hadvance c₃ hserves₃ hparts₃ hdisk₃ ?_ (fun a ha => by rw [howner₃, if_neg ha])
      ?_⟩
    · unfold command
      rw [hcommands₃]
      exact hcmd₂
    · rw [howner₃, if_pos rfl, mem_batchParts]
      rw [not_or, Dict.contains_iff] at hrelease
      simp [cmd', hrelease.2.1, hrelease.2.2]
  · rw [if_neg hrelease]
    refine ⟨rfl, hadvance c₂ (.refl reported id c₂) rfl rfl hcmd₂ (fun _ _ => rfl) ?_⟩
    rw [howner₂, hown]
    refine ⟨fun _ => ?_, fun _ => rfl⟩
    rw [mem_batchParts] at hbatch ⊢
    cases hr : r.1 with
    | false =>
      have : rest = cmd.dependencies := by
        rw [← hrest, hr]
        rfl
      rw [show cmd'.dependencies = cmd.dependencies from this]
      exact hbatch
    | true =>
      rw [hr] at hrelease
      have hfinal : g ∈ cmd.parts ∨ g ∈ rest.keys := by
        by_contra hnot
        rw [not_or] at hnot
        exact hrelease ⟨rfl, by simpa using hnot⟩
      by_cases hparts : g ∈ cmd.parts
      · exact .inl hparts
      · have hwork : g ∈ cmd.workParts := mem_workParts_of_batch hshape (hwait.owing g hg)
        exact .inr ⟨hwork, hparts, hfinal.resolve_left hparts⟩

/-! ## The final batch -/

/-- One file of the final batch is settled. -/
theorem syncing_settled {errors : Dict GenerationId Err} {cmd' : BarrierCommand}
    (hcmd' : cmd' = { cmd with
      fileErrors := errors
      remaining := cmd.remaining.filter (· ≠ g) })
    (hsync : Syncing reported deps c id cmd) (hlater : c.Later c')
    (hclaims : ∀ a, a ≠ g → c'.claimOf a = c.claimOf a)
    (howner : ∀ a, c'.owner a = if a = g then none else c.owner a)
    (hworks : c'.disk.works = c.disk.works)
    (herrors : cmd.fileErrors.entries ≠ [] → errors.entries ≠ [])
    (hfolded : errors.entries ≠ [] ∨ ∀ dep, Pending cmd dep → dep.controlPart = g →
      (∃ r ∈ c.claimRows g, r.identity = dep.controlIdentity) → Folded reported c' dep) :
    Syncing reported deps c' id cmd' := by
  have hmem : ∀ a, a ∈ cmd'.remaining ↔ a ∈ cmd.remaining ∧ a ≠ g := by
    intro a
    rw [hcmd']
    simp [List.mem_filter]
  subst hcmd'
  exact {
    task := by
      obtain ⟨batch, htask, hbatch⟩ := hsync.task
      refine ⟨batch, htask, fun w hw ha => hbatch w ?_ ((hmem _).1 ha).1⟩
      rwa [hworks] at hw
    unpublished := hsync.unpublished
    prerequisites := hsync.prerequisites
    owned := by
      intro a
      rw [howner, hmem]
      split
      · next ha => simp [ha]
      · next ha =>
        rw [hsync.owned a]
        simp [ha]
    claimed := by
      intro a ha
      obtain ⟨ha, hne⟩ := (hmem a).1 ha
      rw [hclaims a hne]
      exact hsync.claimed a ha
    batch := fun a ha => hsync.batch a ((hmem a).1 ha).1
    nodup := hsync.nodup
    deps := by
      intro dep hdep
      rcases hsync.deps dep hdep with hf | he | ⟨hpending, hremaining, hrow⟩
      · exact .inl (hf.later (fun _ h => h) hlater)
      · exact .inr (.inl (herrors he))
      · by_cases hcontrol : dep.controlPart = g
        · rcases hfolded with he | hf
          · exact .inr (.inl he)
          · rw [hcontrol] at hrow
            exact .inl (hf dep hpending hcontrol hrow)
        · refine .inr (.inr ⟨hpending, (hmem _).2 ⟨hremaining, hcontrol⟩, ?_⟩)
          rw [claimRows_eq (hclaims _ hcontrol)]
          exact hrow }

/-- The outcome of a file of the final batch. -/
theorem finalCompletion_spec {m : Message} (slo : Nat) (hm : IsFileMessage g m)
    (hreported : Reports reported c g m) (hcmd : c.command id = some cmd)
    (hsync : Syncing reported deps c id cmd) (hunsettled : cmd.batchSettled = false)
    (hg : g ∈ cmd.remaining) (hworks : ∀ w ∈ c.disk.works, w.generationId ≠ g) :
    ∃ c₁, releaseGeneration id g c = (none, c₁) ∧
      Handled reported deps id cmd c (tryFinishFinalBarrier id
        ((settleClaimMessage slo id g m ((cmd.dependencies.get? g).getD []) c₁).2.updateCommand id
          fun cmd => { cmd with remaining := cmd.remaining.filter (· ≠ g) })) := by
  obtain ⟨c₁, hc₁, hserves₁, howner₁, hparts₁, hdisk₁, hcommands₁⟩ :=
    releaseGeneration_owned reported ((hsync.owned g).2 hg)
  refine ⟨c₁, hc₁, ?_⟩
  have hclaim₁ : ∀ a, c₁.claimOf a = c.claimOf a := by
    intro a
    unfold claimOf
    rw [hparts₁]
  have hreported₁ : Reports reported c₁ g m := by
    cases m with
    | completed result =>
      unfold Reports at hreported ⊢
      rw [claimRows_eq (hclaim₁ g)]
      exact hreported
    | _ => trivial
  have hcmd₁ : c₁.command id = some cmd := by
    unfold command
    rw [hcommands₁]
    exact hcmd
  obtain ⟨hsettles, hrows⟩ := settleClaimMessage_spec reported slo
    ((cmd.dependencies.get? g).getD []) hm hreported₁ hcmd₁ (fun k _ => by rw [howner₁, if_pos rfl]; simp) (by rw [hdisk₁]; exact hworks)
  generalize settleClaimMessage slo id g m ((cmd.dependencies.get? g).getD []) c₁ = r
    at hsettles hrows ⊢
  have hserves₂ : Serves reported id c (r.2.updateCommand id fun cmd =>
      { cmd with remaining := cmd.remaining.filter (· ≠ g) }) :=
    (hserves₁.trans hsettles.serves).trans (serves_updateCommand _)
  have hnext : ∀ errors, Continues cmd { cmd with
      fileErrors := errors
      remaining := cmd.remaining.filter (· ≠ g) } :=
    fun errors => ⟨rfl, rfl, rfl, fun _ => ⟨rfl, rfl⟩, .inl rfl⟩
  have hfinish : ∀ errors, r.2.command id = some { cmd with fileErrors := errors } →
      (cmd.fileErrors.entries ≠ [] → errors.entries ≠ []) →
      (errors.entries ≠ [] ∨ ∀ dep, Pending cmd dep → dep.controlPart = g →
        (∃ row ∈ c.claimRows g, row.identity = dep.controlIdentity) → Folded reported r.2 dep) →
      Handled reported deps id cmd c (tryFinishFinalBarrier id (r.2.updateCommand id fun cmd =>
        { cmd with remaining := cmd.remaining.filter (· ≠ g) })) := by
    intro errors hcmd₂ herrors hfolded
    have hsync₂ : Syncing reported deps (r.2.updateCommand id fun cmd =>
        { cmd with remaining := cmd.remaining.filter (· ≠ g) }) id { cmd with
          fileErrors := errors
          remaining := cmd.remaining.filter (· ≠ g) } := by
      refine syncing_settled rfl hsync hserves₂.later ?_ ?_ ?_ herrors hfolded
      · exact fun a ha => (hsettles.claims a ha).trans (hclaim₁ a)
      · exact fun a => (hsettles.owner a).trans (howner₁ a)
      · change r.2.disk.works = _
        rw [hsettles.disk, hdisk₁]
    obtain ⟨hserves₃, cmd', hcmd', hnext', hsound⟩ := tryFinishFinalBarrier_spec
      (c := r.2.updateCommand id fun cmd =>
        { cmd with remaining := cmd.remaining.filter (· ≠ g) })
      (by rw [command_updateCommand, if_pos rfl, hcmd₂]; rfl) hsync₂ (.inr hunsettled)
    exact ⟨hserves₂.trans hserves₃, cmd', hcmd', (hnext errors).trans hnext', hsound⟩
  cases hr : r.1 with
  | true =>
    obtain ⟨hcmd₂, hevents⟩ := hsettles.settled hr
    refine hfinish cmd.fileErrors hcmd₂ (fun h => h) (.inr fun dep hpending hcontrol hrow => ?_)
    obtain ⟨row, hrow, hid⟩ := hrow
    rw [← claimRows_eq (hclaim₁ g)] at hrow
    refine ⟨⟨row, by rw [hcontrol]; exact hrows hr row hrow, hid⟩, hevents dep ?_⟩
    unfold Pending at hpending
    rwa [hcontrol] at hpending
  | false =>
    obtain ⟨e, hcmd₂⟩ := hsettles.failed hr
    have hne := entries_set_ne_nil cmd.fileErrors g e
    exact hfinish _ hcmd₂ (fun _ => hne) (.inl hne)

/-- The outcome of a file that a command owns. -/
theorem handleFileMessage_spec {m : Message} (slo : Nat) (hm : IsFileMessage g m)
    (hreported : Reports reported c g m) (hcmd : c.command id = some cmd)
    (hshape : Shaped cmd deps) (hsound : Sound reported deps c id cmd)
    (hown : c.owner g = some id) (hclaim : (c.claimOf g).isSome) (hacc : c.Accounted reported)
    (hbusy : c.Busy) (hworks : ∀ w ∈ c.disk.works, w.generationId ≠ g) :
    (handleFileMessage slo g m c).1 = .ok true ∧
      Handled reported deps id cmd c (handleFileMessage slo g m c).2 := by
  have hindex : c.barrier.commandByGeneration.get? g = some id := hown
  have hget : c.barrier.commands.get? id = some cmd := hcmd
  unfold handleFileMessage
  simp only [hindex, hget]
  rcases hsound with ⟨hwait, hlisted, -⟩ | ⟨hsync, hunsettled⟩ | hend
  · have hg : g ∈ cmd.remainingPrerequisites :=
      (hwait.claimed g ((hwait.owned g).1 hown)).1 hclaim
    obtain ⟨hnone, hhandled⟩ := handlePrerequisiteCompletion_spec slo hm hreported hcmd hshape
      hwait hlisted hg hacc hbusy hworks
    rw [if_pos hg]
    split
    · next c' h =>
      rw [h] at hhandled
      exact ⟨rfl, hhandled⟩
    · next h => simp [h] at hnone
  · have hg : g ∈ cmd.remaining := (hsync.owned g).1 hown
    obtain ⟨c₁, hc₁, hhandled⟩ := finalCompletion_spec slo hm hreported hcmd hsync hunsettled hg
      hworks
    rw [if_neg (by simp [hsync.prerequisites]), if_neg (by simpa using hg), hc₁]
    exact ⟨rfl, hhandled⟩
  · exact absurd hown (hend.owned g)

/-! ## Settlements -/

/-- A prerequisite claim whose completion went missing is settled as a failure. -/
theorem missingPrerequisite_spec (error : Option Err) (slo : Nat)
    (hcmd : c.command id = some cmd) (hwait : Waiting reported deps c id cmd)
    (hg : g ∈ cmd.remainingPrerequisites) (hworks : ∀ w ∈ c.disk.works, w.generationId ≠ g) :
    ∃ cmd', ((settleClaimMessage slo id g (.failed g (.filePersistence (missingReason error g))) []
        c).2.updateCommand id fun cmd => { cmd with
          remainingPrerequisites := cmd.remainingPrerequisites.filter (· ≠ g) }).command id =
        some cmd' ∧
      Continues cmd cmd' ∧
      cmd'.remainingPrerequisites = cmd.remainingPrerequisites.filter (· ≠ g) ∧
      Serves reported id c ((settleClaimMessage slo id g
        (.failed g (.filePersistence (missingReason error g))) [] c).2.updateCommand id fun cmd =>
          { cmd with
            remainingPrerequisites := cmd.remainingPrerequisites.filter (· ≠ g) }) ∧
      (settleClaimMessage slo id g (.failed g (.filePersistence (missingReason error g))) []
        c).2.disk = c.disk ∧
      Waiting reported deps ((settleClaimMessage slo id g
        (.failed g (.filePersistence (missingReason error g))) [] c).2.updateCommand id fun cmd =>
          { cmd with
            remainingPrerequisites := cmd.remainingPrerequisites.filter (· ≠ g) }) id cmd' := by
  have hbatch : g ∈ batchParts cmd := hwait.owing g hg
  have hown : c.owner g = some id := (hwait.owned g).2 hbatch
  obtain ⟨hsettles, -⟩ := settleClaimMessage_spec reported
    (m := .failed g (.filePersistence (missingReason error g))) slo [] rfl trivial hcmd
    (fun k hk h => hk (by simpa [hown] using h.symm)) hworks
  have hfailed : (settleClaimMessage slo id g
      (.failed g (.filePersistence (missingReason error g))) [] c).1 = false := by
    unfold settleClaimMessage
    dsimp only
    split <;> rfl
  generalize settleClaimMessage slo id g (.failed g (.filePersistence (missingReason error g))) []
    c = r at hsettles hfailed ⊢
  obtain ⟨e, hcmd₁⟩ := hsettles.failed hfailed
  have hserves : Serves reported id c (r.2.updateCommand id fun cmd => { cmd with
      remainingPrerequisites := cmd.remainingPrerequisites.filter (· ≠ g) }) :=
    hsettles.serves.trans (serves_updateCommand _)
  refine ⟨{ cmd with
      fileErrors := cmd.fileErrors.set g e
      remainingPrerequisites := cmd.remainingPrerequisites.filter (· ≠ g) }, ?_,
    ⟨rfl, rfl, rfl, fun _ => ⟨rfl, rfl⟩, .inl rfl⟩, rfl, hserves, hsettles.disk, ?_⟩
  · rw [command_updateCommand, if_pos rfl, hcmd₁]
    rfl
  · refine waiting_settled g false [] rfl hwait hserves.later
      hsettles.claim hsettles.claims (fun a _ => hsettles.owner a) ?_ (fun h => by simp at h)
    change r.2.owner g = some id ↔ g ∈ batchParts cmd
    rw [hsettles.owner, hown]
    simp [hbatch]

/-- The claims of a settled batch are settled, also those whose completion went missing. -/
theorem failMissingPrerequisites_spec (slo : Nat) (error : Option Err) (gs : List GenerationId)
    (hcmd : c.command id = some cmd) (hwait : Waiting reported deps c id cmd)
    (hworks : ∀ g ∈ gs, g ∈ cmd.remainingPrerequisites →
      ∀ w ∈ c.disk.works, w.generationId ≠ g) :
    ∃ cmd', (failMissingPrerequisites slo id gs error c).command id = some cmd' ∧
      Continues cmd cmd' ∧
      (∀ a ∈ cmd'.remainingPrerequisites, a ∈ cmd.remainingPrerequisites ∧ a ∉ gs) ∧
      Serves reported id c (failMissingPrerequisites slo id gs error c) ∧
      (failMissingPrerequisites slo id gs error c).disk = c.disk ∧
      Waiting reported deps (failMissingPrerequisites slo id gs error c) id cmd' := by
  induction gs generalizing c cmd with
  | nil =>
    exact ⟨cmd, hcmd, .refl cmd, fun a ha => ⟨ha, by simp⟩, .refl reported id c, rfl, hwait⟩
  | cons g gs ih =>
    have hget : c.barrier.commands.get? id = some cmd := hcmd
    unfold failMissingPrerequisites
    rw [List.foldl_cons]
    simp only [hget]
    by_cases hg : g ∈ cmd.remainingPrerequisites
    · rw [if_pos hg]
      obtain ⟨cmd₁, hcmd₁, hnext, hremaining, hserves, hdisk, hwait₁⟩ :=
        missingPrerequisite_spec error slo hcmd hwait hg
          (hworks g List.mem_cons_self hg)
      obtain ⟨cmd', hcmd', hnext', hrest, hserves', hdisk', hwait'⟩ := ih hcmd₁ hwait₁ (by
        intro a ha hmem w hw
        rw [hremaining] at hmem
        change w ∈ (settleClaimMessage slo id g _ [] c).2.disk.works at hw
        rw [hdisk] at hw
        exact hworks a (List.mem_cons_of_mem _ ha) (List.mem_filter.1 hmem).1 w hw)
      refine ⟨cmd', hcmd', hnext.trans hnext', fun a ha => ?_, hserves.trans hserves',
        hdisk'.trans hdisk, hwait'⟩
      obtain ⟨hmem, hgs⟩ := hrest a ha
      rw [hremaining] at hmem
      obtain ⟨hmem, hne⟩ := List.mem_filter.1 hmem
      have hne : a ≠ g := by simpa using hne
      exact ⟨hmem, by simp [hne, hgs]⟩
    · rw [if_neg hg]
      obtain ⟨cmd', hcmd', hnext', hrest, hserves', hdisk', hwait'⟩ := ih hcmd hwait
        (fun a ha => hworks a (List.mem_cons_of_mem _ ha))
      refine ⟨cmd', hcmd', hnext', fun a ha => ?_, hserves', hdisk', hwait'⟩
      obtain ⟨hmem, hgs⟩ := hrest a ha
      exact ⟨hmem, by
        rw [List.mem_cons, not_or]
        exact ⟨fun h => hg (h ▸ hmem), hgs⟩⟩

theorem failMissingPrerequisites_nil (slo : Nat) (error : Option Err) (gs : List GenerationId)
    (hcmd : c.command id = some cmd) (hnil : cmd.remainingPrerequisites = []) :
    failMissingPrerequisites slo id gs error c = c := by
  have hget : c.barrier.commands.get? id = some cmd := hcmd
  induction gs with
  | nil => rfl
  | cons g gs ih =>
    unfold failMissingPrerequisites at ih ⊢
    rw [List.foldl_cons]
    simpa [hget, hnil] using ih

theorem tryAdvancePrerequisites_idle (hcmd : c.command id = some cmd)
    (h : cmd.batchTask.isSome ∨ cmd.publication.isSome) : tryAdvancePrerequisites id c = c := by
  have hget : c.barrier.commands.get? id = some cmd := hcmd
  unfold tryAdvancePrerequisites
  simp only [hget]
  rw [if_pos]
  rcases h with h | h
  · exact .inr (.inl h)
  · exact .inr (.inr (.inr h))

theorem Ending.publication_isSome (h : Ending reported deps c id cmd) :
    cmd.publication.isSome := by
  have := h.publication
  cases hp : cmd.publication with
  | none => simp [hp, Publishes] at this
  | some p => rfl

/-- A settlement of a prerequisite batch. -/
theorem prerequisiteSettled_spec {batch : Nat} {gs : List GenerationId} (slo : Nat)
    (error : Option Err) (hcmd : c.command id = some cmd) (hshape : Shaped cmd deps)
    (hsound : Sound reported deps c id cmd) (hacc : c.Accounted reported) (hbusy : c.Busy)
    (hbatch : cmd.prerequisiteBatches.get? batch = some gs)
    (hworks : ∀ w ∈ c.disk.works, w.batch ≠ batch) :
    (handleMessage slo (.prerequisiteSettled id batch error) c).1 = .ok true ∧
      Handled reported deps id
        { cmd with prerequisiteBatches := cmd.prerequisiteBatches.erase batch } c
        (handleMessage slo (.prerequisiteSettled id batch error) c).2 := by
  have hget : c.barrier.commands.get? id = some cmd := hcmd
  unfold handleMessage
  simp only [hget, hbatch]
  refine ⟨trivial, ?_⟩
  generalize hc₁ : (c.updateCommand id fun cmd =>
    { cmd with prerequisiteBatches := cmd.prerequisiteBatches.erase batch }) = c₁
  have hserves₁ : Serves reported id c c₁ := by
    rw [← hc₁]
    exact serves_updateCommand _
  have hcmd₁ : c₁.command id =
      some { cmd with prerequisiteBatches := cmd.prerequisiteBatches.erase batch } := by
    rw [← hc₁, command_updateCommand, if_pos rfl, hcmd]
    rfl
  -- a command that waits for no claim is left alone
  have hidle : cmd.remainingPrerequisites = [] →
      cmd.batchTask.isSome ∨ cmd.publication.isSome →
      Sound reported deps c₁ id
        { cmd with prerequisiteBatches := cmd.prerequisiteBatches.erase batch } →
      Handled reported deps id
        { cmd with prerequisiteBatches := cmd.prerequisiteBatches.erase batch } c
        (tryAdvancePrerequisites id (failMissingPrerequisites slo id gs error c₁)) := by
    intro hnil hbusy hsound
    rw [failMissingPrerequisites_nil slo error gs hcmd₁ hnil,
      tryAdvancePrerequisites_idle hcmd₁ hbusy]
    exact ⟨hserves₁, _, hcmd₁, .refl _, hsound⟩
  rcases hsound with ⟨hwait, hlisted, -⟩ | ⟨hsync, hunsettled⟩ | hend
  · have hwait₁ : Waiting reported deps c₁ id
        { cmd with prerequisiteBatches := cmd.prerequisiteBatches.erase batch } := by
      rw [← hc₁]
      exact ⟨hwait.task, hwait.unsettled, hwait.unpublished, hwait.owned, hwait.claimed,
        hwait.owing, hwait.deps⟩
    have hdisk₁ : c₁.disk = c.disk := by
      rw [← hc₁]
      rfl
    obtain ⟨cmd₂, hcmd₂, hnext, hrest, hserves₂, hdisk₂, hwait₂⟩ :=
      failMissingPrerequisites_spec slo error gs hcmd₁ hwait₁ (by
        intro g hg howing w hw hwg
        rw [hdisk₁] at hw
        exact hworks w hw (hlisted.works batch gs hbatch g hg howing w hw hwg))
    have hlisted₂ : Listed (failMissingPrerequisites slo id gs error c₁) cmd₂ := by
      refine ⟨fun g hg => ?_, fun b ds hds g hg howing w hw hwg => ?_⟩
      · obtain ⟨howing, hgs⟩ := hrest g hg
        obtain ⟨b, ds, hds, hmem⟩ := hlisted.exists_batch g howing
        have hne : b ≠ batch := by
          rintro rfl
          rw [hbatch] at hds
          exact hgs (Option.some.inj hds ▸ hmem)
        refine ⟨b, ds, ?_, hmem⟩
        rw [hnext.batches]
        exact (Dict.get?_erase_ne _ hne).trans hds
      · rw [hnext.batches] at hds
        have hds : (cmd.prerequisiteBatches.erase batch).get? b = some ds := hds
        rw [Dict.get?_erase] at hds
        split at hds
        · simp at hds
        · rw [hdisk₂, hdisk₁] at hw
          exact hlisted.works b ds hds g hg (hrest g howing).1 w hw hwg
    have hserves := hserves₁.trans hserves₂
    have hshape₁ : Shaped
        { cmd with prerequisiteBatches := cmd.prerequisiteBatches.erase batch } deps :=
      ⟨hshape.parts, hshape.work, hshape.control⟩
    obtain ⟨hserves₃, cmd₃, hcmd₃, hnext₃, hsound⟩ := tryAdvancePrerequisites_spec hcmd₂
      (hshape₁.continues hnext) hwait₂ hlisted₂ (hserves.accounted hacc) (hserves.busy hbusy)
    exact ⟨hserves.trans hserves₃, cmd₃, hcmd₃, hnext.trans hnext₃, hsound⟩
  · obtain ⟨task, htask, -⟩ := hsync.task
    refine hidle hsync.prerequisites (.inl (by simp [htask])) (.inr (.inl ⟨?_, hunsettled⟩))
    rw [← hc₁]
    exact ⟨hsync.task, hsync.unpublished, hsync.prerequisites, hsync.owned, hsync.claimed,
      hsync.batch, hsync.nodup, hsync.deps⟩
  · refine hidle hend.prerequisites (.inr hend.publication_isSome) (.inr (.inr ?_))
    have hpublication : Publishes reported deps c
        { cmd with prerequisiteBatches := cmd.prerequisiteBatches.erase batch }
        cmd.publication := hend.publication
    rw [← hc₁]
    exact ⟨hend.task, hend.prerequisites, hend.owned,
      Publishes.later hpublication (fun _ h => h) ⟨fun _ p hp => ⟨p, hp, .refl p⟩, fun _ h => h⟩⟩

/-- The completions that went missing from a settled final batch. -/
theorem failMissingBatchCompletions_spec (gs : List GenerationId)
    (hcmd : c.command id = some cmd) (hsync : Syncing reported deps c id cmd)
    (hgs : ∀ g ∈ gs, g ∈ cmd.remaining) (hnodup : gs.Nodup)
    (hworks : ∀ g ∈ gs, ∀ w ∈ c.disk.works, w.generationId ≠ g) :
    ∃ c' cmd', Proc.forEach gs (fun g => Proc.seq (releaseGeneration id g) (Proc.modify fun c =>
        ((onParts (ActivePartSet.onPart g
          (Part.applyFailure (.filePersistence .syncFailed))) c).2).updateCommand id fun cmd =>
            { cmd with
              fileErrors := cmd.fileErrors.set g (.filePersistence .syncFailed)
              remaining := cmd.remaining.filter (· ≠ g) })) c = (none, c') ∧
      c'.command id = some cmd' ∧ Continues cmd cmd' ∧
      (∀ a ∈ cmd'.remaining, a ∈ cmd.remaining ∧ a ∉ gs) ∧ Serves reported id c c' ∧
      cmd'.batchSettled = cmd.batchSettled ∧ Syncing reported deps c' id cmd' := by
  induction gs generalizing c cmd with
  | nil =>
    exact ⟨c, cmd, rfl, hcmd, .refl cmd, fun a ha => ⟨ha, by simp⟩, .refl reported id c, rfl, hsync⟩
  | cons g gs ih =>
    obtain ⟨hnotin, hnodup⟩ := List.nodup_cons.1 hnodup
    obtain ⟨c₁, hc₁, hserves₁, howner₁, hparts₁, hdisk₁, hcommands₁⟩ :=
      releaseGeneration_owned reported
        ((hsync.owned g).2 (hgs g List.mem_cons_self))
    let f (cmd : BarrierCommand) : BarrierCommand := { cmd with
      fileErrors := cmd.fileErrors.set g (.filePersistence .syncFailed)
      remaining := cmd.remaining.filter (· ≠ g) }
    generalize hc₂ : (onPart g (Part.applyFailure (.filePersistence .syncFailed))
      c₁).2.updateCommand id f = c₂
    have hcmd₂ : c₂.command id = some (f cmd) := by
      rw [← hc₂, command_updateCommand, if_pos rfl]
      change (c₁.command id).map _ = _
      unfold command
      rw [hcommands₁]
      change (c.command id).map _ = _
      rw [hcmd]
      rfl
    have hserves₂ : Serves reported id c c₂ := by
      rw [← hc₂]
      refine (hserves₁.trans (serves_onPart_claim (fun _ => Part.later_failure _)
        (fun _ _ hp => hp.failure _) (fun k _ => ?_) ?_)).trans (serves_updateCommand _)
      · rw [howner₁, if_pos rfl]
        simp
      · rw [hdisk₁]
        exact hworks g List.mem_cons_self
    have hdisk₂ : c₂.disk = c.disk := by
      rw [← hdisk₁, ← hc₂]
      rfl
    have hne := entries_set_ne_nil cmd.fileErrors g (.filePersistence .syncFailed)
    have hsync₂ : Syncing reported deps c₂ id (f cmd) := by
      refine syncing_settled rfl hsync hserves₂.later (fun a ha => ?_) (fun a => ?_)
        (by rw [hdisk₂]) (fun _ => hne) (.inl hne)
      · rw [← hc₂]
        refine ((claimOf_applyFailure _ a).trans (if_neg ha)).trans ?_
        unfold claimOf
        rw [hparts₁]
      · rw [← howner₁ a, ← hc₂]
        rfl
    obtain ⟨c', cmd', hrun, hcmd', hnext, hrest, hserves, hsettled, hsync'⟩ := ih hcmd₂ hsync₂
      (fun a ha => List.mem_filter.2 ⟨hgs a (List.mem_cons_of_mem _ ha), by
        simpa using fun h : a = g => hnotin (h ▸ ha)⟩) hnodup
      (by rw [hdisk₂]; exact fun a ha => hworks a (List.mem_cons_of_mem _ ha))
    refine ⟨c', cmd', ?_, hcmd',
      ⟨hnext.parts, hnext.work, hnext.batches, hnext.task, hnext.publication⟩, fun a ha => ?_,
      hserves₂.trans hserves, hsettled, hsync'⟩
    · rw [← hrun]
      change Proc.seq (Proc.seq (releaseGeneration id g) _) _ c = _
      unfold Proc.seq
      rw [hc₁, ← hc₂]
      rfl
    · obtain ⟨hmem, hnot⟩ := hrest a ha
      obtain ⟨hmem, hne⟩ := List.mem_filter.1 hmem
      have hne : a ≠ g := by simpa using hne
      exact ⟨hmem, by simp [hne, hnot]⟩

/-- The settlement of the final batch of a command. -/
theorem batchSettled_spec {task : Nat} (slo : Nat) (error : Option Err)
    (hcmd : c.command id = some cmd) (hsync : Syncing reported deps c id cmd)
    (hunsettled : cmd.batchSettled = false) (htask : cmd.batchTask = some task)
    (hworks : ∀ w ∈ c.disk.works, w.batch ≠ task) :
    (handleMessage slo (.batchSettled id error) c).1 = .ok true ∧
      Handled reported deps id { cmd with batchSettled := true, batchError := error } c
        (handleMessage slo (.batchSettled id error) c).2 := by
  have hget : c.barrier.commands.get? id = some cmd := hcmd
  unfold handleMessage
  simp only [hget, hunsettled, Bool.false_eq_true, if_false]
  generalize hc₁ : (c.updateCommand id fun cmd =>
    { cmd with batchSettled := true, batchError := error }) = c₁
  have hserves₁ : Serves reported id c c₁ := by
    rw [← hc₁]
    exact serves_updateCommand _
  have hcmd₁ : c₁.command id = some { cmd with batchSettled := true, batchError := error } := by
    rw [← hc₁, command_updateCommand, if_pos rfl, hcmd]
    rfl
  have hsync₁ : Syncing reported deps c₁ id
      { cmd with batchSettled := true, batchError := error } := by
    rw [← hc₁]
    exact ⟨hsync.task, hsync.unpublished, hsync.prerequisites, hsync.owned, hsync.claimed,
      hsync.batch, hsync.nodup, hsync.deps⟩
  obtain ⟨batch, hbatch, hbatches⟩ := hsync.task
  rw [htask] at hbatch
  obtain rfl := Option.some.inj hbatch
  obtain ⟨c₂, cmd₂, hrun, hcmd₂, hnext, hrest, hserves₂, hsettled, hsync₂⟩ :=
    failMissingBatchCompletions_spec (cmd.batchGenerationIds.filter (· ∈ cmd.remaining)) hcmd₁
      hsync₁ (fun g hg => by simpa using (List.mem_filter.1 hg).2) (hsync.nodup.filter _) (by
        intro g hg w hw hwg
        have hmem : g ∈ cmd.remaining := by simpa using (List.mem_filter.1 hg).2
        rw [← hc₁] at hw
        exact hworks w hw (hbatches w hw (hwg ▸ hmem)))
  have hempty : cmd₂.remaining = [] := by
    refine List.eq_nil_iff_forall_not_mem.2 fun a ha => ?_
    obtain ⟨hmem, hnot⟩ := hrest a ha
    exact hnot (List.mem_filter.2 ⟨hsync.batch a hmem, by simpa using hmem⟩)
  obtain ⟨hserves₃, cmd₃, hcmd₃, hnext₃, hsound⟩ :=
    tryFinishFinalBarrier_spec hcmd₂ hsync₂ (.inl hempty)
  have hmissing : failMissingBatchCompletions id cmd c₁ = (none, c₂) := hrun
  rw [hmissing]
  exact ⟨rfl, (hserves₁.trans hserves₂).trans hserves₃, cmd₃, hcmd₃, hnext.trans hnext₃, hsound⟩

end CryptoCollector.Storage.Core
