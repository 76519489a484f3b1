import CryptoCollector.Storage.Barrier.Lawful

/-!
# Events around the commands

Installing and filling parts, and what owners do with parts that no command owns, leaves every
command alone.
-/

namespace CryptoCollector.Storage

open Lib

namespace Core

variable {reported : List (GenerationId × Record)} {c c' c'' : Core} {g : GenerationId}

/-- No command is touched on the way from `c` to `c'`. -/
structure Quiet (reported : List (GenerationId × Record)) (c c' : Core) : Prop where
  later : c.Later c'
  accounted : c.Accounted reported → c'.Accounted reported
  busy : c.Busy → c'.Busy
  barrier : c'.barrier = c.barrier
  queue : c'.disk.queue = c.disk.queue
  claims : ∀ g, c.owner g ≠ none → c'.claimOf g = c.claimOf g
  works : ∀ w ∈ c'.disk.works, w ∈ c.disk.works ∨ c.owner w.generationId = none

theorem Quiet.command (h : Quiet reported c c') (k : Nat) : c'.command k = c.command k := by
  unfold Core.command
  rw [h.barrier]

theorem Quiet.owner (h : Quiet reported c c') (g : GenerationId) : c'.owner g = c.owner g := by
  unfold Core.owner
  rw [h.barrier]

theorem Quiet.nextCommand (h : Quiet reported c c') :
    c'.barrier.nextCommand = c.barrier.nextCommand := by rw [h.barrier]

theorem Quiet.trans (h : Quiet reported c c') (h' : Quiet reported c' c'') :
    Quiet reported c c'' where
  later := h.later.trans h'.later
  accounted := fun hc => h'.accounted (h.accounted hc)
  busy := fun hc => h'.busy (h.busy hc)
  barrier := h'.barrier.trans h.barrier
  queue := h'.queue.trans h.queue
  claims := fun g hg => (h'.claims g (by rw [h.owner]; exact hg)).trans (h.claims g hg)
  works := by
    intro w hw
    rcases h'.works w hw with hw | hw
    · exact h.works w hw
    · exact .inr ((h.owner _).symm.trans hw)

theorem Quiet.spares (h : Quiet reported c c') (k : Nat) : Spares k c c' where
  command := h.command k
  owner := fun g => by rw [h.owner]
  claims := fun g hg => h.claims g (by simp [hg])

theorem Quiet.work (h : Quiet reported c c') (k : Nat) : NewWorkElsewhere k c c' :=
  fun w hw => (h.works w hw).imp_right fun hnone => by simp [hnone]

/-- Work in flight is dropped. -/
theorem quiet_disk {disk : Disk} (hworks : ∀ w ∈ disk.works, w ∈ c.disk.works)
    (hfiles : disk.files = c.disk.files) (hqueue : disk.queue = c.disk.queue) :
    Quiet reported c { c with disk } where
  later := by
    refine ⟨fun _ p hp => ⟨p, hp, .refl p⟩, fun g hg => ?_⟩
    unfold Disk.file at hg ⊢
    change ((disk.files.get? g).getD {}).closed = true
    rw [hfiles]
    exact hg
  accounted := fun h => h
  busy := fun h w hw => h w (hworks w hw)
  barrier := rfl
  queue := hqueue
  claims := fun _ _ => rfl
  works := fun w hw => .inl (hworks w hw)

/-- An operation that leaves the claim of a part alone. -/
theorem quiet_still (c : Core) {f : Proc Err Part} (hlater : ∀ p : Part, p.Later (f p).2)
    (haccounted : ∀ p : Part, p.Accounted reported g → (f p).2.Accounted reported g)
    (hclaim : ∀ p, (f p).2.claimed = p.claimed ∧ (f p).2.claimBatch = p.claimBatch) :
    Quiet reported c (onPart g f c).2 := by
  obtain ⟨hserves, hclaims⟩ := serves_onPart_still 0 c hlater haccounted hclaim
  exact {
    later := hserves.later
    accounted := hserves.accounted
    busy := hserves.busy
    barrier := rfl
    queue := rfl
    claims := fun a _ => hclaims a
    works := fun _ hw => .inl hw }

/-- An operation that makes a claim for a part that no command owns. -/
theorem quiet_claim {f : Proc Err Part} (hlater : ∀ p : Part, p.Later (f p).2)
    (haccounted : ∀ p : Part, p.Accounted reported g → (f p).2.Accounted reported g)
    (hclaim : ∀ p, p.claimed.isSome →
      (f p).2.claimed = p.claimed ∧ (f p).2.claimBatch = p.claimBatch)
    (howner : c.owner g = none) : Quiet reported c (onPart g f c).2 where
  later := later_onPart hlater
  accounted := fun h => h.onPart haccounted
  busy := by
    intro h w hw
    obtain ⟨p, hp, hclaimed, hbatch⟩ := h w hw
    rw [part?_onPart]
    split
    · refine ⟨(f p).2, by rw [hp]; rfl, by rw [(hclaim p hclaimed).1]; exact hclaimed, ?_⟩
      rw [(hclaim p hclaimed).2]
      exact hbatch
    · exact ⟨p, hp, hclaimed, hbatch⟩
  barrier := rfl
  queue := rfl
  claims := by
    intro a ha
    rw [claimOf_onPart, if_neg]
    rintro rfl
    exact ha howner
  works := fun _ hw => .inl hw

/-- The claim of a part that no command owns is settled. -/
theorem quiet_settle {f : Proc Err Part} (hlater : ∀ p : Part, p.Later (f p).2)
    (haccounted : ∀ p : Part, c.parts.part? g = some p → p.Accounted reported g →
      (f p).2.Accounted reported g)
    (howner : c.owner g = none) (hworks : ∀ w ∈ c.disk.works, w.generationId ≠ g) :
    Quiet reported c (onPart g f c).2 := by
  have hserves : Serves reported 0 c (onPart g f c).2 :=
    serves_onPart_claim hlater haccounted (fun k _ => by simp [howner]) hworks
  exact {
    later := hserves.later
    accounted := hserves.accounted
    busy := hserves.busy
    barrier := rfl
    queue := rfl
    claims := by
      intro a ha
      rw [claimOf_onPart, if_neg]
      rintro rfl
      exact ha howner
    works := fun _ hw => .inl hw }

theorem quiet_append (c : Core) (g : GenerationId) (limit : Nat) (r : Record) :
    Quiet reported c (onPart g (Part.appendAccepted limit r) c).2 := by
  refine quiet_still c (fun _ => Part.later_append limit r) (fun _ h => h.append limit r)
    fun p => ?_
  unfold Part.appendAccepted
  split
  · exact ⟨rfl, rfl⟩
  · split
    · exact ⟨rfl, rfl⟩
    · split <;> exact ⟨rfl, rfl⟩

theorem quiet_seal (howner : c.owner g = none) (force : Bool) :
    Quiet reported c (onPart g (Part.sealForSync force) c).2 := by
  refine quiet_claim (fun _ => Part.later_seal force) (fun _ h => h.seal force) (fun p hp => ?_)
    howner
  unfold Part.sealForSync
  rw [if_pos hp]
  exact ⟨rfl, rfl⟩

theorem quiet_oversized (howner : c.owner g = none) (limit : Nat) (r : Record) :
    Quiet reported c (onPart g (Part.sealOversized limit r) c).2 := by
  refine quiet_claim (fun _ => Part.later_oversized limit r) (fun _ h => h.oversized limit r)
    (fun p hp => ?_) howner
  unfold Part.sealOversized
  split
  · exact ⟨rfl, rfl⟩
  · rw [if_pos (.inr hp)]
    exact ⟨rfl, rfl⟩

/-- A part is installed under a generation id that is not in use. -/
theorem quiet_install {p : Part} (hnew : c.parts.part? g = none) (hrows : p.rows = [])
    (hevents : p.accumulator.controlEventIds = []) (hclaim : p.claimed = none)
    (hbatch : p.claimBatch = none) :
    Quiet reported c { c with parts := { c.parts with store := c.parts.store.set g p } } := by
  have hget : ∀ a, ({ c.parts with store := c.parts.store.set g p } : ActivePartSet).part? a =
      if a = g then some p else c.parts.part? a := fun a => Dict.get?_set _ _ _ _
  have hold : ∀ a q, c.parts.part? a = some q →
      ({ c.parts with store := c.parts.store.set g p } : ActivePartSet).part? a = some q := by
    intro a q hq
    rw [hget, if_neg]
    · exact hq
    · rintro rfl
      simp [hnew] at hq
  exact {
    later := ⟨fun a q hq => ⟨q, hold a q hq, .refl q⟩, fun _ h => h⟩
    accounted := by
      intro h a q hq
      rw [hget] at hq
      split at hq
      · obtain rfl := Option.some.inj hq
        exact ⟨by simp [hrows], by simp [hevents], by simp [hrows], fun _ => hbatch⟩
      · exact h a q hq
    busy := by
      intro h w hw
      obtain ⟨q, hq, hrest⟩ := h w hw
      exact ⟨q, hold _ q hq, hrest⟩
    barrier := rfl
    queue := rfl
    claims := by
      intro a _
      unfold claimOf
      rw [hget]
      split
      · next ha => rw [ha, hnew]; exact hclaim
      · rfl
    works := fun _ hw => .inl hw }

/-! ## Batches of other owners -/

theorem syncBatch_eq_none {gs : List GenerationId} {trigger : DurabilityTrigger}
    (h : (syncBatch gs trigger c).1 = none) :
    gs ≠ [] ∧ gs.Nodup ∧ ∀ g ∈ gs, ∀ w ∈ c.disk.works, w.generationId ≠ g := by
  unfold syncBatch at h
  split at h
  · simp at h
  · next hne =>
    split at h
    · simp at h
    · next hfree =>
      rw [not_or, not_not] at hfree
      refine ⟨by simpa using hne, hfree.1, fun g hg w hw heq => hfree.2 ?_⟩
      exact List.any_eq_true.2 ⟨g, hg, List.any_eq_true.2 ⟨w, hw, by simpa using heq⟩⟩

/-- The claim of a part is bound to a batch. -/
def bindBatch (batch : Nat) (p : Part) : Part := { p with claimBatch := some batch }

theorem part?_bindBatch (gs : List GenerationId) (batch : Nat) (s : ActivePartSet)
    (g : GenerationId) :
    (gs.foldl (fun s g => s.updatePart g fun p => { p with claimBatch := some batch }) s).part? g =
      if g ∈ gs then (s.part? g).map (bindBatch batch) else s.part? g := by
  induction gs generalizing s with
  | nil => rfl
  | cons a gs ih =>
    rw [List.foldl_cons, ih]
    simp only [ActivePartSet.part?, ActivePartSet.updatePart, Dict.get?_update]
    by_cases ha : g = a
    · subst ha
      by_cases hg : g ∈ gs
      · simp only [hg, if_true, List.mem_cons, or_true, Option.map_map]
        rfl
      · simp only [hg, if_false, if_true, List.mem_cons, true_or]
        rfl
    · simp [ha]

theorem later_bindBatch (batch : Nat) (p : Part) : p.Later (bindBatch batch p) :=
  ⟨rfl, fun _ h => h, fun h => ⟨h, rfl, rfl⟩⟩

/-- A batch for parts that no command owns. -/
theorem quiet_startBatch {gs : List GenerationId} (trigger : DurabilityTrigger)
    (hgs : ∀ g ∈ gs, c.owner g = none ∧ (c.claimOf g).isSome) :
    Quiet reported c (c.startBatch gs trigger) := by
  have hrefl : Quiet reported c c :=
    ⟨.refl c, fun h => h, fun h => h, rfl, rfl, fun _ _ => rfl, fun _ h => .inl h⟩
  unfold startBatch
  split
  · exact hrefl
  · next c₁ hsync =>
    obtain ⟨hne, hnodup, hfree⟩ := syncBatch_eq_none (by rw [hsync])
    obtain ⟨c₂, hsync', hparts, hbarrier, hqueue, hfiles, hworks⟩ :=
      syncBatch_ok trigger hne hnodup hfree
    obtain rfl : c₁ = c₂ := congrArg Prod.snd (hsync.symm.trans hsync')
    have hget := part?_bindBatch gs c.disk.nextBatch c₁.parts
    rw [hparts] at hget
    rw [hparts]
    exact {
      later := by
        refine ⟨fun a p hp => ?_, fun a ha => ?_⟩
        · rw [hget]
          split
          · exact ⟨_, by rw [show c.parts.part? a = some p from hp]; rfl, later_bindBatch _ p⟩
          · exact ⟨p, hp, .refl p⟩
        · unfold Disk.file at ha ⊢
          change ((c₁.disk.files.get? a).getD {}).closed = true
          rw [hfiles]
          exact ha
      accounted := by
        intro h a q hq
        rw [hget] at hq
        split at hq
        · next ha =>
          obtain ⟨p, hp, rfl⟩ := Option.map_eq_some_iff.1 hq
          have hacc := h a p hp
          refine ⟨hacc.rows, hacc.events, hacc.frozen, fun hnone => ?_⟩
          have hclaim := (hgs a ha).2
          unfold claimOf at hclaim
          rw [hp] at hclaim
          have hnone : p.claimed = none := hnone
          simp [hnone] at hclaim
        · exact h a q hq
      busy := by
        intro h w hw
        rw [hget]
        rcases hworks w hw with hw | ⟨hmem, hbatch⟩
        · rw [if_neg fun hmem => hfree _ hmem w hw rfl]
          exact h w hw
        · have hclaim := (hgs _ hmem).2
          unfold claimOf at hclaim
          cases hp : c.parts.part? w.generationId with
          | none => simp [hp] at hclaim
          | some p =>
            refine ⟨bindBatch c.disk.nextBatch p, by rw [if_pos hmem]; rfl, ?_, ?_⟩
            · rw [hp] at hclaim
              exact hclaim
            · intro batch hb
              exact hbatch.trans (Option.some.inj hb)
      barrier := hbarrier
      queue := hqueue
      claims := by
        intro a ha
        unfold claimOf
        rw [hget, if_neg fun hmem => ha (hgs a hmem).1]
      works := by
        intro w hw
        rcases hworks w hw with hw | ⟨hmem, -⟩
        · exact .inl hw
        · exact .inr (hgs _ hmem).1 }

/-! ## Messages that the controller does not handle -/

/-- The owner of a part settles its claim. -/
theorem quiet_settleOwn {m : Message} (slo : Nat) (hm : IsFileMessage g m)
    (hreported : Reports reported c g m) (howner : c.owner g = none)
    (hworks : ∀ w ∈ c.disk.works, w.generationId ≠ g) :
    Quiet reported c (c.settleOwn slo m) := by
  cases m with
  | completed result =>
    obtain rfl : result.generationId = g := hm
    have hcompletion : Quiet reported c
        (onPart result.generationId (Part.applyCompletion slo result) c).2 := by
      refine quiet_settle (fun _ => Part.later_completion slo result) (fun p hp hacc => ?_)
        howner hworks
      refine hacc.completion slo result (fun _ h => h) fun r hr => hreported r ?_
      unfold claimRows claimOf
      rw [hp]
      exact hr
    unfold settleOwn
    dsimp only
    split
    · next c₁ h =>
      rw [onPart, h] at hcompletion
      exact hcompletion
    · next e c₁ h =>
      rw [onPart, h] at hcompletion
      refine hcompletion.trans (quiet_settle (fun _ => Part.later_failure e)
        (fun _ _ hp => hp.failure e) ((hcompletion.owner _).trans howner) ?_)
      have hdisk : c₁.disk = c.disk := congrArg (fun r => r.2.disk) h.symm
      rw [hdisk]
      exact hworks
  | failed a e =>
    obtain rfl : a = g := hm
    exact quiet_settle (fun _ => Part.later_failure e) (fun _ _ hp => hp.failure e) howner hworks
  | prerequisiteSettled => exact hm.elim
  | batchSettled => exact hm.elim
  | publicationSettled => exact hm.elim

end Core

end CryptoCollector.Storage
