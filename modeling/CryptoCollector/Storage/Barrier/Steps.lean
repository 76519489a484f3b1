import CryptoCollector.Storage.Barrier.Quiet

/-!
# Steps of a session

Every event leads from a lawful session to a lawful session.
-/

namespace CryptoCollector.Storage

open Lib

namespace Session

variable {s s' : Session} {id k : Nat} {cmd cmd' : BarrierCommand}
  {deps : List ControlDependency}

/-! ## Facts of a lawful session -/

theorem Lawful.lt_next (h : s.Lawful) (hcmd : s.core.command id = some cmd) :
    id < s.core.barrier.nextCommand := by
  obtain ⟨deps, hgroup, -⟩ := (h.accounts id).command cmd hcmd
  exact ((h.accounts id).known (by rw [hgroup]; rfl)).1

/-- The id of the next command is not in use. -/
theorem Lawful.fresh (h : s.Lawful) : s.groups.get? s.core.barrier.nextCommand = none ∧
    s.core.command s.core.barrier.nextCommand = none ∧
    s.publishedBy s.core.barrier.nextCommand = [] ∧
    ∀ g, s.core.owner g ≠ some s.core.barrier.nextCommand := by
  have haccount := h.accounts s.core.barrier.nextCommand
  have hgroup : s.groups.get? s.core.barrier.nextCommand = none := by
    by_contra hsome
    exact absurd (haccount.known (Option.isSome_iff_ne_none.2 hsome)).1 (lt_irrefl _)
  have hcommand : s.core.command s.core.barrier.nextCommand = none := by
    cases hcmd : s.core.command s.core.barrier.nextCommand with
    | none => rfl
    | some cmd => exact absurd (h.lt_next hcmd) (lt_irrefl _)
  refine ⟨hgroup, hcommand, ?_, fun g hg => ?_⟩
  · refine List.eq_nil_iff_forall_not_mem.2 ?_
    rintro ⟨g, m⟩ hmem
    obtain ⟨parts, deps, hsome, -⟩ := haccount.complete g m hmem
    simp [hgroup] at hsome
  · have hlive := h.owned g _ hg
    simp [hcommand] at hlive

/-- The command of an ending publication. -/
theorem Lawful.ending (h : s.Lawful) (hcmd : s.core.command id = some cmd)
    (hpublication : cmd.publication ≠ none) : ∃ deps,
    s.groups.get? id = some (cmd.parts, deps) ∧ Core.Shaped cmd deps ∧
      Core.Ending s.reported deps s.core id cmd ∧
      Published cmd.parts (s.publishedBy id) cmd.publication := by
  obtain ⟨deps, hgroup, hshape, hsound, hpublished⟩ := (h.accounts id).command cmd hcmd
  rcases hsound with ⟨hwait, -⟩ | ⟨hsync, -⟩ | hend
  · exact absurd hwait.unpublished hpublication
  · exact absurd hsync.unpublished hpublication
  · exact ⟨deps, hgroup, hshape, hend, hpublished⟩

/-! ## Quiet events -/

theorem Lawful.quiet (h : s.Lawful) (hq : Core.Quiet s'.reported s.core s'.core)
    (hreported : ∀ x ∈ s.reported, x ∈ s'.reported) (hgroups : s'.groups = s.groups)
    (hpublished : s'.published = s.published) (hawaits : s'.core.Awaits s'.awaited) :
    s'.Lawful where
  accounted := hq.accounted fun g p hp => (h.accounted g p hp).mono hreported
  busy := hq.busy h.busy
  accounts := fun k => (h.accounts k).untouched {
    later := hq.later
    reported := hreported
    spares := hq.spares k
    work := hq.work k
    groups := by rw [hgroups]
    result := by unfold result; rw [hq.barrier]
    next := by rw [hq.barrier]
    published := by unfold publishedBy; rw [hpublished]
    queue := fun outcome => by rw [hq.queue] }
  owned := by
    intro g id hg
    rw [hq.owner] at hg
    rw [hq.command]
    exact h.owned g id hg
  queue := by
    rw [hq.queue]
    exact h.queue
  awaits := hawaits

/-- An event of the surroundings that runs no callback. -/
theorem Lawful.around (h : s.Lawful) {core : Core} (hq : Core.Quiet s.reported s.core core) :
    ({ s with core } : Session).Lawful :=
  h.quiet hq (fun _ hx => hx) rfl rfl
    (h.awaits.congr (fun _ => Core.mem_callbacks_congr (hq.command _))
      (fun k hk => (hq.command k).trans hk) (by rw [hq.barrier]))

/-! ## Messages that move a command -/

/-- Something was handled for a command. -/
theorem Lawful.handled {c : Core} (h : s.Lawful) (hq : Core.Quiet s'.reported s.core c)
    (hcmd : s.core.command id = some cmd) (hgroup : s.groups.get? id = some (cmd.parts, deps))
    (hshape : Core.Shaped cmd deps)
    (hpublished : Published cmd.parts (s.publishedBy id) cmd.publication)
    (hhandled : Core.Handled s'.reported deps id cmd' c s'.core) (hparts : cmd'.parts = cmd.parts)
    (hwork : cmd'.workParts = cmd.workParts) (hpublication : cmd'.publication = cmd.publication)
    (hreported : ∀ x ∈ s.reported, x ∈ s'.reported) (hgroups : s'.groups = s.groups)
    (hpublishedBy : s'.published = s.published) (hawaits : s'.core.Awaits s'.awaited) :
    s'.Lawful := by
  obtain ⟨hserves, cmd'', hcmd'', hnext, hsound⟩ := hhandled
  have hlater := hq.later.trans hserves.later
  have hby : ∀ k, s'.publishedBy k = s.publishedBy k := by
    intro k
    unfold publishedBy
    rw [hpublishedBy]
  have hresult : ∀ k, s'.result k = s.result k := by
    intro k
    unfold result
    rw [hserves.results, hq.barrier]
  have hqueue : s'.core.disk.queue = s.core.disk.queue := hserves.queue.trans hq.queue
  have hnextCommand : s'.core.barrier.nextCommand = s.core.barrier.nextCommand := by
    rw [hserves.next, hq.barrier]
  have hothers : ∀ k, k ≠ id → s'.Account k := by
    intro k hk
    refine (h.accounts k).untouched {
      later := hlater
      reported := hreported
      spares := (hq.spares k).trans (hserves.spares k hk)
      work := fun w hw => ?_
      groups := by rw [hgroups]
      result := hresult k
      next := hnextCommand.ge
      published := hby k
      queue := fun outcome => by rw [hqueue] }
    rcases hserves.works w hw with hw | hw
    · exact hq.work k w hw
    · rw [hq.owner] at hw
      exact .inr (by simpa [hw] using fun h => hk h.symm)
  have hmoved : cmd''.publication = cmd.publication ∨
      cmd.publication = none ∧ Core.Opens cmd.parts cmd''.publication := by
    rw [← hpublication, ← hparts]
    exact hnext.publication
  have hsame : ∀ p, cmd.publication = some p → cmd''.publication = some p := by
    intro p hp
    rcases hmoved with hsame | ⟨hnone, -⟩
    · exact hsame.trans hp
    · simp [hp] at hnone
  have hparts'' : cmd''.parts = cmd.parts := hnext.parts.trans hparts
  have hshape' : Core.Shaped cmd'' deps := by
    refine ⟨by rw [hparts'']; exact hshape.parts, ?_, ?_⟩
    · rw [hparts'', hnext.work, hwork]
      exact hshape.work
    · rw [hnext.work, hwork]
      exact hshape.control
  have hself : s'.Account id := {
    command := by
      intro cmd₁ hcmd₁
      obtain rfl := Option.some.inj (hcmd''.symm.trans hcmd₁)
      refine ⟨deps, by rw [hgroups, hparts'']; exact hgroup, hshape', hsound, ?_⟩
      rw [hby, hparts'']
      rcases hmoved with hsame | ⟨hnone, hopens⟩
      · rw [hsame]
        exact hpublished
      · rw [hnone] at hpublished
        rw [show s.publishedBy id = [] from hpublished]
        exact published_opens hopens
    known := by
      rw [hgroups, hnextCommand]
      exact fun hsome => ⟨((h.accounts id).known hsome).1, .inl (by rw [hcmd'']; rfl)⟩
    settled := by
      intro outcome houtcome
      rw [hresult] at houtcome
      have hnone := ((h.accounts id).settled outcome houtcome).1
      simp [hcmd] at hnone
    complete := by
      intro g m hmem
      rw [hby] at hmem
      obtain ⟨parts, deps', hgroup', hg, hcomplete⟩ := (h.accounts id).complete g m hmem
      exact ⟨parts, deps', by rw [hgroups]; exact hgroup', hg,
        complete_later hlater hreported hcomplete⟩
    posted := by
      intro outcome hmem
      rw [hqueue] at hmem
      obtain ⟨cmd₁, hcmd₁, hsettled, hpublished₁⟩ := (h.accounts id).posted outcome hmem
      obtain rfl := Option.some.inj (hcmd.symm.trans hcmd₁)
      exact ⟨cmd'', hcmd'', hsame _ hsettled, by rw [hby, hparts'']; exact hpublished₁⟩
    once := by
      rw [hqueue]
      exact (h.accounts id).once
    answered := by
      intro cmd₁ hcmd₁ hsettled
      obtain rfl := Option.some.inj (hcmd''.symm.trans hcmd₁)
      rw [hqueue]
      rcases hmoved with hsame | ⟨-, hopens⟩
      · exact (h.accounts id).answered cmd hcmd (hsame.symm.trans hsettled)
      · rw [hsettled] at hopens
        exact hopens.elim }
  exact {
    accounted := hserves.accounted
      (hq.accounted fun g p hp => (h.accounted g p hp).mono hreported)
    busy := hserves.busy (hq.busy h.busy)
    accounts := by
      intro k
      by_cases hk : k = id
      · exact hk ▸ hself
      · exact hothers k hk
    owned := by
      intro g k hg
      rw [hserves.live]
      have hg := hserves.owner g k hg
      rw [hq.owner] at hg
      rw [hq.command]
      exact h.owned g k hg
    queue := by
      rw [hqueue]
      exact h.queue
    awaits := hawaits }

/-! ## Publications -/

/-- The publication of a command moves on. -/
theorem Lawful.published (h : s.Lawful) (p : Publication) (posted : List Message)
    (hcmd : s.core.command id = some cmd) (hgroup : s.groups.get? id = some (cmd.parts, deps))
    (hshape : Core.Shaped cmd deps) (hend : Core.Ending s.reported deps s.core id cmd)
    (hopen : cmd.publication ≠ some .settled) (hparts : s'.core.parts = s.core.parts)
    (hbarrier : s'.core.barrier = (s.core.updateCommand id fun cmd =>
      { cmd with publication := some p }).barrier)
    (hworks : s'.core.disk.works = s.core.disk.works)
    (hclosed : ∀ g, (s.core.disk.file g).closed = true → (s'.core.disk.file g).closed = true)
    (hqueue : s'.core.disk.queue = s.core.disk.queue ++ posted)
    (hreported : s'.reported = s.reported) (hgroups : s'.groups = s.groups)
    (hawaited : s'.awaited = s.awaited)
    (hothers : ∀ k, k ≠ id → s'.publishedBy k = s.publishedBy k)
    (hposted : posted = [] ∧ p ≠ .settled ∨ ∃ outcome, posted = [.publicationSettled id outcome] ∧
      p = .settled ∧ Published cmd.parts (s'.publishedBy id) (some (.finished outcome)))
    (hpublishes : Core.Publishes s.reported deps s'.core cmd (some p))
    (hpublished : Published cmd.parts (s'.publishedBy id) (some p))
    (hcomplete : ∀ g m, (g, m) ∈ s'.publishedBy id → (g, m) ∈ s.publishedBy id ∨ g ∈ cmd.parts ∧
      Core.Complete s.reported s.core cmd.parts deps ∧
        ∃ p, s.core.parts.part? g = some p ∧ p.accumulator.frozen = true ∧ m.Describes p) :
    s'.Lawful := by
  have hcommand : ∀ k, s'.core.command k = if k = id then
      (s.core.command k).map fun cmd => { cmd with publication := some p } else
        s.core.command k := by
    intro k
    unfold Core.command
    rw [hbarrier]
    exact Core.command_updateCommand s.core id _ k
  have howner : ∀ g, s'.core.owner g = s.core.owner g := by
    intro g
    unfold Core.owner
    rw [hbarrier]
    rfl
  have hpart : ∀ g, s'.core.parts.part? g = s.core.parts.part? g := fun g => by rw [hparts]
  have hclaim : ∀ g, s'.core.claimOf g = s.core.claimOf g := by
    intro g
    unfold Core.claimOf
    rw [hpart]
  have hresult : ∀ k, s'.result k = s.result k := by
    intro k
    unfold result
    rw [hbarrier]
    rfl
  have hnext : s'.core.barrier.nextCommand = s.core.barrier.nextCommand := by
    rw [hbarrier]
    rfl
  have hlater : s.core.Later s'.core :=
    ⟨fun g q hq => ⟨q, (hpart g).trans hq, .refl q⟩, hclosed⟩
  have hsub : ∀ x ∈ s.reported, x ∈ s'.reported := by rw [hreported]; exact fun _ hx => hx
  have hself : s'.core.command id = some { cmd with publication := some p } := by
    rw [hcommand, if_pos rfl, hcmd]
    rfl
  have hnone : ∀ outcome, .publicationSettled id outcome ∉ s.core.disk.queue := by
    intro outcome hmem
    obtain ⟨cmd₁, hcmd₁, hsettled, -⟩ := (h.accounts id).posted outcome hmem
    obtain rfl := Option.some.inj (hcmd.symm.trans hcmd₁)
    exact hopen hsettled
  have hmine : ∀ outcome, .publicationSettled id outcome ∈ s'.core.disk.queue →
      posted = [.publicationSettled id outcome] ∧ p = .settled ∧
        Published cmd.parts (s'.publishedBy id) (some (.finished outcome)) := by
    intro outcome hmem
    rw [hqueue, List.mem_append] at hmem
    rcases hmem with hmem | hmem
    · exact absurd hmem (hnone outcome)
    · rcases hposted with ⟨rfl, -⟩ | ⟨o, rfl, hp, hpublished⟩
      · simp at hmem
      · obtain rfl : outcome = o := by simpa using hmem
        exact ⟨rfl, hp, hpublished⟩
  have hcallbacks : ∀ cb, cb ∈ s'.core.callbacks ↔ cb ∈ s.core.callbacks := by
    intro cb
    by_cases hid : cb.command = id
    · rw [Core.mem_callbacks, Core.mem_callbacks, hid, hself, hcmd]
      simp only [Option.some.injEq, exists_eq_left']
      rfl
    · exact Core.mem_callbacks_congr (by rw [hcommand, if_neg hid])
  exact {
    accounted := by
      intro g q hq
      rw [hpart] at hq
      rw [hreported]
      exact h.accounted g q hq
    busy := by
      intro w hw
      rw [hworks] at hw
      rw [hpart]
      exact h.busy w hw
    accounts := by
      intro k
      by_cases hk : k = id
      · subst hk
        exact {
          command := by
            intro cmd₁ hcmd₁
            obtain rfl := Option.some.inj (hself.symm.trans hcmd₁)
            refine ⟨deps, by rw [hgroups]; exact hgroup, ⟨hshape.parts, hshape.work,
              hshape.control⟩, .inr (.inr ⟨hend.task, hend.prerequisites, fun g => ?_, ?_⟩),
              hpublished⟩
            · rw [howner]
              exact hend.owned g
            · rw [hreported]
              exact hpublishes
          known := by
            rw [hgroups, hnext]
            exact fun hsome => ⟨((h.accounts k).known hsome).1, .inl (by rw [hself]; rfl)⟩
          settled := by
            intro outcome houtcome
            rw [hresult] at houtcome
            have hdead := ((h.accounts k).settled outcome houtcome).1
            simp [hcmd] at hdead
          complete := by
            intro g m hmem
            rcases hcomplete g m hmem with hold | ⟨hg, hnew⟩
            · obtain ⟨parts, deps', hgroup', hg, hold⟩ := (h.accounts k).complete g m hold
              exact ⟨parts, deps', by rw [hgroups]; exact hgroup', hg,
                complete_later hlater hsub hold⟩
            · exact ⟨cmd.parts, deps, by rw [hgroups]; exact hgroup, hg,
                complete_later hlater hsub hnew⟩
          posted := by
            intro outcome hmem
            obtain ⟨-, hp, hfinal⟩ := hmine outcome hmem
            exact ⟨_, hself, congrArg some hp, hfinal⟩
          once := by
            intro o o' ho ho'
            have heq := (hmine o ho).1.symm.trans (hmine o' ho').1
            simpa using heq
          answered := by
            intro cmd₁ hcmd₁ hsettled
            obtain rfl := Option.some.inj (hself.symm.trans hcmd₁)
            have hsettled : p = .settled := Option.some.inj hsettled
            rcases hposted with ⟨-, hne⟩ | ⟨outcome, rfl, -⟩
            · exact absurd hsettled hne
            · exact ⟨outcome, by rw [hqueue]; simp⟩ }
      · refine (h.accounts k).untouched {
          later := hlater
          reported := hsub
          spares := ⟨by rw [hcommand, if_neg hk], fun g => by rw [howner], fun g _ => hclaim g⟩
          work := fun w hw => .inl (hworks ▸ hw)
          groups := by rw [hgroups]
          result := hresult k
          next := hnext.ge
          published := hothers k hk
          queue := fun outcome => ?_ }
        rw [hqueue, List.mem_append]
        refine or_iff_left fun hmem => ?_
        rcases hposted with ⟨rfl, -⟩ | ⟨o, rfl, -⟩
        · simp at hmem
        · simp [hk] at hmem
    owned := by
      intro g k hg
      rw [howner] at hg
      rw [hcommand]
      have hlive := h.owned g k hg
      split
      · simpa using hlive
      · exact hlive
    queue := by
      intro m hm
      rw [hqueue, List.mem_append] at hm
      rcases hm with hm | hm
      · exact h.queue m hm
      · rcases hposted with ⟨rfl, -⟩ | ⟨o, rfl, -⟩
        · simp at hm
        · exact ⟨id, o, by simpa using hm⟩
    awaits := by
      rw [hawaited]
      refine h.awaits.congr hcallbacks (fun k hk => ?_) hnext
      rw [hcommand, hk]
      split <;> rfl }

theorem file_updateFile (d : Disk) (g : GenerationId) (f : File → File) (a : GenerationId) :
    (d.updateFile g f).file a = if a = g then f (d.file g) else d.file a := by
  unfold Disk.updateFile Disk.file
  dsimp only
  rw [Dict.get?_set]
  split <;> rfl

theorem publishedBy_append {new : List (Nat × GenerationId × Manifest)}
    (h : s'.published = s.published ++ new) (k : Nat) :
    s'.publishedBy k = s.publishedBy k ++ (new.filter (·.1 = k)).map (·.2) := by
  simp [publishedBy, h]

theorem publishPart_next {done : List Manifest} {g : GenerationId} {rest : List GenerationId}
    {p : Part} (hcmd : s.core.command id = some cmd)
    (hpublication : cmd.publication = some (.publishing done (g :: rest)))
    (hp : s.core.parts.part? g = some p) :
    s.core.publishPart id = { s.core with
        disk := s.core.disk.updateFile g fun f =>
          { f with closed := true, published := some p.buildManifest } }.updateCommand id
            (fun cmd => { cmd with
              publication := some (.publishing (done ++ [p.buildManifest]) rest) }) ∧
      s.publishing id = [(id, g, p.buildManifest)] := by
  have hget : (s.core.barrier.commands.get? id).bind (·.publication) =
      some (.publishing done (g :: rest)) := by
    rw [show s.core.barrier.commands.get? id = some cmd from hcmd]
    exact hpublication
  unfold Core.publishPart publishing
  simp only [hget, hp]
  exact ⟨trivial, rfl⟩

theorem publishPart_idle (id : Nat) (h : ∀ cmd, s.core.command id = some cmd → ∀ done g rest,
    cmd.publication ≠ some (.publishing done (g :: rest))) :
    s.core.publishPart id = s.core ∧ s.publishing id = [] := by
  have hget : ∀ done g rest, (s.core.barrier.commands.get? id).bind (·.publication) ≠
      some (.publishing done (g :: rest)) := by
    intro done g rest hnext
    obtain ⟨cmd, hcmd, hpublication⟩ := Option.bind_eq_some_iff.1 hnext
    exact h cmd hcmd done g rest hpublication
  constructor
  · unfold Core.publishPart
    split
    · next done g rest hnext => exact absurd hnext (hget done g rest)
    · rfl
  · unfold publishing
    split
    · next done g rest hnext => exact absurd hnext (hget done g rest)
    · rfl

/-- `_publish_one` of the next part of a command. -/
theorem Lawful.publishPart (h : s.Lawful) (id : Nat) :
    ({ s with
      core := s.core.publishPart id
      published := s.published ++ s.publishing id } : Session).Lawful := by
  by_cases hnext : ∃ cmd done g rest, s.core.command id = some cmd ∧
      cmd.publication = some (.publishing done (g :: rest))
  · obtain ⟨cmd, done, g, rest, hcmd, hpublication⟩ := hnext
    obtain ⟨deps, hgroup, hshape, hend, hpublished⟩ :=
      h.ending hcmd (by rw [hpublication]; simp)
    have hpublishes := hend.publication
    rw [hpublication] at hpublishes hpublished
    obtain ⟨hcomplete, hfiles⟩ := hpublishes
    obtain ⟨hinitial, rfl⟩ := hpublished
    have hg : g ∈ cmd.parts := by
      rw [← hinitial]
      simp
    obtain ⟨p, hp, hfrozen⟩ := hcomplete.frozen g hg
    obtain ⟨hcore, hnew⟩ := publishPart_next hcmd hpublication hp
    rw [hcore, hnew]
    have hfile : ∀ a, (s.core.disk.updateFile g fun f =>
        { f with closed := true, published := some p.buildManifest }).file a =
          if a = g then { s.core.disk.file g with
            closed := true, published := some p.buildManifest } else s.core.disk.file a :=
      fun a => file_updateFile _ _ _ _
    have hclosed : ∀ a, (s.core.disk.file a).closed = true → ((s.core.disk.updateFile g fun f =>
        { f with closed := true, published := some p.buildManifest }).file a).closed = true := by
      intro a ha
      rw [hfile]
      split
      · rfl
      · exact ha
    generalize hs' : ({ s with
      core := { s.core with
        disk := s.core.disk.updateFile g fun f =>
          { f with closed := true, published := some p.buildManifest } }.updateCommand id fun cmd =>
            { cmd with publication := some (.publishing
              ((s.publishedBy id).map Prod.snd ++ [p.buildManifest]) rest) }
      published := s.published ++ [(id, g, p.buildManifest)] } : Session) = s'
    have hby : ∀ k, s'.publishedBy k = s.publishedBy k ++
        ([(id, g, p.buildManifest)].filter (·.1 = k)).map (·.2) :=
      publishedBy_append (by rw [← hs'])
    have hmine : s'.publishedBy id = s.publishedBy id ++ [(g, p.buildManifest)] := by
      rw [hby]
      simp
    subst hs'
    refine h.published (.publishing ((s.publishedBy id).map (·.2) ++ [p.buildManifest]) rest) []
      hcmd hgroup hshape hend (by rw [hpublication]; simp) rfl rfl rfl hclosed
      (by rw [List.append_nil]; rfl) rfl rfl rfl (fun k hk => ?_) (.inl ⟨rfl, by simp⟩)
      ⟨hcomplete.later (fun _ hx => hx) ⟨fun _ p hp => ⟨p, hp, .refl p⟩, hclosed⟩,
        fun a ha => ?_⟩ ?_ (fun a m ha => ?_)
    · rw [hby]
      simp [hk.symm]
    · change a ∈ rest ∨ ((s.core.disk.updateFile g _).file a).closed = true
      rw [hfile]
      by_cases hag : a = g
      · exact .inr (by rw [if_pos hag])
      · rw [if_neg hag]
        exact (hfiles a ha).imp_left fun hmem => by simpa [hag] using hmem
    · rw [hmine]
      refine ⟨?_, by simp⟩
      rw [← hinitial]
      simp
    · rw [hmine, List.mem_append] at ha
      refine ha.imp_right fun ha => ?_
      obtain ⟨rfl, rfl⟩ : a = g ∧ m = p.buildManifest := by simpa using ha
      exact ⟨hg, hcomplete, p, hp, hfrozen, rfl, rfl⟩
  · obtain ⟨hcore, hnew⟩ := publishPart_idle (s := s) id fun cmd hcmd done g rest hp =>
      hnext ⟨cmd, done, g, rest, hcmd, hp⟩
    rw [hcore, hnew, List.append_nil]
    exact h

theorem file_closeFiles (gs : List GenerationId) (d : Disk) (a : GenerationId) :
    ((gs.foldl (fun d g => d.updateFile g fun f => { f with closed := true }) d).file a).closed =
      (decide (a ∈ gs) || (d.file a).closed) := by
  induction gs generalizing d with
  | nil => simp
  | cons g gs ih =>
    rw [List.foldl_cons, ih, file_updateFile]
    by_cases ha : a = g <;> by_cases hmem : a ∈ gs <;> simp [ha, hmem]

theorem works_closeFiles (gs : List GenerationId) (d : Disk) :
    (gs.foldl (fun d g => d.updateFile g fun f => { f with closed := true }) d).works = d.works ∧
      (gs.foldl (fun d g => d.updateFile g fun f => { f with closed := true }) d).queue =
        d.queue := by
  induction gs generalizing d with
  | nil => exact ⟨rfl, rfl⟩
  | cons g gs ih => exact ih _

/-- The publication task of a command ends with an outcome, once it has closed `gs`. -/
theorem Lawful.finished (h : s.Lawful) (outcome : Except Err (List Manifest))
    (gs : List GenerationId) (hcmd : s.core.command id = some cmd)
    (hgroup : s.groups.get? id = some (cmd.parts, deps)) (hshape : Core.Shaped cmd deps)
    (hend : Core.Ending s.reported deps s.core id cmd) (hopen : cmd.publication ≠ some .settled)
    (hclosed : ∀ g ∈ cmd.parts, g ∈ gs ∨ (s.core.disk.file g).closed = true)
    (hpublished : Published cmd.parts (s.publishedBy id) (some (.finished outcome))) :
    ({ s with core := (s.core.closeFiles gs).updateCommand id fun cmd =>
        { cmd with publication := some (.finished outcome) } } : Session).Lawful := by
  refine h.published (.finished outcome) [] hcmd hgroup hshape hend hopen rfl rfl
    (works_closeFiles gs s.core.disk).1 (fun g hg => ?_)
    ((works_closeFiles gs s.core.disk).2.trans (List.append_nil _).symm) rfl rfl rfl
    (fun _ _ => rfl) (.inl ⟨rfl, by simp⟩) (fun g hg => ?_) hpublished (fun _ _ => .inl)
  · refine (file_closeFiles gs s.core.disk g).trans ?_
    simp [hg]
  · refine (file_closeFiles gs s.core.disk g).trans ?_
    rcases hclosed g hg with hmem | hg <;> simp [*]

/-- The publication task of a command ends, or has more to do. -/
theorem Lawful.endPublication (h : s.Lawful) (id : Nat) (failed : Bool) :
    ({ s with core := s.core.endPublication id failed } : Session).Lawful := by
  unfold Core.endPublication
  split
  · exact h
  · next cmd hget =>
    have hcmd : s.core.command id = some cmd := hget
    split
    · next done hpublication =>
      obtain ⟨deps, hgroup, hshape, hend, hpublished⟩ :=
        h.ending hcmd (by rw [hpublication]; simp)
      have hpublishes := hend.publication
      rw [hpublication] at hpublishes hpublished
      obtain ⟨hparts, hdone⟩ := hpublished
      rw [List.append_nil] at hparts
      exact h.finished (.ok done) [] hcmd hgroup hshape hend
        (by rw [hpublication]; simp) hpublishes.2 ⟨hparts, hdone⟩
    · next done g rest hpublication =>
      obtain ⟨deps, hgroup, hshape, hend, hpublished⟩ :=
        h.ending hcmd (by rw [hpublication]; simp)
      have hpublishes := hend.publication
      rw [hpublication] at hpublishes hpublished
      split
      · exact h.finished (.error _) _ hcmd hgroup hshape hend
          (by rw [hpublication]; simp) hpublishes.2 ⟨_, hpublished.1⟩
      · exact h
    · next e hpublication =>
      obtain ⟨deps, hgroup, hshape, hend, hpublished⟩ :=
        h.ending hcmd (by rw [hpublication]; simp)
      rw [hpublication] at hpublished
      refine h.finished (.error e) _ hcmd hgroup hshape hend
        (by rw [hpublication]; simp) (fun _ hg => .inl hg) ?_
      rw [show s.publishedBy id = [] from hpublished]
      exact List.nil_prefix
    · exact h

/-- The done callback of the publication task posts its outcome. -/
theorem Lawful.settlePublication (h : s.Lawful) (id : Nat) :
    ({ s with core := s.core.settlePublication id } : Session).Lawful := by
  unfold Core.settlePublication
  split
  · next outcome hfinished =>
    obtain ⟨cmd, hcmd, hpublication⟩ := Option.bind_eq_some_iff.1 hfinished
    obtain ⟨deps, hgroup, hshape, hend, hpublished⟩ :=
      h.ending hcmd (by rw [hpublication]; simp)
    have hpublishes := hend.publication
    rw [hpublication] at hpublishes hpublished
    exact h.published .settled _ hcmd hgroup hshape hend (by rw [hpublication]; simp) rfl rfl
      rfl (fun _ hg => hg) rfl rfl rfl rfl (fun _ _ => rfl)
      (.inr ⟨outcome, rfl, rfl, hpublished⟩) hpublishes trivial (fun _ _ => .inl)
  · exact h

end Session

end CryptoCollector.Storage
