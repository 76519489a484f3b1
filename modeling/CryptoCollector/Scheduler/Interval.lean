import Mathlib.Algebra.Order.Field.Rat
import Mathlib.Algebra.Order.Floor.Ring
import Mathlib.Data.Rat.Floor
import Mathlib.Data.List.Induction
import Mathlib.Tactic.Linarith

/-!
# The effective interval of an endpoint

`scheduler/rest.py: IntervalController, IntervalProposal`. A controller hands out proposals, and
applies one of them when it is committed or activated. Callers may keep, repeat, reorder or build
proposals themselves; the publisher of an activation may raise, and may call the controller.

* `history`: the proposals that a run has applied, as recoveries and resets.
* `Row`: the row of recoveries that ends the history, as long as the count of healthy refreshes.
* `run_lawful`: the interval is lowered at the end of a full row only, and a proposal is applied
  once, before anything else changes.
-/

namespace CryptoCollector.Scheduler

/-- The exceptions of the controller. -/
inductive IntervalError where
  | valueError (message : String)
  | runtimeError (message : String)
  | publisher
  deriving DecidableEq

/-- `IntervalProposal`, with the checks of `__post_init__`. -/
@[ext]
structure IntervalProposal where
  controllerRevision : Nat
  previousEffectiveNs : Nat
  effectiveNs : Nat
  healthyRefreshes : Nat
  refreshId : Option Nat
  recoveryTargetNs : Option Nat
  previous_pos : 0 < previousEffectiveNs
  effective_pos : 0 < effectiveNs
  target_pos : ∀ target ∈ recoveryTargetNs, 0 < target

instance : DecidableEq IntervalProposal := fun _ _ => decidable_of_iff' _ IntervalProposal.ext_iff

/-- `IntervalChange`, the fields that the controller reads. -/
structure IntervalChange where
  previousEffectiveNs : Nat
  effectiveNs : Nat
  deriving DecidableEq

/-- `IntervalController`. -/
@[ext]
structure IntervalController where
  currentNs : Nat
  recoveryStep : ℚ
  healthyRefreshesRequired : Nat
  healthyRefreshes : Nat := 0
  lastRefreshId : Option Nat := none
  revision : Nat := 0
  activationInProgress : Bool := false
  current_pos : 0 < currentNs
  step_pos : 0 < recoveryStep
  step_le : recoveryStep ≤ 1
  required_pos : 0 < healthyRefreshesRequired

instance : DecidableEq IntervalController :=
  fun _ _ => decidable_of_iff' _ IntervalController.ext_iff

/-- `_ceil_ratio`. -/
def ceilRatio (numerator denominator : Nat) : Nat :=
  (numerator + denominator - 1) / denominator

namespace IntervalController

theorem toNat_pos_of_not_le {x : Int} (h : ¬ x ≤ 0) : 0 < x.toNat := by omega

theorem pos_of_not_outside {step : ℚ} (h : ¬ (step ≤ 0 ∨ 1 < step)) : 0 < step :=
  not_le.mp (not_or.mp h).1

theorem le_one_of_not_outside {step : ℚ} (h : ¬ (step ≤ 0 ∨ 1 < step)) : step ≤ 1 :=
  not_lt.mp (not_or.mp h).2

/-- `IntervalController.__init__`; `recoveryStep` is none when it is not finite. -/
def new (currentNs : Int) (recoveryStep : Option ℚ) (healthyRefreshesRequired : Int) :
    Except IntervalError IntervalController :=
  if hcurrent : currentNs ≤ 0 then .error (.valueError "current_ns must be a positive integer")
  else
    match recoveryStep with
    | none => .error (.valueError "recovery_step must be in the interval (0, 1]")
    | some step =>
      if hstep : step ≤ 0 ∨ 1 < step then
        .error (.valueError "recovery_step must be in the interval (0, 1]")
      else if hrequired : healthyRefreshesRequired ≤ 0 then
        .error (.valueError "healthy_refreshes_required must be a positive integer")
      else
        .ok {
          currentNs := currentNs.toNat
          recoveryStep := step
          healthyRefreshesRequired := healthyRefreshesRequired.toNat
          current_pos := toNat_pos_of_not_le hcurrent
          step_pos := pos_of_not_outside hstep
          step_le := le_one_of_not_outside hstep
          required_pos := toNat_pos_of_not_le hrequired }

/-- `_recovery_transition`. -/
def recoveryTransition (c : IntervalController) (targetNs : Nat) : Nat × Nat :=
  if c.currentNs ≤ targetNs then (c.currentNs, 0)
  else
    let healthyRefreshes := min (c.healthyRefreshes + 1) c.healthyRefreshesRequired
    if healthyRefreshes < c.healthyRefreshesRequired then (c.currentNs, healthyRefreshes)
    else
      let keepNumerator := c.recoveryStep.den - c.recoveryStep.num.toNat
      let roundedStep := ceilRatio (c.currentNs * keepNumerator) c.recoveryStep.den
      (max targetNs (min (c.currentNs - 1) roundedStep), healthyRefreshes)

theorem recoveryTransition_pos (c : IntervalController) (targetNs : Nat) (h : 0 < targetNs) :
    0 < (c.recoveryTransition targetNs).1 := by
  unfold recoveryTransition
  split
  · exact c.current_pos
  · dsimp only
    split
    · exact c.current_pos
    · exact h.trans_le (le_max_left _ _)

/-- `propose_interval`. -/
def proposeInterval (effectiveNs : Int) (c : IntervalController) :
    Except IntervalError IntervalProposal :=
  if h : effectiveNs ≤ 0 then .error (.valueError "effective_ns must be a positive integer")
  else if effectiveNs < c.currentNs then
    .error (.valueError "interval recovery must use propose_toward")
  else
    .ok {
      controllerRevision := c.revision
      previousEffectiveNs := c.currentNs
      effectiveNs := effectiveNs.toNat
      healthyRefreshes := 0
      refreshId := none
      recoveryTargetNs := none
      previous_pos := c.current_pos
      effective_pos := by omega
      target_pos := by simp }

/-- Whether a refresh id is at most the last one that was applied. -/
def refreshIsStale (c : IntervalController) (refreshId : Nat) : Bool :=
  c.lastRefreshId.any (refreshId ≤ ·)

/-- `propose_toward`. -/
def proposeToward (targetNs refreshId : Int) (c : IntervalController) :
    Except IntervalError IntervalProposal :=
  if h : targetNs ≤ 0 then .error (.valueError "target_ns must be a positive integer")
  else if refreshId < 0 then .error (.valueError "refresh_id must be a non-negative integer")
  else if c.refreshIsStale refreshId.toNat then
    .error (.valueError "refresh_id must increase after every committed refresh")
  else
    .ok {
      controllerRevision := c.revision
      previousEffectiveNs := c.currentNs
      effectiveNs := (c.recoveryTransition targetNs.toNat).1
      healthyRefreshes := (c.recoveryTransition targetNs.toNat).2
      refreshId := some refreshId.toNat
      recoveryTargetNs := some targetNs.toNat
      previous_pos := c.current_pos
      effective_pos := c.recoveryTransition_pos _ (by omega)
      target_pos := by
        intro target htarget
        cases htarget
        omega }

/-- `_validate_proposal`. -/
def validateProposal (p : IntervalProposal) (c : IntervalController) : Option IntervalError :=
  if p.controllerRevision ≠ c.revision ∨ p.previousEffectiveNs ≠ c.currentNs then
    some (.valueError "interval proposal is stale")
  else if c.healthyRefreshesRequired < p.healthyRefreshes then
    some (.valueError "interval proposal has an invalid healthy refresh count")
  else if p.refreshId.any c.refreshIsStale then
    some (.valueError "interval refresh proposal is stale")
  else
    match p.recoveryTargetNs with
    | none =>
      if p.refreshId ≠ none ∨ p.healthyRefreshes ≠ 0 ∨ p.effectiveNs < c.currentNs then
        some (.valueError "interval proposal is not a legal direct transition")
      else none
    | some target =>
      if p.refreshId = none then
        some (.valueError "interval proposal is missing its refresh identity")
      else if (p.effectiveNs, p.healthyRefreshes) ≠ c.recoveryTransition target then
        some (.valueError "interval proposal is not a legal recovery transition")
      else none

/-- `_apply_proposal`. -/
def applyProposal (p : IntervalProposal) (c : IntervalController) : IntervalController :=
  { c with
    currentNs := p.effectiveNs
    healthyRefreshes := p.healthyRefreshes
    lastRefreshId := if p.refreshId.isSome then p.refreshId else c.lastRefreshId
    revision := c.revision + 1
    current_pos := p.effective_pos }

/-- `_require_not_activating`. -/
def requireNotActivating (c : IntervalController) : Option IntervalError :=
  if c.activationInProgress then
    some (.runtimeError "interval activation is already in progress")
  else none

/-- The checks of `commit`. -/
def validateCommit (p : IntervalProposal) (c : IntervalController) : Option IntervalError :=
  match c.requireNotActivating with
  | some e => some e
  | none =>
    if p.effectiveNs ≠ p.previousEffectiveNs then
      some (.valueError "changed interval proposals require publication")
    else c.validateProposal p

/-- The checks of `activate`. -/
def validateActivation (p : IntervalProposal) (change : IntervalChange) (c : IntervalController) :
    Option IntervalError :=
  if change.previousEffectiveNs ≠ p.previousEffectiveNs ∨ change.effectiveNs ≠ p.effectiveNs then
    some (.valueError "interval change does not match its proposal")
  else if change.effectiveNs = change.previousEffectiveNs then
    some (.valueError "unchanged proposals do not require publication")
  else
    match c.requireNotActivating with
    | some e => some e
    | none => c.validateProposal p

/-- A call of the controller. The publisher of an activation makes some calls of its own, and
raises or not. -/
inductive Op where
  | proposeInterval (effectiveNs : Int)
  | proposeToward (targetNs refreshId : Int)
  | commit (p : IntervalProposal)
  | activate (p : IntervalProposal) (change : IntervalChange) (calls : List Op) (raises : Bool)
  | markUnhealthy

mutual

/-- What a call returns, or the exception that it raises, and the controller after it. -/
def Op.exec (c : IntervalController) :
    Op → Except IntervalError (Option IntervalProposal) × IntervalController
  | .proposeInterval effectiveNs => ((c.proposeInterval effectiveNs).map some, c)
  | .proposeToward targetNs refreshId => ((c.proposeToward targetNs refreshId).map some, c)
  | .commit p =>
    match c.validateCommit p with
    | some e => (.error e, c)
    | none => (.ok none, c.applyProposal p)
  | .activate p change calls raises =>
    match c.validateActivation p change with
    | some e => (.error e, c)
    | none =>
      let c' := Op.execAll { c with activationInProgress := true } calls
      if raises then (.error .publisher, { c' with activationInProgress := false })
      else (.ok none, { c'.applyProposal p with activationInProgress := false })
  | .markUnhealthy =>
    match c.requireNotActivating with
    | some e => (.error e, c)
    | none => (.ok none, { c with healthyRefreshes := 0, revision := c.revision + 1 })

/-- The controller after some calls, whatever they raise. -/
def Op.execAll (c : IntervalController) : List Op → IntervalController
  | [] => c
  | op :: ops => Op.execAll (Op.exec c op).2 ops

end

/-- The controller after a run. -/
abbrev run (c : IntervalController) (ops : List Op) : IntervalController := Op.execAll c ops

/-! ## What a call does -/

/-- The proposal that a call applies. -/
def Op.applied (c : IntervalController) : Op → Option IntervalProposal
  | .commit p => if (c.validateCommit p).isNone then some p else none
  | .activate p change _ raises =>
    if (c.validateActivation p change).isNone ∧ !raises then some p else none
  | _ => none

/-- What a call commits: a healthy refresh on the way to a lower target, or anything that starts
the count of healthy refreshes anew. -/
inductive Committed where
  | recovery (refreshId : Nat)
  | reset
  deriving DecidableEq

/-- A proposal as an entry of the history. -/
def committedAs (c : IntervalController) (p : IntervalProposal) : Committed :=
  match p.recoveryTargetNs, p.refreshId with
  | some target, some refreshId =>
    if target < c.currentNs then .recovery refreshId else .reset
  | _, _ => .reset

/-- What a call commits. -/
def Op.committed (c : IntervalController) (op : Op) : Option Committed :=
  match op with
  | .markUnhealthy => if c.activationInProgress then none else some .reset
  | op => (op.applied c).map c.committedAs

/-- What the calls of a run commit, in order. -/
def history (c : IntervalController) : List Op → List Committed
  | [] => []
  | op :: ops => (op.committed c).toList ++ (op.exec c).2.history ops

/-- The proposals that the calls of a run apply, in order. -/
def appliedIn (c : IntervalController) : List Op → List IntervalProposal
  | [] => []
  | op :: ops => (op.applied c).toList ++ (op.exec c).2.appliedIn ops

/-- While a proposal is published the controller does not change. -/
theorem exec_inProgress {c : IntervalController} (h : c.activationInProgress = true) (op : Op) :
    (op.exec c).2 = c := by
  have hrequire : ∃ e, c.requireNotActivating = some e := by
    unfold requireNotActivating
    rw [if_pos h]
    exact ⟨_, rfl⟩
  obtain ⟨e, he⟩ := hrequire
  cases op with
  | proposeInterval effectiveNs => rfl
  | proposeToward targetNs refreshId => rfl
  | commit p => simp [Op.exec, validateCommit, he]
  | activate p change calls raises =>
    simp only [Op.exec]
    cases hv : c.validateActivation p change with
    | some e => rfl
    | none =>
      unfold validateActivation at hv
      rw [he] at hv
      split_ifs at hv
  | markUnhealthy => simp [Op.exec, he]

theorem execAll_inProgress {c : IntervalController} (h : c.activationInProgress = true)
    (ops : List Op) : Op.execAll c ops = c := by
  induction ops with
  | nil => rfl
  | cons op ops ih =>
    simp only [Op.execAll]
    rw [exec_inProgress h]
    exact ih

/-- A proposal that passes every check of a call that is not re-entrant. -/
structure Applies (c : IntervalController) (op : Op) (p : IntervalProposal) : Prop where
  valid : c.validateProposal p = none
  by_call : op = .commit p ∧ p.effectiveNs = p.previousEffectiveNs ∨
    ∃ change calls, op = .activate p change calls false

/-- What a call can do. -/
theorem exec_cases {c : IntervalController} (h : c.activationInProgress = false) (op : Op) :
    (op.exec c).2 = c ∧ op.applied c = none ∧ op.committed c = none ∨
      op = .markUnhealthy ∧ (∀ e, (op.exec c).1 ≠ .error e) ∧
        (op.exec c).2 = { c with healthyRefreshes := 0, revision := c.revision + 1 } ∨
      ∃ p, Applies c op p ∧ op.applied c = some p ∧ (∀ e, (op.exec c).1 ≠ .error e) ∧
        op.committed c = some (c.committedAs p) ∧ (op.exec c).2 = c.applyProposal p := by
  have hrequire : c.requireNotActivating = none := by
    unfold requireNotActivating
    rw [h]
    rfl
  cases op with
  | proposeInterval effectiveNs => exact .inl ⟨rfl, rfl, rfl⟩
  | proposeToward targetNs refreshId => exact .inl ⟨rfl, rfl, rfl⟩
  | commit p =>
    cases hv : c.validateCommit p with
    | some e => exact .inl ⟨by simp [Op.exec, hv], by simp [Op.applied, hv],
        by simp [Op.committed, Op.applied, hv]⟩
    | none =>
      refine .inr (.inr ⟨p, ⟨?_, .inl ⟨rfl, ?_⟩⟩, by simp [Op.applied, hv],
        by simp [Op.exec, hv], by simp [Op.committed, Op.applied, hv], by simp [Op.exec, hv]⟩)
      all_goals
        unfold validateCommit at hv
        rw [hrequire] at hv
        dsimp only at hv
        split at hv
        · cases hv
        · next heq => first | exact hv | exact not_not.mp heq
  | activate p change calls raises =>
    cases hv : c.validateActivation p change with
    | some e => exact .inl ⟨by simp [Op.exec, hv], by simp [Op.applied, hv],
        by simp [Op.committed, Op.applied, hv]⟩
    | none =>
      have hcalls := execAll_inProgress (c := { c with activationInProgress := true }) rfl calls
      cases raises with
      | true =>
        refine .inl ⟨?_, by simp [Op.applied], by simp [Op.committed, Op.applied]⟩
        simp only [Op.exec, hv, hcalls, if_true]
        rw [← h]
      | false =>
        refine .inr (.inr ⟨p, ⟨?_, .inr ⟨change, calls, rfl⟩⟩, by simp [Op.applied, hv],
          by simp [Op.exec, hv], by simp [Op.committed, Op.applied, hv], ?_⟩)
        · unfold validateActivation at hv
          rw [hrequire] at hv
          dsimp only at hv
          split_ifs at hv
          exact hv
        · simp only [Op.exec, hv, hcalls, Bool.false_eq_true, if_false]
          unfold applyProposal
          simp [h]
  | markUnhealthy =>
    refine .inr (.inl ⟨rfl, ?_, ?_⟩)
    · simp [Op.exec, hrequire]
    · simp [Op.exec, hrequire]

theorem exec_idle {c : IntervalController} (h : c.activationInProgress = false) (op : Op) :
    (op.exec c).2.activationInProgress = false := by
  obtain ⟨heq, -, -⟩ | ⟨-, -, heq⟩ | ⟨p, -, -, -, -, heq⟩ := exec_cases h op
  · rw [heq]; exact h
  · rw [heq]; exact h
  · rw [heq]; exact h

theorem run_idle {c : IntervalController} (h : c.activationInProgress = false) (ops : List Op) :
    (c.run ops).activationInProgress = false := by
  induction ops generalizing c with
  | nil => exact h
  | cons op ops ih => exact ih (exec_idle h op)

theorem run_append (c : IntervalController) (front back : List Op) :
    c.run (front ++ back) = (c.run front).run back := by
  induction front generalizing c with
  | nil => rfl
  | cons op front ih => exact ih (op.exec c).2

theorem history_append (c : IntervalController) (front back : List Op) :
    c.history (front ++ back) = c.history front ++ (c.run front).history back := by
  induction front generalizing c with
  | nil => rfl
  | cons op front ih =>
    simp only [List.cons_append, history, ih, List.append_assoc]
    rfl

/-- A call that raises changes nothing. -/
theorem exec_error {c : IntervalController} {op : Op} {e : IntervalError}
    (h : (op.exec c).1 = .error e) : (op.exec c).2 = c := by
  cases hidle : c.activationInProgress with
  | true => exact exec_inProgress hidle op
  | false =>
    obtain ⟨heq, -, -⟩ | ⟨-, hok, -⟩ | ⟨p, -, -, hok, -, -⟩ := exec_cases hidle op
    · exact heq
    · exact absurd h (hok e)
    · exact absurd h (hok e)

/-! ## The settings and the revision -/

theorem exec_settings {c : IntervalController} (h : c.activationInProgress = false) (op : Op) :
    (op.exec c).2.recoveryStep = c.recoveryStep ∧
      (op.exec c).2.healthyRefreshesRequired = c.healthyRefreshesRequired := by
  obtain ⟨heq, -, -⟩ | ⟨-, -, heq⟩ | ⟨p, -, -, -, -, heq⟩ := exec_cases h op
  · rw [heq]; exact ⟨rfl, rfl⟩
  · rw [heq]; exact ⟨rfl, rfl⟩
  · rw [heq]; exact ⟨rfl, rfl⟩

theorem run_settings {c : IntervalController} (h : c.activationInProgress = false)
    (ops : List Op) :
    (c.run ops).recoveryStep = c.recoveryStep ∧
      (c.run ops).healthyRefreshesRequired = c.healthyRefreshesRequired := by
  induction ops generalizing c with
  | nil => exact ⟨rfl, rfl⟩
  | cons op ops ih =>
    obtain ⟨hstep, hrequired⟩ := exec_settings h op
    obtain ⟨hstep', hrequired'⟩ := ih (exec_idle h op)
    exact ⟨hstep'.trans hstep, hrequired'.trans hrequired⟩

/-- A call that changes the controller takes the next revision. -/
theorem exec_revision {c : IntervalController} (h : c.activationInProgress = false) (op : Op) :
    (op.exec c).2 = c ∨ (op.exec c).2.revision = c.revision + 1 := by
  obtain ⟨heq, -, -⟩ | ⟨-, -, heq⟩ | ⟨p, -, -, -, -, heq⟩ := exec_cases h op
  · exact .inl heq
  · rw [heq]; exact .inr rfl
  · rw [heq]; exact .inr rfl

theorem run_revision {c : IntervalController} (h : c.activationInProgress = false)
    (ops : List Op) : c.run ops = c ∨ c.revision < (c.run ops).revision := by
  induction ops generalizing c with
  | nil => exact .inl rfl
  | cons op ops ih =>
    have htail := ih (exec_idle h op)
    change (op.exec c).2.run ops = c ∨ c.revision < ((op.exec c).2.run ops).revision
    obtain heq | hnext := exec_revision h op
    · rw [heq] at htail ⊢
      exact htail
    · refine .inr ?_
      obtain heq | hlt := htail
      · rw [heq]; omega
      · omega

/-- Between two states of one revision nothing changes. -/
theorem run_constant {c : IntervalController} (h : c.activationInProgress = false)
    {front back : List Op} (hrev : (c.run (front ++ back)).revision = c.revision) :
    c.run front = c := by
  rw [run_append] at hrev
  obtain heq | hlt := run_revision h front
  · exact heq
  · obtain heq | hlt' := run_revision (run_idle h front) back
    · rw [heq] at hrev; omega
    · omega

/-! ## Proposals are applied once -/

theorem applied_fresh {c : IntervalController} (h : c.activationInProgress = false) {op : Op}
    {p : IntervalProposal} (hp : op.applied c = some p) :
    p.controllerRevision = c.revision ∧ p.previousEffectiveNs = c.currentNs ∧
      (op.exec c).2.revision = c.revision + 1 := by
  obtain ⟨-, hnone, -⟩ | ⟨hop, -, -⟩ | ⟨q, hq, happlied, -, -, heq⟩ := exec_cases h op
  · rw [hnone] at hp
    cases hp
  · subst hop
    cases hp
  · rw [happlied] at hp
    cases hp
    have hvalid := hq.valid
    unfold validateProposal at hvalid
    split at hvalid
    · cases hvalid
    · next hfresh =>
      rw [not_or, not_not, not_not] at hfresh
      rw [heq]
      exact ⟨hfresh.1, hfresh.2, rfl⟩

/-- The proposals that a run applies carry increasing revisions. -/
theorem appliedIn_increasing {c : IntervalController} (h : c.activationInProgress = false)
    (ops : List Op) :
    (c.appliedIn ops).Pairwise (fun p q => p.controllerRevision < q.controllerRevision) ∧
      ∀ p ∈ c.appliedIn ops, c.revision ≤ p.controllerRevision := by
  induction ops generalizing c with
  | nil => exact ⟨.nil, by simp [appliedIn]⟩
  | cons op ops ih =>
    obtain ⟨hpair, hle⟩ := ih (exec_idle h op)
    simp only [appliedIn]
    cases hp : op.applied c with
    | none =>
      refine ⟨hpair, fun p hmem => le_trans ?_ (hle p hmem)⟩
      obtain heq | hnext := exec_revision h op
      · rw [heq]
      · omega
    | some p =>
      obtain ⟨hrev, -, hnext⟩ := applied_fresh h hp
      have hlater : ∀ q ∈ (op.exec c).2.appliedIn ops,
          p.controllerRevision < q.controllerRevision := by
        intro q hq
        have := hle q hq
        omega
      simp only [Option.toList_some, List.singleton_append, List.pairwise_cons, List.mem_cons,
        forall_eq_or_imp]
      exact ⟨⟨hlater, hpair⟩, hrev.ge, fun q hq => hrev ▸ (hlater q hq).le⟩

theorem appliedIn_nodup {c : IntervalController} (h : c.activationInProgress = false)
    (ops : List Op) : (c.appliedIn ops).Nodup :=
  (appliedIn_increasing h ops).1.imp fun hlt heq => by
    rw [heq] at hlt
    exact lt_irrefl _ hlt

/-! ## The healthy refreshes -/

theorem ceilRatio_le (numerator : Nat) {denominator : Nat} (h : 0 < denominator) :
    ceilRatio numerator denominator ≤ ⌈(numerator : ℚ) / denominator⌉₊ := by
  have hden : (0 : ℚ) < denominator := Nat.cast_pos.mpr h
  have hceil : (numerator : ℚ) ≤ ⌈(numerator : ℚ) / denominator⌉₊ * denominator :=
    (div_le_iff₀ hden).mp (Nat.le_ceil _)
  have hceil : numerator ≤ ⌈(numerator : ℚ) / denominator⌉₊ * denominator := by
    exact_mod_cast hceil
  unfold ceilRatio
  rw [← Nat.lt_succ_iff, Nat.div_lt_iff_lt_mul h, Nat.succ_mul]
  omega

/-- The part of the interval that one recovery keeps. -/
theorem keep_eq (c : IntervalController) :
    ((c.recoveryStep.den - c.recoveryStep.num.toNat : Nat) : ℚ) / c.recoveryStep.den =
      1 - c.recoveryStep := by
  have hden : (0 : ℚ) < c.recoveryStep.den := Nat.cast_pos.mpr c.recoveryStep.den_pos
  have hnum : (0 : Int) ≤ c.recoveryStep.num := Rat.num_nonneg.mpr c.step_pos.le
  have hstep : (c.recoveryStep.num : ℚ) / c.recoveryStep.den = c.recoveryStep :=
    Rat.num_div_den c.recoveryStep
  have hle : (c.recoveryStep.num : ℚ) ≤ c.recoveryStep.den := by
    have := c.step_le
    rwa [← hstep, div_le_one hden] at this
  have hle : c.recoveryStep.num ≤ c.recoveryStep.den := by exact_mod_cast hle
  have hcast : ((c.recoveryStep.den - c.recoveryStep.num.toNat : Nat) : ℚ) =
      c.recoveryStep.den - c.recoveryStep.num := by
    rw [Nat.cast_sub (by omega)]
    congr 1
    exact_mod_cast congrArg (Int.cast (R := ℚ)) (Int.toNat_of_nonneg hnum)
  rw [hcast, sub_div, hstep, div_self hden.ne']

/-- What a healthy refresh yields: a refresh at or above the interval counts none, and one below
it counts one more and lowers the interval only at the required count. -/
theorem recoveryTransition_cases (c : IntervalController) (target : Nat) :
    c.currentNs ≤ target ∧ c.recoveryTransition target = (c.currentNs, 0) ∨
      target < c.currentNs ∧ (c.recoveryTransition target).2 ≤ c.healthyRefreshes + 1 ∧
        ((c.recoveryTransition target).1 = c.currentNs ∨
          (c.recoveryTransition target).2 = c.healthyRefreshesRequired ∧
          target ≤ (c.recoveryTransition target).1 ∧
          (c.recoveryTransition target).1 < c.currentNs ∧
          (c.recoveryTransition target).1 ≤ max target ⌈c.currentNs * (1 - c.recoveryStep)⌉₊) := by
  unfold recoveryTransition
  split
  · next hle => exact .inl ⟨hle, rfl⟩
  · next hlt =>
    have hlt : target < c.currentNs := not_le.mp hlt
    refine .inr ⟨hlt, ?_⟩
    dsimp only
    split
    · exact ⟨Nat.min_le_left _ _, .inl rfl⟩
    · next hcount =>
      have hceil := ceilRatio_le
        (c.currentNs * (c.recoveryStep.den - c.recoveryStep.num.toNat))
        c.recoveryStep.den_pos
      rw [Nat.cast_mul, mul_div_assoc, keep_eq] at hceil
      have hpos := c.current_pos
      refine ⟨Nat.min_le_left _ _, .inr ⟨?_, le_max_left _ _, ?_, ?_⟩⟩
      · exact le_antisymm (Nat.min_le_right _ _) (not_lt.mp hcount)
      · rw [max_lt_iff]
        exact ⟨hlt, by omega⟩
      · exact max_le_max le_rfl ((Nat.min_le_right _ _).trans hceil)

/-- What the checks of a proposal establish. -/
inductive Legal (c : IntervalController) (p : IntervalProposal) : Prop where
  | direct (target : p.recoveryTargetNs = none) (refresh : p.refreshId = none)
      (count : p.healthyRefreshes = 0) (le : c.currentNs ≤ p.effectiveNs)
  | recovery (targetNs id : Nat) (target : p.recoveryTargetNs = some targetNs)
      (refresh : p.refreshId = some id) (new : ∀ last ∈ c.lastRefreshId, last < id)
      (transition : c.recoveryTransition targetNs = (p.effectiveNs, p.healthyRefreshes))

theorem validateProposal_legal {c : IntervalController} {p : IntervalProposal}
    (h : c.validateProposal p = none) : Legal c p := by
  unfold validateProposal at h
  split at h
  · cases h
  split at h
  · cases h
  split at h
  · cases h
  next hnew =>
  cases htarget : p.recoveryTargetNs with
  | none =>
    simp only [htarget] at h
    split_ifs at h with hdirect
    rw [not_or, not_or, not_not, not_not, not_lt] at hdirect
    exact .direct htarget hdirect.1 hdirect.2.1 hdirect.2.2
  | some target =>
    simp only [htarget] at h
    split_ifs at h with hmissing htransition
    obtain ⟨id, hid⟩ := Option.ne_none_iff_exists'.mp hmissing
    refine .recovery target id htarget hid ?_ (not_not.mp htransition).symm
    intro last hlast
    have hlast : c.lastRefreshId = some last := hlast
    simpa [hid, refreshIsStale, hlast] using hnew

/-- The count of healthy refreshes is at most the length of the row of recoveries that ends the
history, and the ids of that row increase up to the last id. -/
structure Row (c : IntervalController) (past : List Committed) (ids : List Nat) : Prop where
  suffix : ids.map Committed.recovery <:+ past
  count : c.healthyRefreshes ≤ ids.length
  increasing : ids.Pairwise (· < ·)
  below : ∀ id ∈ ids, ∃ last, c.lastRefreshId = some last ∧ id ≤ last

/-- A lowering of the interval: an activation of a recovery proposal, at the end of a full row of
recoveries. -/
structure Lowering (c : IntervalController) (op : Op) (past : List Committed)
    (p : IntervalProposal) (target : Nat) (ids : List Nat) : Prop where
  activated : ∃ change calls, op = .activate p change calls false
  recovers : p.recoveryTargetNs = some target
  row : ids.map Committed.recovery <:+ past
  length_eq : ids.length = c.healthyRefreshesRequired
  increasing : ids.Pairwise (· < ·)
  last : ids.getLast? = p.refreshId
  target_le : target ≤ (op.exec c).2.currentNs
  le_bound : (op.exec c).2.currentNs ≤ max target ⌈c.currentNs * (1 - c.recoveryStep)⌉₊
  lowered : (op.exec c).2.currentNs < c.currentNs

theorem row_nil {c : IntervalController} (h : c.healthyRefreshes = 0) (past : List Committed) :
    Row c past [] :=
  ⟨⟨past, List.append_nil _⟩, h.le, .nil, by simp⟩

/-- What an applied proposal does to the row. -/
theorem Row.applyProposal {c : IntervalController} {past : List Committed} {ids : List Nat}
    (h : Row c past ids) {p : IntervalProposal} (hp : Legal c p) :
    (c.committedAs p = .reset ∧ c.currentNs ≤ p.effectiveNs ∧ p.healthyRefreshes = 0) ∨
      ∃ target id, p.recoveryTargetNs = some target ∧ p.refreshId = some id ∧
        c.committedAs p = .recovery id ∧
        Row (c.applyProposal p) (past ++ [.recovery id]) (ids ++ [id]) ∧
        (p.effectiveNs = c.currentNs ∨
          p.healthyRefreshes = c.healthyRefreshesRequired ∧ target ≤ p.effectiveNs ∧
          p.effectiveNs < c.currentNs ∧
          p.effectiveNs ≤ max target ⌈c.currentNs * (1 - c.recoveryStep)⌉₊) := by
  cases hp with
  | direct htarget hrefresh hcount hle =>
    exact .inl ⟨by simp [committedAs, htarget], hle, hcount⟩
  | recovery target id htarget hrefresh hnew htransition =>
    obtain ⟨hle, heq⟩ | ⟨hlt, hcount, hvalue⟩ := c.recoveryTransition_cases target
    · rw [htransition, Prod.mk.injEq] at heq
      exact .inl ⟨by simp [committedAs, htarget, hrefresh, not_lt.mpr hle], heq.1.ge, heq.2⟩
    · rw [htransition] at hcount hvalue
      refine .inr ⟨target, id, htarget, hrefresh, ?_, ⟨?_, ?_, ?_, ?_⟩, hvalue⟩
      · simp [committedAs, htarget, hrefresh, hlt]
      · rw [List.map_append]
        obtain ⟨front, hfront⟩ := h.suffix
        exact ⟨front, by rw [← List.append_assoc, hfront]; rfl⟩
      · rw [List.length_append]
        exact hcount.trans (Nat.add_le_add_right h.count 1)
      · rw [List.pairwise_append]
        refine ⟨h.increasing, List.pairwise_singleton _ _, ?_⟩
        intro a ha b hb
        rw [List.mem_singleton.mp hb]
        obtain ⟨last, hlast, hle⟩ := h.below a ha
        exact hle.trans_lt (hnew last hlast)
      · intro a ha
        refine ⟨id, by simp [IntervalController.applyProposal, hrefresh], ?_⟩
        obtain ha | ha := List.mem_append.mp ha
        · obtain ⟨last, hlast, hle⟩ := h.below a ha
          exact hle.trans (hnew last hlast).le
        · exact (List.mem_singleton.mp ha).le

/-- A call keeps the row, and lowers the interval only at its end. -/
theorem Row.exec {c : IntervalController} (hidle : c.activationInProgress = false)
    {past : List Committed} {ids : List Nat} (h : Row c past ids) (op : Op) :
    (∃ ids', Row (op.exec c).2 (past ++ (op.committed c).toList) ids') ∧
      ((op.exec c).2.currentNs < c.currentNs →
        ∃ p target row, Lowering c op (past ++ (op.committed c).toList) p target row) := by
  obtain ⟨heq, -, hnone⟩ | ⟨hop, -, heq⟩ | ⟨p, hp, happlied, -, hsome, heq⟩ := exec_cases hidle op
  · rw [heq, hnone, Option.toList_none, List.append_nil]
    exact ⟨⟨ids, h⟩, fun hlt => absurd hlt (lt_irrefl _)⟩
  · rw [heq]
    exact ⟨⟨[], row_nil rfl _⟩, fun hlt => absurd hlt (lt_irrefl _)⟩
  · obtain ⟨hreset, hle, hzero⟩ | ⟨target, id, htarget, hid, hrec, hrow, hvalue⟩ :=
      h.applyProposal (validateProposal_legal hp.valid)
    · rw [heq]
      exact ⟨⟨[], row_nil hzero _⟩, fun hlt => absurd hlt (not_lt.mpr hle)⟩
    · rw [heq, hsome, hrec, Option.toList_some]
      refine ⟨⟨_, hrow⟩, fun hlt => ?_⟩
      have hlt : p.effectiveNs < c.currentNs := hlt
      obtain hsame | ⟨hcount, hge, -, hbound⟩ := hvalue
      · exact absurd hsame hlt.ne
      -- The row may be longer than the required count: its last part is the row of the claim.
      have hlen : c.healthyRefreshesRequired ≤ (ids ++ [id]).length := by
        have := hrow.count
        simpa [IntervalController.applyProposal, hcount] using this
      set skip := (ids ++ [id]).length - c.healthyRefreshesRequired with hskip
      have hdrop : (ids ++ [id]).drop skip <:+ ids ++ [id] := List.drop_suffix _ _
      have hdrop_length : ((ids ++ [id]).drop skip).length = c.healthyRefreshesRequired := by
        rw [List.length_drop]
        omega
      refine ⟨p, target, (ids ++ [id]).drop skip, ?_⟩
      refine ⟨?_, htarget, (hdrop.map _).trans hrow.suffix, hdrop_length,
        hrow.increasing.sublist hdrop.sublist, ?_, ?_, ?_, ?_⟩
      · obtain ⟨hop, hsame⟩ | hactivate := hp.by_call
        · have hfresh := applied_fresh hidle happlied
          omega
        · exact hactivate
      · have hpos := c.required_pos
        rw [List.getLast?_drop, if_neg (by omega), List.getLast?_append, hid]
        rfl
      · rw [heq]; exact hge
      · rw [heq]; exact hbound
      · rw [heq]; exact hlt

theorem row_run {c : IntervalController} (hidle : c.activationInProgress = false)
    (hzero : c.healthyRefreshes = 0) (ops : List Op) :
    ∃ ids, Row (c.run ops) (c.history ops) ids := by
  induction ops using List.reverseRecOn with
  | nil => exact ⟨[], row_nil hzero _⟩
  | append_singleton ops op ih =>
    obtain ⟨ids, h⟩ := ih
    have hnext := (h.exec (run_idle hidle ops) op).1
    rw [run_append, history_append]
    simpa [history, IntervalController.run, Op.execAll] using hnext

/-! ## The law of a run -/

/-- The proposals that a controller hands out. -/
def Issues (c : IntervalController) (p : IntervalProposal) : Prop :=
  (∃ effectiveNs, c.proposeInterval effectiveNs = .ok p) ∨
    ∃ targetNs refreshId, c.proposeToward targetNs refreshId = .ok p

theorem Issues.revision_eq {c : IntervalController} {p : IntervalProposal} (h : Issues c p) :
    p.controllerRevision = c.revision := by
  obtain ⟨effectiveNs, h⟩ | ⟨targetNs, refreshId, h⟩ := h
  · unfold proposeInterval at h
    split_ifs at h
    cases h
    rfl
  · unfold proposeToward at h
    split_ifs at h
    cases h
    rfl

/-- The law of a call `op` after the calls `before`. -/
structure Lawful (c : IntervalController) (before : List Op) (op : Op) : Prop where
  /-- The interval decreases only at the end of a full row of recoveries. -/
  lowers : (op.exec (c.run before)).2.currentNs < (c.run before).currentNs →
    ∃ p target ids, Lowering (c.run before) op (c.history (before ++ [op])) p target ids
  /-- An applied proposal is about the controller as it is. -/
  fresh : ∀ p, op.applied (c.run before) = some p →
    p.controllerRevision = (c.run before).revision ∧
      p.previousEffectiveNs = (c.run before).currentNs
  /-- Nothing has changed since an applied proposal was handed out. -/
  timely : ∀ p, op.applied (c.run before) = some p → ∀ early late, before = early ++ late →
    Issues (c.run early) p → ∀ front, front <+: late → c.run (early ++ front) = c.run early
  /-- No proposal is applied twice. -/
  once : (c.appliedIn (before ++ [op])).Nodup
  /-- A call that raises changes nothing. -/
  unchanged : ∀ e, (op.exec (c.run before)).1 = .error e →
    (op.exec (c.run before)).2 = c.run before
  /-- Nor does a call by the publisher of an activation. -/
  published : ∀ call : Op, (call.exec { c.run before with activationInProgress := true }).2 =
    { c.run before with activationInProgress := true }
  /-- The step and the required count are those of the start. -/
  settings : (c.run before).recoveryStep = c.recoveryStep ∧
    (c.run before).healthyRefreshesRequired = c.healthyRefreshesRequired

theorem new_fresh {currentNs healthyRefreshesRequired : Int} {recoveryStep : Option ℚ}
    {c : IntervalController} (h : new currentNs recoveryStep healthyRefreshesRequired = .ok c) :
    c.activationInProgress = false ∧ c.healthyRefreshes = 0 := by
  unfold new at h
  split at h
  · cases h
  cases recoveryStep with
  | none => cases h
  | some step =>
    dsimp only at h
    split_ifs at h
    cases h
    exact ⟨rfl, rfl⟩

/-- In every run a call lowers the interval only by the activation of a recovery proposal that
ends a full row of recoveries, by at most one step; proposals are applied once and in time; and
calls that raise change nothing. -/
theorem run_lawful {currentNs healthyRefreshesRequired : Int} {recoveryStep : Option ℚ}
    {c : IntervalController} (h : new currentNs recoveryStep healthyRefreshesRequired = .ok c)
    (before : List Op) (op : Op) : Lawful c before op := by
  obtain ⟨hidle, hzero⟩ := new_fresh h
  have hrun := run_idle hidle before
  refine ⟨?_, ?_, ?_, appliedIn_nodup hidle _, fun e he => exec_error he,
    fun call => exec_inProgress rfl call, run_settings hidle before⟩
  · intro hlt
    obtain ⟨ids, hrow⟩ := row_run hidle hzero before
    have hlowers := (hrow.exec hrun op).2 hlt
    rw [history_append]
    simpa [history] using hlowers
  · intro p hp
    obtain ⟨hrev, hprevious, -⟩ := applied_fresh hrun hp
    exact ⟨hrev, hprevious⟩
  · intro p hp early late hbefore hissued front hfront
    obtain ⟨back, rfl⟩ := hfront
    have hrev := (applied_fresh hrun hp).1
    rw [hissued.revision_eq, hbefore, run_append] at hrev
    rw [run_append]
    exact run_constant (run_idle hidle early) hrev.symm

/-- A controller at 100 that halves its interval after two healthy refreshes. -/
def ofHundred : IntervalController where
  currentNs := 100
  recoveryStep := 1 / 2
  healthyRefreshesRequired := 2
  current_pos := by decide
  step_pos := by norm_num
  step_le := by norm_num
  required_pos := by decide

/-- Refresh 3, the first healthy one below the interval. -/
def firstRefresh : IntervalProposal where
  controllerRevision := 0
  previousEffectiveNs := 100
  effectiveNs := 100
  healthyRefreshes := 1
  refreshId := some 3
  recoveryTargetNs := some 30
  previous_pos := by decide
  effective_pos := by decide
  target_pos := by simp

/-- Refresh 5, the second one. -/
def secondRefresh : IntervalProposal where
  controllerRevision := 1
  previousEffectiveNs := 100
  effectiveNs := 50
  healthyRefreshes := 2
  refreshId := some 5
  recoveryTargetNs := some 30
  previous_pos := by decide
  effective_pos := by decide
  target_pos := by simp

theorem ofHundred_lawful :
    ∃ p target ids, Lowering (ofHundred.run [.commit firstRefresh])
      (.activate secondRefresh ⟨100, 50⟩ [.markUnhealthy] false)
      (ofHundred.history ([.commit firstRefresh] ++
        [.activate secondRefresh ⟨100, 50⟩ [.markUnhealthy] false])) p target ids := by
  have h : new 100 (some (1 / 2)) 2 = .ok ofHundred := by
    simp only [new, ofHundred]
    norm_num
    decide
  exact (run_lawful h [.commit firstRefresh]
    (.activate secondRefresh ⟨100, 50⟩ [.markUnhealthy] false)).lowers (by decide +kernel)

end IntervalController

end CryptoCollector.Scheduler
