import CryptoCollector.Network.StateStore
import Mathlib.Data.List.Induction
import Mathlib.Logic.Function.Basic

/-!
# The fencing of restrictions

Several stores share a database, and a probe that was admitted before a fresh restriction may report
its success after it. The revision of a restriction counts the writes to it, so such a probe is
refused.

* `Restriction`: what a row says about its key; `restriction_step`: what one event does to it.
* `issued_admitted`: the admissions that a store knows were issued by its own `admit_health`.
* `run_fenced`: the law of every interleaving.
-/

namespace CryptoCollector.Network

open Lib

/-! ## Runs -/

/-- The database, the stores that are open on it, and the identity of the next object. A store that
nobody has opened yet has issued nothing. -/
structure World where
  db : Database
  stores : Nat → EgressStateStore := fun _ => {}
  nextObject : Nat := 0

/-- A method of a store with its arguments. -/
inductive Method where
  | recordBan (exchange quotaGroup : String) (untilUnixNs : Int) (reason : String)
  | recordCooldown (exchange quotaGroup : String) (untilUnixNs : Int) (reason : String)
  | recordTransportFailure (exchange egressId reason : String) (cooldownUntilUnixNs : Int)
  | setRateMultiplier (exchange quotaGroup : String) (multiplier : Multiplier)
  | admitHealth (exchange : String) (egresses : List Egress) (nowUnixNs nowMonotonicNs : Int)
  | recordQuotaProbeSuccess (admission : Admission) (observedMonotonicNs : Int)
  | recordTransportProbeSuccess (admission : Admission)
      (observedMonotonicNs observedUnixNs latencyNs : Int)

/-- A call of a method. The database may fail its transaction. -/
structure Call where
  store : Nat
  method : Method
  fails : Bool := false

/-- What the transaction of a call raises. -/
def Call.fault (c : Call) (w : World) : Option StoreError :=
  if (w.stores c.store).closed ∨ c.fails then some .databaseError else none

/-- The result of a call: what `admit_health` admits, or the database after the commit. -/
def Call.result (c : Call) (w : World) : Except StoreError (Database ⊕ AdmittedHealth) :=
  match c.method with
  | .recordBan exchange quotaGroup untilUnixNs reason =>
    .inl <$> recordBan exchange quotaGroup untilUnixNs reason (c.fault w) w.db
  | .recordCooldown exchange quotaGroup untilUnixNs reason =>
    .inl <$> recordCooldown exchange quotaGroup untilUnixNs reason (c.fault w) w.db
  | .recordTransportFailure exchange egressId reason untilUnixNs =>
    .inl <$> recordTransportFailure exchange egressId reason untilUnixNs (c.fault w) w.db
  | .setRateMultiplier exchange quotaGroup multiplier =>
    .inl <$> setRateMultiplier exchange quotaGroup multiplier (c.fault w) w.db
  | .admitHealth exchange egresses nowUnixNs nowMonotonicNs =>
    .inr <$> admitHealth c.store w.nextObject exchange egresses nowUnixNs nowMonotonicNs
      (c.fault w) w.db
  | .recordQuotaProbeSuccess a observedMonotonicNs =>
    .inl <$> recordQuotaProbeSuccess c.store (w.stores c.store) a observedMonotonicNs (c.fault w)
      w.db
  | .recordTransportProbeSuccess a observedMonotonicNs observedUnixNs latencyNs =>
    .inl <$> recordTransportProbeSuccess c.store (w.stores c.store) a observedMonotonicNs
      observedUnixNs latencyNs (c.fault w) w.db

/-- Something happens to a store. -/
inductive Event where
  | call (c : Call)
  | close (store : Nat)
  /-- An admission is garbage; its reference calls `discard`. -/
  | discard (object : Nat)

/-- One event. An exception rolls the transaction back. -/
def World.step (w : World) : Event → World
  | .call c =>
    match c.result w with
    | .error _ => w
    | .ok (.inl db) => { w with db }
    | .ok (.inr admitted) => { w with
        stores := Function.update w.stores c.store
          ((w.stores c.store).remember admitted.admissions)
        nextObject := w.nextObject + admitted.admissions.length }
  | .close store => { w with
      stores := Function.update w.stores store { issuedProbeAdmissions := .empty, closed := true } }
  | .discard object => { w with
      stores := fun store => { w.stores store with
        issuedProbeAdmissions := (w.stores store).issuedProbeAdmissions.erase object } }

/-- The world after some events on a database, which other processes may have left. -/
def World.after (db : Database) (events : List Event) : World := events.foldl World.step { db }

/-! ## Restrictions -/

/-- What is restricted: a quota group or an egress of an exchange. -/
abbrev Target := ProbeKind × Key

/-- What a row says about its target. -/
structure Restriction where
  banUntilUnixNs : Nat := 0
  cooldownUntilUnixNs : Nat := 0
  pending : Bool := false
  revision : Nat := 0
  deriving DecidableEq

/-- The restriction of a target. -/
def Database.restriction (db : Database) : Target → Restriction
  | (.quota, key) =>
    let row := db.loadQuota key
    ⟨row.banUntilUnixNs, row.cooldownUntilUnixNs, row.requiresProbe, row.restrictionRevision⟩
  | (.transport, key) =>
    let row := db.loadEgress key
    ⟨0, row.cooldownUntilUnixNs, row.requiresProbe, row.restrictionRevision⟩

/-- The target that a method writes a restriction of, or lifts it. -/
def Method.target : Method → Option Target
  | .recordBan exchange quotaGroup _ _ => some (.quota, (exchange, quotaGroup))
  | .recordCooldown exchange quotaGroup _ _ => some (.quota, (exchange, quotaGroup))
  | .recordTransportFailure exchange egressId _ _ => some (.transport, (exchange, egressId))
  | .setRateMultiplier _ _ _ => none
  | .admitHealth _ _ _ _ => none
  | .recordQuotaProbeSuccess a _ => some (.quota, a.claims.key)
  | .recordTransportProbeSuccess a _ _ _ => some (.transport, a.claims.key)

/-- The admission that a probe success presents, and its time. -/
def Method.probe : Method → Option (Admission × Int)
  | .recordQuotaProbeSuccess a observedMonotonicNs => some (a, observedMonotonicNs)
  | .recordTransportProbeSuccess a observedMonotonicNs _ _ => some (a, observedMonotonicNs)
  | _ => none

/-- A call that commits a ban, a cooldown, a failure or a probe success of a target. -/
def Call.Commits (c : Call) (w : World) (t : Target) : Prop :=
  c.method.target = some t ∧ ∃ r, c.result w = .ok r

/-- An event that commits a ban, a cooldown, a failure or a probe success of a target. -/
def Event.Commits (e : Event) (w : World) (t : Target) : Prop :=
  ∃ c, e = .call c ∧ c.Commits w t

/-- A probe success of a target that is recorded. -/
def Event.Recovers (e : Event) (w : World) (t : Target) : Prop :=
  ∃ c, e = .call c ∧ c.Commits w t ∧ c.method.probe.isSome

@[simp] theorem restriction_setQuota (db : Database) (key : Key) (row : QuotaState) (t : Target) :
    (db.setQuota key row).restriction t = if t = (.quota, key) then
      ⟨row.banUntilUnixNs, row.cooldownUntilUnixNs, row.requiresProbe, row.restrictionRevision⟩
    else db.restriction t := by
  obtain ⟨kind, key'⟩ := t
  cases kind with
  | quota =>
    by_cases h : key' = key <;>
      simp [Database.restriction, Database.setQuota, Database.loadQuota, Dict.get?_set, h]
  | transport => simp [Database.restriction, Database.setQuota, Database.loadEgress]

@[simp] theorem restriction_setEgress (db : Database) (key : Key) (row : EgressHealthState)
    (t : Target) : (db.setEgress key row).restriction t = if t = (.transport, key) then
      ⟨0, row.cooldownUntilUnixNs, row.requiresProbe, row.restrictionRevision⟩
    else db.restriction t := by
  obtain ⟨kind, key'⟩ := t
  cases kind with
  | quota => simp [Database.restriction, Database.setEgress, Database.loadQuota]
  | transport =>
    by_cases h : key' = key <;>
      simp [Database.restriction, Database.setEgress, Database.loadEgress, Dict.get?_set, h]

/-! ## What one event does -/

/-- A restriction is renewed. -/
structure Restriction.Raised (r r' : Restriction) : Prop where
  ban : r.banUntilUnixNs ≤ r'.banUntilUnixNs
  cooldown : r.cooldownUntilUnixNs ≤ r'.cooldownUntilUnixNs
  pending : r'.pending = true
  revision : r'.revision = r.revision + 1

/-- A restriction that is lifted. -/
def Restriction.lifted (r : Restriction) : Restriction := { revision := r.revision + 1 }

theorem raised_restrict (db : Database) (key : Key) (column : QuotaColumn) (untilNs : Nat)
    (reason : String) : (db.restriction (.quota, key)).Raised
      ((db.setQuota key (.restrict column untilNs reason (db.quotaState.get? key))).restriction
        (.quota, key)) := by
  rw [restriction_setQuota, if_pos rfl]
  simp only [Database.restriction, Database.loadQuota]
  cases db.quotaState.get? key with
  | none => cases column <;> constructor <;> simp [QuotaState.restrict, QuotaState.requiresProbe]
  | some row =>
    cases column <;> constructor <;> simp [QuotaState.restrict, QuotaState.requiresProbe]

theorem raised_fail (db : Database) (key : Key) (untilNs : Nat) (reason : String) :
    (db.restriction (.transport, key)).Raised
      ((db.setEgress key (.fail untilNs reason (db.egressState.get? key))).restriction
        (.transport, key)) := by
  rw [restriction_setEgress, if_pos rfl]
  simp only [Database.restriction, Database.loadEgress]
  cases db.egressState.get? key with
  | none => constructor <;> simp [EgressHealthState.fail, EgressHealthState.requiresProbe]
  | some row => constructor <;> simp [EgressHealthState.fail, EgressHealthState.requiresProbe]

/-- What a probe success that is recorded has done. -/
structure Recovered (c : Call) (w : World) (a : Admission) (observedMonotonicNs : Int)
    (db' : Database) : Prop where
  probe : c.method.probe = some (a, observedMonotonicNs)
  target : c.method.target = some (a.claims.kind, a.claims.key)
  knows : (w.stores c.store).Knows c.store a
  on_time : (a.claims.probeAfterMonotonicNs : Int) ≤ observedMonotonicNs
  revision : (w.db.restriction (a.claims.kind, a.claims.key)).revision =
    a.claims.restrictionRevision
  pending : (w.db.restriction (a.claims.kind, a.claims.key)).pending = true
  lifted : db'.restriction (a.claims.kind, a.claims.key) =
    (w.db.restriction (a.claims.kind, a.claims.key)).lifted

/-- What a call that commits can do to the restrictions. -/
inductive Call.Does (c : Call) (w : World) (db' : Database) : Prop where
  | keeps (target : c.method.target = none) (probe : c.method.probe = none)
      (same : ∀ t, db'.restriction t = w.db.restriction t)
  | raises (t : Target) (target : c.method.target = some t) (probe : c.method.probe = none)
      (raised : (w.db.restriction t).Raised (db'.restriction t))
      (others : ∀ t' ≠ t, db'.restriction t' = w.db.restriction t')
  | recovers (a : Admission) (observedMonotonicNs : Int)
      (recovered : Recovered c w a observedMonotonicNs db')
      (others : ∀ t' ≠ (a.claims.kind, a.claims.key), db'.restriction t' = w.db.restriction t')

/-- What a call that commits does. -/
theorem does_of_result {c : Call} {w : World} {db' : Database} (h : c.result w = .ok (.inl db')) :
    c.Does w db' := by
  obtain ⟨store, method, fails⟩ := c
  unfold Call.result at h
  cases method with
  | recordBan exchange quotaGroup untilUnixNs reason =>
    obtain ⟨_, h, heq⟩ := map_eq_ok.mp h
    cases heq
    obtain rfl := recordQuotaRestriction_ok h
    exact .raises _ rfl rfl (raised_restrict ..) fun t' ht => by rw [restriction_setQuota, if_neg ht]
  | recordCooldown exchange quotaGroup untilUnixNs reason =>
    obtain ⟨_, h, heq⟩ := map_eq_ok.mp h
    cases heq
    obtain rfl := recordQuotaRestriction_ok h
    exact .raises _ rfl rfl (raised_restrict ..) fun t' ht => by rw [restriction_setQuota, if_neg ht]
  | recordTransportFailure exchange egressId reason untilUnixNs =>
    obtain ⟨_, h, heq⟩ := map_eq_ok.mp h
    cases heq
    obtain rfl := recordTransportFailure_ok h
    exact .raises _ rfl rfl (raised_fail ..) fun t' ht => by rw [restriction_setEgress, if_neg ht]
  | setRateMultiplier exchange quotaGroup multiplier =>
    obtain ⟨_, h, heq⟩ := map_eq_ok.mp h
    cases heq
    obtain rfl := setRateMultiplier_ok h
    refine .keeps rfl rfl fun t => ?_
    rw [restriction_setQuota]
    split
    · next ht =>
      rw [ht]
      rfl
    · rfl
  | admitHealth exchange egresses nowUnixNs nowMonotonicNs =>
    obtain ⟨_, _, heq⟩ := map_eq_ok.mp h
    cases heq
  | recordQuotaProbeSuccess a observed =>
    obtain ⟨_, h, heq⟩ := map_eq_ok.mp h
    cases heq
    obtain ⟨hr, hpending, rfl⟩ := recordQuotaProbeSuccess_ok h
    refine .recovers a observed ?_ fun t' ht => ?_
    · refine ⟨rfl, ?_, hr.knows, hr.on_time, ?_, ?_, ?_⟩ <;> rw [hr.kind_eq]
      · rfl
      · exact hr.revision_eq
      · exact hpending
      · rw [restriction_setQuota, if_pos rfl]
        rfl
    · rw [hr.kind_eq] at ht
      rw [restriction_setQuota, if_neg ht]
  | recordTransportProbeSuccess a observed observedUnixNs latencyNs =>
    obtain ⟨_, h, heq⟩ := map_eq_ok.mp h
    cases heq
    obtain ⟨hr, hpending, rfl⟩ := recordTransportProbeSuccess_ok h
    refine .recovers a observed ?_ fun t' ht => ?_
    · refine ⟨rfl, ?_, hr.knows, hr.on_time, ?_, ?_, ?_⟩ <;> rw [hr.kind_eq]
      · rfl
      · exact hr.revision_eq
      · exact decide_eq_true hpending
      · rw [restriction_setEgress, if_pos rfl]
        rfl
    · rw [hr.kind_eq] at ht
      rw [restriction_setEgress, if_neg ht]

/-- Only `admit_health` admits. -/
theorem admitHealth_of_result {c : Call} {w : World} {admitted : AdmittedHealth}
    (h : c.result w = .ok (.inr admitted)) : ∃ exchange egresses nowUnixNs nowMonotonicNs,
    c.method = .admitHealth exchange egresses nowUnixNs nowMonotonicNs ∧
    admitHealth c.store w.nextObject exchange egresses nowUnixNs nowMonotonicNs (c.fault w) w.db =
      .ok admitted := by
  unfold Call.result at h
  split at h <;> obtain ⟨_, h, heq⟩ := map_eq_ok.mp h <;> cases heq
  next hmethod _ => exact ⟨_, _, _, _, hmethod, h⟩

/-- An admission carries the revision that its target had. -/
theorem revision_of_admitted {c : Call} {w : World} {admitted : AdmittedHealth}
    (h : c.result w = .ok (.inr admitted)) {a : Admission} (ha : a ∈ admitted.admissions) :
    a.claims.restrictionRevision = (w.db.restriction (a.claims.kind, a.claims.key)).revision := by
  obtain ⟨_, _, _, _, -, h⟩ := admitHealth_of_result h
  have hcurrent := (admitHealth_current h ha).2
  cases hkind : a.claims.kind with
  | quota =>
    rw [hkind] at hcurrent
    exact hcurrent
  | transport =>
    rw [hkind] at hcurrent
    exact hcurrent

theorem target_of_admitted {c : Call} {w : World} {admitted : AdmittedHealth}
    (h : c.result w = .ok (.inr admitted)) : c.method.target = none ∧ c.method.probe = none := by
  obtain ⟨_, _, _, _, hmethod, -⟩ := admitHealth_of_result h
  rw [hmethod]
  exact ⟨rfl, rfl⟩

/-- An event changes the database in a call that commits only. -/
theorem step_cases (w : World) (e : Event) :
    (∃ c db', e = .call c ∧ c.result w = .ok (.inl db') ∧ (w.step e).db = db') ∨
    (w.step e).db = w.db ∧ ∀ t, ¬ e.Commits w t := by
  cases e with
  | call c =>
    cases hr : c.result w with
    | error err =>
      refine .inr ⟨by simp [World.step, hr], ?_⟩
      rintro t ⟨c', hc, -, r, hr'⟩
      cases hc
      rw [hr] at hr'
      cases hr'
    | ok r =>
      cases r with
      | inl db' => exact .inl ⟨c, db', rfl, hr, by simp [World.step, hr]⟩
      | inr admitted =>
        refine .inr ⟨by simp [World.step, hr], ?_⟩
        rintro t ⟨c', hc, htarget, -⟩
        cases hc
        rw [(target_of_admitted hr).1] at htarget
        cases htarget
  | close store => exact .inr ⟨rfl, fun t ⟨c, hc, _⟩ => nomatch hc⟩
  | discard object => exact .inr ⟨rfl, fun t ⟨c, hc, _⟩ => nomatch hc⟩

/-- A restriction that no call commits to is kept. -/
theorem restriction_step {w : World} {e : Event} {t : Target} (h : ¬ e.Commits w t) :
    (w.step e).db.restriction t = w.db.restriction t := by
  obtain ⟨c, db', rfl, hr, hdb⟩ | ⟨hdb, -⟩ := step_cases w e
  · have hcommits : c.method.target = some t → False := fun ht => h ⟨c, rfl, ht, _, hr⟩
    rw [hdb]
    cases does_of_result hr with
    | keeps _ _ same => exact same t
    | raises t' target _ _ others =>
      refine others t ?_
      rintro rfl
      exact hcommits target
    | recovers a observed recovered others =>
      refine others t ?_
      rintro rfl
      exact hcommits recovered.target
  · rw [hdb]

/-- A call that commits to a restriction counts. -/
theorem revision_step {w : World} {e : Event} {t : Target} (h : e.Commits w t) :
    ((w.step e).db.restriction t).revision = (w.db.restriction t).revision + 1 := by
  obtain ⟨c, db', rfl, hr, hdb⟩ | ⟨-, hnot⟩ := step_cases w e
  · obtain ⟨c', hc, htarget, -⟩ := h
    cases hc
    rw [hdb]
    cases does_of_result hr with
    | keeps target _ _ =>
      rw [target] at htarget
      cases htarget
    | raises t' target _ raised _ =>
      rw [target] at htarget
      cases htarget
      exact raised.revision
    | recovers a observed recovered _ =>
      rw [recovered.target] at htarget
      cases htarget
      rw [recovered.lifted]
      rfl
  · exact absurd h (hnot t)

/-- A deadline only decreases when a probe success is recorded. -/
theorem deadlines_step {w : World} {e : Event} {t : Target} (h : ¬ e.Recovers w t) :
    (w.db.restriction t).banUntilUnixNs ≤ ((w.step e).db.restriction t).banUntilUnixNs ∧
    (w.db.restriction t).cooldownUntilUnixNs ≤
      ((w.step e).db.restriction t).cooldownUntilUnixNs := by
  by_cases hcommits : e.Commits w t
  · obtain ⟨c, db', rfl, hr, hdb⟩ | ⟨-, hnot⟩ := step_cases w e
    · obtain ⟨c', hc, htarget, -⟩ := hcommits
      cases hc
      rw [hdb]
      cases does_of_result hr with
      | keeps target _ _ =>
        rw [target] at htarget
        cases htarget
      | raises t' target _ raised _ =>
        rw [target] at htarget
        cases htarget
        exact ⟨raised.ban, raised.cooldown⟩
      | recovers a observed recovered _ =>
        exact absurd ⟨c, rfl, ⟨htarget, _, hr⟩, by rw [recovered.probe]; rfl⟩ h
    · exact absurd hcommits (hnot t)
  · rw [restriction_step hcommits]
    exact ⟨le_rfl, le_rfl⟩

/-! ## Histories -/

theorem after_append (db : Database) (events later : List Event) :
    World.after db (events ++ later) = later.foldl World.step (World.after db events) :=
  List.foldl_append

theorem after_concat (db : Database) (events : List Event) (e : Event) :
    World.after db (events ++ [e]) = (World.after db events).step e := by
  rw [after_append]
  rfl

theorem revision_mono (db : Database) (events later : List Event) (t : Target) :
    ((World.after db events).db.restriction t).revision ≤
      ((World.after db (events ++ later)).db.restriction t).revision := by
  induction later using List.reverseRecOn with
  | nil => rw [List.append_nil]
  | append_singleton later e ih =>
    rw [← List.append_assoc, after_concat]
    by_cases h : e.Commits (World.after db (events ++ later)) t
    · rw [revision_step h]
      exact ih.trans (Nat.le_succ _)
    · rwa [restriction_step h]

/-- While the revision stays, no call commits to the restriction. -/
theorem not_commits_of_revision {db : Database} {before later : List Event} {t : Target}
    (h : ((World.after db (before ++ later)).db.restriction t).revision =
      ((World.after db before).db.restriction t).revision)
    {mid rest : List Event} {e : Event} (hlater : later = mid ++ e :: rest) :
    ¬ e.Commits (World.after db (before ++ mid)) t := by
  intro hcommits
  have hstep := revision_step hcommits
  rw [← after_concat] at hstep
  have hbefore := revision_mono db before mid t
  have hafter := revision_mono db (before ++ mid ++ [e]) rest t
  have hsplit : before ++ mid ++ [e] ++ rest = before ++ later := by simp [hlater]
  rw [hsplit] at hafter
  omega

/-! ## Issued admissions -/

/-- Where the history of a store has issued an admission. -/
def IssuedAt (db : Database) (before : List Event) (issue : Call) (a : Admission) : Prop :=
  ∃ admitted, issue.result (World.after db before) = .ok (.inr admitted) ∧
    a ∈ admitted.admissions

theorem remember_get? {s : EgressStateStore} {admissions : List Admission} {object : Nat}
    {claims : Claims}
    (h : (s.remember admissions).issuedProbeAdmissions.get? object = some claims) :
    s.issuedProbeAdmissions.get? object = some claims ∨
      ∃ a ∈ admissions, a.object = object ∧ a.claims = claims := by
  unfold EgressStateStore.remember at h
  simp only at h
  generalize s.issuedProbeAdmissions = d at h ⊢
  induction admissions generalizing d with
  | nil => exact .inl h
  | cons a admissions ih =>
    obtain h | ⟨b, hb, hclaims⟩ := ih _ h
    · rw [Dict.get?_set] at h
      split at h
      · next hobject =>
        cases h
        exact .inr ⟨a, List.mem_cons_self, hobject.symm, rfl⟩
      · exact .inl h
    · exact .inr ⟨b, List.mem_cons_of_mem _ hb, hclaims⟩

/-- A store only knows admissions that its own `admit_health` has issued. -/
theorem issued_admitted {db : Database} {events : List Event} {store object : Nat}
    {claims : Claims} (h : ((World.after db events).stores store).issuedProbeAdmissions.get?
      object = some claims) :
    ∃ before issue later a, events = before ++ .call issue :: later ∧ issue.store = store ∧
      IssuedAt db before issue a ∧ a.object = object ∧ a.claims = claims := by
  induction events using List.reverseRecOn with
  | nil => cases h
  | append_singleton events e ih =>
    -- an older admission keeps its place in the longer history
    have hold (hd : ((World.after db events).stores store).issuedProbeAdmissions.get? object =
        some claims) : ∃ before issue later a, events ++ [e] = before ++ .call issue :: later ∧
        issue.store = store ∧ IssuedAt db before issue a ∧ a.object = object ∧
        a.claims = claims := by
      obtain ⟨before, issue, later, a, rfl, hissue⟩ := ih hd
      exact ⟨before, issue, later ++ [e], a, by simp, hissue⟩
    rw [after_concat] at h
    cases e with
    | call c =>
      cases hr : c.result (World.after db events) with
      | error err =>
        simp only [World.step, hr] at h
        exact hold h
      | ok r =>
        cases r with
        | inl db' =>
          simp only [World.step, hr] at h
          exact hold h
        | inr admitted =>
          simp only [World.step, hr] at h
          by_cases hstore : store = c.store
          · subst hstore
            rw [Function.update_self] at h
            obtain h | ⟨a, ha, hobject, hclaims⟩ := remember_get? h
            · exact hold h
            · exact ⟨events, c, [], a, rfl, rfl, ⟨admitted, hr, ha⟩, hobject, hclaims⟩
          · rw [Function.update_of_ne hstore] at h
            exact hold h
    | close closed =>
      simp only [World.step] at h
      by_cases hstore : store = closed
      · subst hstore
        rw [Function.update_self] at h
        cases h
      · rw [Function.update_of_ne hstore] at h
        exact hold h
    | discard garbage =>
      simp only [World.step] at h
      rw [Dict.get?_erase] at h
      split at h
      · cases h
      · exact hold h

theorem mint_eq {store next : Nat} {claims : List Claims} {a : Admission}
    (h : a ∈ mint store next claims) : a = ⟨a.object, a.claims, store, a.claims⟩ := by
  obtain ⟨c, hc, rfl⟩ := List.mem_map.mp h
  rfl

/-- An admission is minted by the store that issues it. -/
theorem IssuedAt.mint_eq {db : Database} {before : List Event} {issue : Call} {a : Admission}
    (h : IssuedAt db before issue a) : a = ⟨a.object, a.claims, issue.store, a.claims⟩ := by
  obtain ⟨admitted, hr, ha⟩ := h
  obtain ⟨_, _, _, _, -, hr⟩ := admitHealth_of_result hr
  obtain ⟨-, hr⟩ := checked_eq_ok.mp hr
  cases hr
  obtain ha | ha := List.mem_append.mp ha
  · exact Network.mint_eq ha
  · exact Network.mint_eq ha

/-! ## The law of every interleaving -/

/-- The admission of a probe success was issued to this store, to be used from its deadline on, and
nobody has committed to its restriction since. -/
def Fresh (db : Database) (events : List Event) (store : Nat) (a : Admission)
    (observedMonotonicNs : Int) : Prop :=
  (a.claims.probeAfterMonotonicNs : Int) ≤ observedMonotonicNs ∧
  ∃ before issue later, events = before ++ .call issue :: later ∧ issue.store = store ∧
    IssuedAt db before issue a ∧
    ∀ mid e rest, later = mid ++ e :: rest →
      ¬ e.Commits (World.after db (before ++ .call issue :: mid)) (a.claims.kind, a.claims.key)

/-- What a store knows is what it has issued. -/
theorem eq_of_knows {db : Database} {before : List Event} {issue : Call} {a b : Admission}
    {store : Nat} {s : EgressStateStore} (hknows : s.Knows store a) (hissue : issue.store = store)
    (hb : IssuedAt db before issue b) (hobject : b.object = a.object)
    (hclaims : b.claims = a.claims) : a = b := by
  obtain ⟨hstore, hmint, -⟩ := hknows
  have hb := hb.mint_eq
  rw [hobject, hclaims, hissue, ← hstore] at hb
  rw [hb]
  exact Admission.ext_iff.mpr ⟨rfl, rfl, rfl, hmint⟩

/-- A probe success is only recorded for a fresh admission. -/
theorem fresh_of_recovered {db : Database} {events : List Event} {c : Call} {a : Admission}
    {observed : Int} {db' : Database} (h : Recovered c (World.after db events) a observed db') :
    Fresh db events c.store a observed := by
  obtain ⟨before, issue, later, b, hevents, hissue, hb, hobject, hclaims⟩ :=
    issued_admitted h.knows.2.2
  obtain rfl := eq_of_knows h.knows hissue hb hobject hclaims
  refine ⟨h.on_time, before, issue, later, hevents, hissue, hb, ?_⟩
  intro mid e rest hlater
  have hrevision := h.revision
  obtain ⟨admitted, hr, ha⟩ := hb
  rw [revision_of_admitted hr ha, hevents, List.append_cons] at hrevision
  rw [List.append_cons]
  refine not_commits_of_revision ?_ hlater
  rw [hrevision, after_concat, restriction_step]
  rintro ⟨c', hc, htarget, -⟩
  cases hc
  rw [(target_of_admitted hr).1] at htarget
  cases htarget

/-- Several stores share a database. After every history, a deadline decreases only when a probe
success of its own target is recorded; it is recorded only for an admission that is fresh, and then
the restriction is lifted; every call that is not recorded raises, and changes nothing. -/
theorem run_fenced (db : Database) (events : List Event) (e : Event) :
    let w := World.after db events
    (∀ t, e.Recovers w t ∨
      (w.db.restriction t).banUntilUnixNs ≤ ((w.step e).db.restriction t).banUntilUnixNs ∧
      (w.db.restriction t).cooldownUntilUnixNs ≤
        ((w.step e).db.restriction t).cooldownUntilUnixNs) ∧
    (∀ c a observed, e = .call c → c.method.probe = some (a, observed) →
      (∃ db', c.result w = .ok (.inl db') ∧ Fresh db events c.store a observed ∧
        (w.step e).db.restriction (a.claims.kind, a.claims.key) =
          (w.db.restriction (a.claims.kind, a.claims.key)).lifted) ∨
      ∃ err, c.result w = .error err ∧ w.step e = w) ∧
    ∀ c err, e = .call c → c.result w = .error err → w.step e = w := by
  intro w
  have herror (c : Call) (err : StoreError) (he : e = .call c) (hr : c.result w = .error err) :
      w.step e = w := by
    subst he
    simp [World.step, hr]
  refine ⟨?_, ?_, herror⟩
  · intro t
    by_cases h : e.Recovers w t
    · exact .inl h
    · exact .inr (deadlines_step h)
  · intro c a observed he hprobe
    cases hr : c.result w with
    | error err => exact .inr ⟨err, rfl, herror c err he hr⟩
    | ok r =>
      left
      cases r with
      | inl db' =>
        refine ⟨db', rfl, ?_⟩
        cases does_of_result hr with
        | keeps _ probe _ =>
          rw [probe] at hprobe
          cases hprobe
        | raises _ _ probe _ _ =>
          rw [probe] at hprobe
          cases hprobe
        | recovers b observed' recovered _ =>
          have := recovered.probe
          rw [hprobe] at this
          cases this
          refine ⟨fresh_of_recovered recovered, ?_⟩
          subst he
          simp only [World.step, hr]
          exact recovered.lifted
      | inr admitted =>
        rw [(target_of_admitted hr).2] at hprobe
        cases hprobe

/-- A probe success for the admission `0`, issued by the store `0` at the revision `1`. -/
def lateProbe : Event :=
  let claims : Claims := ⟨.quota, ("binance", "main"), 1, 10⟩
  .call { store := 0, method := .recordQuotaProbeSuccess ⟨0, claims, 0, claims⟩ 20 }

/-- A ban of ten nanoseconds, and an admission to probe after it. -/
def bannedAndAdmitted : List Event :=
  let egress : Egress := ⟨"egress", "main", 20, by decide, by decide, by decide⟩
  [.call { store := 0, method := .recordBan "binance" "main" 10 "http_418" },
    .call { store := 0, method := .admitHealth "binance" [egress] 0 0 }]

example : ((World.after {} (bannedAndAdmitted ++ [lateProbe])).db.restriction
    (.quota, ("binance", "main"))) = { revision := 2 } := by decide +kernel

-- a ban by another store wins
example : ((World.after {} (bannedAndAdmitted ++
    [.call { store := 1, method := .recordBan "binance" "main" 50 "http_418" }, lateProbe])).db
    |>.restriction (.quota, ("binance", "main"))) =
    { banUntilUnixNs := 50, pending := true, revision := 2 } := by decide +kernel

end CryptoCollector.Network
