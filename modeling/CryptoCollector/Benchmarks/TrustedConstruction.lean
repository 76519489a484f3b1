import CryptoCollector.Benchmarks.GateDrafts
import CryptoCollector.Benchmarks.ScheduleOrder

/-!
# Trusted construction

`benchmarks/oracle.py: iter_plan_events, build_native_draft` build events, drafts and sources with
`model_construct`. What they build is what the validations accept.

* `iterPlanEvents_trusted`: the events of a plan and their drafts pass every validation, and no two
  identities of an exchange share a logical key.
-/

namespace CryptoCollector.Benchmarks

open Lib Storage

section Trusted

variable {H : Hashlib} {L : PayloadLibraries}

/-- `_sequence_key`. -/
def DraftFields.sequenceKey (d : DraftFields) : LogicalKey :=
  ⟨d.market, d.instrumentKey, d.logicalStream⟩

/-- An identity of a plan. -/
def WorkloadPlanV1.HasIdentity (p : WorkloadPlanV1 H) (i : IdentityFacts) : Prop :=
  ∃ s ∈ p.streams, s.identityFactsAt i.identityIndex = .ok i

/-- A logical stream belongs to one group. -/
theorem StreamGroup.eq_of_mem_logicalStreams {g g' : StreamGroup} {l : LogicalStream}
    (h : l ∈ g.logicalStreams) (h' : l ∈ g'.logicalStreams) : g = g' := by
  revert h h'
  cases g <;> cases g' <;> cases l <;> decide

/-- Two identities of a plan with one exchange and one logical key are the same identity. -/
theorem WorkloadPlanV1.eq_of_key_eq {p : WorkloadPlanV1 H} {i j : IdentityFacts}
    (hi : p.HasIdentity i) (hj : p.HasIdentity j) (hexchange : i.exchange = j.exchange)
    (hkey : i.key = j.key) : i = j := by
  obtain ⟨s, hs, hi⟩ := hi
  obtain ⟨t, ht, hj⟩ := hj
  have hstream : i.logicalStream = j.logicalStream :=
    LogicalStream.value_injective (congrArg LogicalKey.logicalStream hkey)
  have hgroup : s.streamGroup = t.streamGroup := by
    have hi' := (StreamPlanFields.identityAt_of_eq_ok s.lawful hi).logicalStream
    have hj' := (StreamPlanFields.identityAt_of_eq_ok t.lawful hj).logicalStream
    rw [s.lawful.logicalStreams] at hi'
    rw [t.lawful.logicalStreams, ← hstream] at hj'
    exact StreamGroup.eq_of_mem_logicalStreams hi' hj'
  have hsame : s = t := p.eq_of_streamGroup hs ht hgroup
  subst hsame
  have hindex := StreamPlanFields.eq_of_key_eq s.lawful hi hj hexchange hkey
  rw [hindex, hj] at hi
  exact (Except.ok.inj hi).symm

/-- The routing of a draft is that of its event. -/
theorem routing_of_buildNativeDraft {e : PlannedEventV1} {start : Int} {d : NativeDraft}
    (h : e.buildNativeDraft L start = .ok d) :
    d.draft.exchange = e.exchange ∧
      d.draft.sequenceKey = ⟨e.market, e.instrumentKey, e.logicalStream.value⟩ ∧
      d.shard = e.draftShard := by
  unfold PlannedEventV1.buildNativeDraft at h
  obtain ⟨-, h⟩ := throw_bind_eq_ok.mp h
  dsimp only at h
  obtain ⟨source, -, h⟩ := bind_eq_ok.mp h
  obtain ⟨rest, -, h⟩ := bind_eq_ok.mp h
  obtain ⟨payload, -, h⟩ := bind_eq_ok.mp h
  obtain ⟨-, h⟩ := checked_eq_ok.mp h
  cases h
  exact ⟨rfl, rfl, rfl⟩

/-- The draft of an event has the logical key and the shard of an identity of the plan. -/
theorem exists_identity_of_draft {p : WorkloadPlanV1 H} {scheduled : ScheduledEvent H}
    (hscheduled : scheduled.summary ∈ p.streams) {e : PlannedEventV1}
    (h : buildEvent H L scheduled = .ok e) {start : Int} {d : NativeDraft}
    (hd : e.buildNativeDraft L start = .ok d) :
    ∃ i, p.HasIdentity i ∧ d.draft.exchange = i.exchange ∧ d.draft.sequenceKey = i.key ∧
      d.shard = i.shard := by
  obtain ⟨identity, localSequence, payload, hidentity, -, rfl⟩ := exists_of_buildEvent h
  exact ⟨identity, ⟨_, hscheduled, hidentity⟩, routing_of_buildNativeDraft hd⟩

/-- Every event that `iter_plan_events` yields passes `validate_event`. From every admission start,
`build_native_draft` builds a draft and a source of it that pass the validations of their models
and of the ingress, with the logical key and the shard of an identity of the plan; no other
identity of its exchange has that key. -/
theorem iterPlanEvents_trusted (hL : L.Documented) (p : WorkloadPlanV1 H) :
    (∀ e ∈ (iterPlanEvents L p).1, e.validate H L.toJsonLibraries = none ∧
      ∀ start : Int, 0 ≤ start → ∃ d, e.buildNativeDraft L start = .ok d ∧ d.Admissible L e ∧
        ∃ i, p.HasIdentity i ∧ d.draft.exchange = i.exchange ∧ d.draft.sequenceKey = i.key ∧
          d.shard = i.shard) ∧
    ∀ i j, p.HasIdentity i → p.HasIdentity j → i.exchange = j.exchange → i.key = j.key →
      i = j := by
  refine ⟨fun e he => ?_, fun i j => WorkloadPlanV1.eq_of_key_eq⟩
  rw [iterPlanEvents, planSchedule_eq] at he
  obtain ⟨scheduled, hmem, hbuilt⟩ := exists_of_mem_yielded he
  obtain ⟨s, hs, place, -, rfl⟩ := WorkloadPlanV1.mem_scheduled.mp (mem_sortedBy.mp hmem)
  refine ⟨validate_of_buildEvent hL hbuilt, fun start hstart => ?_⟩
  obtain ⟨d, hd, hadmissible⟩ := exists_admissible hL hbuilt hstart
  exact ⟨d, hd, hadmissible,
    exists_identity_of_draft hs hbuilt hd⟩

end Trusted

/-- The events of the default workload. -/
theorem researchPlan_trusted : ∃ p, researchPlan = .ok p ∧
    (∀ e ∈ (iterPlanEvents compactPayloads p).1,
      e.validate hashlib compactPayloads.toJsonLibraries = none ∧
      ∀ start : Int, 0 ≤ start → ∃ d, e.buildNativeDraft compactPayloads start = .ok d ∧
        d.Admissible compactPayloads e ∧
        ∃ i, p.HasIdentity i ∧ d.draft.exchange = i.exchange ∧ d.draft.sequenceKey = i.key ∧
          d.shard = i.shard) ∧
    ∀ i j, p.HasIdentity i → p.HasIdentity j → i.exchange = j.exchange → i.key = j.key →
      i = j := by
  obtain ⟨p, hp, -⟩ := exists_researchPlan
  exact ⟨p, hp, iterPlanEvents_trusted compactPayloads_documented p⟩

end CryptoCollector.Benchmarks
