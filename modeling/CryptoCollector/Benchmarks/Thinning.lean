import CryptoCollector.Benchmarks.WorkerRounds
import Mathlib.Data.List.Chain

/-!
# Thinned rounds

A sub-sequence of accepted rounds that keeps the final round is accepted, when its rounds and their
samples are numbered from zero again.

* `exists_validated_reindexed`.
-/

namespace CryptoCollector.Benchmarks

open Lib Storage

/-- A sample of the round with another index. -/
def WorkerSample.reindex (s : WorkerSample) (index : Nat) : WorkerSample :=
  { s with roundIndex := index }

/-- A round with another index. -/
def WorkerRound.reindex (r : WorkerRound) (index : Nat) : WorkerRound :=
  { r with roundIndex := index, samples := r.samples.map fun s => s.reindex index }

/-- Some rounds, numbered from an index. -/
def reindexedFrom (index : Nat) (rounds : List WorkerRound) : List WorkerRound :=
  (rounds.zipIdx index).map fun x => x.1.reindex x.2

/-- Some rounds, numbered from zero. -/
def reindexed (rounds : List WorkerRound) : List WorkerRound := reindexedFrom 0 rounds

theorem reindexedFrom_cons (index : Nat) (r : WorkerRound) (rounds : List WorkerRound) :
    reindexedFrom index (r :: rounds) = r.reindex index :: reindexedFrom (index + 1) rounds := rfl

theorem reindexed_concat (init : List WorkerRound) (final : WorkerRound) :
    reindexed (init ++ [final]) = reindexed init ++ [final.reindex init.length] := by
  simp [reindexed, reindexedFrom, List.zipIdx_append]

section Reindex

variable {L : JsonLibraries} {requireNonoverlap : Bool} {r r' : WorkerRound}

/-- The validation of a round does not depend on its index. -/
theorem checks_reindex (h : r.checks.run = .ok ()) (index : Nat) :
    (r.reindex index).checks.run = .ok () := by
  have hround := validRound_of_checks h
  rw [Checks.run_eq_ok, WorkerRound.checks, List.forall_mem_append] at h ⊢
  obtain ⟨hparts, hfacts⟩ := h
  constructor
  · have hsamples : (r.reindex index).samples.flatMap WorkerSample.checks =
        r.samples.flatMap WorkerSample.checks := List.flatMap_map _ _ _
    rw [hsamples]
    exact hparts
  · simp only [List.forall_mem_cons, List.not_mem_nil, false_implies, implies_true, and_true,
      decide_eq_true_eq] at hfacts ⊢
    obtain ⟨hkind, hkeys, hobserved, -⟩ := hfacts
    refine ⟨hkind, hkeys, ?_, ?_⟩
    · have hkeys : (r.reindex index).samples.map (fun s => s.snapshot.key) =
          r.samples.map (fun s => s.snapshot.key) := List.map_map
      rw [hkeys]
      exact hobserved
    · rw [WorkerRound.reindex, List.all_map, List.all_eq_true]
      intro s hs
      have hparent := hround.parents s hs
      simp only [WorkerRound.isParentOf, Bool.and_eq_true, decide_eq_true_eq] at hparent
      simp [WorkerSample.reindex, WorkerRound.isParentOf, hparent]

theorem Sound.reindex {final : Bool} (h : Sound final r) (index : Nat) :
    Sound final (r.reindex index) where
  kind := h.kind
  lifecycle hfinal := List.forall_mem_map.mpr fun s hs => h.lifecycle hfinal s hs
  final hfinal := List.forall_mem_map.mpr fun s hs => h.final hfinal s hs
  valid := checks_reindex h.valid index

theorem interval_reindex (r : WorkerRound) (index : Nat) : (r.reindex index).interval = r.interval := by
  have hstarts : (r.reindex index).samples.map WorkerSample.requestStartedMonotonicNs =
      r.samples.map WorkerSample.requestStartedMonotonicNs := List.map_map
  have hends : (r.reindex index).samples.map WorkerSample.requestCompletedMonotonicNs =
      r.samples.map WorkerSample.requestCompletedMonotonicNs := List.map_map
  rw [WorkerRound.interval, hstarts, hends, WorkerRound.interval]

theorem SampleFollows.reindex {a b : WorkerSample} (h : SampleFollows L a b) (i j : Nat) :
    SampleFollows L (a.reindex i) (b.reindex j) :=
  ⟨h.started, h.key, h.configSha256, h.configGeneration, h.schema, h.progress⟩

theorem Follows.reindex (h : Follows L requireNonoverlap r r') (i j : Nat) :
    Follows L requireNonoverlap (r.reindex i) (r'.reindex j) where
  left := checks_reindex h.left i
  right := checks_reindex h.right j
  scheduled := h.scheduled
  samples := by
    rw [WorkerRound.reindex, WorkerRound.reindex, List.forall₂_map_left_iff,
      List.forall₂_map_right_iff]
    exact h.samples.imp fun _ _ hab => hab.reindex i j
  interval := by
    rw [interval_reindex, interval_reindex]
    exact h.interval

end Reindex

section Rounds

variable {L : JsonLibraries} {requireNonoverlap : Bool}

theorem isChain_reindexedFrom {rounds : List WorkerRound}
    (h : rounds.IsChain (Follows L requireNonoverlap)) (index : Nat) :
    (reindexedFrom index rounds).IsChain (Follows L requireNonoverlap) := by
  induction rounds generalizing index with
  | nil => exact .nil
  | cons r rounds ih =>
    cases rounds with
    | nil => exact .singleton _
    | cons r' rounds =>
      rw [List.isChain_cons_cons] at h
      exact .cons_cons (h.1.reindex index (index + 1)) (ih h.2 (index + 1))

theorem roundIndex_reindexedFrom (rounds : List WorkerRound) (index : Nat) :
    ∀ x ∈ (reindexedFrom index rounds).zipIdx index, x.1.roundIndex = x.2 := by
  induction rounds generalizing index with
  | nil => nofun
  | cons r rounds ih =>
    rw [reindexedFrom_cons, List.zipIdx_cons, List.forall_mem_cons]
    exact ⟨rfl, ih (index + 1)⟩

/-- Rounds that are left out before the final one are not missed. -/
theorem AcceptedRounds.reindexed {init thin : List WorkerRound} {final : WorkerRound}
    (h : AcceptedRounds L requireNonoverlap init final) (hthin : thin.Sublist init) :
    AcceptedRounds L requireNonoverlap (reindexed thin) (final.reindex thin.length) where
  indices := by
    rw [← reindexed_concat]
    exact roundIndex_reindexedFrom _ 0
  earlier r hr := by
    obtain ⟨x, hx, rfl⟩ := List.mem_map.mp hr
    have hmem : x.1 ∈ thin := List.zipIdx_map_fst 0 thin ▸ List.mem_map_of_mem hx
    exact (h.earlier x.1 (hthin.subset hmem)).reindex x.2
  last := h.last.reindex _
  chain := by
    rw [← reindexed_concat]
    exact isChain_reindexedFrom (h.chain.sublist (hthin.append_right [final])) 0

/-- A sub-sequence of accepted rounds that keeps the final one is accepted. -/
theorem exists_validated_reindexed (hL : Distinguishes L) {rounds thin : List WorkerRound}
    {expectedWorkers : List WorkerKey} {v : ValidatedWorkerSequences}
    (h : validateWorkerRounds L rounds expectedWorkers requireNonoverlap = .ok v)
    (hthin : thin.Sublist rounds) (hlast : thin.getLast? = rounds.getLast?) :
    ∃ v', validateWorkerRounds L (reindexed thin) expectedWorkers requireNonoverlap = .ok v' := by
  obtain ⟨hworkers, init, final, rfl, haccepted⟩ := (exists_validated_iff hL).mp ⟨v, h⟩
  rw [List.getLast?_concat] at hlast
  obtain ⟨thin', rfl⟩ := List.getLast?_eq_some_iff.mp hlast
  have hsub : thin'.Sublist init := (List.append_sublist_append_right [final]).mp hthin
  rw [exists_validated_iff hL, reindexed_concat]
  exact ⟨hworkers, _, _, rfl, haccepted.reindexed hsub⟩

end Rounds

end CryptoCollector.Benchmarks
