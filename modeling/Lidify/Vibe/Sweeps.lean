import Lidify.Vibe.Cleanup
import Mathlib.Data.Fintype.Basic
/-
**The cleanup sweeps interleaved with the analysis worker: blind writes and the retry budget.**

Sweep calls `k` and the analysis worker share the track table. A run is any sequence of `Event`s:
a call performs its next `await` (possibly throwing), the worker moves a track, or the clock
advances. Both sweeps update by id only, so what they write was decided at their read.

* `step_keeps_capped` / `run_keeps_capped` — **with `cleanupStaleProcessing` as the only sweep**
  (any number of calls, any faults) and the worker, in any interleaving, from any table where
  every track past `VIBE_MAX_RETRIES` is `failed`, that stays so: the stale sweep's cap check is
  on the count it read, and it writes a count it checked.
* `cleanupStaleProcessing_resets_completed_track` — the worker completes a slow track between the
  sweep's `findMany` and its `update`; the update resets the completed, embedded track to null.
* `cleanupOrphanedCompleted_uncaps_track` — one orphan sweep takes a completed track without an
  embedding that had used its last retry to count `4` with a null status.
-/

namespace Lidify.Vibe

/-- The analysis worker, which is not among these sources: it picks up a track whose status is
null, and completes (writing the embedding row, or stalled without it), fails or restarts one that
is `processing`, stamping the status and leaving the retry count alone. -/
inductive Work (ι : Type)
  | pickUp (track : ι)
  | complete (track : ι) (embedding : Bool)
  | fail (track : ι)
  | restart (track : ι)
  deriving DecidableEq, Repr

section Worker

variable {ι : Type}

/-- The track a worker move touches. -/
def Work.track : Work ι → ι
  | .pickUp track | .complete track _ | .fail track | .restart track => track

/-- The status a worker move starts from. -/
def Work.source : Work ι → Option String
  | .pickUp _ => none
  | _ => some "processing"

/-- The status a worker move writes. -/
def Work.target : Work ι → String
  | .complete _ _ => "completed"
  | .fail _ => "failed"
  | _ => "processing"

/-- The move writes the track's embedding row. -/
def Work.embeds : Work ι → Bool
  | .complete _ embedding => embedding
  | _ => false

theorem Work.source_ne_failed (move : Work ι) : move.source ≠ some "failed" := by
  cases move <;> simp [Work.source]

variable [DecidableEq ι]

/-- A worker move; on a track not in the status it starts from it changes nothing. -/
def Work.apply (store : Store ι) (move : Work ι) : Store ι :=
  if (store.tracks move.track).vibeAnalysisStatus = move.source then
    { store with
      tracks := Function.update store.tracks move.track
        { store.tracks move.track with
          vibeAnalysisStatus := some move.target
          vibeAnalysisStatusUpdatedAt := some store.now }
      embedded :=
        if move.embeds then Function.update store.embedded move.track true else store.embedded }
  else store

end Worker

/-- The table, and where every sweep call is. -/
structure World (ι κ : Type) where
  store : Store ι
  sweeps : κ → Sweep ι

/-- What can happen next in an interleaving. -/
inductive Event (ι κ : Type)
  | sweep (call : κ) (fault : Bool)
  | work (move : Work ι)
  | tick (elapsed : Nat)
  deriving DecidableEq, Repr

section System

variable {ι κ : Type} [DecidableEq ι] [DecidableEq κ] (rows : List ι)

/-- One event, against the table whose tracks are `rows` in scan order. -/
def next (world : World ι κ) : Event ι κ → World ι κ
  | .sweep call fault =>
    let answered := (world.sweeps call).advance rows world.store fault
    ⟨answered.2, Function.update world.sweeps call answered.1⟩
  | .work move => { world with store := move.apply world.store }
  | .tick elapsed => { world with store := { world.store with now := world.store.now + elapsed } }

/-- A whole interleaving. -/
def run (world : World ι κ) (events : List (Event ι κ)) : World ι κ :=
  events.foldl (next rows) world

/-- Every track past its budget is `failed`. -/
def CapInvariant (store : Store ι) : Prop := ∀ i, (store.tracks i).WithinCap

instance [Fintype ι] (store : Store ι) : Decidable (CapInvariant store) :=
  Fintype.decidableForallFintype

/-- The budget holds and every sweep call is a `cleanupStaleProcessing` call. -/
structure Capped (world : World ι κ) : Prop where
  withinCap : CapInvariant world.store
  stale : ∀ call, (world.sweeps call).IsStale

omit [DecidableEq ι] in
/-- A track within its budget that is not `failed` has not exceeded it. -/
theorem not_exceeded_of_withinCap {track : Track} (within : track.WithinCap)
    (notFailed : track.vibeAnalysisStatus ≠ some "failed") :
    ¬ vibeMaxRetries < track.vibeAnalysisRetryCount.getD 0 :=
  fun exceeded => notFailed (within exceeded)

/-- A worker move keeps every track within its budget: it leaves counts alone and moves only tracks
that are not `failed`. -/
theorem Work.apply_keeps_capInvariant {store : Store ι} (holds : CapInvariant store)
    (move : Work ι) : CapInvariant (move.apply store) := by
  unfold Work.apply
  split
  case isFalse => exact holds
  case isTrue source =>
    intro i
    by_cases same : i = move.track
    · subst same
      have fresh := not_exceeded_of_withinCap (holds move.track)
        (source ▸ move.source_ne_failed)
      simp only [Function.update_same]
      exact fun exceeded => absurd exceeded fresh
    · simpa [Function.update_noteq same] using holds i

/-- **One event keeps `Capped`.** -/
theorem step_keeps_capped {world : World ι κ} (holds : Capped world) (event : Event ι κ) :
    Capped (next rows world event) := by
  cases event with
  | sweep call fault =>
    obtain ⟨stale, written⟩ := advance_of_isStale rows (holds.stale call) world.store fault
    refine ⟨?_, fun other => ?_⟩
    · rcases written with unchanged | ⟨i, count, wrote⟩
      · simpa [next, unchanged] using holds.withinCap
      · intro j
        simp only [next, wrote]
        by_cases same : j = i
        · subst same
          simpa using staleUpdate_withinCap _ _ _
        · simpa [Function.update_noteq same] using holds.withinCap j
    · by_cases same : other = call
      · subst same
        simpa [next] using stale
      · simpa [next, Function.update_noteq same] using holds.stale other
  | work move => exact ⟨move.apply_keeps_capInvariant holds.withinCap, holds.stale⟩
  | tick elapsed => exact ⟨holds.withinCap, holds.stale⟩

/-- **Stale sweeps and the worker never uncap a track**, over every interleaving. -/
theorem run_keeps_capped {world : World ι κ} (holds : Capped world) (events : List (Event ι κ)) :
    Capped (run rows world events) := by
  induction events generalizing world with
  | nil => exact holds
  | cons event rest keeps => exact keeps (step_keeps_capped rows holds event)

end System

/-! ### Two runs the by-id writes get wrong -/

/-- One track, `processing` since instant `0`, with one `cleanupStaleProcessing` call about to
start thirty minutes and a millisecond later. -/
def slowAnalysis : World (Fin 1) (Fin 1) :=
  ⟨⟨fun _ => ⟨some "processing", some 0, some 0, none, 0⟩, fun _ => false,
    staleThresholdMinutes * 60 * 1000 + 1⟩, fun _ => .findStale⟩

theorem slowAnalysis_stays_capped :
    Capped slowAnalysis ∧
      Capped (run [0] slowAnalysis [.sweep 0 false, .work (.complete 0 true), .sweep 0 false]) :=
  have capped : Capped slowAnalysis := ⟨by decide, fun _ => trivial⟩
  ⟨capped, run_keeps_capped [0] capped _⟩

/-- **The stale sweep overwrites a completed analysis.** The sweep reads the slow track, the worker
then completes it with its embedding, and the sweep's `update` by id resets its status to null and
counts a retry, although at that moment it is no longer `processing`. -/
theorem cleanupStaleProcessing_resets_completed_track :
    let read := run [0] slowAnalysis [.sweep 0 false, .work (.complete 0 true)]
    let written := next [0] read (.sweep 0 false)
    read.sweeps 0 = .updateStale [(0, some 0)] 0 ∧
      (read.store.tracks 0).vibeAnalysisStatus = some "completed" ∧ read.store.embedded 0 = true ∧
      (read.store.tracks 0).isStale (staleCutoff read.store.now) = false ∧
      (written.store.tracks 0).vibeAnalysisStatus = none ∧
      (written.store.tracks 0).vibeAnalysisRetryCount = some 1 ∧
      written.store.embedded 0 = true ∧ written.sweeps 0 = .staleDone 1 := by
  decide

/-- One track that used its last retry and then completed at instant `0` without an embedding (a
stalled CLAP analysis), with one `cleanupOrphanedCompleted` call, every option omitted, about to
start five minutes and a millisecond later. -/
def stalledLastRetry : World (Fin 1) (Fin 1) :=
  ⟨⟨fun _ => ⟨some "completed", some 3, some 0, none, 0⟩, fun _ => false, 5 * 60 * 1000 + 1⟩,
    fun _ => .queryOrphans ⟨none, none, none⟩⟩

/-- **The orphan sweep puts a track past its budget back in the queue.** The table starts within
budget; after the sweep's query and its `updateMany` the track has count `4` and a null status. -/
theorem cleanupOrphanedCompleted_uncaps_track :
    CapInvariant stalledLastRetry.store ∧
      let after := run [0] stalledLastRetry [.sweep 0 false, .sweep 0 false]
      after.sweeps 0 = .orphanDone ⟨1, 0, 1⟩ ∧
        (after.store.tracks 0).vibeAnalysisRetryCount = some 4 ∧
        (after.store.tracks 0).vibeAnalysisStatus = none ∧ ¬ CapInvariant after.store := by
  decide

end Lidify.Vibe
