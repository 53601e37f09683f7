import Mathlib.Logic.Function.Basic
import Mathlib.Tactic.Common
/-
**The two vibe-analysis cleanup sweeps as programs that stop at each `await`.**

`services/vibeAnalysisCleanup.ts` repairs tracks whose CLAP analysis stalled.

* `cleanupStaleProcessing` reads every track still `processing` whose status stamp (or, when that
  is null, `updatedAt`) is older than `STALE_THRESHOLD_MINUTES`, then updates each **by id**: past
  `VIBE_MAX_RETRIES` it is marked `failed`, otherwise its status is reset to null, and in both
  cases the retry count becomes the count it read plus one.
* `cleanupOrphanedCompleted` reads a page of the tracks `completed` with no `track_embeddings`
  row and a status stamp older than five minutes, then (unless `dryRun`) resets them all **by
  id** in one `updateMany`, incrementing the retry count.

Each sweep is a `Sweep`: its next `await` or what it returned. `Sweep.advance` answers the `await`
against the store, which is where other writers may have moved in between.

* `staleUpdate_withinCap` — the stale sweep's write never leaves a track past its budget outside
  `failed`, whatever count it read.
-/

namespace Lidify.Vibe

/-- `STALE_THRESHOLD_MINUTES`. -/
def staleThresholdMinutes : Nat := 30

/-- `VIBE_MAX_RETRIES`. -/
def vibeMaxRetries : Nat := 3

/-- The `Track` columns the sweeps filter on or write; instants are milliseconds. -/
structure Track where
  vibeAnalysisStatus : Option String
  vibeAnalysisRetryCount : Option Nat
  vibeAnalysisStatusUpdatedAt : Option Nat
  vibeAnalysisError : Option String
  updatedAt : Nat
  deriving DecidableEq, Repr

/-- The tracks, whether each has a `track_embeddings` row, and the clock (`Date.now()`). -/
structure Store (ι : Type) where
  tracks : ι → Track
  embedded : ι → Bool
  now : Nat

/-! ### `cleanupStaleProcessing` -/

/-- `new Date(Date.now() - STALE_THRESHOLD_MINUTES * 60 * 1000)`. -/
def staleCutoff (now : Nat) : Nat := now - staleThresholdMinutes * 60 * 1000

/-- The `findMany` filter. A null stamp is never `lt` the cutoff, so the `OR`'s first arm needs a
stamp and its second arm needs none. -/
def Track.isStale (cutoff : Nat) (track : Track) : Bool :=
  track.vibeAnalysisStatus == some "processing" &&
    match track.vibeAnalysisStatusUpdatedAt with
    | some stamp => decide (stamp < cutoff)
    | none => decide (track.updatedAt < cutoff)

/-- `(track.vibeAnalysisRetryCount ?? 0) + 1`. -/
def newRetryCount (retryCount : Option Nat) : Nat := retryCount.getD 0 + 1

/-- The loop body's two `update`s, with the count the sweep read. -/
def staleUpdate (now newRetryCount : Nat) (track : Track) : Track :=
  if newRetryCount > vibeMaxRetries then
    { track with
      vibeAnalysisStatus := some "failed"
      vibeAnalysisError := some s!"Exceeded {vibeMaxRetries} retry attempts"
      vibeAnalysisRetryCount := some newRetryCount
      vibeAnalysisStatusUpdatedAt := some now }
  else
    { track with
      vibeAnalysisStatus := none
      vibeAnalysisRetryCount := some newRetryCount
      vibeAnalysisStatusUpdatedAt := none }

/-! ### `cleanupOrphanedCompleted` -/

/-- The `options` argument, each field possibly omitted. -/
structure OrphanOptions where
  dryRun : Option Bool
  batchSize : Option Nat
  offset : Option Nat
  deriving DecidableEq, Repr

/-- What `cleanupOrphanedCompleted` returns. -/
structure OrphanResult where
  reset : Nat
  skipped : Nat
  totalOrphaned : Nat
  deriving DecidableEq, Repr

/-- `new Date(Date.now() - RECENT_THRESHOLD_MS)`, five minutes back. -/
def recentCutoff (now : Nat) : Nat := now - 5 * 60 * 1000

/-- The raw query's `WHERE`; a null stamp is never `<` the cutoff. -/
def Track.isOrphan (cutoff : Nat) (embedded : Bool) (track : Track) : Bool :=
  track.vibeAnalysisStatus == some "completed" && !embedded &&
    track.vibeAnalysisStatusUpdatedAt.any (· < cutoff)

/-- The `updateMany` data; `{ increment: 1 }` keeps a null count null, as SQL's `NULL + 1`. -/
def orphanUpdate (track : Track) : Track :=
  { track with
    vibeAnalysisStatus := none
    vibeAnalysisRetryCount := track.vibeAnalysisRetryCount.map (· + 1)
    vibeAnalysisStatusUpdatedAt := none
    vibeAnalysisError := some "Orphaned: completed but no embedding found" }

/-! ### The sweeps' `await`s -/

/-- The next `await` of a sweep, with what it read, or what it returned. -/
inductive Sweep (ι : Type)
  | findStale
  | updateStale (pending : List (ι × Option Nat)) (resetCount : Nat)
  | staleDone (reset : Nat)
  | staleRejected
  | queryOrphans (options : OrphanOptions)
  | resetOrphans (orphanedTracks : List ι)
  | orphanDone (result : OrphanResult)
  deriving DecidableEq, Repr

/-- The `for` loop: the next `update`, or `{ reset: resetCount }` after the last one. -/
def staleLoop {ι : Type} : List (ι × Option Nat) → Nat → Sweep ι
  | [], resetCount => .staleDone resetCount
  | track :: rest, resetCount => .updateStale (track :: rest) resetCount

section Program

variable {ι : Type} [DecidableEq ι] (rows : List ι)

/-- Sweep's next `await` answered by the store whose tracks are `rows` in scan order: the sweep's
next state and the store after it. A `fault` makes the store call throw, which rejects
`cleanupStaleProcessing` and is caught by `cleanupOrphanedCompleted` (its transaction rolled back).
A sweep that has returned does nothing. -/
def Sweep.advance (store : Store ι) (fault : Bool) : Sweep ι → Sweep ι × Store ι
  | .findStale =>
    if fault then (.staleRejected, store) else
    let staleTracks := rows.filter fun i => (store.tracks i).isStale (staleCutoff store.now)
    (staleLoop (staleTracks.map fun i => (i, (store.tracks i).vibeAnalysisRetryCount)) 0, store)
  | .updateStale ((i, retryCount) :: rest) resetCount =>
    if fault then (.staleRejected, store) else
    (staleLoop rest (resetCount + 1),
      { store with
        tracks := Function.update store.tracks i
          (staleUpdate store.now (newRetryCount retryCount) (store.tracks i)) })
  | .queryOrphans options =>
    if fault then (.orphanDone ⟨0, 0, 0⟩, store) else
    let batchSize := options.batchSize.getD 100
    let offset := options.offset.getD 0
    let dryRun := options.dryRun.getD false
    let orphanedTracks := ((rows.filter fun i =>
      (store.tracks i).isOrphan (recentCutoff store.now) (store.embedded i)).drop offset).take batchSize
    let totalOrphaned := orphanedTracks.length
    if totalOrphaned = 0 then (.orphanDone ⟨0, 0, 0⟩, store)
    else if dryRun then (.orphanDone ⟨0, totalOrphaned, totalOrphaned⟩, store)
    else (.resetOrphans orphanedTracks, store)
  | .resetOrphans orphanedTracks =>
    if fault then (.orphanDone ⟨0, 0, 0⟩, store) else
    let resetCount := (rows.filter (· ∈ orphanedTracks)).length
    (.orphanDone ⟨resetCount, 0, orphanedTracks.length⟩,
      { store with
        tracks := fun i =>
          if i ∈ orphanedTracks then orphanUpdate (store.tracks i) else store.tracks i })
  | sweep => (sweep, store)

/-- A `cleanupStaleProcessing` call, at any of its points. -/
def Sweep.IsStale : Sweep ι → Prop
  | .findStale | .updateStale _ _ | .staleDone _ | .staleRejected => True
  | _ => False

omit [DecidableEq ι] in
theorem staleLoop_isStale (pending : List (ι × Option Nat)) (resetCount : Nat) :
    (staleLoop pending resetCount).IsStale := by
  cases pending <;> trivial

/-- **What one `await` of the stale sweep can do**: stay a stale sweep, and leave the store as it
was or write one track with `staleUpdate`, by id, whatever the track now holds. -/
theorem advance_of_isStale {sweep : Sweep ι} (stale : sweep.IsStale) (store : Store ι)
    (fault : Bool) :
    (sweep.advance rows store fault).1.IsStale ∧
      ((sweep.advance rows store fault).2 = store ∨
        ∃ i count, (sweep.advance rows store fault).2 =
          { store with
            tracks := Function.update store.tracks i (staleUpdate store.now count (store.tracks i)) }) := by
  cases sweep with
  | findStale =>
    cases fault
    · exact ⟨staleLoop_isStale _ _, .inl rfl⟩
    · exact ⟨trivial, .inl rfl⟩
  | updateStale pending resetCount =>
    rcases pending with _ | ⟨⟨i, retryCount⟩, rest⟩
    · exact ⟨stale, .inl rfl⟩
    · cases fault
      · exact ⟨staleLoop_isStale _ _, .inr ⟨i, _, rfl⟩⟩
      · exact ⟨trivial, .inl rfl⟩
  | staleDone | staleRejected => exact ⟨stale, .inl rfl⟩
  | queryOrphans | resetOrphans | orphanDone => exact stale.elim

end Program

/-! ### The retry budget -/

/-- A track whose count exceeds `VIBE_MAX_RETRIES` is `failed`; a null count exceeds nothing. -/
def Track.WithinCap (track : Track) : Prop :=
  vibeMaxRetries < track.vibeAnalysisRetryCount.getD 0 → track.vibeAnalysisStatus = some "failed"

instance (track : Track) : Decidable track.WithinCap :=
  inferInstanceAs (Decidable (_ → _))

/-- **The stale sweep's cap check.** Whatever count it read, its write leaves the track within its
budget. -/
theorem staleUpdate_withinCap (now newRetryCount : Nat) (track : Track) :
    (staleUpdate now newRetryCount track).WithinCap := by
  unfold staleUpdate Track.WithinCap
  split
  · simp
  · simpa using Nat.le_of_not_lt ‹_›

end Lidify.Vibe
