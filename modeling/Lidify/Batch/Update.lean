import Mathlib.Logic.Function.Basic
import Mathlib.Tactic.Common
/-
**`updateBatchStatus` as a program that stops at each `await`.**

`services/discovery/optimisticBatchUpdate.ts` reads the batch's version, writes the new fields
with `where {id, version: currentVersion}` and `version: currentVersion + 1`, and on a version
conflict (`P2025` or a message containing `Record to update not found`) counts a retry, sleeps a
random time and loops while `retries <= maxRetries`. A call is a `Step`: the next `await` it will
perform (`read`, `write`, `sleep`) or its returned `BatchUpdateResult`. The store's answer to an
`await` moves it to the next `Step`:

* `loopHead` — the `while` test, with the `Update loop exited unexpectedly` return after the loop;
* `onFound` — after `findUnique`: `Batch … not found`, or the conditional write of
  `current.version ?? 0`;
* `onUpdated` — after the write succeeds: `success` with `updated.version ?? nextVersion`;
* `onError` — the `catch`, shared by both store calls: a conflict counts a retry and sleeps, or
  returns `Max retries reached …` past the budget; any other error returns at once.

The interleavings of many calls are in `Lidify.Batch.Concurrent`.
-/

namespace Lidify.Batch

/-- `String.prototype.includes`. -/
def includes (text pattern : String) : Bool :=
  text.data.tails.any pattern.data.isPrefixOf

/-- The optional fields a caller sets (`BatchUpdateData`); `errorMessage` may set `null`. -/
structure BatchUpdateData where
  status : Option String
  totalAlbums : Option Nat
  completedAlbums : Option Nat
  failedAlbums : Option Nat
  finalSongCount : Option Nat
  errorMessage : Option (Option String)
  completedAt : Option Nat
  deriving DecidableEq, Repr

/-- The `DiscoveryBatch` columns `BatchUpdateData` can write. -/
structure BatchFields where
  status : String
  totalAlbums : Nat
  completedAlbums : Nat
  failedAlbums : Nat
  finalSongCount : Nat
  errorMessage : Option String
  completedAt : Option Nat
  deriving DecidableEq, Repr

/-- Prisma's `data: {...data}`: a field left `undefined` is not written. -/
def BatchUpdateData.apply (data : BatchUpdateData) (fields : BatchFields) : BatchFields where
  status := data.status.getD fields.status
  totalAlbums := data.totalAlbums.getD fields.totalAlbums
  completedAlbums := data.completedAlbums.getD fields.completedAlbums
  failedAlbums := data.failedAlbums.getD fields.failedAlbums
  finalSongCount := data.finalSongCount.getD fields.finalSongCount
  errorMessage := data.errorMessage.getD fields.errorMessage
  completedAt := data.completedAt.or fields.completedAt

/-- The value a column ends with under successive writes: the last value one of them defines, or
the initial value when none defines it. -/
def lastDefined {α : Type} (initial : α) (values : List (Option α)) : α :=
  (values.reverse.findSome? id).getD initial

/-- What successive `{ ...data }` writes leave in the columns, column by column: a field a later
write defines overwrites, a field it leaves `undefined` keeps what the column held. -/
def overwritten (fields : BatchFields) (updates : List BatchUpdateData) : BatchFields where
  status := lastDefined fields.status (updates.map (·.status))
  totalAlbums := lastDefined fields.totalAlbums (updates.map (·.totalAlbums))
  completedAlbums := lastDefined fields.completedAlbums (updates.map (·.completedAlbums))
  failedAlbums := lastDefined fields.failedAlbums (updates.map (·.failedAlbums))
  finalSongCount := lastDefined fields.finalSongCount (updates.map (·.finalSongCount))
  errorMessage := lastDefined fields.errorMessage (updates.map (·.errorMessage))
  completedAt := lastDefined fields.completedAt (updates.map (·.completedAt.map some))

theorem lastDefined_append_single {α : Type} (initial : α) (values : List (Option α))
    (value : Option α) :
    lastDefined initial (values ++ [value]) = value.getD (lastDefined initial values) := by
  cases value <;> simp [lastDefined]

@[simp] theorem overwritten_nil (fields : BatchFields) : overwritten fields [] = fields := rfl

/-- **One more write is one more `apply`.** -/
@[simp] theorem overwritten_append_single (fields : BatchFields) (updates : List BatchUpdateData)
    (data : BatchUpdateData) :
    overwritten fields (updates ++ [data]) = data.apply (overwritten fields updates) := by
  cases completed : data.completedAt <;>
    simp [overwritten, BatchUpdateData.apply, lastDefined_append_single, completed]

theorem overwritten_single (fields : BatchFields) (data : BatchUpdateData) :
    overwritten fields [data] = data.apply fields :=
  overwritten_append_single fields [] data

/-- The batch row: the writable columns and the (nullable) version. -/
structure DiscoveryBatch where
  fields : BatchFields
  version : Option Nat
  deriving DecidableEq, Repr

/-- What `updateBatchStatus` returns. -/
structure BatchUpdateResult where
  success : Bool
  version : Option Nat
  retries : Nat
  error : Option String
  deriving DecidableEq, Repr

/-- An error a store call throws: its `code` and its `message`, either possibly absent. -/
structure StoreError where
  code : Option String
  message : Option String
  deriving DecidableEq, Repr

/-- The conditional write's no-match, as Prisma reports it. -/
def versionConflict : StoreError := ⟨some "P2025", some "Record to update not found."⟩

/-- `error.code === 'P2025' || error.message?.includes('Record to update not found')`. -/
def StoreError.isVersionConflict (error : StoreError) : Bool :=
  error.code == some "P2025" ||
    error.message.any (includes · "Record to update not found")

/-- The next `await` of a call, with its retry count, or its result. -/
inductive Step
  | read (retries : Nat)
  | write (retries currentVersion : Nat)
  | sleep (retries : Nat)
  | done (result : BatchUpdateResult)
  deriving DecidableEq, Repr

section Program

variable (batchId : String) (maxRetries : Int)

/-- The `while (retries <= maxRetries)` test, and the return after the loop. -/
def loopHead (retries : Nat) : Step :=
  if (retries : Int) ≤ maxRetries then .read retries
  else .done ⟨false, none, retries, some "Update loop exited unexpectedly"⟩

/-- After `findUnique`: the batch is gone, or its version (null read as `0`) is written against. -/
def onFound (retries : Nat) : Option (Option Nat) → Step
  | none => .done ⟨false, none, retries, some s!"Batch {batchId} not found"⟩
  | some version => .write retries (version.getD 0)

/-- After the conditional write succeeds. -/
def onUpdated (retries currentVersion : Nat) (updatedVersion : Option Nat) : Step :=
  .done ⟨true, some (updatedVersion.getD (currentVersion + 1)), retries, none⟩

/-- The `catch` block, for an error of either store call. -/
def onError (retries : Nat) (error : StoreError) : Step :=
  if error.isVersionConflict then
    if (retries + 1 : Int) > maxRetries then
      .done ⟨false, none, retries + 1, some s!"Max retries reached after {maxRetries} attempts"⟩
    else .sleep (retries + 1)
  else
    let message := error.message.getD "undefined"
    .done ⟨false, none, retries, some s!"Unexpected error: {message}"⟩

/-- After the sleep, back to the `while` test. -/
def onWake (retries : Nat) : Step := loopHead maxRetries retries

/-- The first `Step` of a call. -/
def start : Step := loopHead maxRetries 0

end Program

/-- The result of a finished call. -/
def Step.result? : Step → Option BatchUpdateResult
  | .done result => some result
  | _ => none

/-- The call returned `success: true`. -/
def Step.succeeded (step : Step) : Prop := ∃ result, step = .done result ∧ result.success = true

theorem loopHead_not_succeeded (maxRetries : Int) (retries : Nat) :
    ¬ (loopHead maxRetries retries).succeeded := by
  unfold loopHead Step.succeeded
  split <;> simp

theorem onFound_not_succeeded (batchId : String) (retries : Nat) (found : Option (Option Nat)) :
    ¬ (onFound batchId retries found).succeeded := by
  cases found <;> simp [onFound, Step.succeeded]

theorem onError_not_succeeded (maxRetries : Int) (retries : Nat) (error : StoreError) :
    ¬ (onError maxRetries retries error).succeeded := by
  unfold onError Step.succeeded
  split
  · split <;> simp
  · simp

end Lidify.Batch
