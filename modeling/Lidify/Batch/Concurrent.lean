import Lidify.Batch.Update
import Mathlib.Data.List.Nodup
/-
**Concurrent `updateBatchStatus` calls on one batch linearize in version order.**

Any number of calls `i` (each with its own `data i` and `maxRetries i`) run against one existing
batch with no other writer. A run is any schedule: at each point one call performs its next
`await`. `findUnique` reads the batch atomically; the conditional write applies only when the stored
version is the one read, and otherwise throws Prisma's `P2025`. The ghost field `World.writes`
records the calls whose write applied, in the order they applied.

* `step_keeps_linearized` — one `await` keeps `Linearized`: the version is the initial version plus
  the number of applied writes, the fields are the initial fields overwritten by the applied writes'
  data in order, the `n`-th applied write belongs to a call that returned `success` with version
  `initial + n + 1`, and a call returned `success` only if its write applied.
* `updateBatchStatus_linearizable` — hence, in every reachable state: the successful calls are
  exactly the applied writers, each once; their returned versions are `initial + 1, …,
  initial + k` in write order; the version is `initial + k`; the fields are the initial ones
  overwritten by their data in increasing order of returned version; a failed call wrote nothing.

A batch whose stored version is `null` is written against as version `0` and never current, so
no write applies (`k = 0`); the statement covers it with `Option.map`.
-/

namespace Lidify.Batch

/-- The batch, every call's next step, and the calls whose conditional write applied, in order. -/
structure World (ι : Type) where
  batch : DiscoveryBatch
  step : ι → Step
  writes : List ι

section System

variable {ι : Type} (batchId : String) (data : ι → BatchUpdateData) (maxRetries : ι → Int)

/-- Every call about to start, on the existing batch. -/
def initial (batch : DiscoveryBatch) : World ι := ⟨batch, fun i => start (maxRetries i), []⟩

/-- The linearization invariant, relative to the initial batch. -/
structure Linearized (init : DiscoveryBatch) (world : World ι) : Prop where
  version_eq : world.batch.version = init.version.map (· + world.writes.length)
  fields_eq : world.batch.fields = overwritten init.fields (world.writes.map data)
  nodup : world.writes.Nodup
  returned : ∀ n (inRange : n < world.writes.length), ∃ retries,
    world.step world.writes[n] = .done ⟨true, init.version.map (· + (n + 1)), retries, none⟩
  writer_of_succeeded : ∀ i, (world.step i).succeeded → i ∈ world.writes

variable [DecidableEq ι]

/-- Call `i` performs its next `await` against the shared batch. -/
def next (world : World ι) (i : ι) : World ι :=
  match world.step i with
  | .read retries =>
    { world with
      step := Function.update world.step i (onFound batchId retries (some world.batch.version)) }
  | .write retries currentVersion =>
    if world.batch.version = some currentVersion then
      { batch := ⟨(data i).apply world.batch.fields, some (currentVersion + 1)⟩
        step := Function.update world.step i
          (onUpdated retries currentVersion (some (currentVersion + 1)))
        writes := world.writes ++ [i] }
    else
      { world with
        step := Function.update world.step i (onError (maxRetries i) retries versionConflict) }
  | .sleep retries =>
    { world with step := Function.update world.step i (onWake (maxRetries i) retries) }
  | .done _ => world

/-- A schedule: which call moves at each point. -/
def run (world : World ι) (schedule : List ι) : World ι :=
  schedule.foldl (next batchId data maxRetries) world

/-- The states some schedule reaches from `batch`. -/
def Reachable (batch : DiscoveryBatch) (world : World ι) : Prop :=
  ∃ schedule, run batchId data maxRetries (initial maxRetries batch) schedule = world

variable {batchId data maxRetries}

omit [DecidableEq ι] in
theorem linearized_initial (init : DiscoveryBatch) :
    Linearized data init (initial maxRetries init : World ι) where
  version_eq := by simp [initial]
  fields_eq := rfl
  nodup := List.nodup_nil
  returned := fun n inRange => absurd inRange (by simp [initial])
  writer_of_succeeded := fun i succeeded => absurd succeeded (loopHead_not_succeeded _ _)

omit [DecidableEq ι] in
/-- A call still waiting on an `await` has not written. -/
theorem Linearized.not_mem_of_pending {init : DiscoveryBatch} {world : World ι}
    (holds : Linearized data init world) {i : ι} (pending : (world.step i).result? = none) :
    i ∉ world.writes := by
  intro member
  obtain ⟨n, inRange, rfl⟩ := List.getElem_of_mem member
  obtain ⟨retries, finished⟩ := holds.returned n inRange
  rw [finished] at pending
  cases pending

/-- Replacing a pending call's step by one that did not succeed keeps the invariant. -/
theorem Linearized.update_pending {init : DiscoveryBatch} {world : World ι}
    (holds : Linearized data init world) {i : ι} (pending : (world.step i).result? = none)
    {step : Step} (unsuccessful : ¬ step.succeeded) :
    Linearized data init { world with step := Function.update world.step i step } where
  version_eq := holds.version_eq
  fields_eq := holds.fields_eq
  nodup := holds.nodup
  returned := fun n inRange => by
    have other : world.writes[n] ≠ i := fun same =>
      holds.not_mem_of_pending pending (same ▸ List.getElem_mem inRange)
    simpa [Function.update_noteq other] using holds.returned n inRange
  writer_of_succeeded := fun j succeeded => by
    by_cases same : j = i
    · subst same
      simp at succeeded
      exact absurd succeeded unsuccessful
    · exact holds.writer_of_succeeded j (by simpa [Function.update_noteq same] using succeeded)

/-- The conditional write that applies keeps the invariant. -/
theorem Linearized.write_applies {init : DiscoveryBatch} {world : World ι}
    (holds : Linearized data init world) {i : ι} {retries currentVersion : Nat}
    (writing : world.step i = .write retries currentVersion)
    (current : world.batch.version = some currentVersion) :
    Linearized data init
      { batch := ⟨(data i).apply world.batch.fields, some (currentVersion + 1)⟩
        step := Function.update world.step i
          (onUpdated retries currentVersion (some (currentVersion + 1)))
        writes := world.writes ++ [i] } := by
  have fresh : i ∉ world.writes := holds.not_mem_of_pending (by simp [writing, Step.result?])
  obtain ⟨base, initVersion, rfl⟩ : ∃ base, init.version = some base ∧
      currentVersion = base + world.writes.length := by
    cases initVersion : init.version <;> simp_all [holds.version_eq]
  refine ⟨by simp [initVersion, Nat.add_assoc], by simp [holds.fields_eq],
    List.nodup_append.mpr ⟨holds.nodup, List.nodup_singleton i, by simpa using fresh⟩, ?_, ?_⟩
  · intro n inRange
    simp only [List.length_append, List.length_singleton] at inRange
    rcases Nat.lt_succ_iff_lt_or_eq.mp inRange with earlier | last
    · have other : world.writes[n] ≠ i := fun same => fresh (same ▸ List.getElem_mem earlier)
      rw [List.getElem_append_left earlier]
      simpa [Function.update_noteq other] using holds.returned n earlier
    · subst last
      refine ⟨retries, ?_⟩
      dsimp only
      rw [List.getElem_concat_length _ _ _ rfl, Function.update_same]
      simp [onUpdated, initVersion, Nat.add_assoc]
  · intro j succeeded
    by_cases same : j = i
    · simp [same]
    · exact List.mem_append_left _
        (holds.writer_of_succeeded j (by simpa [Function.update_noteq same] using succeeded))

/-- **One `await` keeps the invariant.** -/
theorem step_keeps_linearized {init : DiscoveryBatch} {world : World ι}
    (holds : Linearized data init world) (i : ι) :
    Linearized data init (next batchId data maxRetries world i) := by
  unfold next
  split
  case h_1 retries reading =>
    refine holds.update_pending ?_ (onFound_not_succeeded _ _ _)
    simp [reading, Step.result?]
  case h_2 retries currentVersion writing =>
    split
    case isTrue current => exact holds.write_applies writing current
    case isFalse =>
      refine holds.update_pending ?_ (onError_not_succeeded _ _ _)
      simp [writing, Step.result?]
  case h_3 retries sleeping =>
    refine holds.update_pending ?_ (loopHead_not_succeeded _ _)
    simp [sleeping, Step.result?]
  case h_4 => exact holds

theorem run_keeps_linearized {init : DiscoveryBatch} :
    ∀ (schedule : List ι) {world : World ι}, Linearized data init world →
      Linearized data init (run batchId data maxRetries world schedule)
  | [], _, holds => holds
  | i :: schedule, _, holds => run_keeps_linearized schedule (step_keeps_linearized holds i)

/-- **Concurrent `updateBatchStatus` calls linearize in version order.** In every state some
schedule reaches, with `k` the number of applied writes: the calls that returned `success` are
exactly the applied writers, each once; the `n`-th of them returned version `initial + n + 1`;
the version is `initial + k`; the fields are the initial fields overwritten by the writers' data in
that order; and a call that returned `success: false` wrote nothing. -/
theorem updateBatchStatus_linearizable {init : DiscoveryBatch} {world : World ι}
    (reach : Reachable batchId data maxRetries init world) :
    (∀ i, (world.step i).succeeded ↔ i ∈ world.writes) ∧ world.writes.Nodup ∧
      (∀ n (inRange : n < world.writes.length), ∃ retries,
        world.step world.writes[n] = .done ⟨true, init.version.map (· + (n + 1)), retries, none⟩) ∧
      world.batch.version = init.version.map (· + world.writes.length) ∧
      world.batch.fields = overwritten init.fields (world.writes.map data) ∧
      (∀ i result, world.step i = .done result → result.success = false → i ∉ world.writes) := by
  obtain ⟨schedule, rfl⟩ := reach
  have holds : Linearized data init (run batchId data maxRetries (initial maxRetries init) schedule) :=
    run_keeps_linearized schedule (linearized_initial init)
  have writer_succeeded : ∀ i, i ∈ (run batchId data maxRetries (initial maxRetries init)
      schedule).writes → ((run batchId data maxRetries (initial maxRetries init) schedule).step i).succeeded := by
    intro i member
    obtain ⟨n, inRange, rfl⟩ := List.getElem_of_mem member
    obtain ⟨retries, finished⟩ := holds.returned n inRange
    exact ⟨_, finished, rfl⟩
  refine ⟨fun i => ⟨holds.writer_of_succeeded i, writer_succeeded i⟩, holds.nodup, holds.returned,
    holds.version_eq, holds.fields_eq, ?_⟩
  intro i result finished failed member
  obtain ⟨result', finished', succeeded⟩ := writer_succeeded i member
  rw [finished] at finished'
  cases finished'
  simp_all

end System

/-- Two calls on a batch at version `0`, each read before either writes: the first write applies,
the second conflicts, rereads and applies. -/
theorem updateBatchStatus_linearizable_two_calls :
    let data : Fin 2 → BatchUpdateData := fun i =>
      ⟨some (if i = 0 then "processing" else "completed"), none, some i.val, none, none, none, none⟩
    let init : DiscoveryBatch := ⟨⟨"scanning", 2, 0, 0, 0, none, none⟩, some 0⟩
    let world := run "batch-1" data (fun _ => 10) (initial (fun _ => 10) init) [0, 1, 0, 1, 1, 1, 1]
    Reachable "batch-1" data (fun _ => 10) init world ∧
      ((∀ i, (world.step i).succeeded ↔ i ∈ world.writes) ∧ world.writes.Nodup ∧
        (∀ n (inRange : n < world.writes.length), ∃ retries,
          world.step world.writes[n] = .done ⟨true, init.version.map (· + (n + 1)), retries, none⟩) ∧
        world.batch.version = init.version.map (· + world.writes.length) ∧
        world.batch.fields = overwritten init.fields (world.writes.map data) ∧
        (∀ i result, world.step i = .done result → result.success = false → i ∉ world.writes)) :=
  ⟨⟨_, rfl⟩, updateBatchStatus_linearizable ⟨_, rfl⟩⟩

end Lidify.Batch
