import Mathlib.Data.List.Nodup
import Mathlib.Tactic.Common
/-
**`workers/dataCleanup.ts`: the cron task that runs the retention sweep.**

`startDataCleanupCron` schedules the sweep daily with `cron.schedule` and keeps the task in the
module's `cronTask`, overwriting what it held; `stopDataCleanupCron` stops the task `cronTask`
names and clears it. Only the scheduling is modelled: the sweep itself is three `deleteMany`
calls whose `where` clauses are its whole behaviour.

* `Scheduler.run_wellFormed` — task names stay fresh and `cronTask` always names a running task;
* `mem_orphans_start`, `stop_running`, `next_keeps_orphans` — what one call does to the tasks
  `cronTask` does not name (the orphans);
* `run_keeps_orphans` — for every scheduler the calls reach: a start while a task is held orphans
  it, a stop stops exactly the named task, and an orphan runs, unnamed, after every later sequence
  of calls.
-/

namespace Lidify.DataCleanup

/-- The module's `cronTask`, and the tasks `node-cron` runs, each named by the order in which it
was scheduled; `scheduled` counts the tasks ever scheduled. -/
structure Scheduler where
  cronTask : Option Nat
  running : List Nat
  scheduled : Nat
  deriving DecidableEq, Repr

/-- No task scheduled yet. -/
def Scheduler.initial : Scheduler := ⟨none, [], 0⟩

/-- `startDataCleanupCron()`: `cron.schedule` starts a new task and `cronTask` names it, whatever
it named before. -/
def startDataCleanupCron (scheduler : Scheduler) : Scheduler :=
  ⟨some scheduler.scheduled, scheduler.running ++ [scheduler.scheduled], scheduler.scheduled + 1⟩

/-- `stopDataCleanupCron()`: stops the task `cronTask` names, if any, and clears it. -/
def stopDataCleanupCron (scheduler : Scheduler) : Scheduler :=
  match scheduler.cronTask with
  | some task => ⟨none, scheduler.running.erase task, scheduler.scheduled⟩
  | none => scheduler

/-- A call of the module's two exported functions. -/
inductive Call
  | start
  | stop
  deriving DecidableEq, Repr

/-- One call. -/
def Scheduler.next (scheduler : Scheduler) : Call → Scheduler
  | .start => startDataCleanupCron scheduler
  | .stop => stopDataCleanupCron scheduler

/-- A sequence of calls. -/
def Scheduler.run (scheduler : Scheduler) (calls : List Call) : Scheduler :=
  calls.foldl Scheduler.next scheduler

/-- The running tasks `cronTask` does not name: no call of `stopDataCleanupCron` stops them. -/
def Scheduler.orphans (scheduler : Scheduler) : List Nat :=
  scheduler.running.filter fun task => scheduler.cronTask ≠ some task

/-- Task names are fresh, each running task runs once, and `cronTask` names a running task. -/
structure Scheduler.WellFormed (scheduler : Scheduler) : Prop where
  fresh : ∀ task ∈ scheduler.running, task < scheduler.scheduled
  nodup : scheduler.running.Nodup
  held : ∀ task, scheduler.cronTask = some task → task ∈ scheduler.running

theorem Scheduler.initial_wellFormed : Scheduler.initial.WellFormed :=
  ⟨fun _ absent => absurd absent (List.not_mem_nil _), List.nodup_nil,
    fun _ none => Option.noConfusion none⟩

theorem Scheduler.next_wellFormed {scheduler : Scheduler} (holds : scheduler.WellFormed)
    (call : Call) : (scheduler.next call).WellFormed := by
  cases call with
  | start =>
    have fresh : scheduler.scheduled ∉ scheduler.running :=
      fun mem => Nat.lt_irrefl _ (holds.fresh _ mem)
    refine ⟨fun task mem => ?_, holds.nodup.append (List.nodup_singleton _)
      (List.disjoint_singleton.mpr fresh), fun task named => ?_⟩
    · rcases List.mem_append.mp mem with old | new
      · exact Nat.lt_succ_of_lt (holds.fresh task old)
      · rw [List.mem_singleton.mp new]
        exact Nat.lt_succ_self _
    · cases named
      exact List.mem_append_right _ (List.mem_singleton_self _)
  | stop =>
    simp only [Scheduler.next, stopDataCleanupCron]
    split
    · exact ⟨fun task mem => holds.fresh task (List.mem_of_mem_erase mem),
        holds.nodup.erase _, fun _ none => by cases none⟩
    · exact holds

theorem Scheduler.run_wellFormed {scheduler : Scheduler} (holds : scheduler.WellFormed)
    (calls : List Call) : (scheduler.run calls).WellFormed := by
  induction calls generalizing scheduler with
  | nil => exact holds
  | cons call rest ih => exact ih (scheduler.next_wellFormed holds call)

/-- **A second start orphans the first task.** After a start, the orphans are those before it
and the task `cronTask` named. -/
theorem mem_orphans_start {scheduler : Scheduler} (holds : scheduler.WellFormed) (task : Nat) :
    task ∈ (startDataCleanupCron scheduler).orphans ↔
      task ∈ scheduler.orphans ∨ scheduler.cronTask = some task := by
  have fresh : task ∈ scheduler.running → scheduler.scheduled ≠ task :=
    fun mem same => Nat.ne_of_lt (holds.fresh task mem) same.symm
  simp only [Scheduler.orphans, startDataCleanupCron, List.mem_filter, List.mem_append,
    List.mem_singleton, ne_eq, Option.some.injEq, decide_eq_true_eq]
  constructor
  · rintro ⟨running | rfl, other⟩
    · by_cases named : scheduler.cronTask = some task
      · exact .inr named
      · exact .inl ⟨running, named⟩
    · exact absurd rfl other
  · rintro (⟨running, _⟩ | named)
    · exact ⟨.inl running, fresh running⟩
    · exact ⟨.inl (holds.held task named), fresh (holds.held task named)⟩

/-- A stop stops exactly the task `cronTask` names: what still runs afterwards are the orphans. -/
theorem stop_running {scheduler : Scheduler} (holds : scheduler.WellFormed) :
    (stopDataCleanupCron scheduler).running = scheduler.orphans := by
  unfold stopDataCleanupCron Scheduler.orphans
  split
  case h_1 task named =>
    rw [named, holds.nodup.erase_eq_filter]
    refine List.filter_congr fun other _ => ?_
    rw [Bool.eq_iff_iff]
    simp only [bne_iff_ne, ne_eq, decide_eq_true_eq, Option.some.injEq]
    exact ne_comm
  case h_2 named => simp [named]

/-- Every call keeps every orphan running and orphaned. -/
theorem next_keeps_orphans {scheduler : Scheduler} (holds : scheduler.WellFormed) (call : Call)
    {task : Nat} (orphaned : task ∈ scheduler.orphans) : task ∈ (scheduler.next call).orphans := by
  cases call with
  | start => exact (mem_orphans_start holds task).mpr (.inl orphaned)
  | stop =>
    have running := List.mem_of_mem_filter orphaned
    simp only [Scheduler.next, stopDataCleanupCron]
    split
    case h_1 held named =>
      have other : task ≠ held := by
        rintro rfl
        simp [Scheduler.orphans, named] at orphaned
      simp [Scheduler.orphans, List.mem_erase_of_ne other, running]
    case h_2 => exact orphaned

/-- An orphan stays running, and unnamed, after every sequence of calls. -/
theorem mem_orphans_run {scheduler : Scheduler} (holds : scheduler.WellFormed) (calls : List Call)
    {task : Nat} (orphaned : task ∈ scheduler.orphans) : task ∈ (scheduler.run calls).orphans := by
  induction calls generalizing scheduler with
  | nil => exact orphaned
  | cons call rest ih =>
    exact ih (scheduler.next_wellFormed holds call) (next_keeps_orphans holds call orphaned)

/-- **Orphans run forever.** For every scheduler some calls reach from the start: a start orphans
the task `cronTask` held, besides the orphans there were; a stop stops exactly the task `cronTask`
names, leaving the orphans running; and an orphan stays running, and unnamed, after every later
sequence of calls, so no `stopDataCleanupCron` stops it. -/
theorem run_keeps_orphans (earlier later : List Call) (task : Nat) :
    (task ∈ (startDataCleanupCron (Scheduler.initial.run earlier)).orphans ↔
        task ∈ (Scheduler.initial.run earlier).orphans ∨
          (Scheduler.initial.run earlier).cronTask = some task) ∧
      (stopDataCleanupCron (Scheduler.initial.run earlier)).running =
        (Scheduler.initial.run earlier).orphans ∧
      (task ∈ (Scheduler.initial.run earlier).orphans →
        task ∈ ((Scheduler.initial.run earlier).run later).orphans) :=
  have holds := Scheduler.run_wellFormed Scheduler.initial_wellFormed earlier
  ⟨mem_orphans_start holds task, stop_running holds, mem_orphans_run holds later⟩

/-- Started twice, the first task is an orphan; a stop then leaves it running. -/
example : 0 ∈ (Scheduler.initial.run [.start, .start]).orphans ∧
    (Scheduler.initial.run [.start, .start, .stop]).running = [0] := by decide

end Lidify.DataCleanup
