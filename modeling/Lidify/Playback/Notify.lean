import Lidify.Playback.StateMachine
import Mathlib.Logic.Function.Iterate
/-
**Listeners and re-entrant calls: what a run of the machine delivers.**

`notify()` takes one snapshot with `getContext()` and hands it to every listener in turn, and a
listener may call `transition`, `forceTransition` or `reset` from inside its callback, which
runs that call and its own `notify` to completion before the next listener is handed the older
snapshot. A run is a `Machine`: the context, every delivery so far, and the pending work, the
innermost first, as the JavaScript call stack holds it; `step` does the first piece.

* `playbackStateMachine_error_fields_consistent` — in every state of every run, from the initial
  context, with any listeners, any calls and any options, the context and every context handed to
  a listener keep `ErrorConsistent`.
* `reentrant_listener_leaves_recorder_behind` — a listener that answers `ERROR` with
  `transition('LOADING')` leaves the next listener holding the `ERROR` snapshot after the machine
  has moved on to `LOADING`, having received the two in the reverse of the order entered.
-/

namespace Lidify.Playback

/-- A call, by a caller or by a listener from inside its callback, with the value `Date.now()`
gives during it. -/
inductive Call
  | transition (target : PlaybackState) (options : Option TransitionOptions) (now : Nat)
  | forceTransition (target : PlaybackState) (options : Option TransitionOptions) (now : Nat)
  | reset (now : Nat)
  deriving DecidableEq, Repr

/-- The context a call leaves; `none` for a rejected `transition`, which does not notify. -/
def Call.apply (context : StateContext) : Call → Option StateContext
  | .transition target options now => Playback.transition context target options now
  | .forceTransition target options now =>
    some (Playback.forceTransition context target options now)
  | .reset now => some (Playback.reset now)

/-- A subscribed listener: the calls its callback makes when handed a context. A listener that
throws has made the calls before the throw; `notify` catches the rest. -/
def Listener : Type := StateContext → List Call

/-- Pending work: a call, or handing listener `index` the snapshot of a `notify`. -/
inductive Task
  | call (call : Call)
  | deliver (index : Nat) (snapshot : StateContext)
  deriving DecidableEq, Repr

/-- The machine's context, every delivery so far (listener index and context), and the pending
work, innermost first. -/
structure Machine where
  context : StateContext
  received : List (Nat × StateContext)
  pending : List Task
  deriving DecidableEq, Repr

/-- The machine on a fresh page, with the outermost calls to make in order. -/
def start (now : Nat) (calls : List Call) : Machine := ⟨initialContext now, [], calls.map .call⟩

/-- The last context listener `index` received. -/
def Machine.lastReceived (machine : Machine) (index : Nat) : Option StateContext :=
  ((machine.received.filter (·.1 = index)).getLast?).map (·.2)

/-- Every context listener `index` received, in order. -/
def Machine.receivedBy (machine : Machine) (index : Nat) : List StateContext :=
  (machine.received.filter (·.1 = index)).map (·.2)

/-- `notify()`: the snapshot handed to each listener of the set, in insertion order. -/
def notifyAll (listeners : List Listener) (snapshot : StateContext) : List Task :=
  (List.range listeners.length).map (.deliver · snapshot)

/-- One piece of pending work. A call that changes the context schedules its `notify` before
whatever was pending; a delivery records it and schedules the listener's calls first. With
nothing pending the machine stays put. -/
def step (listeners : List Listener) (machine : Machine) : Machine :=
  match machine.pending with
  | [] => machine
  | .call call :: rest =>
    match call.apply machine.context with
    | none => { machine with pending := rest }
    | some context =>
      { machine with context, pending := notifyAll listeners context ++ rest }
  | .deliver index snapshot :: rest =>
    { machine with
      received := machine.received ++ [(index, snapshot)]
      pending := ((listeners[index]?.map (· snapshot)).getD []).map .call ++ rest }

theorem step_of_call (listeners : List Listener) {machine : Machine} {call : Call}
    {rest : List Task} (pending : machine.pending = .call call :: rest) :
    step listeners machine =
      match call.apply machine.context with
      | none => { machine with pending := rest }
      | some context => { machine with context, pending := notifyAll listeners context ++ rest } := by
  unfold step
  rw [pending]

theorem step_of_deliver (listeners : List Listener) {machine : Machine} {index : Nat}
    {snapshot : StateContext} {rest : List Task}
    (pending : machine.pending = .deliver index snapshot :: rest) :
    step listeners machine =
      { machine with
        received := machine.received ++ [(index, snapshot)]
        pending := ((listeners[index]?.map (· snapshot)).getD []).map .call ++ rest } := by
  unfold step
  rw [pending]

/-! ### The error fields in every state of every run -/

/-- The context, every delivered context and every pending snapshot are consistent. -/
structure Consistent (machine : Machine) : Prop where
  context : ErrorConsistent machine.context
  received : ∀ entry ∈ machine.received, ErrorConsistent entry.2
  pending : ∀ index snapshot, Task.deliver index snapshot ∈ machine.pending →
    ErrorConsistent snapshot

theorem Call.apply_errorConsistent {context next : StateContext} {call : Call}
    (applied : call.apply context = some next) : ErrorConsistent next := by
  cases call with
  | transition => exact transition_errorConsistent applied
  | forceTransition => cases applied; exact enter_errorConsistent _ _ _ _
  | reset => cases applied; exact initialContext_errorConsistent _

theorem start_consistent (now : Nat) (calls : List Call) : Consistent (start now calls) where
  context := initialContext_errorConsistent now
  received := by simp [start]
  pending := by simp [start]

/-- **One step keeps `Consistent`.** -/
theorem step_consistent (listeners : List Listener) {machine : Machine}
    (holds : Consistent machine) : Consistent (step listeners machine) := by
  unfold step
  split
  case h_1 => exact holds
  case h_2 call rest pending =>
    have later : ∀ index snapshot, Task.deliver index snapshot ∈ rest → ErrorConsistent snapshot :=
      fun index snapshot mem => holds.pending index snapshot (by simp [pending, mem])
    split
    case h_1 => exact ⟨holds.context, holds.received, later⟩
    case h_2 context applied =>
      have fresh := Call.apply_errorConsistent applied
      refine ⟨fresh, holds.received, fun index snapshot mem => ?_⟩
      rcases List.mem_append.mp mem with delivery | earlier
      · obtain ⟨_, _, same⟩ := List.mem_map.mp delivery
        cases same
        exact fresh
      · exact later index snapshot earlier
  case h_3 index snapshot rest pending =>
    have delivered := holds.pending index snapshot (by simp [pending])
    refine ⟨holds.context, fun entry mem => ?_, fun other shot mem => ?_⟩
    · rcases List.mem_append.mp mem with earlier | now
      · exact holds.received entry earlier
      · simp only [List.mem_singleton] at now
        subst now
        exact delivered
    · rcases List.mem_append.mp mem with call | earlier
      · simp at call
      · exact holds.pending other shot (by simp [pending, earlier])

/-- **The error fields stay consistent in every state of every run.** From the initial context,
with any listeners (re-entrant or not), any outermost calls with any options, after any number of
steps: the context `getContext()` returns and every context handed to a listener have an error
exactly in `ERROR`, an error code only in `ERROR`, and no previous state only in `IDLE`. -/
theorem playbackStateMachine_error_fields_consistent (listeners : List Listener) (now : Nat)
    (calls : List Call) (steps : Nat) :
    ErrorConsistent ((step listeners)^[steps] (start now calls)).context ∧
      ∀ entry ∈ ((step listeners)^[steps] (start now calls)).received, ErrorConsistent entry.2 := by
  have holds : Consistent ((step listeners)^[steps] (start now calls)) :=
    Function.Iterate.rec Consistent (fun _ => step_consistent listeners) (start_consistent now calls)
      steps
  exact ⟨holds.context, holds.received⟩

/-! ### A listener that calls back -/

/-- A listener that recovers from `ERROR` by loading again. -/
def reloadOnError : Listener := fun context =>
  if context.state = .ERROR then [.transition .LOADING none 3] else []

/-- A listener that only records what it is handed, as a React state setter does. -/
def recorder : Listener := fun _ => []

/-- The page loads (at `1`) and fails (at `2`), with `reloadOnError` subscribed before
`recorder`; the run nine steps on. -/
def reloadRun : Machine :=
  (step [reloadOnError, recorder])^[9]
    (start 0 [.transition .LOADING none 1, .transition .ERROR none 2])

/-- **The second listener is left on a state the machine has left.** The first listener answers
`ERROR` with `transition('LOADING')` (at `3`), whose `notify` hands both listeners `LOADING` before
the outer `notify` hands the recorder its `ERROR` snapshot. When the outermost call returns the
machine is `LOADING` and the recorder's last context is `ERROR`, and it received the two in the
reverse of the order the machine entered them. -/
theorem reentrant_listener_leaves_recorder_behind :
    reloadRun.pending = [] ∧ reloadRun.context = ⟨.LOADING, some .ERROR, none, none, 3⟩ ∧
      reloadRun.lastReceived 1 = some ⟨.ERROR, some .LOADING, some "Unknown error", none, 2⟩ ∧
      reloadRun.receivedBy 1 =
        [⟨.LOADING, some .IDLE, none, none, 1⟩, ⟨.LOADING, some .ERROR, none, none, 3⟩,
          ⟨.ERROR, some .LOADING, some "Unknown error", none, 2⟩] := by
  decide

end Lidify.Playback
