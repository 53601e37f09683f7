import Mathlib.Tactic.Common
/-
**`PlaybackStateMachine`: its context, `VALID_TRANSITIONS`, and the error fields.**

`lib/audio/playback-state-machine.ts` keeps one `StateContext`. `transition(to, options)` checks
`VALID_TRANSITIONS` and returns `false` without a change when `to` is not listed; otherwise it and
`forceTransition`, which skips the check, write the same context: the state left becomes
`previousState`, and the error fields are set only on entering `ERROR`, the error defaulting to
`Unknown error`. `reset()` writes the initial context.

* `ErrorConsistent` — an error exactly in `ERROR`, an error code only there, and no previous state
  only in `IDLE`.
* `enter_errorConsistent` — every context `transition` and `forceTransition` write is consistent,
  whatever the context before and whatever the options; so is the initial one (`reset`).
-/

namespace Lidify.Playback

/-- `PlaybackState`. -/
inductive PlaybackState
  | IDLE | LOADING | READY | PLAYING | BUFFERING | ERROR
  deriving DecidableEq, Repr

/-- `StateContext`; `lastTransitionTime` is `Date.now()` in milliseconds. -/
structure StateContext where
  state : PlaybackState
  previousState : Option PlaybackState
  error : Option String
  errorCode : Option Int
  lastTransitionTime : Nat
  deriving DecidableEq, Repr

/-- `VALID_TRANSITIONS`. -/
def validTransitions : PlaybackState → List PlaybackState
  | .IDLE => [.LOADING]
  | .LOADING => [.READY, .PLAYING, .ERROR, .IDLE]
  | .READY => [.PLAYING, .LOADING, .IDLE]
  | .PLAYING => [.READY, .BUFFERING, .LOADING, .ERROR, .IDLE]
  | .BUFFERING => [.PLAYING, .READY, .ERROR, .IDLE]
  | .ERROR => [.LOADING, .IDLE]

/-- The `options` argument, each field possibly absent. -/
structure TransitionOptions where
  error : Option String
  errorCode : Option Int
  deriving DecidableEq, Repr

/-- The context the machine starts with, and the one `reset()` writes. -/
def initialContext (now : Nat) : StateContext := ⟨.IDLE, none, none, none, now⟩

/-- `canTransition(to)`; every state has an entry, so `?? false` is never reached. -/
def canTransition (context : StateContext) (target : PlaybackState) : Bool :=
  (validTransitions context.state).contains target

/-- The context `transition` and `forceTransition` write on entering `target` (the source's `to`). -/
def enter (context : StateContext) (target : PlaybackState) (options : Option TransitionOptions)
    (now : Nat) : StateContext :=
  { context with
    previousState := some context.state
    state := target
    error := if target = .ERROR then some ((options.bind (·.error)).getD "Unknown error") else none
    errorCode := if target = .ERROR then options.bind (·.errorCode) else none
    lastTransitionTime := now }

/-- `transition(to, options)`: the new context, or `none` when it returns `false`. -/
def transition (context : StateContext) (target : PlaybackState) (options : Option TransitionOptions)
    (now : Nat) : Option StateContext :=
  if canTransition context target then some (enter context target options now) else none

/-- `forceTransition(to, options)`: the same write, without the check. -/
def forceTransition (context : StateContext) (target : PlaybackState)
    (options : Option TransitionOptions) (now : Nat) : StateContext :=
  enter context target options now

/-- `reset()`. -/
def reset (now : Nat) : StateContext := initialContext now

/-- The error fields agree with the state. -/
structure ErrorConsistent (context : StateContext) : Prop where
  error_iff : context.error.isSome ↔ context.state = .ERROR
  errorCode_error : context.errorCode.isSome → context.state = .ERROR
  previousState_idle : context.previousState = none → context.state = .IDLE

theorem initialContext_errorConsistent (now : Nat) : ErrorConsistent (initialContext now) :=
  ⟨by simp [initialContext], by simp [initialContext], fun _ => rfl⟩

/-- **Entering a state writes consistent error fields**, from any context and with any options:
the error and the code are written together with the state, and `previousState` is never null. -/
theorem enter_errorConsistent (context : StateContext) (target : PlaybackState)
    (options : Option TransitionOptions) (now : Nat) :
    ErrorConsistent (enter context target options now) where
  error_iff := by by_cases entering : target = .ERROR <;> simp [enter, entering]
  errorCode_error := by by_cases entering : target = .ERROR <;> simp [enter, entering]
  previousState_idle := by simp [enter]

theorem transition_errorConsistent {context next : StateContext} {target : PlaybackState}
    {options : Option TransitionOptions} {now : Nat}
    (accepted : transition context target options now = some next) : ErrorConsistent next := by
  unfold transition at accepted
  split at accepted
  · cases accepted
    exact enter_errorConsistent _ _ _ _
  · cases accepted

end Lidify.Playback
