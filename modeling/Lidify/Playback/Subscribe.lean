import Lidify.Playback.Notify
/-
**The listener set: `subscribe`, its unsubscribe function, and `notify`'s live iteration.**

`subscribe(listener)` adds the listener to the `Set` `this.listeners` and calls it at once with
`getContext()`; the function it returns deletes it. `notify()` walks the set with `forEach`,
which reads the set as it goes: a listener deleted before its turn is skipped, one added before
the end is visited. A listener may call the machine, `subscribe` or an unsubscribe function from
inside its callback. The `Registry` is the machine with that set: its entries in insertion order,
a deleted one emptied (the `[[SetData]]` list of `Set`), and the pending work innermost first.

* `registry_refines_notify` — with a fixed set of listeners that never subscribe or unsubscribe,
  the registry and the machine of `Notify` (which schedules a `notify`'s deliveries when it starts)
  are the same run up to the stutter that ends a `forEach`: every state of either has the context
  and the delivery log of a state of the other;
* `unsubscribed_listener_receives_nothing` — after an unsubscribe function runs, its listener
  receives no context until it is subscribed again, also from a `notify` under way;
* `registry_silent_listeners_stay_synced` — when no callback calls back, after every outermost
  transition, reset, subscribe or unsubscribe every listener in the set last received
  `getContext()`.
-/

namespace Lidify.Playback

/-- What a caller does, or a listener from inside its callback: a call of the machine,
`subscribe(listener)`, or the function `subscribe(listener)` returned. Listeners are named by
numbers; one number is one function object. -/
inductive Op
  | call (call : Call)
  | subscribe (listener : Nat)
  | unsubscribe (listener : Nat)
  deriving DecidableEq, Repr

/-- A listener's callback: the ops it makes when handed a context. -/
def Callback : Type := StateContext → List Op

/-- Pending work: an op, or the `forEach` of a `notify` handing `snapshot` to the entry at
`index` and the ones after it. -/
inductive Work
  | op (op : Op)
  | notify (snapshot : StateContext) (index : Nat)
  deriving DecidableEq, Repr

/-- The machine with its listener set (its entries in insertion order, `none` for a deleted one),
every delivery so far, and the pending work, innermost first. -/
structure Registry where
  context : StateContext
  listeners : List (Option Nat)
  received : List (Nat × StateContext)
  pending : List Work
  deriving DecidableEq, Repr

/-- `Set.prototype.add`: a listener not in the set is appended. -/
def setAdd (entries : List (Option Nat)) (listener : Nat) : List (Option Nat) :=
  if some listener ∈ entries then entries else entries ++ [some listener]

/-- `Set.prototype.delete`: the listener's entry is emptied. -/
def setDelete (entries : List (Option Nat)) (listener : Nat) : List (Option Nat) :=
  entries.map fun entry => if entry = some listener then none else entry

/-- The last context `listener` received. -/
def Registry.lastReceived (registry : Registry) (listener : Nat) : Option StateContext :=
  ((registry.received.filter (·.1 = listener)).getLast?).map (·.2)

/-- Every context `listener` received, in order. -/
def Registry.receivedBy (registry : Registry) (listener : Nat) : List StateContext :=
  (registry.received.filter (·.1 = listener)).map (·.2)

/-- One piece of pending work. A call that changes the context starts its `notify` before
whatever was pending; `subscribe` adds the listener and hands it the context, its callback's ops
first; the `forEach` reads the entry at its index when it gets there, and ends past the last. -/
def Registry.step (callbacks : Nat → Callback) (registry : Registry) : Registry :=
  match registry.pending with
  | [] => registry
  | .op (.call call) :: rest =>
    match call.apply registry.context with
    | none => { registry with pending := rest }
    | some context => { registry with context, pending := .notify context 0 :: rest }
  | .op (.subscribe listener) :: rest =>
    { registry with
      listeners := setAdd registry.listeners listener
      received := registry.received ++ [(listener, registry.context)]
      pending := (callbacks listener registry.context).map .op ++ rest }
  | .op (.unsubscribe listener) :: rest =>
    { registry with
      listeners := setDelete registry.listeners listener
      pending := rest }
  | .notify snapshot index :: rest =>
    match registry.listeners[index]? with
    | none => { registry with pending := rest }
    | some none => { registry with pending := .notify snapshot (index + 1) :: rest }
    | some (some listener) =>
      { registry with
        received := registry.received ++ [(listener, snapshot)]
        pending := (callbacks listener snapshot).map .op ++ .notify snapshot (index + 1) :: rest }

section Steps

variable (callbacks : Nat → Callback) {registry : Registry} {rest : List Work}

theorem Registry.step_call {call : Call} (pending : registry.pending = .op (.call call) :: rest) :
    registry.step callbacks =
      match call.apply registry.context with
      | none => { registry with pending := rest }
      | some context => { registry with context, pending := .notify context 0 :: rest } := by
  unfold Registry.step
  rw [pending]

theorem Registry.step_subscribe {listener : Nat}
    (pending : registry.pending = .op (.subscribe listener) :: rest) :
    registry.step callbacks =
      { registry with
        listeners := setAdd registry.listeners listener
        received := registry.received ++ [(listener, registry.context)]
        pending := (callbacks listener registry.context).map .op ++ rest } := by
  unfold Registry.step
  rw [pending]

theorem Registry.step_unsubscribe {listener : Nat}
    (pending : registry.pending = .op (.unsubscribe listener) :: rest) :
    registry.step callbacks =
      { registry with listeners := setDelete registry.listeners listener, pending := rest } := by
  unfold Registry.step
  rw [pending]

theorem Registry.step_notify {snapshot : StateContext} {index : Nat}
    (pending : registry.pending = .notify snapshot index :: rest) :
    registry.step callbacks =
      match registry.listeners[index]? with
      | none => { registry with pending := rest }
      | some none => { registry with pending := .notify snapshot (index + 1) :: rest }
      | some (some listener) =>
        { registry with
          received := registry.received ++ [(listener, snapshot)]
          pending := (callbacks listener snapshot).map .op ++ .notify snapshot (index + 1) :: rest } := by
  unfold Registry.step
  rw [pending]

end Steps

theorem mem_setAdd {entries : List (Option Nat)} {listener : Nat} {entry : Option Nat} :
    entry ∈ setAdd entries listener ↔ entry ∈ entries ∨ entry = some listener := by
  unfold setAdd
  split
  · rename_i present
    exact ⟨.inl, fun | .inl mem => mem | .inr same => same ▸ present⟩
  · simp

theorem mem_setDelete {entries : List (Option Nat)} {listener other : Nat}
    (mem : some other ∈ setDelete entries listener) : some other ∈ entries ∧ other ≠ listener := by
  obtain ⟨entry, listed, same⟩ := List.mem_map.mp mem
  split at same
  · cases same
  · subst same
    exact ⟨listed, fun equal => ‹¬_› (by rw [equal])⟩

/-- A delivery to `listener` is its last; the others' are unchanged. -/
theorem lastReceived_append (received : List (Nat × StateContext)) (listener other : Nat)
    (snapshot : StateContext) :
    (((received ++ [(listener, snapshot)]).filter (·.1 = other)).getLast?).map (·.2) =
      if other = listener then some snapshot
      else ((received.filter (·.1 = other)).getLast?).map (·.2) := by
  by_cases same : other = listener
  · subst same
    simp
  · simp [same, Ne.symm same]

theorem receivedBy_append_other (received : List (Nat × StateContext)) {listener other : Nat}
    (snapshot : StateContext) (different : listener ≠ other) :
    ((received ++ [(listener, snapshot)]).filter (·.1 = other)).map (·.2) =
      (received.filter (·.1 = other)).map (·.2) := by
  simp [different]

/-! ### The fixed set of `Notify` -/

/-- The callbacks of `Notify`'s listeners, the `i`-th named `i`. -/
def callbacksOf (listeners : List Listener) : Nat → Callback := fun listener snapshot =>
  ((listeners[listener]?.map (· snapshot)).getD []).map .call

/-- `Notify`'s `start`: the listeners subscribed in order before the run (their first calls not
recorded, as there), and the outermost calls to make. -/
def registryStart (listeners : List Listener) (now : Nat) (calls : List Call) : Registry :=
  ⟨initialContext now, (List.range listeners.length).map some, [], calls.map (.op ∘ .call)⟩

/-- The deliveries `Notify` has scheduled for a piece of the registry's work. -/
def Work.expand (count : Nat) : Work → List Task
  | .op (.call call) => [.call call]
  | .op (.subscribe _) => []
  | .op (.unsubscribe _) => []
  | .notify snapshot index => (List.range' index (count - index)).map (.deliver · snapshot)

/-- Pending work with no `subscribe` and no unsubscribe in it. -/
def Static (pending : List Work) : Prop :=
  ∀ work ∈ pending, ∀ listener, work ≠ .op (.subscribe listener) ∧ work ≠ .op (.unsubscribe listener)

/-- The registry is at the machine's state: the same context and deliveries, the fixed set, and
its work expanding to the machine's. -/
structure Simulates (listeners : List Listener) (machine : Machine) (registry : Registry) : Prop where
  context : registry.context = machine.context
  received : registry.received = machine.received
  set : registry.listeners = (List.range listeners.length).map some
  static : Static registry.pending
  pending : machine.pending = registry.pending.flatMap (Work.expand listeners.length)

section Refinement

variable (listeners : List Listener)

theorem getElem?_fixed (count index : Nat) :
    ((List.range count).map some)[index]? = if index < count then some (some index) else none := by
  split
  · simp [*]
  · simp only [List.getElem?_map, List.getElem?_range' , Option.map_eq_none']
    simp
    omega

theorem flatMap_expand_calls (count : Nat) (calls : List Call) :
    (calls.map (Work.op ∘ Op.call)).flatMap (Work.expand count) = calls.map Task.call := by
  induction calls with
  | nil => rfl
  | cons call rest ih => simp only [List.map_cons, List.flatMap_cons, ih]; rfl

theorem Static.notify_cons {rest : List Work} (static : Static rest) (snapshot : StateContext)
    (index : Nat) : Static (.notify snapshot index :: rest) := by
  intro work mem listener
  rcases List.mem_cons.mp mem with rfl | earlier
  · exact ⟨nofun, nofun⟩
  · exact static work earlier listener

theorem static_calls (calls : List Call) {rest : List Work} (static : Static rest) :
    Static (calls.map (Work.op ∘ Op.call) ++ rest) := by
  intro work mem listener
  rcases List.mem_append.mp mem with fresh | earlier
  · obtain ⟨call, _, rfl⟩ := List.mem_map.mp fresh
    exact ⟨nofun, nofun⟩
  · exact static work earlier listener

/-- **A registry step is a step of the machine, or a stutter.** The stutter ends a `forEach`
past the last entry: the machine had no delivery left for it, and the registry's pending work
gets shorter. -/
theorem Simulates.step {machine : Machine} {registry : Registry}
    (sim : Simulates listeners machine registry) :
    Simulates listeners (Playback.step listeners machine) (registry.step (callbacksOf listeners)) ∨
      (Simulates listeners machine (registry.step (callbacksOf listeners)) ∧
        (registry.step (callbacksOf listeners)).pending.length < registry.pending.length) := by
  obtain ⟨context, received, set, static, pending⟩ := sim
  cases works : registry.pending with
  | nil =>
    rw [works, List.flatMap_nil] at pending
    have idle : registry.step (callbacksOf listeners) = registry := by
      unfold Registry.step; rw [works]
    have still : Playback.step listeners machine = machine := by
      unfold Playback.step; rw [pending]
    rw [idle, still]
    exact .inl ⟨context, received, set, static, by rw [pending, works, List.flatMap_nil]⟩
  | cons work rest =>
    have later : Static rest := fun work mem => static work (by rw [works]; exact .tail _ mem)
    rw [works, List.flatMap_cons] at pending
    cases work with
    | op op =>
      cases op with
      | call call =>
        refine .inl ?_
        have applied : call.apply machine.context = call.apply registry.context := by rw [context]
        rw [Registry.step_call _ works, step_of_call listeners pending, applied]
        cases call.apply registry.context with
        | none => exact ⟨context, received, set, later, rfl⟩
        | some next =>
          refine ⟨rfl, received, set, later.notify_cons _ _, ?_⟩
          simp [notifyAll, Work.expand, List.range_eq_range']
      | subscribe listener =>
        exact absurd rfl (static _ (by rw [works]; exact .head _) listener).1
      | unsubscribe listener =>
        exact absurd rfl (static _ (by rw [works]; exact .head _) listener).2
    | notify snapshot index =>
      have entry : registry.listeners[index]? =
          if index < listeners.length then some (some index) else none := by
        rw [set, getElem?_fixed]
      rw [Registry.step_notify _ works, entry]
      by_cases inside : index < listeners.length
      · refine .inl ?_
        obtain ⟨remaining, count⟩ : ∃ remaining, listeners.length - index = remaining + 1 :=
          ⟨listeners.length - index - 1, by omega⟩
        rw [Work.expand, count, List.range'_succ, List.map_cons, List.cons_append] at pending
        have left : listeners.length - (index + 1) = remaining := by omega
        rw [if_pos inside, step_of_deliver listeners pending]
        refine ⟨context, by rw [received], set, ?_, ?_⟩
        · simpa [callbacksOf] using static_calls _ (later.notify_cons snapshot (index + 1))
        · simp [callbacksOf, flatMap_expand_calls, Work.expand, left]
      · rw [if_neg inside]
        refine .inr ⟨⟨context, received, set, later, ?_⟩, by simp [works]⟩
        simpa [Work.expand, Nat.sub_eq_zero_of_le (Nat.le_of_not_lt inside)] using pending

/-- Each registry state of a run is at a machine state at most as many steps in. -/
theorem Simulates.iterate {machine : Machine} {registry : Registry}
    (sim : Simulates listeners machine registry) (steps : Nat) :
    ∃ taken ≤ steps, Simulates listeners ((Playback.step listeners)^[taken] machine)
      ((Registry.step (callbacksOf listeners))^[steps] registry) := by
  induction steps with
  | zero => exact ⟨0, Nat.le_refl 0, sim⟩
  | succ steps ih =>
    obtain ⟨taken, within, reached⟩ := ih
    rw [Function.iterate_succ_apply']
    rcases reached.step with moved | ⟨stutter, -⟩
    · exact ⟨taken + 1, by omega, by rwa [Function.iterate_succ_apply']⟩
    · exact ⟨taken, by omega, stutter⟩

/-- The registry reaches the machine's next state: stutters shorten its pending work. -/
theorem Simulates.catch_up {machine : Machine} {registry : Registry}
    (sim : Simulates listeners machine registry) :
    ∃ steps, Simulates listeners (Playback.step listeners machine)
      ((Registry.step (callbacksOf listeners))^[steps] registry) := by
  obtain ⟨length, counted⟩ : ∃ length, registry.pending.length = length := ⟨_, rfl⟩
  induction length using Nat.strongRecOn generalizing registry with
  | _ length ih =>
    rcases sim.step with moved | ⟨stutter, shorter⟩
    · exact ⟨1, moved⟩
    · obtain ⟨steps, reached⟩ := ih _ (counted ▸ shorter) stutter rfl
      exact ⟨steps + 1, by rwa [Function.iterate_succ_apply]⟩

/-- Each machine state of a run is at a registry state of the run. -/
theorem Simulates.iterate_machine {machine : Machine} {registry : Registry}
    (sim : Simulates listeners machine registry) (taken : Nat) :
    ∃ steps, Simulates listeners ((Playback.step listeners)^[taken] machine)
      ((Registry.step (callbacksOf listeners))^[steps] registry) := by
  induction taken with
  | zero => exact ⟨0, sim⟩
  | succ taken ih =>
    obtain ⟨steps, reached⟩ := ih
    obtain ⟨more, next⟩ := reached.catch_up
    exact ⟨more + steps, by rwa [Function.iterate_succ_apply', Function.iterate_add_apply]⟩

theorem registryStart_simulates (now : Nat) (calls : List Call) :
    Simulates listeners (start now calls) (registryStart listeners now calls) :=
  ⟨rfl, rfl, rfl, by
    rw [registryStart, ← List.append_nil (calls.map _)]
    exact static_calls calls fun _ mem => absurd mem (List.not_mem_nil _),
    (flatMap_expand_calls _ _).symm⟩

/-- **The live set refines the fixed one.** With `Notify`'s listeners subscribed in order and
never subscribing or unsubscribing, the registry and `Notify`'s machine run alike: every state of
a registry run has the context and the delivery log of a state of the machine's run at most as
many steps in, and every state of the machine's run has those of a state of the registry's. So
what `Notify` proves of its runs holds of `forEach` as the source runs it. -/
theorem registry_refines_notify (listeners : List Listener) (now : Nat) (calls : List Call) :
    (∀ steps, ∃ taken ≤ steps,
      ((Registry.step (callbacksOf listeners))^[steps] (registryStart listeners now calls)).context =
          ((step listeners)^[taken] (start now calls)).context ∧
        ((Registry.step (callbacksOf listeners))^[steps] (registryStart listeners now calls)).received =
          ((step listeners)^[taken] (start now calls)).received) ∧
    ∀ taken, ∃ steps,
      ((Registry.step (callbacksOf listeners))^[steps] (registryStart listeners now calls)).context =
          ((step listeners)^[taken] (start now calls)).context ∧
        ((Registry.step (callbacksOf listeners))^[steps] (registryStart listeners now calls)).received =
          ((step listeners)^[taken] (start now calls)).received := by
  have sim := registryStart_simulates listeners now calls
  refine ⟨fun steps => ?_, fun taken => ?_⟩
  · obtain ⟨taken, within, reached⟩ := sim.iterate listeners steps
    exact ⟨taken, within, reached.context, reached.received⟩
  · obtain ⟨steps, reached⟩ := sim.iterate_machine listeners taken
    exact ⟨steps, reached.context, reached.received⟩

end Refinement

/-! ### After an unsubscribe -/

section Unsubscribe

variable (callbacks : Nat → Callback)

/-- **A listener out of the set receives nothing from the next step** unless that step is its
`subscribe`: the `forEach` of a `notify` under way reads each entry when it gets to it. -/
theorem step_of_not_mem {registry : Registry} {listener : Nat}
    (absent : some listener ∉ registry.listeners)
    (notSubscribing : registry.pending.head? ≠ some (.op (.subscribe listener))) :
    some listener ∉ (registry.step callbacks).listeners ∧
      (registry.step callbacks).receivedBy listener = registry.receivedBy listener := by
  cases works : registry.pending with
  | nil =>
    have idle : registry.step callbacks = registry := by unfold Registry.step; rw [works]
    rw [idle]
    exact ⟨absent, rfl⟩
  | cons work rest =>
    cases work with
    | op op =>
      cases op with
      | call call =>
        rw [Registry.step_call _ works]
        cases call.apply registry.context <;> exact ⟨absent, rfl⟩
      | subscribe other =>
        have different : other ≠ listener := fun same => notSubscribing (by rw [works, same]; rfl)
        rw [Registry.step_subscribe _ works]
        refine ⟨fun mem => ?_, receivedBy_append_other _ _ different⟩
        rcases mem_setAdd.mp mem with old | same
        · exact absent old
        · exact different (Option.some.inj same).symm
      | unsubscribe other =>
        rw [Registry.step_unsubscribe _ works]
        exact ⟨fun mem => absent (mem_setDelete mem).1, rfl⟩
    | notify snapshot index =>
      rw [Registry.step_notify _ works]
      split
      · exact ⟨absent, rfl⟩
      · exact ⟨absent, rfl⟩
      · rename_i other entry
        have different : other ≠ listener := fun same =>
          absent (same ▸ List.getElem?_mem entry)
        exact ⟨absent, receivedBy_append_other _ _ different⟩

theorem iterate_of_not_mem {registry : Registry} {listener : Nat}
    (absent : some listener ∉ registry.listeners) (steps : Nat)
    (notSubscribing : ∀ taken < steps,
      ((Registry.step callbacks)^[taken] registry).pending.head? ≠ some (.op (.subscribe listener))) :
    some listener ∉ ((Registry.step callbacks)^[steps] registry).listeners ∧
      ((Registry.step callbacks)^[steps] registry).receivedBy listener = registry.receivedBy listener := by
  induction steps with
  | zero => exact ⟨absent, rfl⟩
  | succ steps ih =>
    obtain ⟨still, same⟩ := ih fun taken below => notSubscribing taken (by omega)
    rw [Function.iterate_succ_apply']
    obtain ⟨out, unchanged⟩ := step_of_not_mem callbacks still (notSubscribing steps (by omega))
    exact ⟨out, unchanged.trans same⟩

/-- **After its unsubscribe function runs, a listener receives nothing** until a `subscribe` of
it runs: the unsubscribe empties its entry, and no `notify`, under way or later, hands a context
to an empty entry. This holds with any callbacks, re-entrant or not, called from anywhere. -/
theorem unsubscribed_listener_receives_nothing (registry : Registry) (listener : Nat)
    (rest : List Work) (unsubscribing : registry.pending = .op (.unsubscribe listener) :: rest)
    (steps : Nat)
    (notResubscribed : ∀ taken < steps,
      ((Registry.step callbacks)^[taken + 1] registry).pending.head? ≠
        some (.op (.subscribe listener))) :
    ((Registry.step callbacks)^[steps + 1] registry).receivedBy listener =
      registry.receivedBy listener := by
  have absent : some listener ∉ (registry.step callbacks).listeners := by
    rw [Registry.step_unsubscribe _ unsubscribing]
    exact fun mem => (mem_setDelete mem).2 rfl
  have unchanged : (registry.step callbacks).receivedBy listener = registry.receivedBy listener := by
    rw [Registry.step_unsubscribe _ unsubscribing]
    rfl
  rw [Function.iterate_succ_apply, ← unchanged]
  exact (iterate_of_not_mem callbacks absent steps fun taken below => by
    simpa only [Function.iterate_succ_apply] using notResubscribed taken below).2

/-- Callbacks that make no op. -/
def quietCallbacks : Nat → Callback := fun _ _ => []

/-- Listener `0`'s callback, handed `LOADING`, has unsubscribed listener `1` before the `forEach`
gets to it. -/
def midNotify : Registry :=
  ⟨⟨.LOADING, some .IDLE, none, none, 1⟩, [some 0, some 1], [(0, ⟨.LOADING, some .IDLE, none, none, 1⟩)],
    [.op (.unsubscribe 1), .notify ⟨.LOADING, some .IDLE, none, none, 1⟩ 1]⟩

theorem unsubscribed_listener_receives_nothing_midNotify :
    midNotify.pending = .op (.unsubscribe 1) :: [.notify ⟨.LOADING, some .IDLE, none, none, 1⟩ 1] ∧
      (∀ taken < 2, ((Registry.step quietCallbacks)^[taken + 1] midNotify).pending.head? ≠
        some (.op (.subscribe 1))) ∧
      ((Registry.step quietCallbacks)^[2 + 1] midNotify).receivedBy 1 = midNotify.receivedBy 1 :=
  ⟨rfl, by decide, unsubscribed_listener_receives_nothing _ midNotify 1 _ rfl 2 (by decide)⟩

end Unsubscribe

/-! ### Listeners that do not call back -/

section Silent

variable {callbacks : Nat → Callback}

/-- No callback makes an op. -/
def SilentCallbacks (callbacks : Nat → Callback) : Prop :=
  ∀ listener context, callbacks listener context = []

/-- Every listener in the set last received the context. -/
def Registry.Synced (registry : Registry) : Prop :=
  ∀ listener, some listener ∈ registry.listeners →
    registry.lastReceived listener = some registry.context

/-- A silent run: outermost ops left with every listener in the set synced, or a `notify` of the
context under way that has handed it to the entries before its index. -/
def Registry.Delivering (registry : Registry) : Prop :=
  ∃ ops : List Op,
    (registry.pending = ops.map .op ∧ registry.Synced) ∨
    ∃ index, registry.pending = .notify registry.context index :: ops.map .op ∧
      ∀ position < index, ∀ listener, registry.listeners[position]? = some (some listener) →
        registry.lastReceived listener = some registry.context

/-- **One step of a silent run keeps `Delivering`.** A `subscribe` hands the new listener the
context at once; a `forEach` reaching its end has handed it to every entry. -/
theorem Registry.step_delivering (silent : SilentCallbacks callbacks) {registry : Registry}
    (holds : registry.Delivering) : (registry.step callbacks).Delivering := by
  obtain ⟨ops, ⟨outer, synced⟩ | ⟨index, notifying, handed⟩⟩ := holds
  · cases ops with
    | nil =>
      have idle : registry.step callbacks = registry := by unfold Registry.step; rw [outer]; rfl
      rw [idle]
      exact ⟨[], .inl ⟨outer, synced⟩⟩
    | cons op rest =>
      cases op with
      | call call =>
        rw [Registry.step_call _ outer]
        cases call.apply registry.context with
        | none => exact ⟨rest, .inl ⟨rfl, synced⟩⟩
        | some next => exact ⟨rest, .inr ⟨0, rfl, fun _ below => absurd below (Nat.not_lt_zero _)⟩⟩
      | subscribe listener =>
        rw [Registry.step_subscribe _ outer, silent]
        refine ⟨rest, .inl ⟨rfl, fun other mem => ?_⟩⟩
        simp only [Registry.lastReceived, lastReceived_append]
        split
        · rfl
        · rcases mem_setAdd.mp mem with old | same
          · exact synced other old
          · exact absurd (Option.some.inj same) ‹_›
      | unsubscribe listener =>
        rw [Registry.step_unsubscribe _ outer]
        exact ⟨rest, .inl ⟨rfl, fun other mem => synced other (mem_setDelete mem).1⟩⟩
  · rw [Registry.step_notify _ notifying]
    split
    · rename_i past
      refine ⟨ops, .inl ⟨rfl, fun listener mem => ?_⟩⟩
      obtain ⟨position, entry⟩ := List.mem_iff_getElem?.mp mem
      have within : position < registry.listeners.length := (List.getElem?_eq_some_iff.mp entry).1
      exact handed position (by have := List.getElem?_eq_none_iff.mp past; omega) listener entry
    · rename_i empty
      refine ⟨ops, .inr ⟨index + 1, rfl, fun position below listener entry => ?_⟩⟩
      rcases Nat.lt_succ_iff_lt_or_eq.mp below with earlier | rfl
      · exact handed position earlier listener entry
      · simp [empty] at entry
    · rename_i listener entry
      rw [silent]
      refine ⟨ops, .inr ⟨index + 1, rfl, fun position below other found => ?_⟩⟩
      simp only [Registry.lastReceived, lastReceived_append]
      split
      · rfl
      · rename_i different
        rcases Nat.lt_succ_iff_lt_or_eq.mp below with earlier | rfl
        · exact handed position earlier other found
        · exact absurd (Option.some.inj (Option.some.inj (found.symm.trans entry))) different

/-- **Listeners that do not call back stay in sync, also as the set changes.** From a registry
whose listeners have all received its context and which has only outermost ops left, at every
later point where only outermost ops are left, every listener in the set last received the
context `getContext()` returns: a late subscriber by `subscribe`'s own call, the others by the
`notify` of each transition or reset. -/
theorem registry_silent_listeners_stay_synced (silent : SilentCallbacks callbacks)
    {registry : Registry} (synced : registry.Synced) {ops : List Op}
    (outermost : registry.pending = ops.map .op) (steps : Nat) {later : List Op}
    (returned : ((Registry.step callbacks)^[steps] registry).pending = later.map .op) :
    ((Registry.step callbacks)^[steps] registry).Synced := by
  obtain ⟨rest, ⟨_, synced⟩ | ⟨index, notifying, _⟩⟩ :=
    Function.Iterate.rec Registry.Delivering (fun _ => Registry.step_delivering silent)
      ⟨ops, .inl ⟨outermost, synced⟩⟩ steps
  · exact synced
  · rw [returned] at notifying
    cases later <;> simp at notifying

/-- A page subscribes listener `0`, loads, subscribes listener `1`, unsubscribes `0` and
becomes ready. -/
def subscribeRun : Registry :=
  ⟨initialContext 0, [], [], [.subscribe 0, .call (.transition .LOADING none 1), .subscribe 1,
    .unsubscribe 0, .call (.transition .READY none 2)].map .op⟩

theorem registry_silent_listeners_stay_synced_subscribeRun :
    SilentCallbacks quietCallbacks ∧ subscribeRun.Synced ∧
      subscribeRun.pending = [.subscribe 0, .call (.transition .LOADING none 1), .subscribe 1,
        .unsubscribe 0, .call (.transition .READY none 2)].map .op ∧
      ((Registry.step quietCallbacks)^[12] subscribeRun).pending = ([] : List Op).map .op ∧
      ((Registry.step quietCallbacks)^[12] subscribeRun).Synced :=
  ⟨fun _ _ => rfl, fun _ mem => absurd mem (List.not_mem_nil _), rfl, by decide,
    @registry_silent_listeners_stay_synced quietCallbacks (fun _ _ => rfl) subscribeRun
      (fun _ mem => absurd mem (List.not_mem_nil _)) _ rfl 12 [] (by decide)⟩

end Silent

end Lidify.Playback
