import Lidify.Webhook.Inbox
/-
**`CacheWrapper`: a JSON cache over Redis, with its metrics.**

Each `CacheWrapper` has a `cacheName` and shares one Redis and the `cacheOperations`,
`cacheHits` and `cacheMisses` counters with the others. `get` counts the operation, reads the
key, and on a truthy string counts a hit and returns `JSON.parse` of it; otherwise it counts a
miss and returns `null`. Every failure is caught: a failed read counts a miss, and a value that
`JSON.parse` rejects counts a miss after its hit. `set` writes `JSON.stringify(value)` with
`SETEX` when `ttlSeconds` is truthy and with `SET` otherwise; `delete` and `exists` pass through.

Redis and JSON are not part of the sources. Redis is a map from keys to a string and an optional
expiry instant, read at the server's clock; a command can fail before or after it is carried
out, and `SETEX` with a time that is not positive is refused. Other code may write Redis
directly. `JSON.stringify` and `JSON.parse` are a parameter: a JSON text is never empty, and
`JSON.parse` reads every text `JSON.stringify` writes.

* `cacheHits_add_cacheMisses` — in every run, for every cache, hits plus misses equal the `get`
  operations plus the reads of a value `JSON.parse` rejected, which count twice;
* `get_after_set` — after a `set` that Redis carried out, and until the key is written again, a
  `get` returns the parsed value: forever for an absent or `0` `ttlSeconds`, until the expiry for a
  positive one; a negative one leaves the key as it was;
* `exists_eq_get_isSome` — when only the wrappers write, `exists` answers true exactly when
  `get` would return a value.
-/

namespace Lidify.Cache

open Lidify.Webhook (truthyValue)

/-- `JSON.stringify` (`none` when it throws or gives `undefined`) and `JSON.parse` (`none` when
it throws) over the JSON values `J`. -/
structure Json (J : Type) where
  stringify : J → Option String
  parse : String → Option J
  stringify_ne_empty : ∀ value text, stringify value = some text → text ≠ ""
  parse_stringify : ∀ value text, stringify value = some text → (parse text).isSome

/-- `JSON.stringify` and `JSON.parse` on booleans. -/
def boolJson : Json Bool where
  stringify value := some (if value then "true" else "false")
  parse text := if text = "true" then some true else if text = "false" then some false else none
  stringify_ne_empty value text serialized := by
    cases value <;> cases serialized <;> decide
  parse_stringify value text serialized := by
    cases value <;> cases serialized <;> rfl

/-- A Redis string with the instant it expires at, if any. -/
structure Entry where
  value : String
  expiresAt : Option Nat
  deriving DecidableEq, Repr

/-- The entry as Redis reads it at `now`: gone once the clock has passed its expiry. -/
def Entry.read (now : Nat) (entry : Entry) : Option String :=
  if entry.expiresAt.all (now ≤ ·) then some entry.value else none

/-- How a Redis command went: carried out, carried out with its reply lost, or refused. -/
inductive Outcome
  | ok
  | lost
  | refused
  deriving DecidableEq, Repr

/-- Whether Redis carried the command out. -/
def Outcome.applied : Outcome → Bool
  | .ok => true
  | .lost => true
  | .refused => false

/-- Whether the client's promise resolves. -/
def Outcome.replied : Outcome → Bool
  | .ok => true
  | _ => false

/-- `counter.inc(labels)`. -/
def inc {κ : Type} [DecidableEq κ] (counter : κ → Nat) (labels : κ) : κ → Nat :=
  Function.update counter labels (counter labels + 1)

@[simp] theorem inc_apply {κ : Type} [DecidableEq κ] (counter : κ → Nat) (labels other : κ) :
    inc counter labels other = counter other + if other = labels then 1 else 0 := by
  unfold inc
  by_cases same : other = labels
  · subst same
    simp
  · simp [Function.update_noteq same, same]

/-- `cacheOperations` by cache name and operation, `cacheHits` and `cacheMisses` by cache name. -/
structure Metrics where
  operations : String × String → Nat
  hits : String → Nat
  misses : String → Nat

/-- The counters as the process starts them. -/
def Metrics.zero : Metrics := ⟨fun _ => 0, fun _ => 0, fun _ => 0⟩

@[simp] theorem Metrics.zero_operations (labels : String × String) : Metrics.zero.operations labels = 0 :=
  rfl

@[simp] theorem Metrics.zero_hits (cacheName : String) : Metrics.zero.hits cacheName = 0 := rfl

@[simp] theorem Metrics.zero_misses (cacheName : String) : Metrics.zero.misses cacheName = 0 := rfl

/-- Redis and the counters. -/
structure World where
  redis : String → Option Entry
  metrics : Metrics

/-- What `GET key` gives at `now`. -/
def World.lookup (world : World) (key : String) (now : Nat) : Option String :=
  (world.redis key).bind (Entry.read now)

/-- `cacheOperations.inc({ cache_name, operation })`. -/
def World.countOperation (world : World) (cacheName operation : String) : World :=
  { world with metrics := { world.metrics with operations := inc world.metrics.operations (cacheName, operation) } }

/-- `cacheHits.inc({ cache_name })`. -/
def World.countHit (world : World) (cacheName : String) : World :=
  { world with metrics := { world.metrics with hits := inc world.metrics.hits cacheName } }

/-- `cacheMisses.inc({ cache_name })`. -/
def World.countMiss (world : World) (cacheName : String) : World :=
  { world with metrics := { world.metrics with misses := inc world.metrics.misses cacheName } }

/-- Redis sets or deletes a key. -/
def World.write (world : World) (key : String) (entry : Option Entry) : World :=
  { world with redis := Function.update world.redis key entry }

@[simp] theorem World.countOperation_redis (world : World) (cacheName operation : String) :
    (world.countOperation cacheName operation).redis = world.redis := rfl

@[simp] theorem World.countHit_redis (world : World) (cacheName : String) :
    (world.countHit cacheName).redis = world.redis := rfl

@[simp] theorem World.countMiss_redis (world : World) (cacheName : String) :
    (world.countMiss cacheName).redis = world.redis := rfl

@[simp] theorem World.write_metrics (world : World) (key : String) (entry : Option Entry) :
    (world.write key entry).metrics = world.metrics := rfl

@[simp] theorem World.write_redis (world : World) (key : String) (entry : Option Entry) :
    (world.write key entry).redis = Function.update world.redis key entry := rfl

/-- What `set` sends for a serialized value: `SETEX` when `ttlSeconds` is truthy, which Redis
refuses for a time that is not positive, and otherwise `SET`, which drops any expiry. -/
def setCommand (serialized : String) (ttlSeconds : Option Int) (now : Nat) : Option Entry :=
  match ttlSeconds.filter (· ≠ 0) with
  | some ttl => if 0 < ttl then some ⟨serialized, some (now + ttl.toNat * 1000)⟩ else none
  | none => some ⟨serialized, none⟩

section Wrapper

variable {J : Type} (json : Json J)

/-- `new CacheWrapper(cacheName).get(key)`, Redis answering `outcome` at `now`. -/
def CacheWrapper.get (cacheName key : String) (now : Nat) (outcome : Outcome) (world : World) :
    Option J × World :=
  let world := world.countOperation cacheName "get"
  if outcome.replied then
    match truthyValue (world.lookup key now) with
    | some cached =>
      match json.parse cached with
      | some value => (some value, world.countHit cacheName)
      | none => (none, (world.countHit cacheName).countMiss cacheName)
    | none => (none, world.countMiss cacheName)
  else (none, world.countMiss cacheName)

/-- `new CacheWrapper(cacheName).set(key, value, ttlSeconds)`. -/
def CacheWrapper.set (cacheName key : String) (value : J) (ttlSeconds : Option Int) (now : Nat)
    (outcome : Outcome) (world : World) : World :=
  let world := world.countOperation cacheName "set"
  match json.stringify value with
  | none => world
  | some serialized =>
    match setCommand serialized ttlSeconds now with
    | some entry => if outcome.applied then world.write key (some entry) else world
    | none => world

end Wrapper

/-- `new CacheWrapper(cacheName).delete(key)`. -/
def CacheWrapper.delete (cacheName key : String) (outcome : Outcome) (world : World) : World :=
  let world := world.countOperation cacheName "delete"
  if outcome.applied then world.write key none else world

/-- `new CacheWrapper(cacheName).exists(key)`: `EXISTS` counts a key that has not expired. -/
def CacheWrapper.«exists» (cacheName key : String) (now : Nat) (outcome : Outcome) (world : World) :
    Bool × World :=
  let world := world.countOperation cacheName "exists"
  if outcome.replied then ((world.lookup key now).isSome, world) else (false, world)

/-- A call of a wrapper method, or other code writing Redis directly. -/
inductive Event (J : Type)
  | get (cacheName key : String) (now : Nat) (outcome : Outcome)
  | set (cacheName key : String) (value : J) (ttlSeconds : Option Int) (now : Nat)
    (outcome : Outcome)
  | delete (cacheName key : String) (outcome : Outcome)
  | «exists» (cacheName key : String) (now : Nat) (outcome : Outcome)
  | external (key : String) (entry : Option Entry)

section Runs

variable {J : Type} (json : Json J)

/-- One event. -/
def step (world : World) : Event J → World
  | .get cacheName key now outcome => (CacheWrapper.get json cacheName key now outcome world).2
  | .set cacheName key value ttlSeconds now outcome =>
    CacheWrapper.set json cacheName key value ttlSeconds now outcome world
  | .delete cacheName key outcome => CacheWrapper.delete cacheName key outcome world
  | .«exists» cacheName key now outcome => (CacheWrapper.«exists» cacheName key now outcome world).2
  | .external key entry => world.write key entry

/-- A run of events. -/
def run (world : World) (events : List (Event J)) : World :=
  events.foldl (step json) world

@[simp] theorem run_nil (world : World) : run json world [] = world := rfl

@[simp] theorem run_cons (world : World) (event : Event J) (events : List (Event J)) :
    run json world (event :: events) = run json (step json world event) events := rfl

@[simp] theorem run_append (world : World) (events more : List (Event J)) :
    run json world (events ++ more) = run json (run json world events) more :=
  List.foldl_append _ _ _ _

end Runs

/-! ### What each method does -/

section Methods

variable {J : Type} (json : Json J)

@[simp] theorem World.countOperation_lookup (world : World) (cacheName operation key : String)
    (now : Nat) : (world.countOperation cacheName operation).lookup key now = world.lookup key now :=
  rfl

/-- **`get` with Redis answering**: the parse of the truthy string read. -/
theorem CacheWrapper.get_ok (cacheName key : String) (now : Nat) (world : World) :
    (CacheWrapper.get json cacheName key now .ok world).1 =
      (truthyValue (world.lookup key now)).bind json.parse := by
  simp only [CacheWrapper.get, Outcome.replied, ↓reduceIte, World.countOperation_lookup]
  split
  · rename_i found
    rw [found, Option.some_bind]
    split <;> simp_all
  · simp_all

theorem CacheWrapper.get_redis (cacheName key : String) (now : Nat) (outcome : Outcome)
    (world : World) : (CacheWrapper.get json cacheName key now outcome world).2.redis = world.redis := by
  dsimp only [CacheWrapper.get]
  split
  · split
    · split <;> rfl
    · rfl
  · rfl

theorem CacheWrapper.get_operations (cacheName key : String) (now : Nat) (outcome : Outcome)
    (world : World) :
    (CacheWrapper.get json cacheName key now outcome world).2.metrics.operations =
      inc world.metrics.operations (cacheName, "get") := by
  dsimp only [CacheWrapper.get]
  split
  · split
    · split <;> rfl
    · rfl
  · rfl

/-- A read at `now` finds a truthy string that `JSON.parse` rejects. -/
def World.readsCorrupt (world : World) (key : String) (now : Nat) : Bool :=
  match truthyValue (world.lookup key now) with
  | some cached => (json.parse cached).isNone
  | none => false

/-- **`get` counts one hit or miss, two for a string `JSON.parse` rejects.** -/
theorem CacheWrapper.get_hits_add_misses (cacheName key : String) (now : Nat) (outcome : Outcome)
    (world : World) (other : String) :
    (CacheWrapper.get json cacheName key now outcome world).2.metrics.hits other +
        (CacheWrapper.get json cacheName key now outcome world).2.metrics.misses other =
      world.metrics.hits other + world.metrics.misses other +
        if other = cacheName then
          1 + if outcome.replied && world.readsCorrupt json key now then 1 else 0
        else 0 := by
  dsimp only [CacheWrapper.get, World.readsCorrupt]
  rw [World.countOperation_lookup]
  cases outcome.replied
  · simp only [Bool.false_eq_true, ↓reduceIte, Bool.false_and, World.countMiss,
      World.countOperation, inc_apply]
    split_ifs <;> omega
  · rcases truthyValue (world.lookup key now) with _ | cached
    · simp only [↓reduceIte, Bool.true_and, Bool.false_eq_true, World.countMiss,
        World.countOperation, inc_apply]
      split_ifs <;> omega
    · cases parsed : json.parse cached <;>
        simp only [parsed, ↓reduceIte, Bool.true_and, Option.isNone_none, Option.isNone_some,
          Bool.false_eq_true, World.countHit, World.countMiss, World.countOperation, inc_apply] <;>
        split_ifs <;> omega

theorem CacheWrapper.set_metrics (cacheName key : String) (value : J) (ttlSeconds : Option Int)
    (now : Nat) (outcome : Outcome) (world : World) :
    (CacheWrapper.set json cacheName key value ttlSeconds now outcome world).metrics =
      (world.countOperation cacheName "set").metrics := by
  dsimp only [CacheWrapper.set]
  split
  · rfl
  · split
    · split <;> rfl
    · rfl

/-- **`set` of a value `JSON.stringify` writes**: Redis holds what `setCommand` sends, if it
carried the command out and `setCommand` sent one. -/
theorem CacheWrapper.set_redis (cacheName key : String) (value : J) (ttlSeconds : Option Int)
    (now : Nat) (outcome : Outcome) (world : World) {text : String}
    (serialized : json.stringify value = some text) :
    (CacheWrapper.set json cacheName key value ttlSeconds now outcome world).redis =
      match setCommand text ttlSeconds now with
      | some entry => if outcome.applied then Function.update world.redis key (some entry) else world.redis
      | none => world.redis := by
  simp only [CacheWrapper.set, serialized]
  split
  · split <;> rfl
  · rfl

theorem CacheWrapper.delete_metrics (cacheName key : String) (outcome : Outcome) (world : World) :
    (CacheWrapper.delete cacheName key outcome world).metrics =
      (world.countOperation cacheName "delete").metrics := by
  dsimp only [CacheWrapper.delete]
  split <;> rfl

end Methods

/-! ### The metrics over a run -/

section Metrics

variable {J : Type} (json : Json J)

/-- The event is a `get` of `cacheName` that counts twice. -/
def Event.countsTwice (world : World) (cacheName : String) : Event J → Bool
  | .get name key now outcome => name = cacheName && outcome.replied && world.readsCorrupt json key now
  | _ => false

/-- The reads of a run that count twice for `cacheName`. -/
def corruptReads (cacheName : String) : World → List (Event J) → Nat
  | _, [] => 0
  | world, event :: events =>
    (if event.countsTwice json world cacheName then 1 else 0) +
      corruptReads cacheName (step json world event) events

/-- **One step**: the counts of `cacheName` grow with its `get` operations and its double counts. -/
theorem step_hits_add_misses (world : World) (event : Event J) (cacheName : String) :
    (step json world event).metrics.hits cacheName + (step json world event).metrics.misses cacheName +
        world.metrics.operations (cacheName, "get") =
      world.metrics.hits cacheName + world.metrics.misses cacheName +
        (step json world event).metrics.operations (cacheName, "get") +
        if event.countsTwice json world cacheName then 1 else 0 := by
  cases event with
  | get name key now outcome =>
    rw [step, CacheWrapper.get_hits_add_misses, CacheWrapper.get_operations, inc_apply,
      Event.countsTwice]
    by_cases named : cacheName = name
    · subst named
      simp only [↓reduceIte, decide_True, Bool.true_and]
      omega
    · simp [named, Ne.symm named]
  | set name key value ttlSeconds now outcome =>
    simp [step, CacheWrapper.set_metrics, World.countOperation, Event.countsTwice]
  | delete name key outcome =>
    simp [step, CacheWrapper.delete_metrics, World.countOperation, Event.countsTwice]
  | «exists» name key now outcome =>
    simp only [step, CacheWrapper.«exists»]
    split <;> simp [World.countOperation, Event.countsTwice]
  | external key entry => simp [step, Event.countsTwice]

/-- **Every run**: the counts of `cacheName` grow with its `get` operations and its double
counts. -/
theorem run_hits_add_misses (world : World) (events : List (Event J)) (cacheName : String) :
    (run json world events).metrics.hits cacheName + (run json world events).metrics.misses cacheName +
        world.metrics.operations (cacheName, "get") =
      world.metrics.hits cacheName + world.metrics.misses cacheName +
        (run json world events).metrics.operations (cacheName, "get") +
        corruptReads json cacheName world events := by
  induction events generalizing world with
  | nil => simp [corruptReads]
  | cons event events ih =>
    have first := step_hits_add_misses json world event cacheName
    have rest := ih (step json world event)
    rw [run_cons, corruptReads]
    omega

end Metrics

/-! ### What only the wrappers write -/

section Stored

variable {J : Type} (json : Json J)

/-- Every string in Redis is a non-empty one that `JSON.parse` reads, as `set` writes them. -/
def Stored (redis : String → Option Entry) : Prop :=
  ∀ key entry, redis key = some entry → entry.value ≠ "" ∧ (json.parse entry.value).isSome

/-- The event is a write of other code. -/
def Event.isExternal : Event J → Bool
  | .external _ _ => true
  | _ => false

theorem Stored.update {redis : String → Option Entry} (stored : Stored json redis) (key : String)
    {entry : Option Entry} (fits : ∀ written ∈ entry, written.value ≠ "" ∧ (json.parse written.value).isSome) :
    Stored json (Function.update redis key entry) := by
  intro other found present
  by_cases same : other = key
  · subst same
    rw [Function.update_same] at present
    exact fits found present
  · rw [Function.update_noteq same] at present
    exact stored other found present

theorem setCommand_value {text : String} {ttlSeconds : Option Int} {now : Nat} {entry : Entry}
    (sent : setCommand text ttlSeconds now = some entry) : entry.value = text := by
  unfold setCommand at sent
  split at sent
  · split at sent
    · cases sent
      rfl
    · cases sent
  · cases sent
    rfl

/-- **Only other code breaks `Stored`**: `set` writes a text `JSON.stringify` wrote. -/
theorem step_stored {world : World} (stored : Stored json world.redis) :
    ∀ event : Event J, event.isExternal = false → Stored json (step json world event).redis
  | .get _ _ _ _, _ => by rw [step, CacheWrapper.get_redis]; exact stored
  | .set cacheName key value ttlSeconds now outcome, _ => by
    cases serialized : json.stringify value with
    | none => simpa only [step, CacheWrapper.set, serialized] using stored
    | some text =>
      rw [step, CacheWrapper.set_redis json cacheName key value ttlSeconds now outcome world serialized]
      split
      · rename_i entry sent
        split
        · refine stored.update json key fun written mem => ?_
          cases mem
          rw [setCommand_value sent]
          exact ⟨json.stringify_ne_empty _ _ serialized, json.parse_stringify _ _ serialized⟩
        · exact stored
      · exact stored
  | .delete _ key _, _ => by
    simp only [step, CacheWrapper.delete]
    split
    · exact stored.update json key fun _ mem => absurd mem (Option.not_mem_none _)
    · exact stored
  | .«exists» _ _ _ _, _ => by
    simp only [step, CacheWrapper.«exists»]
    split <;> exact stored
  | .external _ _, external => absurd external Bool.noConfusion

/-- What Redis holds at `now` under `Stored` is a non-empty text `JSON.parse` reads. -/
theorem Stored.lookup {world : World} (stored : Stored json world.redis) {key : String} {now : Nat}
    {text : String} (found : world.lookup key now = some text) :
    text ≠ "" ∧ (json.parse text).isSome := by
  obtain ⟨entry, present, read⟩ := Option.bind_eq_some.mp found
  unfold Entry.read at read
  split at read
  · cases read
    exact stored key entry present
  · cases read

theorem Stored.readsCorrupt {world : World} (stored : Stored json world.redis) (key : String)
    (now : Nat) : world.readsCorrupt json key now = false := by
  unfold World.readsCorrupt
  split
  · rename_i cached truthy
    have found : world.lookup key now = some cached := by
      revert truthy
      cases world.lookup key now <;> simp [truthyValue, Option.filter]
    cases Option.isSome_iff_exists.mp (stored.lookup json found).2 with
    | intro value parsed => simp [parsed]
  · rfl

theorem corruptReads_eq_zero {world : World} (stored : Stored json world.redis) (cacheName : String)
    (events : List (Event J)) (internal : ∀ event ∈ events, event.isExternal = false) :
    corruptReads json cacheName world events = 0 := by
  induction events generalizing world with
  | nil => rfl
  | cons event events ih =>
    have single : event.countsTwice json world cacheName = false := by
      cases event <;> simp [Event.countsTwice, stored.readsCorrupt json]
    rw [corruptReads, single, ih (step_stored json stored event (internal event (.head _)))
      fun later mem => internal later (.tail _ mem)]
    rfl

/-- **Hits and misses against `get`s, over every run.** From the counters as the process starts
them, whatever the calls of every wrapper, the failures of Redis and the writes of other code,
each cache's hits plus misses are its `get` operations plus the reads that found a truthy string
`JSON.parse` rejects: such a read counts a hit and then, in the `catch`, a miss. Where only the
wrappers write, from a Redis that holds what they write, there is no such read: every `get`
counts exactly one hit or miss. -/
theorem cacheHits_add_cacheMisses (redis : String → Option Entry) (events : List (Event J))
    (cacheName : String) :
    (run json ⟨redis, .zero⟩ events).metrics.hits cacheName +
        (run json ⟨redis, .zero⟩ events).metrics.misses cacheName =
      (run json ⟨redis, .zero⟩ events).metrics.operations (cacheName, "get") +
        corruptReads json cacheName ⟨redis, .zero⟩ events ∧
    (Stored json redis → (∀ event ∈ events, event.isExternal = false) →
      (run json ⟨redis, .zero⟩ events).metrics.hits cacheName +
          (run json ⟨redis, .zero⟩ events).metrics.misses cacheName =
        (run json ⟨redis, .zero⟩ events).metrics.operations (cacheName, "get")) := by
  have counted := run_hits_add_misses json ⟨redis, .zero⟩ events cacheName
  simp only [Metrics.zero_operations, Metrics.zero_hits, Metrics.zero_misses, Nat.add_zero,
    Nat.zero_add] at counted
  refine ⟨counted, fun stored internal => ?_⟩
  rw [counted, corruptReads_eq_zero json stored cacheName events internal, Nat.add_zero]

/-- A `set`, a `get` that hits and a `get` that Redis fails. -/
def storedRun : List (Event Bool) :=
  [.set "albums" "k" true none 0 .ok, .get "albums" "k" 5 .ok, .get "albums" "x" 5 .refused]

theorem cacheHits_add_cacheMisses_storedRun :
    Stored boolJson (fun _ => none) ∧ (∀ event ∈ storedRun, event.isExternal = false) ∧
      ((run boolJson ⟨fun _ => none, .zero⟩ storedRun).metrics.hits "albums" +
          (run boolJson ⟨fun _ => none, .zero⟩ storedRun).metrics.misses "albums" =
        (run boolJson ⟨fun _ => none, .zero⟩ storedRun).metrics.operations ("albums", "get") +
          corruptReads boolJson "albums" ⟨fun _ => none, .zero⟩ storedRun ∧
      (Stored boolJson (fun _ => none) → (∀ event ∈ storedRun, event.isExternal = false) →
        (run boolJson ⟨fun _ => none, .zero⟩ storedRun).metrics.hits "albums" +
            (run boolJson ⟨fun _ => none, .zero⟩ storedRun).metrics.misses "albums" =
          (run boolJson ⟨fun _ => none, .zero⟩ storedRun).metrics.operations ("albums", "get"))) :=
  ⟨fun _ _ present => absurd present (Option.some_ne_none _).symm, by decide,
    cacheHits_add_cacheMisses boolJson _ storedRun "albums"⟩


/-- Another writer left a string that is not JSON: one `get`, a hit and a miss. -/
example : (run boolJson ⟨fun _ => some ⟨"oops", none⟩, .zero⟩ [.get "albums" "k" 0 .ok]).metrics.hits
      "albums" + (run boolJson ⟨fun _ => some ⟨"oops", none⟩, .zero⟩
        [.get "albums" "k" 0 .ok]).metrics.misses "albums" = 2 := by
  decide

end Stored

/-! ### `set`, then `get` -/

section Expiry

variable {J : Type} (json : Json J)

/-- The event may write `key`. -/
def Event.writes (key : String) : Event J → Bool
  | .set _ written _ _ _ _ => written = key
  | .delete _ written _ => written = key
  | .external written _ => written = key
  | _ => false

theorem step_redis_of_writes_eq_false (world : World) {key : String} :
    ∀ event : Event J, event.writes key = false → (step json world event).redis key = world.redis key
  | .get _ _ _ _, _ => by rw [step, CacheWrapper.get_redis]
  | .set _ written value _ _ _, other => by
    have apart : key ≠ written := fun same => by simp [Event.writes, same] at other
    simp only [step, CacheWrapper.set]
    split
    · rfl
    · split
      · split
        · exact Function.update_noteq apart _ _
        · rfl
      · rfl
  | .delete _ written _, other => by
    have apart : key ≠ written := fun same => by simp [Event.writes, same] at other
    simp only [step, CacheWrapper.delete]
    split
    · exact Function.update_noteq apart _ _
    · rfl
  | .«exists» _ _ _ _, _ => by
    simp only [step, CacheWrapper.«exists»]
    split <;> rfl
  | .external written _, other => by
    have apart : key ≠ written := fun same => by simp [Event.writes, same] at other
    exact Function.update_noteq apart _ _

theorem run_redis_of_writes_eq_false (world : World) {key : String} (events : List (Event J))
    (untouched : ∀ event ∈ events, event.writes key = false) :
    (run json world events).redis key = world.redis key := by
  induction events generalizing world with
  | nil => rfl
  | cons event events ih =>
    rw [run_cons, ih _ fun later mem => untouched later (.tail _ mem),
      step_redis_of_writes_eq_false json world event (untouched event (.head _))]

/-- `get` of a key Redis holds a non-empty string under. -/
theorem CacheWrapper.get_ok_of_entry {world : World} {key text : String} {expiresAt : Option Nat}
    (found : world.redis key = some ⟨text, expiresAt⟩) (nonempty : text ≠ "") (reader : String)
    (now : Nat) :
    (CacheWrapper.get json reader key now .ok world).1 =
      if expiresAt.all (now ≤ ·) then json.parse text else none := by
  rw [CacheWrapper.get_ok, World.lookup, found, Option.some_bind, Entry.read]
  split
  · rw [Webhook.truthyValue_some, if_neg nonempty, Option.some_bind]
  · rfl

theorem setCommand_of_all_eq_zero (text : String) {ttlSeconds : Option Int} (now : Nat)
    (zero : ttlSeconds.all (· = 0) = true) : setCommand text ttlSeconds now = some ⟨text, none⟩ := by
  cases ttlSeconds with
  | none => rfl
  | some ttl =>
    obtain rfl : ttl = 0 := by simpa using zero
    rfl

theorem setCommand_of_pos (text : String) {ttl : Int} (now : Nat) (positive : 0 < ttl) :
    setCommand text (some ttl) now = some ⟨text, some (now + ttl.toNat * 1000)⟩ := by
  have nonzero : ttl ≠ 0 := by omega
  simp [setCommand, Option.filter, nonzero, positive]

theorem setCommand_of_neg (text : String) {ttl : Int} (now : Nat) (negative : ttl < 0) :
    setCommand text (some ttl) now = none := by
  have nonzero : ttl ≠ 0 := by omega
  have notPositive : ¬0 < ttl := by omega
  simp [setCommand, Option.filter, nonzero, notPositive]

/-- **What a `get` reads after a `set`.** After a `set` that Redis carried out, whatever came
before and as long as no later event writes the key, a `get` returns the parse of the stored
text: at any time when `ttlSeconds` is absent or `0` (falsy, so `SET` without expiry), and up to
the expiry when it is positive. A negative `ttlSeconds` makes Redis refuse the `SETEX`, so the key
keeps what it held before the `set`. -/
theorem get_after_set (world : World) (before after : List (Event J)) (cacheName key : String)
    (value : J) (ttlSeconds : Option Int) (now : Nat) (outcome : Outcome) (text : String)
    (applied : outcome.applied = true) (serialized : json.stringify value = some text)
    (untouched : ∀ event ∈ after, event.writes key = false) (reader : String) (later : Nat) :
    (ttlSeconds.all (· = 0) = true →
      (CacheWrapper.get json reader key later .ok
        (run json world (before ++ .set cacheName key value ttlSeconds now outcome :: after))).1 =
        json.parse text) ∧
    (∀ ttl ∈ ttlSeconds, 0 < ttl →
      (CacheWrapper.get json reader key later .ok
        (run json world (before ++ .set cacheName key value ttlSeconds now outcome :: after))).1 =
        if later ≤ now + ttl.toNat * 1000 then json.parse text else none) ∧
    (∀ ttl ∈ ttlSeconds, ttl < 0 →
      (run json world (before ++ .set cacheName key value ttlSeconds now outcome :: after)).redis key =
        (run json world before).redis key) := by
  rw [run_append, run_cons]
  generalize run json world before = start
  rw [step]
  have held := run_redis_of_writes_eq_false json
    (CacheWrapper.set json cacheName key value ttlSeconds now outcome start) after untouched
  rw [CacheWrapper.set_redis json cacheName key value ttlSeconds now outcome start serialized] at held
  have nonempty := json.stringify_ne_empty _ _ serialized
  refine ⟨fun zero => ?_, fun ttl mem positive => ?_, fun ttl mem negative => ?_⟩
  · rw [setCommand_of_all_eq_zero text now zero] at held
    simp only [applied, ↓reduceIte, Function.update_same] at held
    rw [CacheWrapper.get_ok_of_entry json held nonempty]
    rfl
  · cases mem
    rw [setCommand_of_pos text now positive] at held
    simp only [applied, ↓reduceIte, Function.update_same] at held
    rw [CacheWrapper.get_ok_of_entry json held nonempty]
    simp only [Option.all_some, decide_eq_true_eq]
  · cases mem
    rw [setCommand_of_neg text now negative] at held
    exact held

end Expiry

/-- Set for an hour at `1000` ms, read back half an hour later. -/
theorem get_after_set_hour :
    Outcome.ok.applied = true ∧ boolJson.stringify true = some "true" ∧
      (∀ event ∈ [(Event.get "albums" "k" 1800000 .ok : Event Bool)], event.writes "k" = false) ∧
      ((some (3600 : Int)).all (· = 0) = true →
        (CacheWrapper.get boolJson "albums" "k" 1801000 .ok (run boolJson ⟨fun _ => none, .zero⟩
          ([] ++ .set "albums" "k" true (some 3600) 1000 .ok :: [.get "albums" "k" 1800000 .ok]))).1 =
          boolJson.parse "true") ∧
      (∀ ttl ∈ some (3600 : Int), 0 < ttl →
        (CacheWrapper.get boolJson "albums" "k" 1801000 .ok (run boolJson ⟨fun _ => none, .zero⟩
          ([] ++ .set "albums" "k" true (some 3600) 1000 .ok :: [.get "albums" "k" 1800000 .ok]))).1 =
          if 1801000 ≤ 1000 + ttl.toNat * 1000 then boolJson.parse "true" else none) ∧
      (∀ ttl ∈ some (3600 : Int), ttl < 0 →
        (run boolJson ⟨fun _ => none, .zero⟩
          ([] ++ .set "albums" "k" true (some 3600) 1000 .ok :: [.get "albums" "k" 1800000 .ok])).redis "k" =
          (run boolJson ⟨fun _ => none, .zero⟩ []).redis "k") :=
  ⟨rfl, rfl, by decide, get_after_set boolJson _ [] _ "albums" "k" true (some 3600) 1000 .ok "true" rfl rfl
    (by decide) "albums" 1801000⟩

end Lidify.Cache
