import Lidify.Webhook.Inbox
import Mathlib.Data.Finset.Card
/-
**The `/api/events` stream: `eventBus`, and the route's connections, listeners and heartbeats.**

`routes/events.ts` answers `GET /api/events?token=<jwt>` with a server-sent event stream. The
handler checks the token, awaits the user's row and compares `tokenVersion`; then, in one
synchronous run, it writes the `connected` frame, adds the response to `connections`, subscribes a
listener to `eventBus`, starts a heartbeat and registers `req.on("close")`, which undoes the last
four. The listener forwards the events of its own user through `safeSend`, which writes only to a
response not yet destroyed.

* `World`, `next`, `run` — any number of requests, interleaved with published events, heartbeats,
  disconnects and writes to the user table.
* `foldl_listener` — `eventBus.emit` appends the event's frame to a live response once per
  listener entry of that response and the event's user, and changes nothing else.

A client's disconnect destroys its response and makes `req` emit `close` once; a `close` emitted
while the handler still awaits the user's row reaches no callback.
-/

namespace Lidify.Events

open Lidify.Webhook (truthyValue jsOr)

/-! ### Events and frames -/

/-- `SSEEvent`. `type` is one of the `SSEEventType` names; each payload value is kept as the text
`JSON.stringify` writes for it. -/
structure SSEEvent where
  type : String
  userId : String
  payload : List (String × String)
  deriving DecidableEq, Repr

/-- `object[key] = value` on a JavaScript object given as its fields in order: an existing key
keeps its place, a new one goes last. -/
def assign : List (String × String) → String → String → List (String × String)
  | [], key, value => [(key, value)]
  | field :: rest, key, value =>
    if field.1 = key then (key, value) :: rest else field :: assign rest key value

/-- `{ ...object, ...more }`. -/
def spread (object more : List (String × String)) : List (String × String) :=
  more.foldl (fun folded field => assign folded field.1 field.2) object

/-- What one `res.write` puts on the stream, ended by a blank line: `data: <JSON>` or a comment
line `: <text>`. -/
inductive Frame
  | data (object : List (String × String))
  | comment (text : String)
  deriving DecidableEq, Repr

/-- Whether a frame is a `data:` frame, which `EventSource` delivers to the page. -/
def Frame.isData : Frame → Bool
  | .data _ => true
  | .comment _ => false

/-- `data: {"type":"connected"}`. -/
def connectedFrame : Frame := .data [("type", "connected")]

/-- `: heartbeat`. -/
def heartbeatFrame : Frame := .comment "heartbeat"

/-- The listener's frame `{ ...rest, ...payload }`, where `rest` is the event without `userId`
and `payload`, that is `{ type }`. -/
def eventFrame (event : SSEEvent) : Frame := .data (spread [("type", event.type)] event.payload)

/-- The data frames among those a client received. -/
def dataFrames (frames : List Frame) : List Frame := frames.filter Frame.isData

/-! ### The route -/

/-- The claims `jwt.verify` returns; `tokenVersion` is absent from a token that has none. -/
structure Decoded where
  userId : String
  tokenVersion : Option Int
  deriving DecidableEq, Repr

/-- The columns `prisma.user.findUnique` selects. -/
structure UserRow where
  id : String
  tokenVersion : Int
  deriving DecidableEq, Repr

/-- What the route reads besides the request: `process.env`, and `jwt.verify(token, secret)`,
which returns the claims or throws. -/
structure Config where
  env : String → Option String
  verify : String → String → Option Decoded

/-- `JWT_SECRET`: `process.env.JWT_SECRET || process.env.SESSION_SECRET`. -/
def jwtSecret (env : String → Option String) : Option String :=
  jsOr (env "JWT_SECRET") (env "SESSION_SECRET")

/-- Where one request's handler is. In `streaming` its `close` callback is registered and
`beating` says whether its heartbeat interval still runs. -/
inductive Phase
  | arrived
  | lookingUp (decoded : Decoded)
  | rejected (error : String)
  | streaming (userId : String) (beating : Bool)
  | closed (userId : String)
  deriving DecidableEq, Repr

/-- The user a request's stream belongs to, once the handler accepted it. -/
def Phase.user : Phase → Option String
  | .streaming userId _ => some userId
  | .closed userId => some userId
  | _ => none

/-- A listener on the bus: the closure a request subscribed, with the response and the `userId` it
captured. -/
structure Listener (ρ : Type) where
  request : ρ
  userId : String
  deriving DecidableEq, Repr

/-- The process: each request's `req.query.token`, where its handler is, and its response
(`res.destroyed`, what reached the client); the `connections` map; the listeners of the bus's
emitter on its channel, in the order they subscribed; and the user table. `emitted` (every event published, in order) and `subscribedAt` (how many had been
published when a request subscribed) are ghost fields no code reads. -/
structure World (ρ : Type) where
  token : ρ → Option String
  phase : ρ → Phase
  destroyed : ρ → Bool
  written : ρ → List Frame
  connections : String → Option (Finset ρ)
  listeners : List (Listener ρ)
  users : String → Option UserRow
  emitted : List SSEEvent
  subscribedAt : ρ → Nat

variable {ρ : Type} [DecidableEq ρ] (config : Config)

/-- Every request arrived with its token; no connection, no listener, nothing published. -/
def start (token : ρ → Option String) (users : String → Option UserRow) : World ρ :=
  ⟨token, fun _ => .arrived, fun _ => false, fun _ => [], fun _ => none, [], users, [],
    fun _ => 0⟩

/-- Moves one request's handler on. -/
def World.setPhase (world : World ρ) (request : ρ) (phase : Phase) : World ρ :=
  { world with phase := Function.update world.phase request phase }

/-- `res.write(frame)`: it reaches the client unless the response is destroyed. -/
def World.write (world : World ρ) (request : ρ) (frame : Frame) : World ρ :=
  { world with
    written := if world.destroyed request then world.written
      else Function.update world.written request (world.written request ++ [frame]) }

section WriteFields

variable (world : World ρ) (request : ρ) (frame : Frame)

@[simp] theorem World.write_token : (world.write request frame).token = world.token := rfl
@[simp] theorem World.write_phase : (world.write request frame).phase = world.phase := rfl
@[simp] theorem World.write_destroyed :
    (world.write request frame).destroyed = world.destroyed := rfl
@[simp] theorem World.write_connections :
    (world.write request frame).connections = world.connections := rfl
@[simp] theorem World.write_listeners :
    (world.write request frame).listeners = world.listeners := rfl
@[simp] theorem World.write_emitted : (world.write request frame).emitted = world.emitted := rfl
@[simp] theorem World.write_subscribedAt :
    (world.write request frame).subscribedAt = world.subscribedAt := rfl

end WriteFields

@[simp] theorem World.write_written (world : World ρ) (request other : ρ) (frame : Frame) :
    (world.write request frame).written other = world.written other ++
      if other = request ∧ world.destroyed request = false then [frame] else [] := by
  by_cases same : other = request <;> by_cases gone : world.destroyed request <;>
    simp [World.write, same, gone]

/-- `safeSend(data)`: whether it wrote, and the world after. `writableEnded` stays false, since
the route never ends a response. -/
def World.safeSend (world : World ρ) (request : ρ) (frame : Frame) : Bool × World ρ :=
  (!world.destroyed request, world.write request frame)

@[simp] theorem World.safeSend_fst (world : World ρ) (request : ρ) (frame : Frame) :
    (world.safeSend request frame).1 = !world.destroyed request := rfl

@[simp] theorem World.safeSend_snd (world : World ρ) (request : ρ) (frame : Frame) :
    (world.safeSend request frame).2 = world.write request frame := rfl

/-- The listener `request` subscribed for `userId`, called with one event. -/
def listener (request : ρ) (userId : String) (world : World ρ) (event : SSEEvent) : World ρ :=
  if event.userId = userId then (world.safeSend request (eventFrame event)).2 else world

/-- `eventBus.emit(event)`: the emitter calls the listeners in the order they subscribed. -/
def emit (event : SSEEvent) (world : World ρ) : World ρ :=
  world.listeners.foldl (fun folded entry => listener entry.request entry.userId folded event)
    { world with emitted := world.emitted ++ [event] }

/-- The handler up to `await prisma.user.findUnique(...)`; `!token || !JWT_SECRET` answers
`Unauthorized`, and a throwing `jwt.verify` lands in the `catch`. -/
def handle (request : ρ) (world : World ρ) : World ρ :=
  world.setPhase request <|
    match truthyValue (world.token request), truthyValue (jwtSecret config.env) with
    | some token, some secret =>
      match config.verify token secret with
      | some decoded => .lookingUp decoded
      | none => .rejected "Invalid token"
    | _, _ => .rejected "Unauthorized"

/-- `if (!connections.has(userId)) connections.set(userId, new Set())`, then
`connections.get(userId)!.add(res)`. -/
def addConnection (connections : String → Option (Finset ρ)) (request : ρ) (userId : String) :
    String → Option (Finset ρ) :=
  Function.update connections userId (some (insert request ((connections userId).getD ∅)))

/-- `userConns.delete(res)`, then `connections.delete(userId)` once `userConns.size === 0`. -/
def removeConnection (connections : String → Option (Finset ρ)) (request : ρ) (userId : String) :
    String → Option (Finset ρ) :=
  match connections userId with
  | some userConns =>
    Function.update connections userId
      (if (userConns.erase request).card = 0 then none else some (userConns.erase request))
  | none => connections

/-- The handler after the lookup, up to its return: `res.write` of the `connected` frame, the
response added to `connections`, `eventBus.subscribe(listener)`, the heartbeat and the `close`
callback. -/
def register (request : ρ) (userId : String) (world : World ρ) : World ρ :=
  let sent := world.write request connectedFrame
  { sent with
    phase := Function.update sent.phase request (.streaming userId true)
    connections := addConnection sent.connections request userId
    listeners := sent.listeners ++ [⟨request, userId⟩]
    subscribedAt := Function.update sent.subscribedAt request sent.emitted.length }

/-- The rest of the handler once `findUnique` answers; `fault` is a lookup that throws, which the
`catch` answers as `Invalid token`. -/
def resolve (request : ρ) (decoded : Decoded) (fault : Bool) (world : World ρ) : World ρ :=
  if fault then world.setPhase request (.rejected "Invalid token")
  else match world.users decoded.userId with
    | none => world.setPhase request (.rejected "User not found")
    | some user =>
      if decoded.tokenVersion = none ∨ decoded.tokenVersion ≠ some user.tokenVersion then
        world.setPhase request (.rejected "Token has been revoked")
      else register request decoded.userId world

/-- The heartbeat interval fires: `safeSend(": heartbeat")`, and when it fails `clearInterval`
and `unsubscribe()`. -/
def heartbeat (request : ρ) (world : World ρ) : World ρ :=
  match world.phase request with
  | .streaming userId true =>
    let attempt := world.safeSend request heartbeatFrame
    if attempt.1 then attempt.2
    else { attempt.2 with
      phase := Function.update attempt.2.phase request (.streaming userId false)
      listeners := attempt.2.listeners.erase ⟨request, userId⟩ }
  | _ => world

/-- The `close` callback: `clearInterval`, `unsubscribe()`, and the response out of
`connections`. -/
def onClose (request : ρ) (userId : String) (world : World ρ) : World ρ :=
  { world with
    phase := Function.update world.phase request (.closed userId)
    listeners := world.listeners.erase ⟨request, userId⟩
    connections := removeConnection world.connections request userId }

/-- The client goes away: the response is destroyed and `req` emits `close` once, which runs the
callback only if the handler has registered it. -/
def disconnect (request : ρ) (world : World ρ) : World ρ :=
  if world.destroyed request then world
  else
    let gone := { world with destroyed := Function.update world.destroyed request true }
    match world.phase request with
    | .streaming userId _ => onClose request userId gone
    | _ => gone

/-- What can happen next: a handler runs to its await or resumes after it, a producer publishes,
an interval fires, a client goes away, or any write to the user table (a `tokenVersion` bump
among them). -/
inductive Event (ρ : Type)
  | handle (request : ρ)
  | resolve (request : ρ) (fault : Bool)
  | emit (event : SSEEvent)
  | heartbeat (request : ρ)
  | disconnect (request : ρ)
  | setUser (userId : String) (row : Option UserRow)

/-- One event. A handler step of a request not at that point changes nothing. -/
def next (world : World ρ) : Event ρ → World ρ
  | .handle request =>
    match world.phase request with
    | .arrived => handle config request world
    | _ => world
  | .resolve request fault =>
    match world.phase request with
    | .lookingUp decoded => resolve request decoded fault world
    | _ => world
  | .emit event => emit event world
  | .heartbeat request => heartbeat request world
  | .disconnect request => disconnect request world
  | .setUser userId row => { world with users := Function.update world.users userId row }

/-- A whole interleaving. -/
def run (world : World ρ) (events : List (Event ρ)) : World ρ := events.foldl (next config) world

/-! ### What `emit` does -/

/-- **The bus's fan-out.** Calling the listeners `entries` appends the event's frame to each
live response once per entry of that response and the event's user, and changes nothing else. -/
theorem foldl_listener (event : SSEEvent) (entries : List (Listener ρ)) (world : World ρ) :
    entries.foldl (fun folded entry => listener entry.request entry.userId folded event) world =
      { world with
        written := fun request => world.written request ++
          if world.destroyed request then []
          else List.replicate (entries.count ⟨request, event.userId⟩) (eventFrame event) } := by
  induction entries generalizing world with
  | nil => cases world; simp
  | cons entry rest ih =>
    obtain ⟨request, userId⟩ := entry
    rw [List.foldl_cons, ih]
    by_cases mine : event.userId = userId
    · subst mine
      simp only [listener, World.safeSend, World.write, if_true]
      congr 1
      funext other
      by_cases same : other = request
      · subst same
        by_cases gone : world.destroyed other <;>
          simp [gone, List.count_cons, List.replicate_succ]
      · split <;> simp [same, List.count_cons, Ne.symm same]
    · simp [listener, mine, List.count_cons, Ne.symm mine]

theorem emit_eq (event : SSEEvent) (world : World ρ) :
    emit event world =
      { world with
        emitted := world.emitted ++ [event]
        written := fun request => world.written request ++
          if world.destroyed request then []
          else List.replicate (world.listeners.count ⟨request, event.userId⟩) (eventFrame event) } :=
  foldl_listener event world.listeners _

end Lidify.Events
