import Lidify.Events.Invariant
/-
**What a client of `/api/events` is shown, over every interleaving.**

Every world some run reaches from `start` satisfies the route's invariant, so:

* `stream_isolated` — a client receives only the `connected` frame, heartbeats, and frames of
  events published for the user its stream belongs to;
* `open_stream_shows_every_event` — while its response is alive, a stream shows the `connected`
  frame and then every event of its user published since it subscribed, each once and in order,
  also after the user's `tokenVersion` was bumped;
* `stream_authenticated` — a client that received anything sent a token that verified, naming
  its user and a `tokenVersion`;
* `connections_iff_streaming` — `connections` holds exactly the streaming requests, under their
  users, and no empty set;
* `lost_close_keeps_connection` — a client that goes away while its user's row is being looked up
  stays in `connections` for the rest of every run.
-/

namespace Lidify.Events

open Lidify.Webhook (truthyValue)

variable {ρ : Type} [DecidableEq ρ] {config : Config}

/-! ### Every run -/

/-- The worlds some interleaving reaches from the start. -/
def Reachable (config : Config) (world : World ρ) : Prop :=
  ∃ token users events, world = run config (start token users) events

theorem Reachable.invariant {world : World ρ} (reachable : Reachable config world) :
    Invariant config world := by
  obtain ⟨token, users, events, rfl⟩ := reachable
  exact run_keeps_invariant (start_invariant token users) events

theorem Reachable.next {world : World ρ} (reachable : Reachable config world) (event : Event ρ) :
    Reachable config (next config world event) := by
  obtain ⟨token, users, events, rfl⟩ := reachable
  exact ⟨token, users, events ++ [event], by simp [run, List.foldl_append]⟩

omit [DecidableEq ρ] in
/-- A client that received anything streams for some user. -/
theorem Invariant.user_of_written {world : World ρ} (holds : Invariant config world)
    {request : ρ} (received : world.written request ≠ []) :
    ∃ userId, (world.phase request).user = some userId := by
  cases user : (world.phase request).user with
  | none => exact absurd ((holds.request request).silent user) received
  | some userId => exact ⟨userId, rfl⟩

/-- A deployment with `JWT_SECRET` set, whose `jwt.verify` accepts two tokens. -/
def demoConfig : Config where
  env name := if name = "JWT_SECRET" then some "secret" else none
  verify token secret :=
    if secret = "secret" ∧ token = "alice-token" then some ⟨"alice", some 1⟩
    else if secret = "secret" ∧ token = "bob-token" then some ⟨"bob", some 7⟩
    else none

/-- The user table, each user at the version its token carries. -/
def demoUsers (userId : String) : Option UserRow :=
  if userId = "alice" then some ⟨"alice", 1⟩ else if userId = "bob" then some ⟨"bob", 7⟩ else none

/-- Three requests: one with each token, and one without. -/
def demoTokens : Fin 3 → Option String
  | 0 => some "alice-token"
  | 1 => some "bob-token"
  | 2 => none

/-- A notification for each user. -/
def aliceNote : SSEEvent := ⟨"notification", "alice", [("id", "1")]⟩
def bobNote : SSEEvent := ⟨"notification", "bob", [("id", "2")]⟩

/-- Both users stream, the third request is refused; after a note for each, `alice`'s
`tokenVersion` is bumped, she gets another note, and a heartbeat fires. -/
def demoRun : World (Fin 3) :=
  run demoConfig (start demoTokens demoUsers)
    [.handle 0, .resolve 0 false, .handle 1, .resolve 1 false, .handle 2, .emit aliceNote,
      .emit bobNote, .setUser "alice" (some ⟨"alice", 2⟩), .emit aliceNote, .heartbeat 0]

/-- **Isolation.** Whatever the interleaving, a client receives only the `connected` frame,
heartbeats, and the frames of events published for the user its stream belongs to. -/
theorem stream_isolated {world : World ρ} (reachable : Reachable config world) (request : ρ)
    (frame : Frame) (received : frame ∈ world.written request) :
    frame = connectedFrame ∨ frame = heartbeatFrame ∨
      ∃ event ∈ world.emitted, (world.phase request).user = some event.userId ∧
        frame = eventFrame event := by
  have own := reachable.invariant.request request
  cases data : frame.isData
  · exact .inr (.inl (own.comments frame received data))
  · obtain ⟨userId, user⟩ := reachable.invariant.user_of_written (List.ne_nil_of_mem received)
    have shown : frame ∈ expected world.emitted (world.subscribedAt request) userId :=
      (own.shown userId user).subset (List.mem_filter.mpr ⟨received, data⟩)
    simp only [expected, List.mem_cons, List.mem_map, List.mem_filter,
      decide_eq_true_eq] at shown
    rcases shown with connected | ⟨event, ⟨published, mine⟩, rfl⟩
    · exact .inl connected
    · exact .inr (.inr ⟨event, List.mem_of_mem_drop published, mine ▸ user, rfl⟩)

theorem demoRun_isolated :
    eventFrame bobNote ∈ demoRun.written 1 ∧
      (eventFrame bobNote = connectedFrame ∨ eventFrame bobNote = heartbeatFrame ∨
        ∃ event ∈ demoRun.emitted, (demoRun.phase 1).user = some event.userId ∧
          eventFrame bobNote = eventFrame event) :=
  ⟨by decide, stream_isolated ⟨_, _, _, rfl⟩ 1 _ (by decide)⟩

/-- **Exactly once, in order.** While a client's response is alive, its stream's data frames are
the `connected` frame and then the frame of every event published for its user since it
subscribed, in the order they were published. Nothing here reads the user table: bumping the
user's `tokenVersion` does not end a stream already open. -/
theorem open_stream_shows_every_event {world : World ρ} (reachable : Reachable config world)
    (request : ρ) (userId : String) (streaming : (world.phase request).user = some userId)
    (alive : world.destroyed request = false) :
    dataFrames (world.written request) =
      connectedFrame :: ((world.emitted.drop (world.subscribedAt request)).filter
        (·.userId = userId)).map eventFrame :=
  (reachable.invariant.request request).live userId streaming alive

theorem demoRun_shows_every_event :
    (demoRun.phase 0).user = some "alice" ∧ demoRun.destroyed 0 = false ∧
      dataFrames (demoRun.written 0) =
        connectedFrame :: ((demoRun.emitted.drop (demoRun.subscribedAt 0)).filter
          (·.userId = "alice")).map eventFrame :=
  ⟨by decide, by decide,
    open_stream_shows_every_event ⟨_, _, _, rfl⟩ 0 "alice" (by decide) (by decide)⟩

/-- `alice`'s stream shows her second note although her token's version is stale by then. -/
example :
    dataFrames (demoRun.written 0) = [connectedFrame, eventFrame aliceNote, eventFrame aliceNote] ∧
      demoRun.users "alice" = some ⟨"alice", 2⟩ := by
  decide

/-- **Only verified tokens stream.** A client that received anything sent a token that
`jwt.verify` accepted under the configured secret and that carries a `tokenVersion`; its stream
belongs to the user the token names. -/
theorem stream_authenticated {world : World ρ} (reachable : Reachable config world) (request : ρ)
    (received : world.written request ≠ []) :
    ∃ token secret decoded, truthyValue (world.token request) = some token ∧
      truthyValue (jwtSecret config.env) = some secret ∧
      config.verify token secret = some decoded ∧
      (world.phase request).user = some decoded.userId ∧ decoded.tokenVersion.isSome := by
  obtain ⟨userId, user⟩ := reachable.invariant.user_of_written received
  obtain ⟨decoded, ⟨token, secret, token_is, secret_is, verifies⟩, rfl, version⟩ :=
    (reachable.invariant.request request).accepted userId user
  exact ⟨token, secret, decoded, token_is, secret_is, verifies, user, version⟩

theorem demoRun_authenticated :
    demoRun.written 1 ≠ [] ∧
      ∃ token secret decoded, truthyValue (demoRun.token 1) = some token ∧
        truthyValue (jwtSecret demoConfig.env) = some secret ∧
        demoConfig.verify token secret = some decoded ∧
        (demoRun.phase 1).user = some decoded.userId ∧ decoded.tokenVersion.isSome :=
  ⟨by decide, stream_authenticated ⟨_, _, _, rfl⟩ 1 (by decide)⟩

/-- The request without a token was answered `Unauthorized` and received no frame. -/
example : demoRun.phase 2 = .rejected "Unauthorized" ∧ demoRun.written 2 = [] := by decide

/-- **`connections` tracks the streams.** It holds a request under a user exactly while that
request streams for that user, that is until its `close` callback runs, and no user's entry is
an empty set. -/
theorem connections_iff_streaming {world : World ρ} (reachable : Reachable config world)
    (request : ρ) (userId : String) :
    ((∃ userConns, world.connections userId = some userConns ∧ request ∈ userConns) ↔
      ∃ beating, world.phase request = .streaming userId beating) ∧
    ∀ userConns, world.connections userId = some userConns → userConns.Nonempty :=
  ⟨(reachable.invariant.request request).connected_iff userId,
    reachable.invariant.nonempty userId⟩

theorem demoRun_connections :
    ((∃ userConns, demoRun.connections "alice" = some userConns ∧ (0 : Fin 3) ∈ userConns) ↔
      ∃ beating, demoRun.phase 0 = .streaming "alice" beating) ∧
    ∀ userConns, demoRun.connections "alice" = some userConns → userConns.Nonempty :=
  connections_iff_streaming ⟨_, _, _, rfl⟩ 0 "alice"

/-- A request whose client went away while it streams stays streaming, its response destroyed,
whatever happens next: its `close` was emitted before the callback was registered. -/
theorem next_keeps_lost_close {world : World ρ} {request : ρ} {userId : String} {beating : Bool}
    (streaming : world.phase request = .streaming userId beating)
    (gone : world.destroyed request = true) (event : Event ρ) :
    ∃ beating', (next config world event).phase request = .streaming userId beating' ∧
      (next config world event).destroyed request = true := by
  cases event with
  | handle other =>
    simp only [next]
    split
    case h_1 arrived =>
      have different : request ≠ other := by rintro rfl; rw [streaming] at arrived; cases arrived
      exact ⟨beating, by simp [handle, World.setPhase, different, streaming], gone⟩
    case h_2 => exact ⟨beating, streaming, gone⟩
  | resolve other fault =>
    simp only [next]
    split
    case h_1 decoded waiting =>
      have different : request ≠ other := by rintro rfl; rw [streaming] at waiting; cases waiting
      refine ⟨beating, ?_, ?_⟩ <;> unfold resolve <;> split <;> (try split) <;> (try split) <;>
        simp [World.setPhase, register, different, streaming, gone]
    case h_2 => exact ⟨beating, streaming, gone⟩
  | emit event =>
    rw [next, emit_eq]
    exact ⟨beating, streaming, gone⟩
  | heartbeat other =>
    simp only [next, heartbeat]
    split
    case h_1 user beats =>
      by_cases same : other = request
      · subst same
        rw [streaming] at beats
        cases beats
        exact ⟨false, by simp [World.safeSend, gone], by simp [World.safeSend, gone]⟩
      · have different : request ≠ other := Ne.symm same
        refine ⟨beating, ?_, ?_⟩ <;> split <;> simp [different, streaming, gone]
    case h_2 => exact ⟨beating, streaming, gone⟩
  | disconnect other =>
    simp only [next, disconnect]
    by_cases same : other = request
    · subst same
      rw [if_pos gone]
      exact ⟨beating, streaming, gone⟩
    · have different : request ≠ other := Ne.symm same
      split
      · exact ⟨beating, streaming, gone⟩
      · refine ⟨beating, ?_, ?_⟩ <;> dsimp only <;> split <;>
          simp [onClose, different, streaming, gone]
  | setUser user row => exact ⟨beating, streaming, gone⟩

/-- **A lost `close` leaks the connection.** A request that streams with its response destroyed
(its client went away while the handler awaited the user's row, before `req.on("close")` was
registered) stays in `connections` under its user for the rest of every run. -/
theorem lost_close_keeps_connection {world : World ρ} (reachable : Reachable config world)
    {request : ρ} {userId : String} {beating : Bool}
    (streaming : world.phase request = .streaming userId beating)
    (gone : world.destroyed request = true) (events : List (Event ρ)) :
    ∃ userConns, (run config world events).connections userId = some userConns ∧
      request ∈ userConns := by
  induction events generalizing world beating with
  | nil => exact ((reachable.invariant.request request).connected_iff userId).mpr ⟨_, streaming⟩
  | cons event rest ih =>
    obtain ⟨beating', streaming', gone'⟩ := next_keeps_lost_close streaming gone event
    exact ih (reachable.next event) streaming' gone'

/-- `alice` asks, and goes away while the handler awaits her row. -/
def lostClose : World (Fin 3) :=
  run demoConfig (start demoTokens demoUsers) [.handle 0, .disconnect 0, .resolve 0 false]

theorem lostClose_stays_connected :
    lostClose.phase 0 = .streaming "alice" true ∧ lostClose.destroyed 0 = true ∧
      ∃ userConns, (run demoConfig lostClose
        [.heartbeat 0, .disconnect 0, .emit aliceNote]).connections "alice" = some userConns ∧
        (0 : Fin 3) ∈ userConns :=
  ⟨by decide, by decide, lost_close_keeps_connection ⟨_, _, _, rfl⟩
    (show lostClose.phase 0 = .streaming "alice" true by decide) (by decide) _⟩

end Lidify.Events
