import Lidify.Events.Stream
/-
**The invariant of the `/api/events` route, kept by every event.**

The invariant is kept per request (`RequestInvariant`), over what that request's handler and
response hold and over where the bus and `connections` hold it, with two facts of the shared state
beside it: the bus holds each listener once, and no user's entry in `connections` is an empty set.

* `RequestInvariant.pending`, `.register`, `.emit`, `.beat`, `.destroy`, `.unsubscribe` — what each
  operation of the route does to the invariant of the request it acts on;
* `World.RequestOk.congr` — a request none of whose own fields changed keeps its invariant;
* `step_keeps_invariant`, `run_keeps_invariant` — every event keeps the invariant, so every run
  from `start` does.
-/

namespace Lidify.Events

open Lidify.Webhook (truthyValue)

variable {ρ : Type} [DecidableEq ρ] {config : Config}

/-! ### One request -/

/-- What a stream that subscribed at `subscribedAt` shows: the `connected` frame, then every event
of its user published since. -/
def expected (emitted : List SSEEvent) (subscribedAt : Nat) (userId : String) : List Frame :=
  connectedFrame :: ((emitted.drop subscribedAt).filter (·.userId = userId)).map eventFrame

/-- The request's token verifies to `decoded` under the configured secret. -/
def Verified (config : Config) (token : Option String) (decoded : Decoded) : Prop :=
  ∃ key secret, truthyValue token = some key ∧ truthyValue (jwtSecret config.env) = some secret ∧
    config.verify key secret = some decoded

theorem expected_append {emitted : List SSEEvent} {subscribedAt : Nat}
    (subscribed : subscribedAt ≤ emitted.length) (event : SSEEvent) (userId : String) :
    expected (emitted ++ [event]) subscribedAt userId =
      expected emitted subscribedAt userId ++
        if event.userId = userId then [eventFrame event] else [] := by
  by_cases mine : event.userId = userId <;>
    simp [expected, List.drop_append_of_le_length subscribed, List.filter_append, mine]

theorem dataFrames_append (first second : List Frame) :
    dataFrames (first ++ second) = dataFrames first ++ dataFrames second :=
  List.filter_append _ _

@[simp] theorem dataFrames_nil : dataFrames [] = [] := rfl

@[simp] theorem dataFrames_eventFrame (event : SSEEvent) :
    dataFrames [eventFrame event] = [eventFrame event] := rfl

@[simp] theorem dataFrames_heartbeatFrame : dataFrames [heartbeatFrame] = [] := rfl

theorem Phase.ne_streaming {phase : Phase} (pending : phase.user = none) (userId : String)
    (beating : Bool) : phase ≠ .streaming userId beating := by
  rintro rfl
  cases pending

/-- The invariant of one request, over what it reads: the published history, its token, its
handler's phase, its response, when it subscribed, and for which users the bus's listeners and
`connections` hold it. -/
structure RequestInvariant (config : Config) (emitted : List SSEEvent) (token : Option String)
    (phase : Phase) (destroyed : Bool) (written : List Frame) (subscribedAt : Nat)
    (listening connected : String → Prop) : Prop where
  listening_iff : ∀ userId, listening userId ↔ phase = .streaming userId true
  connected_iff : ∀ userId, connected userId ↔ ∃ beating, phase = .streaming userId beating
  open_streaming : ∀ userId, phase.user = some userId → destroyed = false →
    phase = .streaming userId true
  silent : phase.user = none → written = []
  comments : ∀ frame ∈ written, frame.isData = false → frame = heartbeatFrame
  subscribedAt_le : subscribedAt ≤ emitted.length
  shown : ∀ userId, phase.user = some userId →
    dataFrames written <+: expected emitted subscribedAt userId
  live : ∀ userId, phase.user = some userId → destroyed = false →
    dataFrames written = expected emitted subscribedAt userId
  lookingUp : ∀ decoded, phase = .lookingUp decoded → Verified config token decoded
  accepted : ∀ userId, phase.user = some userId →
    ∃ decoded, Verified config token decoded ∧ decoded.userId = userId ∧
      decoded.tokenVersion.isSome

section Operations

variable {emitted : List SSEEvent} {token : Option String} {phase : Phase} {destroyed : Bool}
  {written : List Frame} {subscribedAt : Nat} {listening connected : String → Prop}

/-- A handler moving between phases before it streams. -/
theorem RequestInvariant.pending
    (holds : RequestInvariant config emitted token phase destroyed written subscribedAt
      listening connected)
    (before : phase.user = none) {phase' : Phase} (after : phase'.user = none)
    (verified : ∀ decoded, phase' = .lookingUp decoded → Verified config token decoded) :
    RequestInvariant config emitted token phase' destroyed written subscribedAt
      listening connected where
  listening_iff userId := by
    simp [holds.listening_iff, Phase.ne_streaming before, Phase.ne_streaming after]
  connected_iff userId := by
    simp [holds.connected_iff, Phase.ne_streaming before, Phase.ne_streaming after]
  open_streaming userId user := by simp [after] at user
  silent _ := holds.silent before
  comments := holds.comments
  subscribedAt_le := holds.subscribedAt_le
  shown userId user := by simp [after] at user
  live userId user := by simp [after] at user
  lookingUp := verified
  accepted userId user := by simp [after] at user

/-- The handler's synchronous tail after a successful lookup. -/
theorem RequestInvariant.register {decoded : Decoded}
    (holds : RequestInvariant config emitted token (.lookingUp decoded) destroyed written
      subscribedAt listening connected)
    (version : decoded.tokenVersion.isSome) {listening' connected' : String → Prop}
    (listening_iff' : ∀ userId, listening' userId ↔ userId = decoded.userId)
    (connected_iff' : ∀ userId, connected' userId ↔ userId = decoded.userId) :
    RequestInvariant config emitted token (.streaming decoded.userId true) destroyed
      (if destroyed then [] else [connectedFrame]) emitted.length listening' connected' where
  listening_iff userId := by simp [listening_iff', eq_comm]
  connected_iff userId := by simp [connected_iff', eq_comm]
  open_streaming userId user _ := by obtain rfl := Option.some.inj user; rfl
  silent user := by cases user
  comments frame mem data := by
    split at mem <;> simp_all [connectedFrame, Frame.isData]
  subscribedAt_le := le_rfl
  shown userId user := by
    obtain rfl := Option.some.inj user
    split <;> simp [expected, dataFrames, connectedFrame, Frame.isData]
  live userId user alive := by
    obtain rfl := Option.some.inj user
    simp [alive, expected, dataFrames, connectedFrame, Frame.isData]
  lookingUp _ streaming := by cases streaming
  accepted userId user := by
    obtain rfl := Option.some.inj user
    exact ⟨decoded, holds.lookingUp decoded rfl, rfl, version⟩

/-- One published event, delivered when the request's listener is subscribed for its user. -/
theorem RequestInvariant.emit
    (holds : RequestInvariant config emitted token phase destroyed written subscribedAt
      listening connected)
    (event : SSEEvent) [Decidable (listening event.userId)] :
    RequestInvariant config (emitted ++ [event]) token phase destroyed
      (written ++ if destroyed then [] else if listening event.userId then [eventFrame event]
        else [])
      subscribedAt listening connected := by
  have live : ∀ userId, phase.user = some userId → destroyed = false →
      dataFrames (written ++ if destroyed then [] else
        if listening event.userId then [eventFrame event] else []) =
        expected (emitted ++ [event]) subscribedAt userId := by
    intro userId user alive
    have subscribed : listening event.userId ↔ event.userId = userId := by
      rw [holds.listening_iff, holds.open_streaming userId user alive]
      simp [eq_comm]
    rw [expected_append holds.subscribedAt_le, ← holds.live userId user alive, dataFrames_append]
    by_cases mine : event.userId = userId
    · simp only [alive, Bool.false_eq_true, if_false, if_pos (subscribed.mpr mine), if_pos mine,
        dataFrames_eventFrame]
    · simp [alive, mine, mt subscribed.mp mine]
  refine ⟨holds.listening_iff, holds.connected_iff, holds.open_streaming, fun pending => ?_,
    fun frame mem data => ?_, ?_, fun userId user => ?_, live, holds.lookingUp, holds.accepted⟩
  · have quiet : ¬ listening event.userId := by
      rw [holds.listening_iff]
      exact Phase.ne_streaming pending _ _
    simp [holds.silent pending, quiet]
  · rcases List.mem_append.mp mem with old | new
    · exact holds.comments frame old data
    · split at new
      · cases new
      · split at new <;> simp_all [eventFrame, Frame.isData]
  · simp only [List.length_append]
    exact holds.subscribedAt_le.trans (Nat.le_add_right _ _)
  · by_cases gone : destroyed = true
    · rw [if_pos gone, List.append_nil, expected_append holds.subscribedAt_le]
      exact (holds.shown userId user).trans (List.prefix_append _ _)
    · exact live userId user (Bool.eq_false_iff.mpr gone) ▸ List.prefix_refl _

/-- A heartbeat that reached a live response. -/
theorem RequestInvariant.beat
    (holds : RequestInvariant config emitted token phase destroyed written subscribedAt
      listening connected)
    (accepted : phase.user ≠ none) :
    RequestInvariant config emitted token phase destroyed (written ++ [heartbeatFrame])
      subscribedAt listening connected where
  listening_iff := holds.listening_iff
  connected_iff := holds.connected_iff
  open_streaming := holds.open_streaming
  silent pending := absurd pending accepted
  comments frame mem data := by
    rcases List.mem_append.mp mem with old | new
    · exact holds.comments frame old data
    · exact List.mem_singleton.mp new
  subscribedAt_le := holds.subscribedAt_le
  shown userId user := by
    simpa [dataFrames_append] using holds.shown userId user
  live userId user alive := by
    simpa [dataFrames_append] using holds.live userId user alive
  lookingUp := holds.lookingUp
  accepted := holds.accepted

/-- The response destroyed; nothing else of the request changes. -/
theorem RequestInvariant.destroy
    (holds : RequestInvariant config emitted token phase destroyed written subscribedAt
      listening connected) :
    RequestInvariant config emitted token phase true written subscribedAt listening connected where
  listening_iff := holds.listening_iff
  connected_iff := holds.connected_iff
  open_streaming _ _ alive := by cases alive
  silent := holds.silent
  comments := holds.comments
  subscribedAt_le := holds.subscribedAt_le
  shown := holds.shown
  live _ _ alive := by cases alive
  lookingUp := holds.lookingUp
  accepted := holds.accepted

/-- A destroyed stream leaving the bus: the heartbeat stopping (`closing` false) or the `close`
callback (`closing` true), which also leaves `connections`. -/
theorem RequestInvariant.unsubscribe {userId : String} {beating : Bool}
    (holds : RequestInvariant config emitted token (.streaming userId beating) true written
      subscribedAt listening connected)
    (closing : Bool) {listening' connected' : String → Prop}
    (listening_iff' : ∀ user, ¬ listening' user)
    (connected_iff' : ∀ user, connected' user ↔ !closing ∧ user = userId) :
    RequestInvariant config emitted token
      (if closing then .closed userId else .streaming userId false) true written subscribedAt
      listening' connected' where
  listening_iff user := by cases closing <;> simp [listening_iff']
  connected_iff user := by cases closing <;> simp [connected_iff', eq_comm]
  open_streaming _ _ alive := by cases alive
  silent pending := by cases closing <;> cases pending
  comments := holds.comments
  subscribedAt_le := holds.subscribedAt_le
  shown user accepted := holds.shown user (by cases closing <;> exact accepted)
  live _ _ alive := by cases alive
  lookingUp _ streaming := by cases closing <;> cases streaming
  accepted user accepted := holds.accepted user (by cases closing <;> exact accepted)

end Operations

/-! ### The whole process -/

/-- Whether the bus holds `request`'s listener for `userId`. -/
def World.listening (world : World ρ) (request : ρ) (userId : String) : Prop :=
  ⟨request, userId⟩ ∈ world.listeners

/-- Whether `connections` holds `request` under `userId`. -/
def World.connected (world : World ρ) (request : ρ) (userId : String) : Prop :=
  ∃ userConns, world.connections userId = some userConns ∧ request ∈ userConns

/-- The invariant of `request` in `world`. -/
def World.RequestOk (config : Config) (world : World ρ) (request : ρ) : Prop :=
  RequestInvariant config world.emitted (world.token request) (world.phase request)
    (world.destroyed request) (world.written request) (world.subscribedAt request)
    (world.listening request) (world.connected request)

/-- The route's invariant: each request's, the bus holding each listener once, and no empty set
left in `connections`. -/
structure Invariant (config : Config) (world : World ρ) : Prop where
  nodup : world.listeners.Nodup
  nonempty : ∀ userId userConns, world.connections userId = some userConns → userConns.Nonempty
  request : ∀ request, world.RequestOk config request

omit [DecidableEq ρ] in
/-- A request whose own fields, and whose places in the bus and in `connections`, are unchanged
keeps its invariant. -/
theorem World.RequestOk.congr {world world' : World ρ} {request : ρ}
    (holds : world.RequestOk config request) (emitted : world'.emitted = world.emitted)
    (token : world'.token request = world.token request)
    (phase : world'.phase request = world.phase request)
    (destroyed : world'.destroyed request = world.destroyed request)
    (written : world'.written request = world.written request)
    (subscribedAt : world'.subscribedAt request = world.subscribedAt request)
    (listening : ∀ userId, world'.listening request userId ↔ world.listening request userId)
    (connected : ∀ userId, world'.connected request userId ↔ world.connected request userId) :
    world'.RequestOk config request := by
  have sameListening : world'.listening request = world.listening request :=
    funext fun userId => propext (listening userId)
  have sameConnected : world'.connected request = world.connected request :=
    funext fun userId => propext (connected userId)
  unfold World.RequestOk
  rw [emitted, token, phase, destroyed, written, subscribedAt, sameListening, sameConnected]
  exact holds

omit [DecidableEq ρ] in
theorem start_invariant (token : ρ → Option String) (users : String → Option UserRow) :
    Invariant config (start token users) where
  nodup := List.nodup_nil
  nonempty _ _ absent := by cases absent
  request _ :=
    { listening_iff := fun _ => by simp [World.listening, start]
      connected_iff := fun _ => by simp [World.connected, start]
      open_streaming := fun _ user => by cases user
      silent := fun _ => rfl
      comments := fun _ mem => by cases mem
      subscribedAt_le := Nat.zero_le _
      shown := fun _ user => by cases user
      live := fun _ user => by cases user
      lookingUp := fun _ arrived => by cases arrived
      accepted := fun _ user => by cases user }

instance (world : World ρ) (request : ρ) (userId : String) :
    Decidable (world.listening request userId) :=
  inferInstanceAs (Decidable (Listener.mk request userId ∈ world.listeners))

omit [DecidableEq ρ] in
theorem mem_getD_empty {userConns : Option (Finset ρ)} {request : ρ} :
    request ∈ userConns.getD ∅ ↔ ∃ found, userConns = some found ∧ request ∈ found := by
  cases userConns <;> simp

theorem addConnection_iff (connections : String → Option (Finset ρ)) (request other : ρ)
    (userId user : String) :
    (∃ found, addConnection connections request userId user = some found ∧ other ∈ found) ↔
      (user = userId ∧ other = request) ∨
        ∃ found, connections user = some found ∧ other ∈ found := by
  by_cases same : user = userId
  · subst same
    simp [addConnection, mem_getD_empty]
  · simp [addConnection, same]

theorem removeConnection_iff (connections : String → Option (Finset ρ)) (request other : ρ)
    (userId user : String) :
    (∃ found, removeConnection connections request userId user = some found ∧ other ∈ found) ↔
      (user ≠ userId ∨ other ≠ request) ∧
        ∃ found, connections user = some found ∧ other ∈ found := by
  by_cases same : user = userId
  · subst same
    rcases present : connections user with _ | userConns
    · simp [removeConnection, present]
    · by_cases different : other = request
      · subst different
        by_cases empty : (userConns.erase other).card = 0 <;> simp [removeConnection, present, empty]
      · by_cases empty : (userConns.erase request).card = 0
        · have absent : other ∉ userConns :=
            fun mem => Finset.card_ne_zero_of_mem (Finset.mem_erase_of_ne_of_mem different mem) empty
          simp [removeConnection, present, empty, absent]
        · simp [removeConnection, present, empty, different]
  · rcases present : connections userId with _ | userConns <;>
      simp [removeConnection, present, same]

theorem removeConnection_nonempty {connections : String → Option (Finset ρ)}
    (nonempty : ∀ userId userConns, connections userId = some userConns → userConns.Nonempty)
    (request : ρ) (userId user : String) (userConns : Finset ρ)
    (found : removeConnection connections request userId user = some userConns) :
    userConns.Nonempty := by
  rcases present : connections userId with _ | previous
  · simp only [removeConnection, present] at found
    exact nonempty user userConns found
  · by_cases same : user = userId
    · subst same
      by_cases empty : (previous.erase request).card = 0 <;>
        simp [removeConnection, present, empty] at found
      rw [← found]
      exact Finset.card_pos.mp (Nat.pos_of_ne_zero empty)
    · simp only [removeConnection, present, Function.update_noteq same] at found
      exact nonempty user userConns found

section Step

variable {world : World ρ} (holds : Invariant config world)
include holds

theorem setPhase_keeps {request : ρ} (before : (world.phase request).user = none) {phase : Phase}
    (after : phase.user = none)
    (verified : ∀ decoded, phase = .lookingUp decoded →
      Verified config (world.token request) decoded) :
    Invariant config (world.setPhase request phase) := by
  refine ⟨holds.nodup, holds.nonempty, fun other => ?_⟩
  by_cases same : other = request
  · subst same
    simpa [World.RequestOk, World.setPhase] using
      (holds.request other).pending before after verified
  · exact (holds.request other).congr rfl rfl (by simp [World.setPhase, same]) rfl rfl rfl
      (fun _ => Iff.rfl) (fun _ => Iff.rfl)

theorem handle_keeps {request : ρ} (arrived : world.phase request = .arrived) :
    Invariant config (handle config request world) := by
  unfold handle
  refine setPhase_keeps holds (by rw [arrived]; rfl) ?_ ?_
  · split
    · split <;> rfl
    · rfl
  · intro decoded entered
    split at entered
    case h_1 key secret token_is secret_is =>
      split at entered
      case h_1 verifies => cases entered; exact ⟨key, secret, token_is, secret_is, verifies⟩
      case h_2 => cases entered
    case h_2 => cases entered

theorem register_keeps {request : ρ} {decoded : Decoded}
    (waiting : world.phase request = .lookingUp decoded) (version : decoded.tokenVersion.isSome) :
    Invariant config (register request decoded.userId world) := by
  have own := holds.request request
  unfold World.RequestOk at own
  rw [waiting] at own
  have absent : ∀ userId, ¬ world.listening request userId := fun userId listening => by
    cases (own.listening_iff userId).mp listening
  have unconnected : ∀ userId, ¬ world.connected request userId := fun userId connected => by
    obtain ⟨_, streaming⟩ := (own.connected_iff userId).mp connected
    cases streaming
  refine ⟨holds.nodup.append (List.nodup_singleton _) (List.disjoint_singleton.mpr (absent _)),
    fun userId userConns found => ?_, fun other => ?_⟩
  · by_cases same : userId = decoded.userId
    · subst same
      simp only [register, World.write, addConnection, Function.update_same] at found
      cases found
      exact Finset.insert_nonempty _ _
    · simp only [register, World.write, addConnection, Function.update_noteq same] at found
      exact holds.nonempty userId userConns found
  · by_cases same : other = request
    · subst same
      have written : (register other decoded.userId world).written other =
          if world.destroyed other then [] else [connectedFrame] := by
        by_cases gone : world.destroyed other <;> simp [register, gone, own.silent rfl]
      have phase : (register other decoded.userId world).phase other =
          .streaming decoded.userId true := by simp [register, World.write]
      have subscribedAt : (register other decoded.userId world).subscribedAt other =
          world.emitted.length := by simp [register, World.write]
      unfold World.RequestOk
      rw [written, phase, subscribedAt]
      refine own.register version (fun userId => ?_) (fun userId => ?_)
      · show Listener.mk other userId ∈ world.listeners ++ [⟨other, decoded.userId⟩] ↔ _
        simpa using or_iff_right (absent userId)
      · show (∃ found, addConnection world.connections other decoded.userId userId = some found ∧
          other ∈ found) ↔ _
        rw [addConnection_iff, and_iff_left rfl]
        exact or_iff_left (unconnected userId)
    · refine (holds.request other).congr rfl rfl (by simp [register, same]) rfl
        (by simp [register, same]) (by simp [register, same]) (fun userId => ?_) (fun userId => ?_)
      · simp [World.listening, register, same]
      · show (∃ found, addConnection world.connections request decoded.userId userId = some found ∧
          other ∈ found) ↔ _
        simp [World.connected, addConnection_iff, same]

theorem resolve_keeps {request : ρ} {decoded : Decoded}
    (waiting : world.phase request = .lookingUp decoded) (fault : Bool) :
    Invariant config (resolve request decoded fault world) := by
  have pending : (world.phase request).user = none := by rw [waiting]; rfl
  unfold resolve
  split
  · exact setPhase_keeps holds pending rfl fun _ rejected => by cases rejected
  · split
    · exact setPhase_keeps holds pending rfl fun _ rejected => by cases rejected
    · split
      · exact setPhase_keeps holds pending rfl fun _ rejected => by cases rejected
      · exact register_keeps holds waiting
          (Option.ne_none_iff_isSome.mp (not_or.mp ‹_›).1)

theorem emit_keeps (event : SSEEvent) : Invariant config (emit event world) := by
  rw [emit_eq]
  refine ⟨holds.nodup, holds.nonempty, fun request => ?_⟩
  have once : List.replicate (world.listeners.count ⟨request, event.userId⟩) (eventFrame event) =
      if world.listening request event.userId then [eventFrame event] else [] := by
    rw [List.count_eq_of_nodup holds.nodup]
    by_cases listening : world.listening request event.userId <;>
      simp only [World.listening] at listening ⊢
    · rw [if_pos listening, if_pos listening]
      rfl
    · rw [if_neg listening, if_neg listening]
      rfl
  unfold World.RequestOk
  dsimp only
  rw [once]
  exact (holds.request request).emit event

/-- Once its listener is erased, a streaming request has none left on the bus. -/
theorem Invariant.not_listening_erase {request : ρ} {userId : String} {beating : Bool}
    (streaming : world.phase request = .streaming userId beating) (user : String) :
    Listener.mk request user ∉ world.listeners.erase ⟨request, userId⟩ := fun mem => by
  obtain ⟨different, listening⟩ := holds.nodup.mem_erase_iff.mp mem
  have streams := ((holds.request request).listening_iff user).mp listening
  rw [streaming] at streams
  cases streams
  exact different rfl

omit [DecidableEq ρ] in
/-- A streaming request is in `connections` under its own user only. -/
theorem Invariant.connected_iff_of_streaming {request : ρ} {userId : String} {beating : Bool}
    (streaming : world.phase request = .streaming userId beating) (user : String) :
    world.connected request user ↔ user = userId := by
  rw [(holds.request request).connected_iff, streaming]
  simp [eq_comm]

theorem heartbeat_keeps (request : ρ) : Invariant config (heartbeat request world) := by
  unfold heartbeat
  split
  case h_2 => exact holds
  case h_1 userId streaming =>
    have own := holds.request request
    unfold World.RequestOk at own
    by_cases gone : world.destroyed request
    · simp only [World.safeSend, gone, Bool.not_true, Bool.false_eq_true, if_false]
      refine ⟨holds.nodup.erase _, holds.nonempty, fun other => ?_⟩
      by_cases same : other = request
      · subst same
        unfold World.RequestOk
        simp only [World.write, gone, if_true, Function.update_same]
        rw [streaming, gone] at own
        exact own.unsubscribe false (holds.not_listening_erase streaming) fun user =>
          (holds.connected_iff_of_streaming streaming user).trans (by simp)
      · refine (holds.request other).congr rfl rfl (by simp [same]) rfl (by simp [gone]) rfl
          (fun user => ?_) (fun _ => Iff.rfl)
        simp [World.listening, List.mem_erase_of_ne, same]
    · simp only [World.safeSend, gone, Bool.not_false, if_true]
      refine ⟨holds.nodup, holds.nonempty, fun other => ?_⟩
      by_cases same : other = request
      · subst same
        have written : (world.write other heartbeatFrame).written other =
            world.written other ++ [heartbeatFrame] := by simp [gone]
        unfold World.RequestOk
        rw [written]
        exact own.beat (by rw [streaming]; simp [Phase.user])
      · exact (holds.request other).congr rfl rfl rfl rfl (by simp [same]) rfl
          (fun _ => Iff.rfl) (fun _ => Iff.rfl)

theorem disconnect_keeps (request : ρ) : Invariant config (disconnect request world) := by
  unfold disconnect
  split
  · exact holds
  · have own := holds.request request
    unfold World.RequestOk at own
    dsimp only
    split
    case h_1 userId beating streaming =>
      refine ⟨holds.nodup.erase _, removeConnection_nonempty holds.nonempty request userId,
        fun other => ?_⟩
      by_cases same : other = request
      · subst same
        unfold World.RequestOk
        simp only [onClose, Function.update_same]
        rw [streaming] at own
        refine own.destroy.unsubscribe true (holds.not_listening_erase streaming) fun user => ?_
        show (∃ found, removeConnection world.connections other userId user = some found ∧
          other ∈ found) ↔ _
        rw [removeConnection_iff, ← World.connected, holds.connected_iff_of_streaming streaming user]
        simp
      · refine (holds.request other).congr rfl rfl (by simp [onClose, same])
          (by simp [onClose, same]) rfl rfl (fun user => ?_) (fun user => ?_)
        · simp [World.listening, onClose, List.mem_erase_of_ne, same]
        · simp [World.connected, onClose, removeConnection_iff, same]
    case h_2 =>
      refine ⟨holds.nodup, holds.nonempty, fun other => ?_⟩
      by_cases same : other = request
      · subst same
        unfold World.RequestOk
        simpa using own.destroy
      · exact (holds.request other).congr rfl rfl rfl (by simp [same]) rfl rfl
          (fun _ => Iff.rfl) (fun _ => Iff.rfl)

/-- **One step keeps the invariant**, whatever the event. -/
theorem step_keeps_invariant (event : Event ρ) : Invariant config (next config world event) := by
  cases event with
  | handle request =>
    simp only [next]
    split
    case h_1 arrived => exact handle_keeps holds arrived
    case h_2 => exact holds
  | resolve request fault =>
    simp only [next]
    split
    case h_1 decoded waiting => exact resolve_keeps holds waiting fault
    case h_2 => exact holds
  | emit event => exact emit_keeps holds event
  | heartbeat request => exact heartbeat_keeps holds request
  | disconnect request => exact disconnect_keeps holds request
  | setUser userId row => exact ⟨holds.nodup, holds.nonempty, holds.request⟩

end Step

theorem run_keeps_invariant {world : World ρ} (holds : Invariant config world)
    (events : List (Event ρ)) : Invariant config (run config world events) := by
  induction events generalizing world with
  | nil => exact holds
  | cons event rest ih => exact ih (step_keeps_invariant holds event)

end Lidify.Events
