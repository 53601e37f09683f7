import Lidify.Webhook.Inbox
/-
**Deliveries and background processings interleaved: what the deduplicating store does not stop.**

A world holds the stored rows, the processings the route has started and the scheduler has not yet
run, and the processings that ran. A `post` is the route handler: its only shared-state action is
the atomic `storeEvent`, and the processing it starts is queued at the same moment. A `process k`
runs the `k`-th queued processing to its end and applies its `markProcessed` or `markFailed` to the
store. Any order of posts and processings is a run.

* `next_managerCalls` / `managerCalls_le_accepted` — each event adds at most one to the calls made
  to the download manager plus the processings still queued, and only an accepted delivery adds
  one; so over every run the download manager is called at most once per accepted delivery.
* `lidarr_redelivery_processed_twice` — the same `Grab` delivered twice, the first processing
  finished before the second delivery: one row, two processings of it, two `onDownloadGrabbed`
  calls and two settlements, for every download manager and every deduplication key.
-/

namespace Lidify.Webhook

/-- Modelled from the spec: a stored `WebhookEvent` row. -/
structure WebhookEvent (Key : Type) where
  id : Nat
  source : String
  eventType : String
  dedupKey : Key
  payload : Payload
  processed : Bool
  correlationId : Option String
  failureReason : Option String

section Store

variable {Key : Type} [DecidableEq Key] (eventKey : Payload → Key)

/-- Modelled from the spec: the row of the same event, by event type and the provider-stable
identifier of the payload. -/
def sameEvent (eventType : String) (payload : Payload) (row : WebhookEvent Key) : Bool :=
  row.eventType == eventType && row.dedupKey == eventKey payload

/-- Modelled from the spec: `webhookEventStore.storeEvent(source, type, payload)`; a known event
returns its row. -/
def storeEvent (rows : List (WebhookEvent Key)) (source eventType : String) (payload : Payload) :
    WebhookEvent Key × List (WebhookEvent Key) :=
  match rows.find? (sameEvent eventKey eventType payload) with
  | some row => (row, rows)
  | none =>
    let row : WebhookEvent Key :=
      ⟨rows.length, source, eventType, eventKey payload, payload, false, none, none⟩
    (row, rows ++ [row])

/-- Modelled from the spec: `markProcessed` and `markFailed` applied to the row of the event. -/
def settle (rows : List (WebhookEvent Key)) (eventId : Nat) : Outcome → List (WebhookEvent Key)
  | .markProcessed correlationId =>
    rows.map fun row => if row.id = eventId then { row with processed := true, correlationId } else row
  | .markFailed message =>
    rows.map fun row => if row.id = eventId then { row with failureReason := some message } else row

end Store

/-- The route's answer. -/
inductive Response
  | ignored
  | unauthorized
  | ok (eventId : Nat)
  deriving DecidableEq, Repr

/-- The two early returns of the route: Lidarr off (`202`), and the secret check (`401`). -/
def gate (settings : Option SystemSettings) (providedSecret : Option String) : Option Response :=
  match settings with
  | none => some .ignored
  | some settings =>
    if !settings.lidarrEnabled || (truthyValue settings.lidarrUrl).isNone ||
        (truthyValue settings.lidarrApiKey).isNone then some .ignored
    else match truthyValue settings.lidarrWebhookSecret with
      | none => none
      | some secret => if truthyValue providedSecret = some secret then none else some .unauthorized

/-- A processing the route started and the scheduler has not run yet. -/
structure Queued where
  eventId : Nat
  eventType : String
  payload : Payload
  deriving DecidableEq, Repr

/-- The store, the queued processings, and every processing that ran, in order. -/
structure World (Key : Type) where
  rows : List (WebhookEvent Key)
  queued : List Queued
  processings : List Processing

/-- What can happen next. -/
inductive Event
  | post (providedSecret : Option String) (body : Payload)
  | process (index : Nat)
  deriving DecidableEq, Repr

section System

variable {Key : Type} [DecidableEq Key] (settings : Option SystemSettings)
  (downstream : Downstream) (eventKey : Payload → Key)

/-- `POST /lidarr`, and the processing it starts. -/
def post (world : World Key) (providedSecret : Option String) (body : Payload) :
    Response × World Key :=
  match gate settings providedSecret with
  | some response => (response, world)
  | none =>
    let stored := storeEvent eventKey world.rows "lidarr" body.eventType body
    (.ok stored.1.id,
      { world with rows := stored.2, queued := world.queued ++ [⟨stored.1.id, body.eventType, body⟩] })

/-- One event of a run. -/
def next (world : World Key) : Event → World Key
  | .post providedSecret body => (post settings eventKey world providedSecret body).2
  | .process index =>
    match world.queued.get? index with
    | none => world
    | some queued =>
      let processing := processWebhookEvent downstream queued.eventId queued.eventType queued.payload
      { rows := settle world.rows processing.eventId processing.outcome
        queued := world.queued.eraseIdx index
        processings := world.processings ++ [processing] }

/-- A whole run from an empty store. -/
def run (events : List Event) : World Key :=
  events.foldl (next settings downstream eventKey) ⟨[], [], []⟩

/-- The calls the processings that ran made to the download manager. -/
def World.managerCalls (world : World Key) : Nat :=
  ((world.processings.flatMap Processing.calls).filter Call.isManagerCall).length

/-- A delivery the route accepts: the settings and the secret let it through to `storeEvent`. -/
def Event.accepted : Event → Bool
  | .post providedSecret _ => (gate settings providedSecret).isNone
  | .process _ => false

/-- One event adds at most one to the manager calls plus the queued processings, and only an
accepted delivery adds one: a processing leaves the queue and calls the manager at most once. -/
theorem next_managerCalls (world : World Key) (event : Event) :
    (next settings downstream eventKey world event).managerCalls +
        (next settings downstream eventKey world event).queued.length ≤
      world.managerCalls + world.queued.length + if event.accepted settings then 1 else 0 := by
  cases event with
  | post providedSecret body =>
    simp only [next, post, Event.accepted]
    split
    case h_1 response gated => simp [gated]
    case h_2 gated =>
      simp only [gated, Option.isNone_none, if_true, World.managerCalls, List.length_append,
        List.length_singleton]
      omega
  | process index =>
    simp only [next, Event.accepted]
    cases found : world.queued.get? index with
    | none => simp
    | some queued =>
      have once := processWebhookEvent_manager_calls_le_one downstream queued.eventId
        queued.eventType queued.payload
      obtain ⟨inRange, -⟩ := List.get?_eq_some.mp found
      simp only [World.managerCalls, List.flatMap_append, List.filter_append, List.length_append,
        List.flatMap_singleton, List.length_eraseIdx, if_pos inRange] at once ⊢
      omega

/-- **The download manager is called at most once per accepted delivery.** Over every run of
deliveries and background processings, in any order, each processing calls the download manager
at most once and each accepted delivery queues exactly one processing, so the calls made never
outnumber the deliveries the route accepted. -/
theorem managerCalls_le_accepted (events : List Event) :
    (run settings downstream eventKey events).managerCalls ≤
      (events.filter (Event.accepted settings)).length := by
  suffices bound : ∀ (world : World Key) (events : List Event),
      (events.foldl (next settings downstream eventKey) world).managerCalls ≤
        world.managerCalls + world.queued.length + (events.filter (Event.accepted settings)).length
    from Nat.le_trans (bound ⟨[], [], []⟩ events) (Nat.le_of_eq (by simp [World.managerCalls]))
  intro world events
  induction events generalizing world with
  | nil => simp
  | cons event events ih =>
    have step := next_managerCalls settings downstream eventKey world event
    have later := ih (next settings downstream eventKey world event)
    rw [List.foldl_cons, List.filter_cons]
    by_cases accepted : event.accepted settings = true <;>
      simp only [accepted, if_true, if_false, Bool.false_eq_true, List.length_cons] at step ⊢ <;>
      omega

end System

/-- Lidarr on, no webhook secret. -/
def lidarrOn : Option SystemSettings :=
  some ⟨true, some "http://lidarr:8686", some "api-key", none⟩

/-- A `Grab` with a download id and nothing else. -/
def grabBody : Payload := ⟨"Grab", some "download-1", none, [], none, none, none⟩

/-- **The same `Grab`, delivered twice, is processed twice.** Whatever the download manager does
and whatever the deduplication key: one stored row, two processings of it, each calling
`onDownloadGrabbed` first. -/
theorem lidarr_redelivery_processed_twice {Key : Type} [DecidableEq Key]
    (downstream : Downstream) (eventKey : Payload → Key) :
    let world := run lidarrOn downstream eventKey
      [.post none grabBody, .process 0, .post none grabBody, .process 0]
    world.rows.length = 1 ∧ world.processings.map Processing.eventId = [0, 0] ∧
      world.processings.map (fun processing => processing.calls.head?) =
        [some (.onDownloadGrabbed "download-1" "" "" "" 0),
          some (.onDownloadGrabbed "download-1" "" "" "" 0)] := by
  rcases grabbed : downstream.onDownloadGrabbed "download-1" "" "" "" 0 with _ | ⟨_ | _, _⟩ <;>
    simp [run, next, post, gate, lidarrOn, grabBody, storeEvent, sameEvent, settle,
      processWebhookEvent, dispatch, handleGrab, jsOr, grabbed]

end Lidify.Webhook
