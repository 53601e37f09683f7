import Mathlib.Logic.Function.Basic
import Mathlib.Tactic.Common
/-
**The Lidarr webhook route: store, acknowledge, process in the background.**

`POST /lidarr` (`routes/webhooks.ts`) reads the system settings, answers `202` when Lidarr is off
and `401` on a wrong or missing `x-webhook-secret`, then awaits
`webhookEventStore.storeEvent("lidarr", eventType, body)`, answers `200` with the stored row's id,
and starts `processWebhookEvent(storedEvent.id, eventType, body)` without awaiting it.
`processWebhookEvent` dispatches on the event type to `handleGrab`, `handleDownload` or
`handleImportFailure`, which call `simpleDownloadManager` and the scan queue, and ends in exactly one
of `markProcessed` and `markFailed` (`Processing` carries exactly one `Outcome`).

The event store and the download manager are not part of the repository's sources here; they are
parameters, `storeEvent` following the spec (the first call with a deduplication key inserts, every
later one returns the existing row).

* `processWebhookEvent_manager_calls_le_one` — one processing calls the download manager at most
  once: each handler does, and the dispatch runs one handler.

The route and the interleaving of deliveries with processings are in `Lidify.Webhook.Delivery`.
-/

namespace Lidify.Webhook

/-- An optional string as JavaScript tests it: `undefined`, `null` and `""` are falsy. -/
def truthyValue (value : Option String) : Option String := value.filter (· ≠ "")

@[simp] theorem truthyValue_none : truthyValue none = none := rfl

@[simp] theorem truthyValue_some (value : String) :
    truthyValue (some value) = if value = "" then none else some value := by
  by_cases empty : value = "" <;> simp [truthyValue, Option.filter, empty]

/-- `a || b` on optional strings. -/
def jsOr (first second : Option String) : Option String :=
  match truthyValue first with
  | some value => some value
  | none => second

/-- `a || b` on optional numbers, where `0` is falsy. -/
def jsOrNat (first second : Option Nat) : Option Nat :=
  match first.filter (· ≠ 0) with
  | some value => some value
  | none => second

/-- The settings the route reads. -/
structure SystemSettings where
  lidarrEnabled : Bool
  lidarrUrl : Option String
  lidarrApiKey : Option String
  lidarrWebhookSecret : Option String
  deriving DecidableEq, Repr

/-- An album as Lidarr's payload carries it. -/
structure Album where
  id : Option Nat
  title : Option String
  foreignAlbumId : Option String
  mbId : Option String
  deriving DecidableEq, Repr

/-- The fields of a Lidarr webhook body that the handlers read. -/
structure Payload where
  eventType : String
  downloadId : Option String
  album : Option Album
  albums : List Album
  artistName : Option String
  releaseTitle : Option String
  message : Option String
  deriving DecidableEq, Repr

/-- A job `scanQueue.add("scan", …)` enqueues. -/
inductive ScanJob
  | incremental (userId : Option String) (artistName albumMbid : Option String) (downloadId : String)
  | full
  deriving DecidableEq, Repr

/-- A call the processing makes to another component. -/
inductive Call
  | onDownloadGrabbed (downloadId albumMbid albumTitle artistName : String) (lidarrAlbumId : Nat)
  | onDownloadComplete (downloadId : String) (albumMbid artistName albumTitle : Option String)
      (lidarrAlbumId : Option Nat)
  | onImportFailed (downloadId reason : String) (albumMbid : Option String)
  | queueCleanerStart
  | scanQueueAdd (job : ScanJob)
  deriving DecidableEq, Repr

/-- A call to `simpleDownloadManager`. -/
def Call.isManagerCall : Call → Bool
  | .onDownloadGrabbed .. | .onDownloadComplete .. | .onImportFailed .. => true
  | _ => false

/-- What `onDownloadGrabbed` answers. -/
structure GrabResult where
  matched : Bool
  jobId : Option String
  deriving DecidableEq, Repr

/-- Modelled from the spec: `simpleDownloadManager`'s three network-callback handlers (they return
whether a job was matched and its id, or throw) and the `downloadJob` owner lookup. -/
structure Downstream where
  onDownloadGrabbed : String → String → String → String → Nat → Except String GrabResult
  onDownloadComplete : String → Option String → Option String → Option String → Option Nat →
    Except String (Option String)
  onImportFailed : String → String → Option String → Except String (Option String)
  downloadJobUserId : String → Option String

/-- What a handler did and what it returned: its correlation id, or the error it threw. -/
abbrev HandlerRun := List Call × Except String (Option String)

variable (downstream : Downstream)

/-- `handleGrab`. -/
def handleGrab (payload : Payload) : HandlerRun :=
  let first := payload.albums.head?
  let albumMbid := jsOr (first.bind Album.foreignAlbumId) (first.bind Album.mbId)
  let albumTitle := first.bind Album.title
  let lidarrAlbumId := first.bind Album.id
  match truthyValue payload.downloadId with
  | none => ([], .ok none)
  | some downloadId =>
    let call := Call.onDownloadGrabbed downloadId ((truthyValue albumMbid).getD "")
      ((truthyValue albumTitle).getD "") ((truthyValue payload.artistName).getD "")
      ((lidarrAlbumId.filter (· ≠ 0)).getD 0)
    match downstream.onDownloadGrabbed downloadId ((truthyValue albumMbid).getD "")
        ((truthyValue albumTitle).getD "") ((truthyValue payload.artistName).getD "")
        ((lidarrAlbumId.filter (· ≠ 0)).getD 0) with
    | .error message => ([call], .error message)
    | .ok result =>
      if result.matched then ([call, .queueCleanerStart], .ok result.jobId) else ([call], .ok none)

/-- `handleDownload`. -/
def handleDownload (payload : Payload) : HandlerRun :=
  let first := payload.albums.head?
  let albumTitle := jsOr (payload.album.bind Album.title) (first.bind Album.title)
  let albumMbid := jsOr (payload.album.bind Album.foreignAlbumId) (first.bind Album.foreignAlbumId)
  let lidarrAlbumId := jsOrNat (payload.album.bind Album.id) (first.bind Album.id)
  match truthyValue payload.downloadId with
  | none => ([], .ok none)
  | some downloadId =>
    let call := Call.onDownloadComplete downloadId albumMbid payload.artistName albumTitle
      lidarrAlbumId
    match downstream.onDownloadComplete downloadId albumMbid payload.artistName albumTitle
        lidarrAlbumId with
    | .error message => ([call], .error message)
    | .ok jobId =>
      match truthyValue jobId with
      | some job =>
        ([call, .scanQueueAdd (.incremental (truthyValue (downstream.downloadJobUserId job))
          payload.artistName albumMbid job)], .ok (some job))
      | none => ([call, .scanQueueAdd .full], .ok none)

/-- `handleImportFailure`. -/
def handleImportFailure (payload : Payload) : HandlerRun :=
  let albumMbid := jsOr (payload.album.bind Album.foreignAlbumId)
    (payload.albums.head?.bind Album.foreignAlbumId)
  let reason := (truthyValue payload.message).getD "Import failed"
  match truthyValue payload.downloadId with
  | none => ([], .ok none)
  | some downloadId =>
    match downstream.onImportFailed downloadId reason albumMbid with
    | .error message => ([.onImportFailed downloadId reason albumMbid], .error message)
    | .ok jobId => ([.onImportFailed downloadId reason albumMbid], .ok jobId)

/-- How a processing ends. -/
inductive Outcome
  | markProcessed (correlationId : Option String)
  | markFailed (message : String)
  deriving DecidableEq, Repr

/-- One run of `processWebhookEvent`: its event, its calls, and its one `Outcome`. -/
structure Processing where
  eventId : Nat
  calls : List Call
  outcome : Outcome
  deriving DecidableEq, Repr

/-- The `switch (eventType)` of `processWebhookEvent`. -/
def dispatch (eventType : String) (payload : Payload) : HandlerRun :=
  match eventType with
  | "Grab" => handleGrab downstream payload
  | "Download" | "AlbumDownload" | "TrackRetag" | "Rename" => handleDownload downstream payload
  | "ImportFailure" | "DownloadFailed" | "DownloadFailure" => handleImportFailure downstream payload
  | _ => ([], .ok none)

/-- `processWebhookEvent(eventId, eventType, payload)`. -/
def processWebhookEvent (eventId : Nat) (eventType : String) (payload : Payload) : Processing :=
  let handled := dispatch downstream eventType payload
  ⟨eventId, handled.1, match handled.2 with
    | .ok correlationId => .markProcessed correlationId
    | .error message => .markFailed message⟩

/-- Calls among which at most one goes to the download manager. -/
def AtMostOneManagerCall (calls : List Call) : Prop := (calls.filter Call.isManagerCall).length ≤ 1

theorem handleGrab_atMostOneManagerCall (payload : Payload) :
    AtMostOneManagerCall (handleGrab downstream payload).1 := by
  unfold handleGrab AtMostOneManagerCall
  dsimp only
  split
  · simp
  · split
    · simp [Call.isManagerCall]
    · split <;> simp [Call.isManagerCall]

theorem handleDownload_atMostOneManagerCall (payload : Payload) :
    AtMostOneManagerCall (handleDownload downstream payload).1 := by
  unfold handleDownload AtMostOneManagerCall
  dsimp only
  split
  · simp
  · split
    · simp [Call.isManagerCall]
    · split <;> simp [Call.isManagerCall]

theorem handleImportFailure_atMostOneManagerCall (payload : Payload) :
    AtMostOneManagerCall (handleImportFailure downstream payload).1 := by
  unfold handleImportFailure AtMostOneManagerCall
  dsimp only
  split
  · simp
  · split <;> simp [Call.isManagerCall]

/-- **One processing calls the download manager at most once**: each handler calls it at most
once, and the dispatch runs one handler. -/
theorem processWebhookEvent_manager_calls_le_one (eventId : Nat) (eventType : String)
    (payload : Payload) :
    ((processWebhookEvent downstream eventId eventType payload).calls.filter
      Call.isManagerCall).length ≤ 1 := by
  show AtMostOneManagerCall (dispatch downstream eventType payload).1
  unfold dispatch
  split <;> first
    | exact handleGrab_atMostOneManagerCall downstream payload
    | exact handleDownload_atMostOneManagerCall downstream payload
    | exact handleImportFailure_atMostOneManagerCall downstream payload
    | simp [AtMostOneManagerCall]

end Lidify.Webhook
