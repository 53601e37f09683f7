import Lidify.Webhook.Inbox
/-
**The download buttons: `useDownloadActions` and `useAlbumActions().downloadAlbum`.**

Three click handlers start downloads: the artist page's `downloadArtist` and `downloadAlbum`
(`useDownloadActions`) and the album page's `downloadAlbum` (`useAlbumActions`). Each checks its
input and toasts an error when a check fails. Otherwise it asks the download context whether the
MBID is pending and toasts "already being downloaded" when it is; if not, it adds a pending
download, toasts "Preparing download", and calls the API, and when the call answers it toasts
the success or the error. The three share that last part, `startDownload`.

The download context (`useDownloadContext`) is not part of the sources. It is a parameter: any
state with `isPendingByMbid` and `addPendingDownload` such that an added MBID is pending. The
rest of the application may change that state at any time. A run interleaves clicks, the API's
answers in any order, and those changes; the handler reads the context as the click finds it.

* `download_calls_le_clears_succ` — in every run, the API is called for an MBID at most once more
  than the number of times the context stopped holding it pending: however often and on whichever
  page the user clicks, and whatever the API answers, no second download of a pending MBID starts.
-/

namespace Lidify.Download

open Lidify.Webhook (truthyValue jsOr)

/-- The artist the artist page passes to `downloadArtist`. -/
structure Artist where
  name : String
  mbid : Option String
  deriving DecidableEq, Repr

/-- An album as the two `downloadAlbum` handlers read it: `id`, `title`, `mbid`, `rgMbid`, and
`album.artist?.name`. -/
structure Album where
  id : String
  title : String
  mbid : Option String
  rgMbid : Option String
  artistName : Option String
  deriving DecidableEq, Repr

/-- A call of the API client that starts a download. -/
inductive ApiCall
  | downloadArtist (name mbid : String)
  | downloadAlbum (artistName title mbid : String)
  deriving DecidableEq, Repr

/-- The MBID an API call downloads. -/
def ApiCall.mbid : ApiCall → String
  | .downloadArtist _ mbid => mbid
  | .downloadAlbum _ _ mbid => mbid

/-- `toast.error`, `toast.info` or `toast.success`, with its text. -/
inductive Toast
  | error (text : String)
  | info (text : String)
  | success (text : String)
  deriving DecidableEq, Repr

/-- What a failed API call rejects with: an `Error` with its `message`, or another value. -/
inductive ApiError
  | error (message : String)
  | other
  deriving DecidableEq, Repr

/-- `error instanceof Error ? error.message : fallback`. -/
def errorMessage (fallback : String) : ApiError → String
  | .error message => message
  | .other => fallback

/-- The values a handler's `try` block uses: the pending download it adds, its toasts and the API
call, which downloads the MBID the context was asked about. -/
structure DownloadRequest where
  kind : String
  name : String
  mbid : String
  already : String
  preparing : String
  call : ApiCall
  success : String
  failure : ApiError → String
  call_mbid : call.mbid = mbid

/-- The download context: a state `σ` with `isPendingByMbid` and `addPendingDownload`, where an
MBID just added is pending. -/
structure DownloadContext (σ : Type) where
  isPendingByMbid : σ → String → Bool
  addPendingDownload : σ → String → String → String → σ
  pending_add : ∀ state kind name mbid,
    isPendingByMbid (addPendingDownload state kind name mbid) mbid = true

/-- The context's state, the API calls awaiting their answer, the toasts shown and the API calls
made. -/
structure World (σ : Type) where
  context : σ
  awaiting : List DownloadRequest
  toasts : List Toast
  sent : List ApiCall

/-- One more toast. -/
def World.toast {σ : Type} (world : World σ) (toast : Toast) : World σ :=
  { world with toasts := world.toasts ++ [toast] }

section Handlers

variable {σ : Type} (ctx : DownloadContext σ)

/-- What the three handlers share: the pending check, then the `try` block up to its `await`. -/
def startDownload (world : World σ) (request : DownloadRequest) : World σ :=
  if ctx.isPendingByMbid world.context request.mbid then world.toast (.info request.already)
  else
    { context := ctx.addPendingDownload world.context request.kind request.name request.mbid
      awaiting := world.awaiting ++ [request]
      toasts := world.toasts ++ [.info request.preparing]
      sent := world.sent ++ [request.call] }

/-- `useDownloadActions().downloadArtist(artist)`, up to its `await`. -/
def useDownloadActions.downloadArtist (world : World σ) : Option Artist → World σ
  | none => world.toast (.error "No artist selected")
  | some artist =>
    match truthyValue artist.mbid with
    | none => world.toast (.error "Artist MBID not available")
    | some mbid =>
      startDownload ctx world
        { kind := "artist"
          name := artist.name
          mbid := mbid
          already := artist.name ++ " is already being downloaded"
          preparing := "Preparing download: \"" ++ artist.name ++ "\"..."
          call := .downloadArtist artist.name mbid
          success := "Downloading " ++ artist.name
          failure := errorMessage "Failed to download artist"
          call_mbid := rfl }

/-- `useDownloadActions().downloadAlbum(album, artistName, e)`, up to its `await`: the MBID is
`album.rgMbid || album.mbid`. -/
def useDownloadActions.downloadAlbum (world : World σ) (album : Album) (artistName : String) :
    World σ :=
  match truthyValue (jsOr album.rgMbid album.mbid) with
  | none => world.toast (.error "Album MBID not available")
  | some mbid =>
    startDownload ctx world
      { kind := "album"
        name := artistName ++ " - " ++ album.title
        mbid := mbid
        already := album.title ++ " is already being downloaded"
        preparing := "Preparing download: \"" ++ album.title ++ "\"..."
        call := .downloadAlbum artistName album.title mbid
        success := "Downloading " ++ album.title
        failure := errorMessage "Failed to download album"
        call_mbid := rfl }

/-- `useAlbumActions().downloadAlbum(album, e)`, up to its `await`: the MBID is
`album.rgMbid || album.mbid || album.id`, and every failure has the one message. -/
def useAlbumActions.downloadAlbum (world : World σ) : Option Album → World σ
  | none => world.toast (.error "Album data not available")
  | some album =>
    match truthyValue (jsOr album.rgMbid (jsOr album.mbid (some album.id))) with
    | none => world.toast (.error "Album MBID not available")
    | some mbid =>
      startDownload ctx world
        { kind := "album"
          name := album.title
          mbid := mbid
          already := "Album is already being downloaded"
          preparing := "Preparing download: \"" ++ album.title ++ "\"..."
          call := .downloadAlbum ((truthyValue album.artistName).getD "Unknown Artist") album.title mbid
          success := "Downloading \"" ++ album.title ++ "\""
          failure := fun _ => "Failed to start album download"
          call_mbid := rfl }

/-- The answer to the awaiting call at `index`: `toast.success`, or the `catch` block's
`toast.error`. -/
def World.answer (world : World σ) (index : Nat) (result : Except ApiError Unit) : World σ :=
  match world.awaiting[index]? with
  | none => world
  | some request =>
    { world with
      awaiting := world.awaiting.eraseIdx index
      toasts := world.toasts ++ [match result with
        | .ok () => .success request.success
        | .error error => .error (request.failure error)] }

end Handlers

/-- A click on one of the three buttons. -/
inductive Click
  | downloadArtist (artist : Option Artist)
  | downloadAlbum (album : Album) (artistName : String)
  | albumPageDownload (album : Option Album)
  deriving DecidableEq, Repr

/-- A click, an answer of the API, or the rest of the application changing the context. -/
inductive Event (σ : Type)
  | click (click : Click)
  | answer (index : Nat) (result : Except ApiError Unit)
  | contextChange (next : σ)

section Runs

variable {σ : Type} (ctx : DownloadContext σ)

/-- One event. -/
def step (world : World σ) : Event σ → World σ
  | .click (.downloadArtist artist) => useDownloadActions.downloadArtist ctx world artist
  | .click (.downloadAlbum album artistName) =>
    useDownloadActions.downloadAlbum ctx world album artistName
  | .click (.albumPageDownload album) => useAlbumActions.downloadAlbum ctx world album
  | .answer index result => world.answer index result
  | .contextChange next => { world with context := next }

/-- A run of events. -/
def run (world : World σ) (events : List (Event σ)) : World σ :=
  events.foldl (step ctx) world

/-- The API calls made for `mbid`. -/
def World.callsFor (world : World σ) (mbid : String) : Nat :=
  world.sent.countP (·.mbid = mbid)

/-- How many steps of a run made the context stop holding `mbid` pending. -/
def clears (mbid : String) : World σ → List (Event σ) → Nat
  | _, [] => 0
  | world, event :: events =>
    (if ctx.isPendingByMbid world.context mbid && !ctx.isPendingByMbid (step ctx world event).context mbid
      then 1 else 0) + clears mbid (step ctx world event) events

end Runs

/-! ### What a step does to the calls -/

section Calls

variable {σ : Type} (ctx : DownloadContext σ)

/-- The step from `world` to `next` makes no API call, or one for an MBID that the context did
not hold pending and now holds. -/
def FreshCall (world next : World σ) : Prop :=
  next.sent = world.sent ∨
    ∃ request : DownloadRequest, ctx.isPendingByMbid world.context request.mbid = false ∧
      next.sent = world.sent ++ [request.call] ∧ ctx.isPendingByMbid next.context request.mbid = true

theorem freshCall_toast (world : World σ) (toast : Toast) : FreshCall ctx world (world.toast toast) :=
  .inl rfl

theorem freshCall_startDownload (world : World σ) (request : DownloadRequest) :
    FreshCall ctx world (startDownload ctx world request) := by
  unfold startDownload
  cases pending : ctx.isPendingByMbid world.context request.mbid
  · exact .inr ⟨request, pending, rfl, ctx.pending_add _ _ _ _⟩
  · exact .inl rfl

theorem freshCall_downloadArtist (world : World σ) (artist : Option Artist) :
    FreshCall ctx world (useDownloadActions.downloadArtist ctx world artist) := by
  unfold useDownloadActions.downloadArtist
  split
  · exact freshCall_toast ctx world _
  · split
    · exact freshCall_toast ctx world _
    · exact freshCall_startDownload ctx world _

theorem freshCall_downloadAlbum (world : World σ) (album : Album) (artistName : String) :
    FreshCall ctx world (useDownloadActions.downloadAlbum ctx world album artistName) := by
  unfold useDownloadActions.downloadAlbum
  split
  · exact freshCall_toast ctx world _
  · exact freshCall_startDownload ctx world _

theorem freshCall_albumPageDownload (world : World σ) (album : Option Album) :
    FreshCall ctx world (useAlbumActions.downloadAlbum ctx world album) := by
  unfold useAlbumActions.downloadAlbum
  split
  · exact freshCall_toast ctx world _
  · split
    · exact freshCall_toast ctx world _
    · exact freshCall_startDownload ctx world _

theorem freshCall_answer (world : World σ) (index : Nat) (result : Except ApiError Unit) :
    FreshCall ctx world (world.answer index result) := by
  left
  unfold World.answer
  split <;> rfl

/-- **What a step can do to the API calls**: nothing, or one call for an MBID the context did not
hold pending and now holds. -/
theorem freshCall_step (world : World σ) : ∀ event : Event σ, FreshCall ctx world (step ctx world event)
  | .click (.downloadArtist artist) => freshCall_downloadArtist ctx world artist
  | .click (.downloadAlbum album artistName) => freshCall_downloadAlbum ctx world album artistName
  | .click (.albumPageDownload album) => freshCall_albumPageDownload ctx world album
  | .answer index result => freshCall_answer ctx world index result
  | .contextChange _ => .inl rfl

/-- A flag that goes down counts once. -/
theorem indicator_le_add_fall (before after : Bool) :
    (if before then 1 else 0) ≤ (if after then 1 else 0) + (if before && !after then 1 else 0) := by
  cases before <;> cases after <;> decide

/-- **One step**: a call for `mbid` raises its pending flag. -/
theorem callsFor_step (mbid : String) (world : World σ) (event : Event σ) :
    (step ctx world event).callsFor mbid + (if ctx.isPendingByMbid world.context mbid then 1 else 0) ≤
      world.callsFor mbid + (if ctx.isPendingByMbid (step ctx world event).context mbid then 1 else 0) +
        (if ctx.isPendingByMbid world.context mbid &&
            !ctx.isPendingByMbid (step ctx world event).context mbid then 1 else 0) := by
  have fall := indicator_le_add_fall (ctx.isPendingByMbid world.context mbid)
    (ctx.isPendingByMbid (step ctx world event).context mbid)
  rcases freshCall_step ctx world event with same | ⟨request, idle, sent, pending⟩
  · unfold World.callsFor
    rw [same]
    omega
  · unfold World.callsFor
    rw [sent, List.countP_append, List.countP_singleton, request.call_mbid]
    by_cases own : request.mbid = mbid
    · subst own
      simp [idle, pending]
    · simp only [decide_eq_true_eq, own, ↓reduceIte]
      omega

/-- **Every run**: the calls for `mbid` grow by at most the falls of its pending flag and a raise
of it. -/
theorem callsFor_run (mbid : String) (world : World σ) (events : List (Event σ)) :
    (run ctx world events).callsFor mbid + (if ctx.isPendingByMbid world.context mbid then 1 else 0) ≤
      world.callsFor mbid + (if ctx.isPendingByMbid (run ctx world events).context mbid then 1 else 0) +
        clears ctx mbid world events := by
  induction events generalizing world with
  | nil => simp [run, clears]
  | cons event events ih =>
    have first := callsFor_step ctx mbid world event
    have rest := ih (step ctx world event)
    simp only [run, List.foldl_cons, clears] at rest ⊢
    omega

/-- **No second download while pending.** In every run of clicks on the three buttons, answers of
the API in any order and changes of the context, the API is called for an MBID at most once more
than the number of times the context stopped holding it pending. So as long as the context keeps
an MBID pending, double clicks, the other page's button and retries after a failed call (the
handlers never clear a pending download) start no second download of it. -/
theorem download_calls_le_clears_succ (mbid : String) (world : World σ) (events : List (Event σ)) :
    (run ctx world events).callsFor mbid ≤ world.callsFor mbid + clears ctx mbid world events + 1 := by
  have bound := callsFor_run ctx mbid world events
  have flag : (if ctx.isPendingByMbid (run ctx world events).context mbid then 1 else 0) ≤ 1 := by
    split <;> omega
  omega

/-- A context that holds every MBID added to it. -/
def listContext : DownloadContext (List String) :=
  ⟨fun pending mbid => pending.contains mbid, fun pending _ _ mbid => pending ++ [mbid],
    fun _ _ _ _ => by simp⟩

example : (run listContext ⟨[], [], [], []⟩
    [.click (.downloadArtist (some ⟨"Low", some "mb-low"⟩)), .answer 0 (.error .other),
      .click (.downloadArtist (some ⟨"Low", some "mb-low"⟩))]).sent = [.downloadArtist "Low" "mb-low"] := by
  decide

end Calls

end Lidify.Download
