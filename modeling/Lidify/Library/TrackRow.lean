import Mathlib.Data.List.Basic
/-
**The library's `TracksList`: `TrackRow` behind `memo` and its props comparator.**

`TracksList` renders one `TrackRow` per track, keyed by `track.id`, with the row's position, whether
it is the current track, and a fresh closure `() => onPlay(tracks, index)`. `TrackRow` is wrapped
in `memo` with a comparator that looks at `track.id`, `isCurrentlyPlaying` and `index` only; when
it returns `true`, React keeps the row it rendered from the previous props.

* `trackRow` — what a row shows (number or playing icon, cover, title, artist, album, duration)
  and what each of its handlers calls;
* `memoTrackRow` — the row on screen after a re-render: the kept one when the comparator accepts;
* `trackRow_memo_plays_stale_tracks` — after tracks are appended, every row already shown is kept,
  and its play handler still calls `onPlay` with the list it was first rendered with.

`api.getCoverArtUrl(coverArt, 80)` and `formatTime(duration)` are functions of the cover id and the
duration alone, so a row is described by those.
-/

namespace Lidify.Library

/-- The artist fields a row reads. -/
structure Artist where
  name : String
  deriving DecidableEq, Repr

/-- The album fields a row reads; `coverArt` and `artist` may be absent. -/
structure Album where
  title : String
  coverArt : Option String
  artist : Option Artist
  deriving DecidableEq, Repr

/-- The `Track` fields a row reads. -/
structure Track where
  id : String
  title : String
  displayTitle : Option String
  album : Option Album
  duration : Nat
  deriving DecidableEq, Repr

/-- What a row's handler calls on `TracksList`'s callbacks. -/
inductive Call
  | play (tracks : List Track) (startIndex : Nat)
  | addToQueue (track : Track)
  | showAddToPlaylist (trackId : String)
  | delete (trackId trackTitle : String)
  deriving DecidableEq, Repr

/-- `TrackRowProps`; `onAddToQueue`, `onShowAddToPlaylist` and `onDelete` are the list's own
stable callbacks, so a prop is the call its handler makes. -/
structure TrackRowProps where
  track : Track
  index : Nat
  isCurrentlyPlaying : Bool
  onPlayTrack : Call
  deriving DecidableEq, Repr

/-- What a rendered `TrackRow` shows and what its handlers call. -/
structure RenderedRow where
  cardIndex : Nat
  playing : Bool
  number : Option Nat
  coverArt : Option String
  title : String
  artistName : Option String
  albumTitle : Option String
  duration : Nat
  onDoubleClick : Call
  onPlayClick : Call
  onQueueClick : Call
  onPlaylistClick : Call
  onDeleteClick : Call
  deriving DecidableEq, Repr

/-- The `TrackRow` component. The number cell shows `index + 1` unless the row is playing. -/
def trackRow (props : TrackRowProps) : RenderedRow where
  cardIndex := props.index
  playing := props.isCurrentlyPlaying
  number := if props.isCurrentlyPlaying then none else some (props.index + 1)
  coverArt := props.track.album.bind (·.coverArt)
  title := props.track.displayTitle.getD props.track.title
  artistName := props.track.album.bind fun album => album.artist.map (·.name)
  albumTitle := props.track.album.map (·.title)
  duration := props.track.duration
  onDoubleClick := props.onPlayTrack
  onPlayClick := props.onPlayTrack
  onQueueClick := .addToQueue props.track
  onPlaylistClick := .showAddToPlaylist props.track.id
  onDeleteClick := .delete props.track.id props.track.title

/-- `memo`'s comparator for `TrackRow`. -/
def trackRowPropsAreEqual (prevProps nextProps : TrackRowProps) : Bool :=
  prevProps.track.id == nextProps.track.id &&
    prevProps.isCurrentlyPlaying == nextProps.isCurrentlyPlaying &&
    prevProps.index == nextProps.index

/-- The row on screen when `TracksList` re-renders a row last rendered from `prevProps` with
`nextProps`: `memo` keeps the rendered row when the comparator accepts. -/
def memoTrackRow (prevProps nextProps : TrackRowProps) : RenderedRow :=
  if trackRowPropsAreEqual prevProps nextProps then trackRow prevProps else trackRow nextProps

/-- The props `TracksList` gives the row of `track` at `index`. -/
def rowProps (tracks : List Track) (currentTrackId : Option String) (index : Nat) (track : Track) :
    TrackRowProps :=
  ⟨track, index, currentTrackId == some track.id, .play tracks index⟩

/-- What `TracksList` renders. -/
inductive TracksListView
  | spinner
  | emptyState
  | rows (rows : List TrackRowProps)
  deriving DecidableEq, Repr

/-- `TracksList`: a spinner while loading, the empty state for no tracks, else a row per track. -/
def tracksList (tracks : List Track) (currentTrackId : Option String) (isLoading : Bool) :
    TracksListView :=
  if isLoading then .spinner
  else if tracks.length = 0 then .emptyState
  else .rows (tracks.enum.map fun entry => rowProps tracks currentTrackId entry.1 entry.2)

theorem rowProps_mem_tracksList {tracks : List Track} {currentTrackId : Option String}
    {index : Nat} {track : Track} (listed : (index, track) ∈ tracks.enum) :
    ∃ rows, tracksList tracks currentTrackId false = .rows rows ∧
      rowProps tracks currentTrackId index track ∈ rows := by
  have nonempty : tracks.length ≠ 0 := by have := (List.mem_enum listed).1; omega
  exact ⟨tracks.enum.map fun entry => rowProps tracks currentTrackId entry.1 entry.2,
    by simp only [tracksList, Bool.false_eq_true, if_false, if_neg nonempty],
    List.mem_map.mpr ⟨(index, track), listed, rfl⟩⟩

/-- **Appending tracks leaves every shown row's play handler on the old list.** When tracks are
appended to a non-empty list, the row of each track already listed is rendered again under its
key with the same `track.id`, `index` and `isCurrentlyPlaying`, so `memo` keeps it: its play
handler calls `onPlay` with the list before the append, where a fresh render calls it with the
whole list. -/
theorem trackRow_memo_plays_stale_tracks (tracks more : List Track) (appended : more ≠ [])
    (currentTrackId : Option String) {index : Nat} {track : Track}
    (listed : (index, track) ∈ tracks.enum) :
    (∃ rows, tracksList (tracks ++ more) currentTrackId false = .rows rows ∧
      rowProps (tracks ++ more) currentTrackId index track ∈ rows) ∧
    trackRowPropsAreEqual (rowProps tracks currentTrackId index track)
      (rowProps (tracks ++ more) currentTrackId index track) = true ∧
    (memoTrackRow (rowProps tracks currentTrackId index track)
      (rowProps (tracks ++ more) currentTrackId index track)).onDoubleClick = .play tracks index ∧
    (trackRow (rowProps (tracks ++ more) currentTrackId index track)).onDoubleClick =
      .play (tracks ++ more) index ∧
    Call.play tracks index ≠ .play (tracks ++ more) index := by
  have agree : trackRowPropsAreEqual (rowProps tracks currentTrackId index track)
      (rowProps (tracks ++ more) currentTrackId index track) = true := by
    simp [trackRowPropsAreEqual, rowProps]
  refine ⟨rowProps_mem_tracksList (List.enum_append tracks more ▸ List.mem_append_left _ listed),
    agree, by rw [memoTrackRow, if_pos agree]; rfl, rfl, fun same => appended ?_⟩
  simpa using congrArg List.length (Call.play.inj same).1

/-- Two tracks, and a third appended to them. -/
def twoTracks : List Track :=
  [⟨"t1", "One", none, none, 180⟩, ⟨"t2", "Two", none, none, 200⟩]

def thirdTrack : Track := ⟨"t3", "Three", none, none, 210⟩

/-- The first row keeps playing the two-track list once a third track is appended. -/
theorem trackRow_memo_plays_stale_tracks_appended :
    [thirdTrack] ≠ [] ∧ (0, ⟨"t1", "One", none, none, 180⟩) ∈ twoTracks.enum ∧
    ((∃ rows, tracksList (twoTracks ++ [thirdTrack]) none false = .rows rows ∧
      rowProps (twoTracks ++ [thirdTrack]) none 0 ⟨"t1", "One", none, none, 180⟩ ∈ rows) ∧
    trackRowPropsAreEqual (rowProps twoTracks none 0 ⟨"t1", "One", none, none, 180⟩)
      (rowProps (twoTracks ++ [thirdTrack]) none 0 ⟨"t1", "One", none, none, 180⟩) = true ∧
    (memoTrackRow (rowProps twoTracks none 0 ⟨"t1", "One", none, none, 180⟩)
      (rowProps (twoTracks ++ [thirdTrack]) none 0 ⟨"t1", "One", none, none, 180⟩)).onDoubleClick =
        .play twoTracks 0 ∧
    (trackRow (rowProps (twoTracks ++ [thirdTrack]) none 0
        ⟨"t1", "One", none, none, 180⟩)).onDoubleClick = .play (twoTracks ++ [thirdTrack]) 0 ∧
    Call.play twoTracks 0 ≠ .play (twoTracks ++ [thirdTrack]) 0) :=
  ⟨by decide, by decide, trackRow_memo_plays_stale_tracks _ _ (by decide) _ (by decide)⟩

end Lidify.Library
