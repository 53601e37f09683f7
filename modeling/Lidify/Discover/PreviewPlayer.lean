import Mathlib.Data.List.Basic
/-
**`usePreviewPlayer`: album previews toggled on the discover page.**

`handleTogglePreview(albumId, previewUrl)` stops the preview of another album that is current,
then either toggles its own album off (stopping its element and removing it from
`previewAudios`) or toggles it on: it pauses the main player, takes the album's element from
`previewAudios` or creates one, and calls `play()`, whose `.then` makes the album current.
Stopping an element is `pause()`, `src = ""` and `load()`. The hook's effect depends on
`previewAudios`, so each new map runs the previous effect's cleanup, which stops every element of
the previous map and resumes the main player.

* `State`, `next`, `run` — any sequence of toggles interleaved with the settling of the `play()`
  promises and with `ended` and `error` events;
* `run_keeps_onlyLastPlays` — every element but the last one created is stopped for good
  (`OnlyLastPlays`), so at most one preview plays (`previews_play_one_at_a_time`);
* `preview_toggle_back_plays_other_album` — toggling back to an album whose preview another one
  interrupted plays nothing of it: its element has no source, and the other album plays or
  stays current.

React re-renders between two events, so a handler reads the state the previous event left; the
cleanup of an effect a click caused runs before the next event.
-/

namespace Lidify.Discover

/-- A preview `Audio` element: the album it was created for (a ghost: the element does not hold
it), its `src`, whether it is paused, and whether its playback has started. -/
structure Audio where
  albumId : String
  src : String
  paused : Bool
  playing : Bool
  deriving DecidableEq, Repr

/-- A `play()` promise not yet settled: its element, the album its `.then` makes current, and
whether it can only reject (its element was stopped, or had no source). -/
structure PendingPlay where
  audio : Nat
  albumId : String
  doomed : Bool
  deriving DecidableEq, Repr

/-- The hook's state (`currentPreview`, `previewAudios` as album and element in insertion order,
`mainPlayerWasPausedRef`), the elements it created, the pending `play()` promises, the main
player, the toasts shown, and the album of the last toggle that turned a preview on (a ghost). -/
structure State where
  currentPreview : Option String
  previewAudios : List (String × Nat)
  audios : List Audio
  pending : List PendingPlay
  mainPlayerWasPaused : Bool
  mainPlaying : Bool
  toasts : List String
  lastToggledOn : Option String
  deriving DecidableEq, Repr

/-- The first render, with the main player playing or not. -/
def initial (mainPlaying : Bool) : State := ⟨none, [], [], [], false, mainPlaying, [], none⟩

/-- `previewAudios.get(albumId)`. -/
def getAudio (previewAudios : List (String × Nat)) (albumId : String) : Option Nat :=
  (previewAudios.find? (·.1 = albumId)).map (·.2)

/-- The pending `play()` promises, those of `audio` now able only to reject. -/
def doomPlays (pending : List PendingPlay) (audio : Nat) : List PendingPlay :=
  pending.map fun play => if play.audio = audio then { play with doomed := true } else play

namespace State

/-- `audio.pause(); audio.src = ""; audio.load()`: paused, with no source and not playing; its
pending `play()` promises can now only reject. -/
def stopAudio (state : State) (audio : Nat) : State :=
  { state with
    audios := state.audios.modify (fun element =>
      { element with src := "", paused := true, playing := false }) audio
    pending := doomPlays state.pending audio }

/-- `const audio = previewAudios.get(albumId); if (audio) { ... }`, stopping the album's element. -/
def stopPreview (state : State) (albumId : String) : State :=
  match getAudio state.previewAudios albumId with
  | some audio => state.stopAudio audio
  | none => state

/-- `audio.play()` with its `.then` making `albumId` current: not paused, and a new pending promise,
which can only reject when the element has no source. -/
def playAudio (state : State) (audio : Nat) (albumId : String) : State :=
  { state with
    audios := state.audios.modify (fun element => { element with paused := false }) audio
    pending := state.pending ++ [⟨audio, albumId, state.audios[audio]?.all (·.src = "")⟩] }

/-- `if (mainPlayerWasPausedRef.current) { howlerEngine.play(); ... = false }`. -/
def resumeMain (state : State) : State :=
  if state.mainPlayerWasPaused then { state with mainPlaying := true, mainPlayerWasPaused := false }
  else state

/-- `if (howlerEngine.isPlaying()) { howlerEngine.pause(); mainPlayerWasPausedRef.current = true }`:
the main player paused by the hook. -/
def pauseMain (state : State) : State :=
  if state.mainPlaying then { state with mainPlaying := false, mainPlayerWasPaused := true }
  else state

/-- The effect's cleanup, closed over a previous render's `previewAudios`: every element of it
stopped, then the main player resumed. -/
def cleanup (state : State) (previewAudios : List (String × Nat)) : State :=
  (previewAudios.foldl (fun current entry => current.stopAudio entry.2) state).resumeMain

/-- The handler's first step: when `currentPreview` is truthy and another album, its element
stopped. -/
def stopOtherPreview (state : State) (albumId : String) : State :=
  match state.currentPreview with
  | some current => if current ≠ "" ∧ current ≠ albumId then state.stopPreview current else state
  | none => state

/-- `audio = new Audio(previewUrl)`, set under `albumId` in a copy of the render's
`previewAudios`. -/
def createAudio (state : State) (previewAudios : List (String × Nat))
    (albumId previewUrl : String) : State :=
  { state with
    audios := state.audios ++ [⟨albumId, previewUrl, true, false⟩]
    previewAudios := previewAudios ++ [(albumId, state.audios.length)] }

end State

/-- `handleTogglePreview(albumId, previewUrl)`, with whether it called `setPreviewAudios`. -/
def handleTogglePreview (state : State) (albumId previewUrl : String) : State × Bool :=
  if previewUrl = "" then
    ({ state with toasts := state.toasts ++ ["No preview available for this album"] }, false)
  else
    let stopped := state.stopOtherPreview albumId
    if state.currentPreview = some albumId then
      (State.resumeMain { stopped.stopPreview albumId with
          previewAudios := state.previewAudios.filter (·.1 ≠ albumId)
          currentPreview := none }, true)
    else
      let paused := { stopped.pauseMain with lastToggledOn := albumId }
      match getAudio state.previewAudios albumId with
      | some audio => (paused.playAudio audio albumId, false)
      | none =>
        ((paused.createAudio state.previewAudios albumId previewUrl).playAudio
          paused.audios.length albumId, true)

/-- What happens next: a toggle (with the effect's cleanup when it set a new map), a pending
`play()` promise resolving (only while its element is unpaused and has a source) or rejecting, or
an element's `ended` or `error` event (an error also rejects the element's pending promises). -/
inductive Event
  | toggle (albumId previewUrl : String)
  | resolve (index : Nat)
  | reject (index : Nat) (message : String)
  | ended (audio : Nat)
  | error (audio : Nat)
  deriving DecidableEq, Repr

/-- One event. -/
def next (state : State) : Event → State
  | .toggle albumId previewUrl =>
    let toggled := handleTogglePreview state albumId previewUrl
    if toggled.2 then toggled.1.cleanup state.previewAudios else toggled.1
  | .resolve index =>
    match state.pending[index]? with
    | some play =>
      if !play.doomed && state.audios[play.audio]?.any (!·.paused) then
        { state with
          audios := state.audios.modify (fun element => { element with playing := true }) play.audio
          pending := state.pending.eraseIdx index
          currentPreview := some play.albumId }
      else state
    | none => state
  | .reject index message =>
    if index < state.pending.length then
      { state with
        pending := state.pending.eraseIdx index
        toasts := state.toasts ++ ["Failed to play preview: " ++ message] }
    else state
  | .ended audio =>
    if state.audios[audio]?.any (·.playing) then
      State.resumeMain { state with
        audios := state.audios.modify (fun element =>
          { element with paused := true, playing := false }) audio
        currentPreview := none }
    else state
  | .error audio =>
    if audio < state.audios.length then
      State.resumeMain { state with
        audios := state.audios.modify (fun element => { element with playing := false }) audio
        pending := doomPlays state.pending audio
        toasts := state.toasts ++ ["Failed to load preview"]
        currentPreview := none }
    else state

/-- A run of events. -/
def run (state : State) (events : List Event) : State := events.foldl next state

/-! ### Elements stopped for good -/

/-- An element that makes no sound: it has no source and does not play. -/
def Audio.Silent (element : Audio) : Prop := element.src = "" ∧ element.playing = false

namespace State

/-- An element stopped for good: silent, and every pending `play()` of it can only reject. Nothing
brings it back: only `new Audio(previewUrl)` sets a source, and a promise resolves only when it
can. -/
def Dead (state : State) (audio : Nat) : Prop :=
  (∀ element ∈ state.audios[audio]?, element.Silent) ∧
    ∀ play ∈ state.pending, play.audio = audio → play.doomed = true

/-- `after` has `state`'s elements and map, and every element `state` stopped for good is still
stopped: what each step that sets no new map does. -/
structure Quieter (state after : State) : Prop where
  length : after.audios.length = state.audios.length
  map : after.previewAudios = state.previewAudios
  dead : ∀ audio, state.Dead audio → after.Dead audio

end State

/-- An update of one element keeps the others silent. -/
theorem silent_modify {audios : List Audio} {f : Audio → Audio} {changed audio : Nat}
    (silenced : changed = audio → ∀ element ∈ audios[audio]?, (f element).Silent)
    (kept : changed ≠ audio → ∀ element ∈ audios[audio]?, element.Silent) :
    ∀ element ∈ (audios.modify f changed)[audio]?, element.Silent := by
  intro element mem
  rw [List.getElem?_modify] at mem
  obtain ⟨old, found, rfl⟩ := Option.mem_map.mp mem
  by_cases same : changed = audio
  · simpa only [same, if_true] using silenced same old found
  · simpa only [same, if_false] using kept same old found

theorem doomed_of_mem_doomPlays {pending : List PendingPlay} {audio : Nat} {play : PendingPlay}
    (mem : play ∈ doomPlays pending audio) :
    play.doomed = true ∨ play.audio ≠ audio ∧ play ∈ pending := by
  obtain ⟨old, kept, rfl⟩ := List.mem_map.mp mem
  by_cases same : old.audio = audio <;> simp [same, kept]

namespace State

theorem Dead.stopAudio {state : State} {audio : Nat} (dead : state.Dead audio) (stopped : Nat) :
    (state.stopAudio stopped).Dead audio :=
  ⟨silent_modify (fun _ _ _ => ⟨rfl, rfl⟩) fun _ => dead.1, fun play mem same =>
    (doomed_of_mem_doomPlays mem).elim id fun kept => dead.2 play kept.2 same⟩

theorem dead_stopAudio (state : State) (audio : Nat) : (state.stopAudio audio).Dead audio :=
  ⟨silent_modify (fun _ _ _ => ⟨rfl, rfl⟩) fun other => (other rfl).elim, fun _ mem same =>
    (doomed_of_mem_doomPlays mem).elim id fun kept => (kept.1 same).elim⟩

theorem Dead.playAudio {state : State} {audio : Nat} (dead : state.Dead audio) (played : Nat)
    (albumId : String) : (state.playAudio played albumId).Dead audio := by
  refine ⟨silent_modify (fun _ => dead.1) fun _ => dead.1, fun play mem same => ?_⟩
  rcases List.mem_append.mp mem with kept | added
  · exact dead.2 play kept same
  · obtain rfl := List.mem_singleton.mp added
    subst same
    cases found : state.audios[played]? with
    | none => simp [found]
    | some element => simpa [found] using (dead.1 element found).1

/-! ### Steps that set no new map -/

theorem Quieter.refl (state : State) : Quieter state state := ⟨rfl, rfl, fun _ dead => dead⟩

theorem Quieter.trans {state middle after : State} (first : Quieter state middle)
    (second : Quieter middle after) : Quieter state after :=
  ⟨second.length.trans first.length, second.map.trans first.map,
    fun audio dead => second.dead audio (first.dead audio dead)⟩

theorem quieter_stopAudio (state : State) (audio : Nat) : Quieter state (state.stopAudio audio) :=
  ⟨List.length_modify _ _ _, rfl, fun _ dead => dead.stopAudio audio⟩

theorem quieter_stopPreview (state : State) (albumId : String) :
    Quieter state (state.stopPreview albumId) := by
  unfold stopPreview; split
  exacts [quieter_stopAudio _ _, .refl _]

theorem quieter_stopOtherPreview (state : State) (albumId : String) :
    Quieter state (state.stopOtherPreview albumId) := by
  unfold stopOtherPreview; split
  · split; exacts [quieter_stopPreview _ _, .refl _]
  · exact .refl _

theorem quieter_playAudio (state : State) (audio : Nat) (albumId : String) :
    Quieter state (state.playAudio audio albumId) :=
  ⟨List.length_modify _ _ _, rfl, fun _ dead => dead.playAudio audio albumId⟩

theorem quieter_resumeMain (state : State) : Quieter state state.resumeMain := by
  unfold resumeMain; split <;> exact ⟨rfl, rfl, fun _ dead => dead⟩

theorem Quieter.resumeMain {state after : State} (quieter : Quieter state after) :
    Quieter state after.resumeMain :=
  quieter.trans (quieter_resumeMain after)

theorem quieter_pauseMain (state : State) : Quieter state state.pauseMain := by
  unfold pauseMain; split <;> exact ⟨rfl, rfl, fun _ dead => dead⟩

theorem quieter_foldl_stopAudio :
    ∀ (previewAudios : List (String × Nat)) (state : State),
      Quieter state (previewAudios.foldl (fun current entry => current.stopAudio entry.2) state)
  | [], state => .refl state
  | entry :: rest, state => (quieter_stopAudio state entry.2).trans (quieter_foldl_stopAudio rest _)

theorem quieter_cleanup (state : State) (previewAudios : List (String × Nat)) :
    Quieter state (state.cleanup previewAudios) :=
  (quieter_foldl_stopAudio previewAudios state).trans (quieter_resumeMain _)

theorem dead_foldl_stopAudio {albumId : String} {audio : Nat} :
    ∀ {previewAudios : List (String × Nat)}, (albumId, audio) ∈ previewAudios → ∀ state : State,
      (previewAudios.foldl (fun current entry => current.stopAudio entry.2) state).Dead audio
  | entry :: rest, listed, state => by
    rcases List.mem_cons.mp listed with rfl | later
    · exact (quieter_foldl_stopAudio rest _).dead _ (dead_stopAudio state audio)
    · exact dead_foldl_stopAudio later _

theorem dead_cleanup {previewAudios : List (String × Nat)} {albumId : String} {audio : Nat}
    (listed : (albumId, audio) ∈ previewAudios) (state : State) :
    (state.cleanup previewAudios).Dead audio :=
  (quieter_resumeMain _).dead _ (dead_foldl_stopAudio listed state)

theorem Dead.createAudio {state : State} {audio : Nat} (dead : state.Dead audio)
    (lt : audio < state.audios.length) (previewAudios : List (String × Nat))
    (albumId previewUrl : String) :
    (state.createAudio previewAudios albumId previewUrl).Dead audio :=
  ⟨by dsimp only [State.createAudio]; rw [List.getElem?_append_left lt]; exact dead.1, dead.2⟩

/-! ### Only the last element created can play -/

/-- Every element is stopped for good but the last one created, which is otherwise still in
`previewAudios`. -/
def OnlyLastPlays (state : State) : Prop :=
  ∀ audio < state.audios.length, state.Dead audio ∨
    audio + 1 = state.audios.length ∧ ∃ albumId, (albumId, audio) ∈ state.previewAudios

theorem Quieter.onlyLastPlays {state after : State} (quieter : Quieter state after)
    (only : state.OnlyLastPlays) : after.OnlyLastPlays := by
  intro audio lt
  rw [quieter.length, quieter.map] at *
  exact (only audio lt).imp_left (quieter.dead audio)

/-- What a toggle that set a new map leaves: every old element stopped for good still stopped,
and at most one element created, listed under its album. -/
structure Replaced (state after : State) : Prop where
  dead : ∀ audio < state.audios.length, state.Dead audio → after.Dead audio
  grown : after.audios.length = state.audios.length ∨
    after.audios.length = state.audios.length + 1 ∧
      ∃ albumId, (albumId, state.audios.length) ∈ after.previewAudios

/-- The effect's cleanup over the map a toggle replaced stops every element of it, so only the
element the toggle created can be alive. -/
theorem Replaced.onlyLastPlays {state after : State} (replaced : Replaced state after)
    (only : state.OnlyLastPlays) : (after.cleanup state.previewAudios).OnlyLastPlays := by
  have cleaned := quieter_cleanup after state.previewAudios
  intro audio lt
  rw [cleaned.length] at lt ⊢
  rw [cleaned.map]
  by_cases old : audio < state.audios.length
  · refine .inl ((only audio old).elim
      (fun stopped => cleaned.dead _ (replaced.dead audio old stopped))
      fun ⟨_, _, listed⟩ => dead_cleanup listed after)
  · rcases replaced.grown with same | ⟨grown, albumId, listed⟩
    · omega
    · obtain rfl : audio = state.audios.length := by omega
      exact .inr ⟨grown.symm, albumId, listed⟩

end State

open State

/-- A toggle sets no new map and only stops and plays elements, or sets one as `Replaced` says. -/
theorem handleTogglePreview_quiet (state : State) (albumId previewUrl : String) :
    ((handleTogglePreview state albumId previewUrl).2 = false →
      Quieter state (handleTogglePreview state albumId previewUrl).1) ∧
    ((handleTogglePreview state albumId previewUrl).2 = true →
      Replaced state (handleTogglePreview state albumId previewUrl).1) := by
  have stopped := quieter_stopOtherPreview state albumId
  have paused : Quieter state { (state.stopOtherPreview albumId).pauseMain with
      lastToggledOn := some albumId } :=
    (stopped.trans (quieter_pauseMain _)).trans ⟨rfl, rfl, fun _ dead => dead⟩
  unfold handleTogglePreview
  dsimp only
  split_ifs with empty current
  · exact ⟨fun _ => ⟨rfl, rfl, fun _ dead => dead⟩, fun set => nomatch set⟩
  · have off := stopped.trans (quieter_stopPreview _ albumId)
    have resumed := quieter_resumeMain { (state.stopOtherPreview albumId).stopPreview albumId with
      previewAudios := state.previewAudios.filter (·.1 ≠ albumId), currentPreview := none }
    exact ⟨(nomatch ·), fun _ => ⟨fun audio _ dead => resumed.dead audio
      (off.dead audio dead), .inl (resumed.length.trans off.length)⟩⟩
  · split
    · exact ⟨fun _ => paused.trans (quieter_playAudio _ _ _), fun set => nomatch set⟩
    · have played := quieter_playAudio
        (State.createAudio { (state.stopOtherPreview albumId).pauseMain with
          lastToggledOn := some albumId } state.previewAudios albumId previewUrl)
        (state.stopOtherPreview albumId).pauseMain.audios.length albumId
      refine ⟨(nomatch ·), fun _ => ⟨fun audio lt dead => played.dead _
        ((paused.dead audio dead).createAudio (paused.length ▸ lt) _ _ _), .inr ⟨?_, albumId, ?_⟩⟩⟩
      · rw [played.length]; simp [createAudio, paused.length]
      · rw [played.map]; simp [createAudio, paused.length]

/-- A promise resolves only while it can, so its element is not stopped for good. -/
theorem quieter_resolve (state : State) (index : Nat) :
    Quieter state (next state (.resolve index)) := by
  simp only [next]
  split
  · rename_i play found
    split
    · rename_i ready
      have live : play.doomed = false := by simp_all
      refine ⟨List.length_modify _ _ _, rfl, fun audio dead => ⟨silent_modify (fun same => ?_)
        fun _ => dead.1, fun other mem => dead.2 other (List.mem_of_mem_eraseIdx mem)⟩⟩
      simpa [live] using dead.2 play (List.getElem?_mem found) same
    · exact .refl _
  · exact .refl _

theorem quieter_reject (state : State) (index : Nat) (message : String) :
    Quieter state (next state (.reject index message)) := by
  simp only [next]
  split
  · exact ⟨rfl, rfl, fun _ dead =>
      ⟨dead.1, fun play mem => dead.2 play (List.mem_of_mem_eraseIdx mem)⟩⟩
  · exact .refl _

theorem quieter_ended (state : State) (audio : Nat) :
    Quieter state (next state (.ended audio)) := by
  simp only [next]
  split
  · exact Quieter.resumeMain ⟨List.length_modify _ _ _, rfl, fun _ dead => ⟨silent_modify
      (fun _ element mem => ⟨(dead.1 element mem).1, rfl⟩) fun _ => dead.1, dead.2⟩⟩
  · exact .refl _

theorem quieter_error (state : State) (audio : Nat) :
    Quieter state (next state (.error audio)) := by
  simp only [next]
  split
  · exact Quieter.resumeMain ⟨List.length_modify _ _ _, rfl, fun _ dead => ⟨silent_modify
      (fun _ element mem => ⟨(dead.1 element mem).1, rfl⟩) fun _ => dead.1, fun play mem same =>
      (doomed_of_mem_doomPlays mem).elim id fun kept => dead.2 play kept.2 same⟩⟩
  · exact .refl _

/-- **Step lemma.** Every event keeps only the last element created able to play. -/
theorem next_keeps_onlyLastPlays {state : State} (only : state.OnlyLastPlays) :
    ∀ event, (next state event).OnlyLastPlays
  | .toggle albumId previewUrl => by
    obtain ⟨quiet, replaced⟩ := handleTogglePreview_quiet state albumId previewUrl
    simp only [next]
    split <;> rename_i set
    · exact (replaced set).onlyLastPlays only
    · exact (quiet (Bool.eq_false_iff.mpr set)).onlyLastPlays only
  | .resolve index => (quieter_resolve state index).onlyLastPlays only
  | .reject index message => (quieter_reject state index message).onlyLastPlays only
  | .ended audio => (quieter_ended state audio).onlyLastPlays only
  | .error audio => (quieter_error state audio).onlyLastPlays only

/-- **Run lemma.** -/
theorem run_keeps_onlyLastPlays {state : State} (only : state.OnlyLastPlays) :
    ∀ events, (run state events).OnlyLastPlays
  | [] => only
  | event :: events => run_keeps_onlyLastPlays (next_keeps_onlyLastPlays only event) events

theorem onlyLastPlays_initial (mainPlaying : Bool) : (initial mainPlaying).OnlyLastPlays :=
  fun _ lt => absurd lt (Nat.not_lt_zero _)

theorem State.OnlyLastPlays.last_of_playing {state : State} (only : state.OnlyLastPlays)
    {audio : Nat} {element : Audio} (found : state.audios[audio]? = some element)
    (playing : element.playing = true) : audio + 1 = state.audios.length :=
  ((only audio (List.getElem?_eq_some_iff.mp found).1).resolve_left fun dead => by
    simp [(dead.1 element found).2] at playing).1

/-- A list of elements in which only the last can play has at most one playing. -/
theorem length_filter_playing_le_one : ∀ {audios : List Audio},
    (∀ audio element, audios[audio]? = some element → element.playing = true →
      audio + 1 = audios.length) → (audios.filter (·.playing)).length ≤ 1
  | [], _ => by simp
  | [_], _ => List.length_filter_le _ _
  | first :: second :: rest, last => by
    have quiet : first.playing = false := by
      by_contra playing
      simpa using last 0 first rfl (by simpa using playing)
    rw [List.filter_cons_of_neg (by simp [quiet])]
    exact length_filter_playing_le_one fun audio element found playing => by
      have := last (audio + 1) element (by simpa using found) playing
      simp only [List.length_cons] at this ⊢; omega

/-- **At most one preview plays.** From the first render, after any toggles, promise settlements
and element events, at most one element plays, and an element that plays is the last created. -/
theorem previews_play_one_at_a_time (mainPlaying : Bool) (events : List Event) :
    ((run (initial mainPlaying) events).audios.filter (·.playing)).length ≤ 1 ∧
      ∀ audio element, (run (initial mainPlaying) events).audios[audio]? = some element →
        element.playing = true → audio + 1 = (run (initial mainPlaying) events).audios.length :=
  have only := run_keeps_onlyLastPlays (onlyLastPlays_initial mainPlaying) events
  ⟨length_filter_playing_le_one fun _ _ found playing => only.last_of_playing found playing,
    fun _ _ found playing => only.last_of_playing found playing⟩

/-! ### Toggling back to an album -/

/-- `A` toggled on, then `B` before `A`'s `play()` settles, then `A` again before `B`'s does; then
`B`'s promise resolves. -/
def toggleBack : State :=
  run (initial false)
    [.toggle "A" "a.mp3", .toggle "B" "b.mp3", .toggle "A" "a.mp3", .resolve 1]

/-- `A` toggled on and playing, then `B` toggled on and playing, then `A` toggled on again. -/
def replayAfterInterrupt : State :=
  run (initial false)
    [.toggle "A" "a.mp3", .resolve 0, .toggle "B" "b.mp3", .resolve 0, .toggle "A" "a.mp3"]

/-- **Toggling back plays the other album, or nothing.** In both runs the last toggle turns `A` on
again, but `A`'s element was emptied when `B`'s element was created (the cleanup of the map
before it) and only `new Audio(previewUrl)` sets a source: `A`'s new `play()` can only reject.
When `B`'s promise was still pending, `B` plays and is current; when `B` played, `B` is stopped,
nothing plays, and `B` stays current. -/
theorem preview_toggle_back_plays_other_album :
    (toggleBack.lastToggledOn = some "A" ∧
      (toggleBack.audios.filter (·.playing)).map (·.albumId) = ["B"] ∧
      toggleBack.audios.map (·.src) = ["", "b.mp3"] ∧ toggleBack.currentPreview = some "B") ∧
    (replayAfterInterrupt.lastToggledOn = some "A" ∧
      replayAfterInterrupt.audios.filter (·.playing) = [] ∧
      replayAfterInterrupt.audios.map (·.src) = ["", ""] ∧
      replayAfterInterrupt.pending.map (fun play => (play.albumId, play.doomed)) = [("A", true)] ∧
      replayAfterInterrupt.currentPreview = some "B") := by
  decide

end Lidify.Discover
