import Mathlib.Algebra.Order.Field.Rat
import Mathlib.Tactic.Common
/-
**`AudioPlaybackProvider`: the seek debounce and the progress sync.**

The provider keeps `currentTime` for the player. Its exposed `setCurrentTime` marks the time of a
seek (`lastSeekTimeRef`) and sets the time; `setCurrentTimeFromEngine` drops an engine update that
comes less than `300` ms after the last seek. While the player is paused (and hydrated), each render
computes a progress key from the playback type and the saved times of the current audiobook and
podcast; when the key differs from the one last seen, the render remembers it and, for an audiobook
or a podcast whose saved time is truthy, sets `currentTime` to that time. The provider's first
render starts from its own key, so it syncs nothing.

A run is a list of events, each followed by the provider's render.

* `seek_survives_early_engine_updates` — after a seek, engine updates stamped less than `300` ms
  after it leave the sought time, in every run of them;
* `pause_syncs_saved_time` — on a hydrated page, pausing sets `currentTime` to the current
  audiobook's or podcast's saved time when it is truthy, whatever was sought while playing, and
  otherwise leaves it.
-/

namespace Lidify.Playback

/-- What `useAudioState()` gives the provider: `playbackType` and the saved `currentTime` of the
current audiobook's and podcast's progress (absent when a link of the `?.` chain is). -/
structure AudioState where
  playbackType : Option String
  audiobookTime : Option ℚ
  podcastTime : Option ℚ
  deriving DecidableEq, Repr

/-- `progressKey`, as the three values its template prints; `null` while playing or before
hydration. -/
def progressKey (isHydrated isPlaying : Bool) (state : AudioState) :
    Option (Option String × Option ℚ × Option ℚ) :=
  if isHydrated && !isPlaying then some (state.playbackType, state.audiobookTime, state.podcastTime)
  else none

/-- A saved time that is truthy: present and not `0`. -/
def truthyTime (time : Option ℚ) : Option ℚ := time.filter (· ≠ 0)

/-- The provider's state and ref. -/
structure Provider where
  isPlaying : Bool
  currentTime : ℚ
  lastSeekTime : Nat
  prevProgressKey : Option (Option String × Option ℚ × Option ℚ)
  deriving DecidableEq, Repr

/-- The time the sync takes for a changed, non-null key: the audiobook's or the podcast's saved
time, by `playbackType`, when truthy. -/
def syncedTime (state : AudioState) : Option ℚ :=
  match state.playbackType, truthyTime state.audiobookTime, truthyTime state.podcastTime with
  | some "audiobook", some time, _ => some time
  | some "podcast", _, some time => some time
  | _, _, _ => none

/-- The render-phase block: on a changed key, `setPrevProgressKey(progressKey)`, then the sync
when the key is not null. -/
def Provider.render (isHydrated : Bool) (state : AudioState) (provider : Provider) : Provider :=
  let key := progressKey isHydrated provider.isPlaying state
  if key = provider.prevProgressKey then provider
  else
    match key, syncedTime state with
    | some _, some time => { provider with prevProgressKey := key, currentTime := time }
    | _, _ => { provider with prevProgressKey := key }

/-- The provider as its first render leaves it. -/
def mount (isHydrated : Bool) (state : AudioState) : Provider :=
  ⟨false, 0, 0, progressKey isHydrated false state⟩

/-- The seek debounce window, in ms. -/
def seekDebounceMs : Nat := 300

/-- What happens to the provider: a seek through `setCurrentTime` and an engine update through
`setCurrentTimeFromEngine`, each at a `Date.now()`; `setIsPlaying`; the audio state changing. -/
inductive ProviderEvent
  | seek (time : ℚ) (now : Nat)
  | engineTime (time : ℚ) (now : Nat)
  | setIsPlaying (playing : Bool)
  | audioState (state : AudioState)
  deriving DecidableEq, Repr

/-- `setCurrentTimeWithSeekMark(time)` at `now`. -/
def Provider.seek (provider : Provider) (time : ℚ) (now : Nat) : Provider :=
  { provider with lastSeekTime := now, currentTime := time }

/-- `setCurrentTimeFromEngine(time)` at `now`: dropped when `now - lastSeekTimeRef.current < 300`. -/
def Provider.engineTime (provider : Provider) (time : ℚ) (now : Nat) : Provider :=
  if (now : ℤ) - provider.lastSeekTime < seekDebounceMs then provider
  else { provider with currentTime := time }

/-- The provider and the audio state it renders with. -/
structure ProviderWorld where
  provider : Provider
  state : AudioState

/-- One event, then the render. -/
def ProviderWorld.step (isHydrated : Bool) (world : ProviderWorld) : ProviderEvent → ProviderWorld
  | .seek time now => ⟨(world.provider.seek time now).render isHydrated world.state, world.state⟩
  | .engineTime time now =>
    ⟨(world.provider.engineTime time now).render isHydrated world.state, world.state⟩
  | .setIsPlaying playing =>
    ⟨({ world.provider with isPlaying := playing }).render isHydrated world.state, world.state⟩
  | .audioState state => ⟨world.provider.render isHydrated state, state⟩

/-- A run of events. -/
def ProviderWorld.run (isHydrated : Bool) (world : ProviderWorld) (events : List ProviderEvent) :
    ProviderWorld :=
  events.foldl (ProviderWorld.step isHydrated) world

@[simp] theorem ProviderWorld.run_nil (isHydrated : Bool) (world : ProviderWorld) :
    world.run isHydrated [] = world := rfl

@[simp] theorem ProviderWorld.run_cons (isHydrated : Bool) (world : ProviderWorld)
    (event : ProviderEvent) (events : List ProviderEvent) :
    world.run isHydrated (event :: events) = (world.step isHydrated event).run isHydrated events := rfl

@[simp] theorem ProviderWorld.run_append (isHydrated : Bool) (world : ProviderWorld)
    (events more : List ProviderEvent) :
    world.run isHydrated (events ++ more) = (world.run isHydrated events).run isHydrated more :=
  List.foldl_append _ _ _ _

/-! ### The render settles -/

section Render

variable (isHydrated : Bool) (state : AudioState)

@[simp] theorem Provider.render_isPlaying (provider : Provider) :
    (provider.render isHydrated state).isPlaying = provider.isPlaying := by
  dsimp only [Provider.render]
  split
  · rfl
  · split <;> rfl

@[simp] theorem Provider.render_lastSeekTime (provider : Provider) :
    (provider.render isHydrated state).lastSeekTime = provider.lastSeekTime := by
  dsimp only [Provider.render]
  split
  · rfl
  · split <;> rfl

/-- After a render the remembered key is the key. -/
theorem Provider.render_prevProgressKey (provider : Provider) :
    (provider.render isHydrated state).prevProgressKey =
      progressKey isHydrated provider.isPlaying state := by
  dsimp only [Provider.render]
  split
  · exact (‹_› : _ = _).symm
  · split <;> rfl

/-- A provider whose remembered key is its key: its render changes nothing. -/
def Provider.Settled (provider : Provider) : Prop :=
  provider.prevProgressKey = progressKey isHydrated provider.isPlaying state

theorem Provider.render_of_settled {provider : Provider} (settled : provider.Settled isHydrated state) :
    provider.render isHydrated state = provider := by
  unfold Provider.render
  rw [if_pos settled.symm]

/-- The time a render leaves: the synced time on a change to a non-null key. -/
theorem Provider.render_currentTime (provider : Provider) :
    (provider.render isHydrated state).currentTime =
      if progressKey isHydrated provider.isPlaying state ≠ provider.prevProgressKey ∧
          progressKey isHydrated provider.isPlaying state ≠ none then
        (syncedTime state).getD provider.currentTime
      else provider.currentTime := by
  dsimp only [Provider.render]
  by_cases same : progressKey isHydrated provider.isPlaying state = provider.prevProgressKey
  · simp [same]
  · rw [if_neg same]
    generalize progressKey isHydrated provider.isPlaying state = key at same ⊢
    cases key <;> cases syncedTime state <;> simp_all

end Render

/-! ### Runs -/

section Runs

variable (isHydrated : Bool)

/-- After every step the provider is settled on the state it rendered with. -/
theorem ProviderWorld.step_settled (world : ProviderWorld) (event : ProviderEvent) :
    (world.step isHydrated event).provider.Settled isHydrated (world.step isHydrated event).state := by
  cases event <;>
    simp only [ProviderWorld.step, Provider.Settled, Provider.render_prevProgressKey,
      Provider.render_isPlaying]

theorem ProviderWorld.run_settled {world : ProviderWorld}
    (settled : world.provider.Settled isHydrated world.state) (events : List ProviderEvent) :
    (world.run isHydrated events).provider.Settled isHydrated (world.run isHydrated events).state := by
  induction events generalizing world with
  | nil => exact settled
  | cons event events ih => exact ih (world.step_settled isHydrated event)

theorem mount_settled (state : AudioState) : (mount isHydrated state).Settled isHydrated state := rfl

/-- An engine update within the window of the last seek changes nothing. -/
theorem ProviderWorld.step_early_engineTime {world : ProviderWorld}
    (settled : world.provider.Settled isHydrated world.state) {time : ℚ} {now : Nat}
    (early : now < world.provider.lastSeekTime + seekDebounceMs) :
    world.step isHydrated (.engineTime time now) = world := by
  have dropped : (now : ℤ) - world.provider.lastSeekTime < seekDebounceMs := by omega
  simp only [ProviderWorld.step, Provider.engineTime, dropped, ↓reduceIte,
    Provider.render_of_settled isHydrated world.state settled]

/-- Engine updates within the window of the last seek change nothing, however many. -/
theorem ProviderWorld.run_early_engineTimes {world : ProviderWorld}
    (settled : world.provider.Settled isHydrated world.state) (updates : List (ℚ × Nat))
    (early : ∀ update ∈ updates, update.2 < world.provider.lastSeekTime + seekDebounceMs) :
    world.run isHydrated (updates.map fun update => .engineTime update.1 update.2) = world := by
  induction updates with
  | nil => rfl
  | cons update updates ih =>
    rw [List.map_cons, ProviderWorld.run_cons,
      ProviderWorld.step_early_engineTime isHydrated settled (early update (.head _))]
    exact ih fun later mem => early later (.tail _ mem)

/-- **A seek holds against the engine for `300` ms.** In every run, after a seek to `time` at
`now`, engine updates stamped before `now + 300` (their clock reading may even go back), however
many and with whatever times, leave `currentTime` at `time`. -/
theorem seek_survives_early_engine_updates (state : AudioState) (before : List ProviderEvent)
    (time : ℚ) (now : Nat) (updates : List (ℚ × Nat))
    (early : ∀ update ∈ updates, update.2 < now + seekDebounceMs) :
    (ProviderWorld.run isHydrated ⟨mount isHydrated state, state⟩
        (before ++ .seek time now :: updates.map fun update => .engineTime update.1 update.2)).provider.currentTime =
      time := by
  rw [ProviderWorld.run_append, ProviderWorld.run_cons]
  have settled := @ProviderWorld.run_settled isHydrated ⟨mount isHydrated state, state⟩
    (mount_settled isHydrated state) before
  generalize ProviderWorld.run isHydrated ⟨mount isHydrated state, state⟩ before = world at settled
  have sought : (world.step isHydrated (.seek time now)).provider = world.provider.seek time now :=
    Provider.render_of_settled isHydrated world.state settled
  rw [ProviderWorld.run_early_engineTimes isHydrated (ProviderWorld.step_settled isHydrated _ _) _
    (by rw [sought]; exact early), sought]
  rfl

/-- An audiobook resumed at its saved two minutes. -/
def resumedAudiobook : AudioState := ⟨some "audiobook", some 120, none⟩

/-- Play, seek to `42` s at `1000` ms, and a stale engine update at `1100` ms, which is dropped. -/
theorem seek_survives_early_engine_updates_oneStale :
    (∀ update ∈ [((5 : ℚ), 1100)], update.2 < 1000 + seekDebounceMs) ∧
      (ProviderWorld.run true ⟨mount true resumedAudiobook, resumedAudiobook⟩
        ([.setIsPlaying true] ++ .seek 42 1000 :: [((5 : ℚ), 1100)].map fun update =>
          .engineTime update.1 update.2)).provider.currentTime = 42 :=
  ⟨by decide, seek_survives_early_engine_updates true resumedAudiobook _ 42 1000 _ (by decide)⟩

/-- A pause of a playing, settled provider on a hydrated page takes the synced time. -/
theorem ProviderWorld.step_pause {world : ProviderWorld}
    (settled : world.provider.Settled true world.state) (playing : world.provider.isPlaying = true) :
    (world.step true (.setIsPlaying false)).provider.currentTime =
      (syncedTime world.state).getD world.provider.currentTime := by
  have idle : world.provider.prevProgressKey = none := by
    rw [settled, playing]
    rfl
  simp only [ProviderWorld.step, Provider.render_currentTime, progressKey, idle]
  rfl

/-- **Pausing shows the saved time.** In every run on a hydrated page, pausing a playing provider
sets `currentTime` to the saved time of the current audiobook or podcast when it is truthy, whatever
was sought or reported by the engine before; otherwise the time stays. -/
theorem pause_syncs_saved_time (state : AudioState) (before : List ProviderEvent)
    (playing : (ProviderWorld.run true ⟨mount true state, state⟩ before).provider.isPlaying = true) :
    (ProviderWorld.run true ⟨mount true state, state⟩ (before ++ [.setIsPlaying false])).provider.currentTime =
      (syncedTime (ProviderWorld.run true ⟨mount true state, state⟩ before).state).getD
        (ProviderWorld.run true ⟨mount true state, state⟩ before).provider.currentTime := by
  rw [ProviderWorld.run_append, ProviderWorld.run_cons, ProviderWorld.run_nil]
  exact ProviderWorld.step_pause
    (@ProviderWorld.run_settled true ⟨mount true state, state⟩ (mount_settled true state) before) playing

/-- Play, then seek to `42` s: the pause goes back to the saved `120` s. -/
theorem pause_syncs_saved_time_afterSeek :
    (ProviderWorld.run true ⟨mount true resumedAudiobook, resumedAudiobook⟩
        [.setIsPlaying true, .seek 42 1000]).provider.isPlaying = true ∧
      (ProviderWorld.run true ⟨mount true resumedAudiobook, resumedAudiobook⟩
          ([.setIsPlaying true, .seek 42 1000] ++ [.setIsPlaying false])).provider.currentTime =
        (syncedTime (ProviderWorld.run true ⟨mount true resumedAudiobook, resumedAudiobook⟩
          [.setIsPlaying true, .seek 42 1000]).state).getD
          (ProviderWorld.run true ⟨mount true resumedAudiobook, resumedAudiobook⟩
            [.setIsPlaying true, .seek 42 1000]).provider.currentTime :=
  ⟨by decide, pause_syncs_saved_time resumedAudiobook _ (by decide)⟩

example : (ProviderWorld.run true ⟨mount true resumedAudiobook, resumedAudiobook⟩
    [.setIsPlaying true, .seek 42 1000, .setIsPlaying false]).provider.currentTime = 120 := by
  decide

end Runs

end Lidify.Playback
