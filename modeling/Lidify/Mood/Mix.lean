import Lidify.Mood.Score
import Mathlib.Data.List.Sort
/-
**Mood mixes: `getTracksForMood`, `getMoodMix`, and the mix a user saves.**

`getMoodMix(mood, limit)` reads the `2 * limit` best-scored bucket rows of a mood, shuffles them
with `sort(() => Math.random() - 0.5)`, keeps `limit` of them, looks their tracks up and keeps
those that exist, in the shuffled order, with the first four album covers. `saveUserMoodMix`
upserts such a mix as the user's `userMoodMix` row and `getUserMoodMix` reads it back.

The shuffle is any permutation (`Shuffle`): a comparator that is not consistent leaves the order
to the engine, but `sort` only reorders. Rows of equal score come in the order the table is
scanned, and the table is any list of rows unique on `(trackId, mood)`.

* `getMoodMix_spec` — a mix is `null` exactly for an unknown mood, `limit = 0` or a mood with no
  row; otherwise its tracks are distinct existing tracks, at most `limit`, each with a row of the
  mood that fewer than `2 * limit` rows of the mood outscore, and its covers are at most four
  non-empty covers of those tracks;
* `getMoodMix_trackCount_eq_min` — when every bucket row's track exists, a mix has
  `min limit n` tracks, `n` the rows of the mood, whatever the shuffle;
* `getUserMoodMix_after_save` — after a save that returned a mix, `getUserMoodMix` returns that
  mix, under every later run without a save of that user;
* `getUserMoodMix_eq_none_iff` — in every run from an empty `userMoodMix` table, the saved mood
  is valid, so `getUserMoodMix` is `null` only for a user with no row; its mixes have distinct
  tracks and at most four covers.
-/

namespace Lidify.MoodBucket

/-- `MOOD_CONFIG[mood].name`. -/
def Mood.name : Mood → String
  | .happy => "Happy & Upbeat"
  | .sad => "Melancholic"
  | .chill => "Chill & Relaxed"
  | .energetic => "High Energy"
  | .party => "Dance Party"
  | .focus => "Focus Mode"
  | .melancholy => "Deep Feels"
  | .aggressive => "Intense"
  | .acoustic => "Acoustic Vibes"

/-- `MOOD_GRADIENTS[mood]`. -/
def moodGradients : Mood → String
  | .happy =>
    "linear-gradient(to bottom, rgba(217, 119, 6, 0.5), rgba(161, 98, 7, 0.4), rgba(68, 64, 60, 0.4))"
  | .sad =>
    "linear-gradient(to bottom, rgba(30, 58, 138, 0.6), rgba(88, 28, 135, 0.5), rgba(15, 23, 42, 0.4))"
  | .chill =>
    "linear-gradient(to bottom, rgba(17, 94, 89, 0.6), rgba(22, 78, 99, 0.5), rgba(15, 23, 42, 0.4))"
  | .energetic =>
    "linear-gradient(to bottom, rgba(153, 27, 27, 0.6), rgba(124, 45, 18, 0.5), rgba(68, 64, 60, 0.4))"
  | .party =>
    "linear-gradient(to bottom, rgba(162, 28, 175, 0.6), rgba(131, 24, 67, 0.5), rgba(59, 7, 100, 0.4))"
  | .focus =>
    "linear-gradient(to bottom, rgba(91, 33, 182, 0.6), rgba(88, 28, 135, 0.5), rgba(15, 23, 42, 0.4))"
  | .melancholy =>
    "linear-gradient(to bottom, rgba(51, 65, 85, 0.6), rgba(30, 58, 138, 0.5), rgba(17, 24, 39, 0.4))"
  | .aggressive =>
    "linear-gradient(to bottom, rgba(69, 10, 10, 0.7), rgba(17, 24, 39, 0.6), rgba(0, 0, 0, 0.5))"
  | .acoustic =>
    "linear-gradient(to bottom, rgba(146, 64, 14, 0.6), rgba(124, 45, 18, 0.5), rgba(68, 64, 60, 0.4))"

/-! ### The tables and the queries -/

/-- A `moodBucket` row. -/
structure MoodBucketRow (ι : Type) where
  trackId : ι
  mood : String
  score : ℚ
  deriving DecidableEq, Repr

/-- The `moodBucket` rows in the order the database scans them, unique on `trackId_mood` (the key
the writers upsert on). -/
structure MoodBucketTable (ι : Type) where
  rows : List (MoodBucketRow ι)
  unique : (rows.map fun row => (row.trackId, row.mood)).Nodup

/-- A `track` row as `getMoodMix` selects it: `id` and `album.coverUrl`. -/
structure TrackCover (ι : Type) where
  id : ι
  coverUrl : Option String
  deriving DecidableEq, Repr

/-- `t?.album.coverUrl` is truthy: present and not the empty string. -/
def TrackCover.hasCover {ι : Type} (track : TrackCover ι) : Bool :=
  track.coverUrl.any fun url => url ≠ ""

/-- `[...rows].sort(() => Math.random() - 0.5)`: the order is the engine's, a permutation. -/
structure Shuffle (α : Type) where
  sort : List α → List α
  perm : ∀ rows, (sort rows).Perm rows

/-- What `getMoodMix` returns. -/
structure MoodMix (ι : Type) where
  id : String
  mood : String
  name : String
  description : String
  trackIds : List ι
  coverUrls : List String
  trackCount : Nat
  color : String
  deriving DecidableEq, Repr

section Queries

variable {ι : Type} [DecidableEq ι]

/-- `moodBucket.findMany({ where: { mood }, orderBy: { score: "desc" } })`: the mood's rows, best
score first, rows of equal score in scan order. -/
def findByMood (table : MoodBucketTable ι) (mood : String) : List (MoodBucketRow ι) :=
  (table.rows.filter fun row => row.mood = mood).insertionSort fun a b => b.score ≤ a.score

/-- `moodBuckets`: the `limit * 2` best rows of the mood. -/
def moodBuckets (table : MoodBucketTable ι) (mood : String) (limit : Nat) :
    List (MoodBucketRow ι) :=
  (findByMood table mood).take (limit * 2)

/-- `selectedIds`: the tracks of the first `limit` rows of the shuffled `moodBuckets`. -/
def selectedIds (shuffle : Shuffle (MoodBucketRow ι)) (table : MoodBucketTable ι) (mood : String)
    (limit : Nat) : List ι :=
  ((shuffle.sort (moodBuckets table mood limit)).take limit).map (·.trackId)

/-- `orderedTracks`: `track.findMany({ where: { id: { in: selectedIds } } })`, then
`selectedIds.map((id) => tracks.find((t) => t.id === id)).filter(Boolean)`. -/
def orderedTracks (trackTable : List (TrackCover ι)) (selectedIds : List ι) :
    List (TrackCover ι) :=
  let tracks := trackTable.filter fun track => track.id ∈ selectedIds
  selectedIds.filterMap fun id => tracks.find? fun track => track.id = id

/-- The object `getMoodMix` returns for `orderedTracks` at clock `now`. -/
def moodMixOf (config : Mood) (mood : String) (now : Nat) (orderedTracks : List (TrackCover ι)) :
    MoodMix ι :=
  { id := "mood-" ++ mood ++ "-" ++ toString now
    mood := mood
    name := config.name ++ " Mix"
    description := "Tracks that match your " ++ config.name.toLower ++ " vibe"
    trackIds := orderedTracks.map (·.id)
    coverUrls := ((orderedTracks.filter (·.hasCover)).take 4).map (·.coverUrl.getD "")
    trackCount := orderedTracks.length
    color := moodGradients config }

/-- `getMoodMix(mood, limit)` at clock `now`, its `sort` drawn as `shuffle`, over the bucket
table and the track table. -/
def getMoodMix (shuffle : Shuffle (MoodBucketRow ι)) (table : MoodBucketTable ι)
    (trackTable : List (TrackCover ι)) (now : Nat) (mood : String) (limit : Nat) :
    Option (MoodMix ι) :=
  match Mood.ofKey? mood with
  | none => none
  | some config =>
    if (moodBuckets table mood limit).length = 0 then none
    else some (moodMixOf config mood now (orderedTracks trackTable (selectedIds shuffle table mood limit)))

/-- `clearTrackMoods(trackId)`: `deleteMany({ where: { trackId } })`. -/
def clearTrackMoods (table : MoodBucketTable ι) (trackId : ι) : MoodBucketTable ι :=
  ⟨table.rows.filter (·.trackId ≠ trackId),
    table.unique.sublist ((List.filter_sublist _).map _)⟩

end Queries

/-! ### What a mix is made of -/

section Spec

variable {ι : Type}

theorem findByMood_perm (table : MoodBucketTable ι) (mood : String) :
    (findByMood table mood).Perm (table.rows.filter fun row => row.mood = mood) :=
  List.perm_insertionSort _ _

theorem findByMood_sorted (table : MoodBucketTable ι) (mood : String) :
    (findByMood table mood).Sorted fun a b => b.score ≤ a.score := by
  haveI : IsTotal (MoodBucketRow ι) fun a b => b.score ≤ a.score :=
    ⟨fun a b => le_total b.score a.score⟩
  haveI : IsTrans (MoodBucketRow ι) fun a b => b.score ≤ a.score :=
    ⟨fun _ _ _ first second => second.trans first⟩
  exact List.sorted_insertionSort _ _

/-- The rows of one mood have distinct tracks: the table is unique on `(trackId, mood)`. -/
theorem nodup_trackIds_of_mood (table : MoodBucketTable ι) (mood : String) :
    ((table.rows.filter fun row => row.mood = mood).map (·.trackId)).Nodup := by
  have keys : ((table.rows.filter fun row => row.mood = mood).map
      fun row => (row.trackId, row.mood)).Nodup :=
    table.unique.sublist ((List.filter_sublist _).map _)
  have paired : ((table.rows.filter fun row => row.mood = mood).map
      fun row => (row.trackId, row.mood)) =
      ((table.rows.filter fun row => row.mood = mood).map (·.trackId)).map (·, mood) := by
    rw [List.map_map]
    exact List.map_congr_left fun row mem => by
      simp [of_decide_eq_true (List.mem_filter.mp mem).2]
  exact (paired ▸ keys).of_map _

/-- **Top rows.** In a list sorted best score first, fewer than `k` rows outscore one of its
first `k`. -/
theorem length_filter_outscore_lt {rows : List (MoodBucketRow ι)}
    (sorted : rows.Sorted fun a b => b.score ≤ a.score) {k : Nat} {row : MoodBucketRow ι}
    (mem : row ∈ rows.take k) :
    (rows.filter fun other => row.score < other.score).length < k := by
  have split : (rows.take k ++ rows.drop k).Sorted fun a b => b.score ≤ a.score := by
    rwa [List.take_append_drop]
  have below : (rows.drop k).filter (fun other => row.score < other.score) = [] :=
    List.filter_eq_nil_iff.mpr fun other later => by
      simpa using (List.pairwise_append.mp split).2.2 row mem other later
  have fewer : ((rows.take k).filter fun other => row.score < other.score).length <
      (rows.take k).length :=
    List.length_filter_lt_length_iff_exists.mpr ⟨row, mem, by simp⟩
  rw [← List.take_append_drop k rows, List.filter_append, below, List.append_nil]
  exact fewer.trans_le (List.length_take_le k rows)

/-- A row of `moodBuckets` is a row of the mood that fewer than `limit * 2` rows outscore. -/
theorem mem_moodBuckets {table : MoodBucketTable ι} {mood : String} {limit : Nat}
    {row : MoodBucketRow ι} (mem : row ∈ moodBuckets table mood limit) :
    row ∈ table.rows ∧ row.mood = mood ∧
      (table.rows.filter fun other => other.mood = mood ∧ row.score < other.score).length <
        limit * 2 := by
  have found := (findByMood_perm table mood).subset (List.mem_of_mem_take mem)
  have top := length_filter_outscore_lt (findByMood_sorted table mood) mem
  rw [((findByMood_perm table mood).filter _).length_eq, List.filter_filter] at top
  refine ⟨(List.mem_filter.mp found).1, by simpa using (List.mem_filter.mp found).2, ?_⟩
  simpa only [Bool.decide_and, Bool.and_comm] using top

theorem length_moodBuckets (table : MoodBucketTable ι) (mood : String) (limit : Nat) :
    (moodBuckets table mood limit).length =
      min (limit * 2) (table.rows.filter fun row => row.mood = mood).length := by
  rw [moodBuckets, List.length_take, (findByMood_perm table mood).length_eq]

theorem mem_selectedIds {shuffle : Shuffle (MoodBucketRow ι)} {table : MoodBucketTable ι}
    {mood : String} {limit : Nat} {id : ι} (mem : id ∈ selectedIds shuffle table mood limit) :
    ∃ row ∈ moodBuckets table mood limit, row.trackId = id := by
  obtain ⟨row, picked, rfl⟩ := List.mem_map.mp mem
  exact ⟨row, (shuffle.perm _).subset (List.mem_of_mem_take picked), rfl⟩

theorem selectedIds_nodup (shuffle : Shuffle (MoodBucketRow ι)) (table : MoodBucketTable ι)
    (mood : String) (limit : Nat) : (selectedIds shuffle table mood limit).Nodup := by
  have mood_rows := ((findByMood_perm table mood).map (·.trackId)).nodup_iff.mpr
    (nodup_trackIds_of_mood table mood)
  have top : ((moodBuckets table mood limit).map (·.trackId)).Nodup :=
    mood_rows.sublist ((List.take_sublist _ _).map _)
  have shuffled := ((shuffle.perm (moodBuckets table mood limit)).map (·.trackId)).nodup_iff.mpr top
  exact shuffled.sublist ((List.take_sublist _ _).map _)

theorem length_selectedIds (shuffle : Shuffle (MoodBucketRow ι)) (table : MoodBucketTable ι)
    (mood : String) (limit : Nat) :
    (selectedIds shuffle table mood limit).length =
      min limit (table.rows.filter fun row => row.mood = mood).length := by
  rw [selectedIds, List.length_map, List.length_take, (shuffle.perm _).length_eq,
    length_moodBuckets]
  omega

theorem moodMixOf_trackCount (config : Mood) (mood : String) (now : Nat)
    (tracks : List (TrackCover ι)) :
    (moodMixOf config mood now tracks).trackCount = (moodMixOf config mood now tracks).trackIds.length :=
  (List.length_map _ _).symm

/-- The covers are at most four non-empty covers of the mix's tracks. -/
theorem moodMixOf_coverUrls (config : Mood) (mood : String) (now : Nat)
    (tracks : List (TrackCover ι)) :
    (moodMixOf config mood now tracks).coverUrls.length ≤ 4 ∧
      ∀ url ∈ (moodMixOf config mood now tracks).coverUrls,
        url ≠ "" ∧ ∃ track ∈ tracks, track.coverUrl = some url := by
  refine ⟨(List.length_map _ _).trans_le (List.length_take_le _ _), fun url mem => ?_⟩
  obtain ⟨track, kept, rfl⟩ := List.mem_map.mp mem
  obtain ⟨listed, covered⟩ := List.mem_filter.mp (List.mem_of_mem_take kept)
  cases cover : track.coverUrl with
  | none => simp [TrackCover.hasCover, cover] at covered
  | some url =>
    have nonEmpty : url ≠ "" := by simpa [TrackCover.hasCover, cover] using covered
    exact ⟨by simpa [cover] using nonEmpty, track, listed, by simp [cover]⟩

variable [DecidableEq ι]

/-- The lookup keeps, in order, the ids some track of `tracks` has. -/
theorem map_id_filterMap_find? (tracks : List (TrackCover ι)) (ids : List ι) :
    (ids.filterMap fun id => tracks.find? fun track => track.id = id).map (·.id) =
      ids.filter fun id => tracks.any fun track => track.id = id := by
  induction ids with
  | nil => rfl
  | cons id rest ih =>
    rw [List.filterMap_cons, List.filter_cons]
    cases found : tracks.find? fun track => track.id = id with
    | none =>
      have missing : (tracks.any fun track => track.id = id) = false :=
        List.any_eq_false.mpr fun track mem => List.find?_eq_none.mp found track mem
      simp only [missing, Bool.false_eq_true, ↓reduceIte, ih]
    | some track =>
      have named : track.id = id := by simpa using List.find?_some found
      have present : (tracks.any fun track => track.id = id) = true :=
        List.any_eq_true.mpr ⟨track, List.mem_of_find?_eq_some found, by simpa using named⟩
      simp only [present, ↓reduceIte, List.map_cons, named, ih]

theorem orderedTracks_map_id (trackTable : List (TrackCover ι)) (ids : List ι) :
    (orderedTracks trackTable ids).map (·.id) =
      ids.filter fun id => trackTable.any fun track => track.id = id := by
  rw [orderedTracks, map_id_filterMap_find?]
  refine List.filter_congr fun id mem => Bool.eq_iff_iff.mpr ?_
  rw [List.any_eq_true, List.any_eq_true]
  constructor
  · rintro ⟨track, kept, named⟩
    exact ⟨track, (List.mem_filter.mp kept).1, named⟩
  · rintro ⟨track, inTable, named⟩
    exact ⟨track, List.mem_filter.mpr ⟨inTable, decide_eq_true (of_decide_eq_true named ▸ mem)⟩,
      named⟩

theorem mem_orderedTracks {trackTable : List (TrackCover ι)} {ids : List ι} {track : TrackCover ι}
    (mem : track ∈ orderedTracks trackTable ids) : track ∈ trackTable := by
  obtain ⟨_, _, found⟩ := List.mem_filterMap.mp mem
  exact (List.mem_filter.mp (List.mem_of_find?_eq_some found)).1

theorem getMoodMix_eq_some_iff {shuffle : Shuffle (MoodBucketRow ι)} {table : MoodBucketTable ι}
    {trackTable : List (TrackCover ι)} {now : Nat} {mood : String} {limit : Nat}
    {mix : MoodMix ι} :
    getMoodMix shuffle table trackTable now mood limit = some mix ↔
      ∃ config, Mood.ofKey? mood = some config ∧ 0 < (moodBuckets table mood limit).length ∧
        mix = moodMixOf config mood now
          (orderedTracks trackTable (selectedIds shuffle table mood limit)) := by
  unfold getMoodMix
  cases named : Mood.ofKey? mood with
  | none => simp
  | some config =>
    by_cases empty : (moodBuckets table mood limit).length = 0
    · simp [empty]
    · simp only [empty, ↓reduceIte, Option.some.injEq]
      exact ⟨fun made => ⟨config, rfl, Nat.pos_of_ne_zero empty, made.symm⟩,
        fun ⟨_, same, _, made⟩ => by cases same; exact made.symm⟩

theorem getMoodMix_eq_none_iff (shuffle : Shuffle (MoodBucketRow ι)) (table : MoodBucketTable ι)
    (trackTable : List (TrackCover ι)) (now : Nat) (mood : String) (limit : Nat) :
    getMoodMix shuffle table trackTable now mood limit = none ↔
      Mood.ofKey? mood = none ∨ limit = 0 ∨ ∀ row ∈ table.rows, row.mood ≠ mood := by
  have empty : (moodBuckets table mood limit).length = 0 ↔
      limit = 0 ∨ ∀ row ∈ table.rows, row.mood ≠ mood := by
    have rows : (table.rows.filter fun row => row.mood = mood).length = 0 ↔
        ∀ row ∈ table.rows, row.mood ≠ mood := by
      rw [List.length_eq_zero, List.filter_eq_nil_iff]
      simp
    rw [length_moodBuckets, ← rows]
    omega
  rw [Option.eq_none_iff_forall_not_mem, ← empty]
  constructor
  · intro never
    cases named : Mood.ofKey? mood with
    | none => exact .inl rfl
    | some config =>
      exact .inr (Nat.eq_zero_of_not_pos fun nonEmpty =>
        never _ (getMoodMix_eq_some_iff.mpr ⟨config, named, nonEmpty, rfl⟩))
  · intro failing mix made
    obtain ⟨config, named, nonEmpty, -⟩ := getMoodMix_eq_some_iff.mp made
    rcases failing with unknown | zero
    · rw [unknown] at named
      cases named
    · omega

theorem moodMixOf_trackIds (config : Mood) (mood : String) (now : Nat)
    (trackTable : List (TrackCover ι)) (ids : List ι) :
    (moodMixOf config mood now (orderedTracks trackTable ids)).trackIds =
      ids.filter fun id => trackTable.any fun track => track.id = id :=
  orderedTracks_map_id trackTable ids

theorem getMoodMix_trackIds_nodup {shuffle : Shuffle (MoodBucketRow ι)}
    {table : MoodBucketTable ι} {trackTable : List (TrackCover ι)} {now : Nat} {mood : String}
    {limit : Nat} {mix : MoodMix ι} (made : getMoodMix shuffle table trackTable now mood limit = some mix) :
    mix.trackIds.Nodup := by
  obtain ⟨config, _, _, rfl⟩ := getMoodMix_eq_some_iff.mp made
  rw [moodMixOf_trackIds]
  exact (selectedIds_nodup shuffle table mood limit).sublist (List.filter_sublist _)

/-- **What `getMoodMix` returns.** It is `null` exactly for a mood outside `VALID_MOODS`, for
`limit = 0` (`take: 0`) and for a mood with no row. A mix's tracks are distinct, at most `limit`,
counted by `trackCount`; each is a track of the track table with a row of the mood that fewer than
`2 * limit` rows of the mood outscore; its covers are at most four non-empty album covers of its
tracks. This holds for every order the shuffle and the scans produce. -/
theorem getMoodMix_spec (shuffle : Shuffle (MoodBucketRow ι)) (table : MoodBucketTable ι)
    (trackTable : List (TrackCover ι)) (now : Nat) (mood : String) (limit : Nat) :
    (getMoodMix shuffle table trackTable now mood limit = none ↔
        Mood.ofKey? mood = none ∨ limit = 0 ∨ ∀ row ∈ table.rows, row.mood ≠ mood) ∧
    ∀ mix ∈ getMoodMix shuffle table trackTable now mood limit,
      mix.mood = mood ∧ mix.trackIds.Nodup ∧ mix.trackCount = mix.trackIds.length ∧
      mix.trackCount ≤ limit ∧
      (∀ id ∈ mix.trackIds, (∃ track ∈ trackTable, track.id = id) ∧
        ∃ row ∈ table.rows, row.trackId = id ∧ row.mood = mood ∧
          (table.rows.filter fun other => other.mood = mood ∧ row.score < other.score).length <
            2 * limit) ∧
      mix.coverUrls.length ≤ 4 ∧
      ∀ url ∈ mix.coverUrls, url ≠ "" ∧
        ∃ track ∈ trackTable, track.id ∈ mix.trackIds ∧ track.coverUrl = some url := by
  refine ⟨getMoodMix_eq_none_iff .., fun mix made => ?_⟩
  have nodup := getMoodMix_trackIds_nodup made
  obtain ⟨config, _, _, rfl⟩ := getMoodMix_eq_some_iff.mp made
  have count := moodMixOf_trackCount config mood now
    (orderedTracks trackTable (selectedIds shuffle table mood limit))
  have ids := moodMixOf_trackIds config mood now trackTable (selectedIds shuffle table mood limit)
  obtain ⟨four, covered⟩ := moodMixOf_coverUrls config mood now
    (orderedTracks trackTable (selectedIds shuffle table mood limit))
  refine ⟨rfl, nodup, count, ?_, fun id mem => ?_, four, fun url mem => ?_⟩
  · calc _ = _ := count
      _ ≤ (selectedIds shuffle table mood limit).length := by
        rw [ids]; exact List.length_filter_le _ _
      _ ≤ limit := by rw [length_selectedIds]; exact min_le_left _ _
  · rw [ids] at mem
    obtain ⟨selected, present⟩ := List.mem_filter.mp mem
    obtain ⟨track, inTable, named⟩ := List.any_eq_true.mp present
    obtain ⟨row, top, rfl⟩ := mem_selectedIds selected
    obtain ⟨inRows, sameMood, fewer⟩ := mem_moodBuckets top
    exact ⟨⟨track, inTable, of_decide_eq_true named⟩, row, inRows, rfl, sameMood, by omega⟩
  · obtain ⟨nonEmpty, track, listed, cover⟩ := covered url mem
    exact ⟨nonEmpty, track, mem_orderedTracks listed, List.mem_map_of_mem _ listed, cover⟩

/-- **Every selected track found, the mix is as long as it can be.** When every bucket row's
track exists (the relation from `moodBucket` to `track`), a mix has `min limit n` tracks, `n` the
rows of the mood, whatever the shuffle. -/
theorem getMoodMix_trackCount_eq_min (shuffle : Shuffle (MoodBucketRow ι))
    (table : MoodBucketTable ι) (trackTable : List (TrackCover ι)) (now : Nat) (mood : String)
    (limit : Nat) (tracked : ∀ row ∈ table.rows, ∃ track ∈ trackTable, track.id = row.trackId)
    (mix : MoodMix ι) (made : getMoodMix shuffle table trackTable now mood limit = some mix) :
    mix.trackCount = min limit (table.rows.filter fun row => row.mood = mood).length := by
  obtain ⟨config, _, _, rfl⟩ := getMoodMix_eq_some_iff.mp made
  have found : (selectedIds shuffle table mood limit).filter
      (fun id => trackTable.any fun track => track.id = id) = selectedIds shuffle table mood limit :=
    List.filter_eq_self.mpr fun id mem => by
      obtain ⟨row, top, rfl⟩ := mem_selectedIds mem
      obtain ⟨track, inTable, named⟩ := tracked row (mem_moodBuckets top).1
      exact List.any_eq_true.mpr ⟨track, inTable, decide_eq_true named⟩
  rw [moodMixOf_trackCount, moodMixOf_trackIds, found, length_selectedIds]

/-- The shuffle that keeps the order. -/
def keepOrder {α : Type} : Shuffle α := ⟨id, fun _ => List.Perm.refl _⟩

/-- Two happy rows of tracks 1 and 2, both in the track table. -/
def twoHappyRows : MoodBucketTable Nat :=
  ⟨[⟨1, "happy", 1⟩, ⟨2, "happy", 1⟩], by decide⟩

/-- The tracks of `twoHappyRows`, track 2 without a cover. -/
def twoCovers : List (TrackCover Nat) := [⟨1, some "cover-1"⟩, ⟨2, none⟩]

theorem getMoodMix_trackCount_eq_min_twoHappyRows :
    (∀ row ∈ twoHappyRows.rows, ∃ track ∈ twoCovers, track.id = row.trackId) ∧
      getMoodMix keepOrder twoHappyRows twoCovers 7 "happy" 1 =
        some (moodMixOf .happy "happy" 7 [⟨1, some "cover-1"⟩]) ∧
      (moodMixOf .happy "happy" 7 [⟨1, some "cover-1"⟩]).trackCount =
        min 1 (twoHappyRows.rows.filter fun row => row.mood = "happy").length :=
  ⟨by decide, rfl, getMoodMix_trackCount_eq_min keepOrder twoHappyRows twoCovers 7 "happy" 1
    (by decide) _ rfl⟩

end Spec

/-! ### The saved mix of a user -/

/-- A `userMoodMix` row, keyed by `userId`. -/
structure UserMoodMix (ι : Type) where
  mood : String
  trackIds : List ι
  coverUrls : List String
  generatedAt : Nat
  deriving DecidableEq, Repr

/-- What `saveUserMoodMix` returns; `generatedAt` as the milliseconds `toISOString` prints. -/
structure SavedMoodMix (ι : Type) extends MoodMix ι where
  generatedAt : Nat
  deriving DecidableEq, Repr

/-- What `getUserMoodMix` returns. -/
structure UserMoodMixView (ι : Type) extends MoodMix ι where
  type : String
  deriving DecidableEq, Repr

/-- The tables the mix functions read and write. -/
structure MixStore (ι υ : Type) where
  buckets : MoodBucketTable ι
  tracks : List (TrackCover ι)
  userMoodMixes : υ → Option (UserMoodMix ι)

section Saved

variable {ι υ : Type} [DecidableEq ι] [DecidableEq υ]

/-- `userMoodMix.upsert({ where: { userId }, create: row, update: row })`. -/
def upsertUserMoodMix (store : MixStore ι υ) (userId : υ) (row : UserMoodMix ι) : MixStore ι υ :=
  { store with
    userMoodMixes := fun user => if user = userId then some row else store.userMoodMixes user }

/-- The object `saveUserMoodMix` returns for `mix`. -/
def savedMoodMixOf (config : Mood) (mood : String) (mix : MoodMix ι) (generatedAt : Nat) :
    SavedMoodMix ι :=
  { id := "your-mood-mix-" ++ toString generatedAt
    mood := mood
    name := "Your " ++ config.name ++ " Mix"
    description := "Based on your " ++ config.name.toLower ++ " preferences"
    trackIds := mix.trackIds
    coverUrls := mix.coverUrls
    trackCount := mix.trackCount
    color := moodGradients config
    generatedAt := generatedAt }

/-- `saveUserMoodMix(userId, mood, limit)` with `getMoodMix` at `now` and `new Date()` at
`generatedAt`: the mix it returns and the store after its upsert. The mood is valid whenever
`getMoodMix` returns a mix, so `MOOD_CONFIG[mood]` is always found. -/
def saveUserMoodMix (store : MixStore ι υ) (userId : υ) (mood : String) (limit : Nat)
    (shuffle : Shuffle (MoodBucketRow ι)) (now generatedAt : Nat) :
    Option (SavedMoodMix ι) × MixStore ι υ :=
  match getMoodMix shuffle store.buckets store.tracks now mood limit, Mood.ofKey? mood with
  | some mix, some config =>
    (some (savedMoodMixOf config mood mix generatedAt),
      upsertUserMoodMix store userId ⟨mood, mix.trackIds, mix.coverUrls, generatedAt⟩)
  | _, _ => (none, store)

/-- `getUserMoodMix(userId)`. -/
def getUserMoodMix (store : MixStore ι υ) (userId : υ) : Option (UserMoodMixView ι) :=
  match store.userMoodMixes userId with
  | none => none
  | some userMix =>
    match Mood.ofKey? userMix.mood with
    | none => none
    | some config =>
      some
        { id := "your-mood-mix-" ++ toString userMix.generatedAt
          type := "mood"
          mood := userMix.mood
          name := "Your " ++ config.name ++ " Mix"
          description := "Based on your " ++ config.name.toLower ++ " preferences"
          trackIds := userMix.trackIds
          coverUrls := userMix.coverUrls
          trackCount := userMix.trackIds.length
          color := moodGradients config }

/-- What happens to the tables between reads: saves, `clearTrackMoods`, and the bucket writers
and the track table changing in any way. -/
inductive Event (ι υ : Type)
  | save (userId : υ) (mood : String) (limit : Nat) (shuffle : Shuffle (MoodBucketRow ι))
      (now generatedAt : Nat)
  | clearTrackMoods (trackId : ι)
  | writeBuckets (table : MoodBucketTable ι)
  | writeTracks (tracks : List (TrackCover ι))

/-- The event is a `saveUserMoodMix` of `user`. -/
def Event.savesFor (user : υ) : Event ι υ → Bool
  | .save userId .. => userId = user
  | _ => false

/-- One event. -/
def step (store : MixStore ι υ) : Event ι υ → MixStore ι υ
  | .save userId mood limit shuffle now generatedAt =>
    (saveUserMoodMix store userId mood limit shuffle now generatedAt).2
  | .clearTrackMoods trackId => { store with buckets := clearTrackMoods store.buckets trackId }
  | .writeBuckets table => { store with buckets := table }
  | .writeTracks tracks => { store with tracks := tracks }

/-- A run of events. -/
def run (store : MixStore ι υ) (events : List (Event ι υ)) : MixStore ι υ :=
  events.foldl step store

/-! ### Saving and reading back -/

/-- A save returns `null` and writes nothing, or returns the mix and upserts it. -/
theorem saveUserMoodMix_cases (store : MixStore ι υ) (userId : υ) (mood : String) (limit : Nat)
    (shuffle : Shuffle (MoodBucketRow ι)) (now generatedAt : Nat) :
    saveUserMoodMix store userId mood limit shuffle now generatedAt = (none, store) ∨
      ∃ mix config, getMoodMix shuffle store.buckets store.tracks now mood limit = some mix ∧
        Mood.ofKey? mood = some config ∧
        saveUserMoodMix store userId mood limit shuffle now generatedAt =
          (some (savedMoodMixOf config mood mix generatedAt),
            upsertUserMoodMix store userId ⟨mood, mix.trackIds, mix.coverUrls, generatedAt⟩) := by
  unfold saveUserMoodMix
  split
  · rename_i mix config made named
    exact .inr ⟨mix, config, made, named, rfl⟩
  · exact .inl rfl

omit [DecidableEq ι] [DecidableEq υ] in
theorem getUserMoodMix_congr {store other : MixStore ι υ} {user : υ}
    (same : store.userMoodMixes user = other.userMoodMixes user) :
    getUserMoodMix store user = getUserMoodMix other user := by
  simp only [getUserMoodMix, same]

omit [DecidableEq ι] in
/-- Reading back the row a save upserted gives the mix the save returned. -/
theorem getUserMoodMix_upsert {store : MixStore ι υ} {userId : υ} {mood : String} {config : Mood}
    (named : Mood.ofKey? mood = some config) {mix : MoodMix ι}
    (count : mix.trackCount = mix.trackIds.length) (generatedAt : Nat) :
    getUserMoodMix (upsertUserMoodMix store userId ⟨mood, mix.trackIds, mix.coverUrls, generatedAt⟩)
        userId =
      some ⟨(savedMoodMixOf config mood mix generatedAt).toMoodMix, "mood"⟩ := by
  simp [getUserMoodMix, upsertUserMoodMix, savedMoodMixOf, named, count]

/-- An event other than a save of `user` leaves `user`'s row as it was. -/
theorem step_userMoodMixes {user : υ} {event : Event ι υ} (other : event.savesFor user = false)
    (store : MixStore ι υ) : (step store event).userMoodMixes user = store.userMoodMixes user := by
  cases event with
  | save userId mood limit shuffle now generatedAt =>
    have different : user ≠ userId := fun same => by simp [Event.savesFor, same] at other
    rcases saveUserMoodMix_cases store userId mood limit shuffle now generatedAt with
      kept | ⟨_, _, _, _, saved⟩
    · simp only [step, kept]
    · simp only [step, saved, upsertUserMoodMix, different, ↓reduceIte]
  | clearTrackMoods => rfl
  | writeBuckets => rfl
  | writeTracks => rfl

theorem run_userMoodMixes {user : υ} {events : List (Event ι υ)}
    (other : ∀ event ∈ events, event.savesFor user = false) (store : MixStore ι υ) :
    (run store events).userMoodMixes user = store.userMoodMixes user := by
  induction events generalizing store with
  | nil => rfl
  | cons event rest ih =>
    rw [run, List.foldl_cons, ← run, ih (fun later mem => other later (.tail _ mem)),
      step_userMoodMixes (other event (.head _))]

/-- **Save, then read back.** After a `saveUserMoodMix` that returned a mix, `getUserMoodMix`
returns the same mix (`type: "mood"` added, `generatedAt` dropped), whatever the later events
are, as long as none is a save of that user: bucket writes, `clearTrackMoods` and track changes
leave a saved mix as it was saved. -/
theorem getUserMoodMix_after_save (store : MixStore ι υ) (before after : List (Event ι υ))
    (userId : υ) (mood : String) (limit : Nat) (shuffle : Shuffle (MoodBucketRow ι))
    (now generatedAt : Nat) (saved : SavedMoodMix ι)
    (returned :
      (saveUserMoodMix (run store before) userId mood limit shuffle now generatedAt).1 = some saved)
    (noLaterSave : ∀ event ∈ after, event.savesFor userId = false) :
    getUserMoodMix
        (run store (before ++ Event.save userId mood limit shuffle now generatedAt :: after)) userId =
      some ⟨saved.toMoodMix, "mood"⟩ := by
  rw [run, List.foldl_append, List.foldl_cons, ← run, ← run,
    getUserMoodMix_congr (run_userMoodMixes noLaterSave _)]
  rcases saveUserMoodMix_cases (run store before) userId mood limit shuffle now generatedAt with
    kept | ⟨mix, config, made, named, saves⟩
  · simp [kept] at returned
  · rw [saves, Option.some.injEq] at returned
    obtain ⟨mixConfig, _, _, rfl⟩ := getMoodMix_eq_some_iff.mp made
    rw [step, saves, ← returned]
    exact getUserMoodMix_upsert named (moodMixOf_trackCount ..) generatedAt

/-- User `0` saves a happy mix of one track from `twoHappyRows`; track 1 is then cleared. -/
theorem getUserMoodMix_after_save_cleared :
    (saveUserMoodMix (run (⟨twoHappyRows, twoCovers, fun _ => none⟩ : MixStore Nat Nat) []) 0
        "happy" 1 keepOrder 7 9).1 =
      some (savedMoodMixOf .happy "happy" (moodMixOf .happy "happy" 7 [⟨1, some "cover-1"⟩]) 9) ∧
    (∀ event ∈ [Event.clearTrackMoods 1], event.savesFor 0 = false) ∧
    getUserMoodMix (run (⟨twoHappyRows, twoCovers, fun _ => none⟩ : MixStore Nat Nat)
        ([] ++ Event.save 0 "happy" 1 keepOrder 7 9 :: [Event.clearTrackMoods 1])) 0 =
      some ⟨(savedMoodMixOf .happy "happy"
        (moodMixOf .happy "happy" 7 [⟨1, some "cover-1"⟩]) 9).toMoodMix, "mood"⟩ :=
  ⟨rfl, by decide, getUserMoodMix_after_save _ [] [Event.clearTrackMoods 1] 0 "happy" 1 keepOrder 7 9
    _ rfl (by decide)⟩

/-! ### What every saved row looks like -/

/-- The rows `saveUserMoodMix` writes: a mood of `VALID_MOODS`, distinct tracks, at most four
covers. -/
structure UserMoodMix.Valid (row : UserMoodMix ι) : Prop where
  mood : (Mood.ofKey? row.mood).isSome
  nodup : row.trackIds.Nodup
  covers : row.coverUrls.length ≤ 4

/-- Every row of the `userMoodMix` table is valid. -/
def StoredValid (store : MixStore ι υ) : Prop :=
  ∀ user row, store.userMoodMixes user = some row → row.Valid

theorem step_storedValid {store : MixStore ι υ} (valid : StoredValid store) (event : Event ι υ) :
    StoredValid (step store event) := by
  cases event with
  | save userId mood limit shuffle now generatedAt =>
    rcases saveUserMoodMix_cases store userId mood limit shuffle now generatedAt with
      kept | ⟨mix, config, made, named, saves⟩
    · simpa only [step, kept] using valid
    · intro user row stored
      simp only [step, saves, upsertUserMoodMix] at stored
      split at stored
      · cases stored
        obtain ⟨mixConfig, _, _, rfl⟩ := getMoodMix_eq_some_iff.mp made
        exact ⟨by simp [named], getMoodMix_trackIds_nodup made, (moodMixOf_coverUrls mixConfig mood now _).1⟩
      · exact valid user row stored
  | clearTrackMoods => exact valid
  | writeBuckets => exact valid
  | writeTracks => exact valid

theorem run_storedValid {store : MixStore ι υ} (valid : StoredValid store)
    (events : List (Event ι υ)) : StoredValid (run store events) := by
  induction events generalizing store with
  | nil => exact valid
  | cons event rest ih => exact ih (step_storedValid valid event)

/-- **The mood check of `getUserMoodMix` never fires.** In every run from an empty `userMoodMix`
table, whatever the bucket and track tables do, every row was written by `saveUserMoodMix` with
a valid mood, so `getUserMoodMix` returns `null` only for a user without a row, and every mix it
returns has distinct tracks and at most four covers. -/
theorem getUserMoodMix_eq_none_iff (buckets : MoodBucketTable ι) (tracks : List (TrackCover ι))
    (events : List (Event ι υ)) (user : υ) :
    (getUserMoodMix (run ⟨buckets, tracks, fun _ => none⟩ events) user = none ↔
      (run ⟨buckets, tracks, fun _ => none⟩ events).userMoodMixes user = none) ∧
    ∀ view ∈ getUserMoodMix (run ⟨buckets, tracks, fun _ => none⟩ events) user,
      view.trackIds.Nodup ∧ view.coverUrls.length ≤ 4 := by
  have valid : StoredValid (run ⟨buckets, tracks, fun _ => none⟩ events) :=
    run_storedValid (fun _ _ stored => by simp at stored) events
  unfold getUserMoodMix
  cases stored : (run ⟨buckets, tracks, fun _ => none⟩ events).userMoodMixes user with
  | none => simp
  | some row =>
    obtain ⟨mood, nodup, covers⟩ := valid user row stored
    obtain ⟨config, named⟩ := Option.isSome_iff_exists.mp mood
    simp [named, nodup, covers]

end Saved

end Lidify.MoodBucket
