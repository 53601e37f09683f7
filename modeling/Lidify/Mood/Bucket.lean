import Lidify.Mood.Score
/-
**The two writers of the `moodBucket` table: `assignTrackToMoods` and `backfillAllTracks`.**

`assignTrackToMoods(trackId)` scores a completed track and, for each mood, upserts its row when
the score is positive and deletes it when the score is `0`. `backfillAllTracks(batchSize)` pages
through the completed tracks with `skip`/`take` (and no `orderBy`) and, for each, upserts the rows
of the moods with a positive score; it deletes nothing.

Each writer only rewrites the rows of the track it processes, each key as a function of its old
value (`rewrite`). A fold of such rewrites over a list of tracks is the rewrite of every track on
the list (`foldl_rewrite_apply`), so both writers are described row by row:

* `calculateMoodScores_partitions_moods` — every score is in `[0, 1]`, so each mood falls in
  exactly one of `assignTrackToMoods`'s write sets: upserted with its score, or deleted at `0`;
* `assignEachTrack_apply` — after `assignTrackToMoods` on every listed track, a completed track's
  mood rows hold exactly its positive scores (`scoredRow`);
* `backfillAllTracks_of_stable` — when every page query scans the rows in one order and
  `batchSize ≥ 1`, the backfill finishes, processes each completed track once and leaves each
  mood row with a positive score holding it and every other row as it was (`upsertedRow`);
* `backfillAllTracks_keeps_zero_score_row` — so a row whose recomputed score is `0` survives the
  backfill, while `assignTrackToMoods` deletes it; and when two page queries meet the rows in
  different orders, `skip`/`take` can hand the same track twice and another never.
-/

namespace Lidify.MoodBucket

/-- A `Track` row: the columns `TrackWithAnalysis` selects, and `analysisStatus`. -/
structure Track extends TrackWithAnalysis where
  analysisStatus : Option String

/-- The `moodBucket` table: the score of the row `(trackId, mood)`, unique on that pair. -/
def Buckets (ι : Type) : Type := ι → String → Option ℚ

section Table

variable {ι : Type} [DecidableEq ι]

/-- The row `(trackId, mood)` set to `value`, `none` for no row. -/
def setRow (buckets : Buckets ι) (trackId : ι) (mood : String) (value : Option ℚ) : Buckets ι :=
  fun t key => if t = trackId ∧ key = mood then value else buckets t key

/-- `moodBucket.upsert` on `trackId_mood`, creating or updating the row with `score`. -/
def upsert (buckets : Buckets ι) (trackId : ι) (mood : String) (score : ℚ) : Buckets ι :=
  setRow buckets trackId mood (some score)

/-- `moodBucket.deleteMany({ where: { trackId, mood } })`. -/
def deleteMany (buckets : Buckets ι) (trackId : ι) (mood : String) : Buckets ι :=
  setRow buckets trackId mood none

/-- `Object.entries(moodScores)`, in the key order of `MOOD_CONFIG`. -/
def entries (moodScores : Mood → ℚ) : List (String × ℚ) :=
  Mood.all.map fun mood => (mood.key, moodScores mood)

/-- `findUnique` by id, when the track exists and its analysis is `completed`. -/
def completedAnalysis (tracks : ι → Option Track) (trackId : ι) : Option TrackWithAnalysis :=
  (tracks trackId).bind fun track =>
    if track.analysisStatus = some "completed" then some track.toTrackWithAnalysis else none

/-- `assignTrackToMoods(trackId)`: the table after its upserts and deletes (on distinct rows, so
`Promise.all`'s order does not matter), and the moods it returns. -/
def assignTrackToMoods (tracks : ι → Option Track) (buckets : Buckets ι) (trackId : ι) :
    Buckets ι × List String :=
  match completedAnalysis tracks trackId with
  | none => (buckets, [])
  | some track =>
    let moodScores := calculateMoodScores track
    let upserts := (entries moodScores).filter fun entry => entry.2 > 0
    let deletes := (entries moodScores).filter fun entry => entry.2 = 0
    let upserted := upserts.foldl (fun table entry => upsert table trackId entry.1 entry.2) buckets
    (deletes.foldl (fun table entry => deleteMany table trackId entry.1) upserted,
      upserts.map (·.1))

/-- `assignTrackToMoods` run on each track of `trackIds` in turn. -/
def assignEachTrack (tracks : ι → Option Track) (buckets : Buckets ι) (trackIds : List ι) :
    Buckets ι :=
  trackIds.foldl (fun table trackId => (assignTrackToMoods tracks table trackId).1) buckets

/-! ### `backfillAllTracks` -/

/-- The backfill's table and its `processed` and `assigned` counters. -/
structure Backfill (ι : Type) where
  buckets : Buckets ι
  processed : Nat
  assigned : Nat

/-- The loop body for one fetched track: upsert every mood with a positive score. With no such
mood the `if` skips nothing that would change the state. -/
def backfillTrack (state : Backfill ι) (row : ι × TrackWithAnalysis) : Backfill ι :=
  let moodScores := calculateMoodScores row.2
  let moodsToAssign := (entries moodScores).filter fun entry => entry.2 > 0
  { buckets :=
      moodsToAssign.foldl (fun table entry => upsert table row.1 entry.1 entry.2) state.buckets
    processed := state.processed + 1
    assigned := state.assigned + moodsToAssign.length }

/-- The completed tracks, in the order a scan meeting the ids of `scan` returns them. -/
def completedRows (tracks : ι → Option Track) (scan : List ι) : List (ι × TrackWithAnalysis) :=
  scan.filterMap fun trackId => (completedAnalysis tracks trackId).map (trackId, ·)

/-- `track.findMany({ where: { analysisStatus: "completed" }, skip, take })` over that scan. -/
def findCompleted (tracks : ι → Option Track) (scan : List ι) (skip take : Nat) :
    List (ι × TrackWithAnalysis) :=
  ((completedRows tracks scan).drop skip).take take

/-- The `while (true)` loop from `skip`: the query at each `skip` scans in the order `scan skip`.
`none` when `fuel` runs out before an empty page. -/
def backfillLoop (tracks : ι → Option Track) (scan : Nat → List ι) (batchSize : Nat) :
    Nat → Nat → Backfill ι → Option (Backfill ι)
  | 0, _, _ => none
  | fuel + 1, skip, state =>
    let page := findCompleted tracks (scan skip) skip batchSize
    if page.length = 0 then some state
    else backfillLoop tracks scan batchSize fuel (skip + batchSize) (page.foldl backfillTrack state)

/-- The default `batchSize`. -/
def defaultBatchSize : Nat := 100

/-- `backfillAllTracks(batchSize)`: the final table and `{ processed, assigned }`. -/
def backfillAllTracks (tracks : ι → Option Track) (scan : Nat → List ι) (batchSize fuel : Nat)
    (buckets : Buckets ι) : Option (Backfill ι) :=
  backfillLoop tracks scan batchSize fuel 0 ⟨buckets, 0, 0⟩

end Table

/-! ### Row by row -/

section Rows

variable {ι : Type} [DecidableEq ι]

/-- The rows of `trackId` rewritten key by key, each from its old value; other tracks kept. -/
def rewrite (buckets : Buckets ι) (trackId : ι) (row : String → Option ℚ → Option ℚ) :
    Buckets ι :=
  fun t key => if t = trackId then row key (buckets trackId key) else buckets t key

/-- The listed moods' rows set to `value`, other keys kept. -/
def setMoods (moods : List Mood) (value : Mood → Option ℚ) (key : String) (old : Option ℚ) :
    Option ℚ :=
  match Mood.ofKey? key with
  | some mood => if mood ∈ moods then value mood else old
  | none => old

/-- What `assignTrackToMoods` leaves in a row of a track scored `moodScores`: a mood's row holds
its positive score or is gone; other keys are untouched. -/
def scoredRow (moodScores : Mood → ℚ) (key : String) (old : Option ℚ) : Option ℚ :=
  match Mood.ofKey? key with
  | some mood => if 0 < moodScores mood then some (moodScores mood) else none
  | none => old

/-- What the backfill leaves in such a row: the row of a mood scored `0` is untouched. -/
def upsertedRow (moodScores : Mood → ℚ) (key : String) (old : Option ℚ) : Option ℚ :=
  match Mood.ofKey? key with
  | some mood => if 0 < moodScores mood then some (moodScores mood) else old
  | none => old

/-- `assignTrackToMoods`'s rewrite of a track's rows: none unless it exists and is completed. -/
def assignRow (tracks : ι → Option Track) (trackId : ι) : String → Option ℚ → Option ℚ :=
  match completedAnalysis tracks trackId with
  | some track => scoredRow (calculateMoodScores track)
  | none => fun _ old => old

/-- The backfill's rewrite of a track's rows. -/
def backfillRow (tracks : ι → Option Track) (trackId : ι) : String → Option ℚ → Option ℚ :=
  match completedAnalysis tracks trackId with
  | some track => upsertedRow (calculateMoodScores track)
  | none => fun _ old => old

theorem rewrite_keep (buckets : Buckets ι) (trackId : ι) :
    rewrite buckets trackId (fun _ old => old) = buckets := by
  funext t key
  by_cases same : t = trackId
  · subst same; simp [rewrite]
  · simp [rewrite, same]

theorem rewrite_rewrite (buckets : Buckets ι) (trackId : ι) (first second : String → Option ℚ → Option ℚ) :
    rewrite (rewrite buckets trackId first) trackId second =
      rewrite buckets trackId fun key old => second key (first key old) := by
  funext t key
  by_cases same : t = trackId <;> simp [rewrite, same]

/-- Setting one row of a track is a rewrite of its rows. -/
theorem setRow_eq_rewrite (buckets : Buckets ι) (trackId : ι) (mood : String) (value : Option ℚ) :
    setRow buckets trackId mood value =
      rewrite buckets trackId fun key old => if key = mood then value else old := by
  funext t key
  by_cases same : t = trackId
  · subst same; simp [setRow, rewrite]
  · simp [setRow, rewrite, same]

/-- The first mood's row is set before the others'. -/
theorem setMoods_cons (first : Mood) (rest : List Mood) (value : Mood → Option ℚ) (key : String)
    (old : Option ℚ) :
    setMoods (first :: rest) value key old =
      setMoods rest value key (if key = first.key then value first else old) := by
  unfold setMoods
  cases named : Mood.ofKey? key with
  | none =>
    have other : key ≠ first.key := fun equal =>
      absurd (Mood.ofKey?_eq_some_iff.mpr equal.symm) (by simp [named])
    simp [other]
  | some mood =>
    obtain rfl := Mood.ofKey?_eq_some_iff.mp named
    by_cases inRest : mood ∈ rest
    · simp [inRest]
    · by_cases first_eq : mood = first
      · subst first_eq; simp
      · have keys : mood.key ≠ first.key := fun equal => first_eq (Mood.key_injective equal)
        simp [inRest, first_eq, keys]

/-- **Setting rows mood by mood is one rewrite.** -/
theorem foldl_setRow (moods : List Mood) (value : Mood → Option ℚ) (buckets : Buckets ι)
    (trackId : ι) :
    moods.foldl (fun table mood => setRow table trackId mood.key (value mood)) buckets =
      rewrite buckets trackId (setMoods moods value) := by
  induction moods generalizing buckets with
  | nil =>
    have keep : setMoods [] value = fun _ old => old := by
      funext key old; unfold setMoods; split <;> simp
    rw [List.foldl_nil, keep, rewrite_keep]
  | cons first rest folded =>
    rw [List.foldl_cons, folded, setRow_eq_rewrite, rewrite_rewrite]
    exact congrArg _ (funext₂ fun key old => (setMoods_cons first rest value key old).symm)

/-- Writing the entries that pass a filter is setting the rows of the moods that pass it. -/
theorem foldl_entries (moodScores : Mood → ℚ) (keep : ℚ → Prop) [DecidablePred keep]
    (value : String → ℚ → Option ℚ) (buckets : Buckets ι) (trackId : ι) :
    ((entries moodScores).filter fun entry => keep entry.2).foldl
        (fun table entry => setRow table trackId entry.1 (value entry.1 entry.2)) buckets =
      rewrite buckets trackId
        (setMoods (Mood.all.filter fun mood => keep (moodScores mood))
          fun mood => value mood.key (moodScores mood)) := by
  rw [entries, List.filter_map, List.foldl_map]
  exact foldl_setRow _ _ buckets trackId

/-- **One call of `assignTrackToMoods` rewrites its track's rows to `assignRow`.** -/
theorem assignTrackToMoods_fst (tracks : ι → Option Track) (buckets : Buckets ι) (trackId : ι) :
    (assignTrackToMoods tracks buckets trackId).1 =
      rewrite buckets trackId (assignRow tracks trackId) := by
  unfold assignTrackToMoods assignRow
  split
  case h_1 absent => rw [absent, rewrite_keep]
  case h_2 track found =>
    rw [found]
    have upserts := foldl_entries (calculateMoodScores track) (· > 0) (fun _ score => some score)
      buckets trackId
    have deletes := fun table : Buckets ι =>
      foldl_entries (calculateMoodScores track) (· = 0) (fun _ _ => none) table trackId
    simp only [upsert, deleteMany] at upserts deletes ⊢
    rw [upserts, deletes, rewrite_rewrite]
    refine congrArg (rewrite buckets trackId) (funext fun key => funext fun old => ?_)
    unfold setMoods scoredRow
    split
    case h_1 mood named =>
      simp only [named, List.mem_filter, Mood.mem_all, true_and, decide_eq_true_eq]
      obtain positive | zero := (calculateMoodScores_nonneg track mood).lt_or_eq
      · simp [positive, positive.ne']
      · simp [← zero]
    case h_2 => rfl

theorem mem_filter_entries (moodScores : Mood → ℚ) (keep : ℚ → Prop) [DecidablePred keep]
    (mood : Mood) (score : ℚ) :
    (mood.key, score) ∈ (entries moodScores).filter (fun entry => keep entry.2) ↔
      score = moodScores mood ∧ keep score := by
  simp [entries, Mood.mem_all, Mood.key_injective.eq_iff, eq_comm]

theorem key_mem_filter_entries (moodScores : Mood → ℚ) (keep : ℚ → Prop) [DecidablePred keep]
    (mood : Mood) :
    mood.key ∈ ((entries moodScores).filter fun entry => keep entry.2).map (·.1) ↔
      keep (moodScores mood) := by
  simp [entries, Mood.mem_all, Mood.key_injective.eq_iff]

/-- **Scores lie in `[0, 1]`, and the two write sets partition the moods.** Every score
`calculateMoodScores` gives a track is between `0` and `1`, so `assignTrackToMoods` puts each mood
in exactly one of its write sets: the upserts, with its score, when that score is positive, or
the deletes when it is `0`. -/
theorem calculateMoodScores_partitions_moods (track : TrackWithAnalysis) (mood : Mood) :
    0 ≤ calculateMoodScores track mood ∧ calculateMoodScores track mood ≤ 1 ∧
      ((mood.key, calculateMoodScores track mood) ∈
            (entries (calculateMoodScores track)).filter (fun entry => entry.2 > 0) ∧
          0 < calculateMoodScores track mood ∧
          mood.key ∉ ((entries (calculateMoodScores track)).filter
            (fun entry => entry.2 = 0)).map (·.1) ∨
        (mood.key, calculateMoodScores track mood) ∈
            (entries (calculateMoodScores track)).filter (fun entry => entry.2 = 0) ∧
          calculateMoodScores track mood = 0 ∧
          mood.key ∉ ((entries (calculateMoodScores track)).filter
            (fun entry => entry.2 > 0)).map (·.1)) := by
  have low := calculateMoodScores_nonneg track mood
  refine ⟨low, calculateMoodScores_le_one track mood, ?_⟩
  rcases low.lt_or_eq with positive | zero
  · refine .inl ⟨(mem_filter_entries _ (· > 0) mood _).mpr ⟨rfl, positive⟩, positive, ?_⟩
    rw [key_mem_filter_entries _ (· = 0)]
    exact positive.ne'
  · refine .inr ⟨(mem_filter_entries _ (· = 0) mood _).mpr ⟨rfl, zero.symm⟩, zero.symm, ?_⟩
    rw [key_mem_filter_entries _ (· > 0)]
    exact zero.symm.not_gt

/-- A row rewrite that changes nothing when applied a second time. -/
def Idempotent (row : String → Option ℚ → Option ℚ) : Prop :=
  ∀ key old, row key (row key old) = row key old

theorem scoredRow_idempotent (moodScores : Mood → ℚ) : Idempotent (scoredRow moodScores) := by
  intro key old
  cases named : Mood.ofKey? key <;> simp [scoredRow, named]

theorem upsertedRow_idempotent (moodScores : Mood → ℚ) :
    Idempotent (upsertedRow moodScores) := by
  intro key old
  unfold upsertedRow
  cases Mood.ofKey? key with
  | none => rfl
  | some mood => by_cases positive : 0 < moodScores mood <;> simp [positive]

omit [DecidableEq ι] in
theorem assignRow_idempotent (tracks : ι → Option Track) (trackId : ι) :
    Idempotent (assignRow tracks trackId) := by
  unfold assignRow
  cases completedAnalysis tracks trackId with
  | none => exact fun _ _ => rfl
  | some track => exact scoredRow_idempotent _

omit [DecidableEq ι] in
theorem backfillRow_idempotent (tracks : ι → Option Track) (trackId : ι) :
    Idempotent (backfillRow tracks trackId) := by
  unfold backfillRow
  cases completedAnalysis tracks trackId with
  | none => exact fun _ _ => rfl
  | some track => exact upsertedRow_idempotent _

/-- **A fold of idempotent per-track rewrites** rewrites the rows of every listed track once. -/
theorem foldl_rewrite_apply (rowOf : ι → String → Option ℚ → Option ℚ)
    (idempotent : ∀ trackId, Idempotent (rowOf trackId)) (trackIds : List ι)
    (buckets : Buckets ι) (t : ι) (key : String) :
    (trackIds.foldl (fun table trackId => rewrite table trackId (rowOf trackId)) buckets) t key =
      if t ∈ trackIds then rowOf t key (buckets t key) else buckets t key := by
  induction trackIds generalizing buckets with
  | nil => simp
  | cons first rest folded =>
    rw [List.foldl_cons, folded]
    by_cases same : t = first
    · subst same
      by_cases inRest : t ∈ rest <;> simp [rewrite, inRest, idempotent t key]
    · simp [rewrite, same]

/-- **`assignTrackToMoods` on every listed track.** A listed track's rows are rewritten by
`assignRow`: for a completed track, each mood's row holds its positive score or is gone. -/
theorem assignEachTrack_apply (tracks : ι → Option Track) (buckets : Buckets ι)
    (trackIds : List ι) (t : ι) (key : String) :
    assignEachTrack tracks buckets trackIds t key =
      if t ∈ trackIds then assignRow tracks t key (buckets t key) else buckets t key := by
  unfold assignEachTrack
  simp only [assignTrackToMoods_fst]
  exact foldl_rewrite_apply _ (assignRow_idempotent tracks) _ _ _ _

/-- One fetched track: its rows rewritten by `upsertedRow`, and the counters advanced. -/
theorem backfillTrack_eq (state : Backfill ι) (trackId : ι) (track : TrackWithAnalysis) :
    backfillTrack state (trackId, track) =
      ⟨rewrite state.buckets trackId (upsertedRow (calculateMoodScores track)),
        state.processed + 1,
        state.assigned + (Mood.all.filter fun mood => 0 < calculateMoodScores track mood).length⟩ := by
  have upserts := foldl_entries (calculateMoodScores track) (· > 0) (fun _ score => some score)
    state.buckets trackId
  have positive : setMoods (Mood.all.filter fun mood => calculateMoodScores track mood > 0)
      (fun mood => some (calculateMoodScores track mood)) = upsertedRow (calculateMoodScores track) := by
    funext key old
    unfold setMoods upsertedRow
    split <;> simp [Mood.mem_all]
  simp only [backfillTrack, upsert] at upserts ⊢
  rw [upserts, positive, entries, List.filter_map, List.length_map]
  rfl

/-- The tracks of a stretch of pages, folded: its rows rewritten, the counters advanced. -/
theorem foldl_backfillTrack (rows : List (ι × TrackWithAnalysis)) (state : Backfill ι) :
    rows.foldl backfillTrack state =
      ⟨rows.foldl (fun table row => rewrite table row.1 (upsertedRow (calculateMoodScores row.2)))
          state.buckets,
        state.processed + rows.length,
        state.assigned + (rows.map fun row =>
          (Mood.all.filter fun mood => 0 < calculateMoodScores row.2 mood).length).sum⟩ := by
  induction rows generalizing state with
  | nil => rfl
  | cons row rest folded =>
    rw [List.foldl_cons, folded, backfillTrack_eq]
    simp only [List.foldl_cons, List.length_cons, List.map_cons, List.sum_cons, Backfill.mk.injEq,
      true_and]
    omega

/-- Folding the completed rows of a scan is folding `backfillRow` over its ids. -/
theorem foldl_completedRows (tracks : ι → Option Track) (scan : List ι) (buckets : Buckets ι) :
    (completedRows tracks scan).foldl
        (fun table row => rewrite table row.1 (upsertedRow (calculateMoodScores row.2))) buckets =
      scan.foldl (fun table trackId => rewrite table trackId (backfillRow tracks trackId)) buckets := by
  induction scan generalizing buckets with
  | nil => rfl
  | cons first rest folded =>
    unfold completedRows at folded ⊢
    rw [List.filterMap_cons, List.foldl_cons]
    unfold backfillRow
    cases completedAnalysis tracks first with
    | none => simpa [rewrite_keep] using folded buckets
    | some track => simpa using folded _

/-- **The loop over a stable scan**: with `batchSize ≥ 1` and enough fuel, the loop from `skip`
returns the fold of `backfillTrack` over every completed row from `skip` on. -/
theorem backfillLoop_stable (tracks : ι → Option Track) (rows : List ι) {batchSize : Nat}
    (positive : 0 < batchSize) (fuel : Nat) :
    ∀ skip state, (completedRows tracks rows).length ≤ skip + fuel * batchSize →
      backfillLoop tracks (fun _ => rows) batchSize (fuel + 1) skip state =
        some (((completedRows tracks rows).drop skip).foldl backfillTrack state) := by
  induction fuel with
  | zero =>
    intro skip state few
    have empty : (completedRows tracks rows).drop skip = [] := List.drop_eq_nil_of_le (by omega)
    simp [backfillLoop, findCompleted, empty]
  | succ fuel more =>
    intro skip state few
    by_cases empty : (completedRows tracks rows).drop skip = []
    · simp [backfillLoop, findCompleted, empty]
    · have page : (((completedRows tracks rows).drop skip).take batchSize).length ≠ 0 := by
        rw [Ne, List.length_eq_zero, List.take_eq_nil_iff]
        exact fun either => either.elim positive.ne' empty
      rw [backfillLoop]
      simp only [findCompleted, if_neg page]
      rw [more (skip + batchSize) _ (by rw [Nat.succ_mul] at few; omega), ← List.drop_drop,
        ← List.foldl_append, List.take_append_drop]

/-- **The backfill over a stable scan.** When every page query meets the rows in the order `rows`,
`batchSize ≥ 1` and the fuel exceeds the number of rows, the backfill finishes; it has processed
every completed row once, counted its positive moods, and rewritten the rows of every completed
track by `upsertedRow`, leaving every other row as it was. -/
theorem backfillAllTracks_of_stable (tracks : ι → Option Track) (rows : List ι)
    {batchSize fuel : Nat} (positive : 0 < batchSize) (enough : rows.length < fuel)
    (buckets : Buckets ι) :
    ∃ state, backfillAllTracks tracks (fun _ => rows) batchSize fuel buckets = some state ∧
      state.processed = (completedRows tracks rows).length ∧
      state.assigned = ((completedRows tracks rows).map fun row =>
        (Mood.all.filter fun mood => 0 < calculateMoodScores row.2 mood).length).sum ∧
      ∀ t key, state.buckets t key =
        if t ∈ rows then backfillRow tracks t key (buckets t key) else buckets t key := by
  obtain ⟨spare, rfl⟩ : ∃ spare, fuel = spare + 1 := ⟨fuel - 1, by omega⟩
  have few : (completedRows tracks rows).length ≤ 0 + spare * batchSize :=
    calc (completedRows tracks rows).length
      _ ≤ rows.length := List.length_filterMap_le _ _
      _ ≤ spare := by omega
      _ ≤ 0 + spare * batchSize := by rw [Nat.zero_add]; exact Nat.le_mul_of_pos_right _ positive
  refine ⟨_, backfillLoop_stable tracks rows positive spare 0 _ few, ?_⟩
  rw [List.drop_zero, foldl_backfillTrack]
  refine ⟨Nat.zero_add _, Nat.zero_add _, fun t key => ?_⟩
  rw [foldl_completedRows]
  exact foldl_rewrite_apply _ (backfillRow_idempotent tracks) _ _ _ _

end Rows

/-! ### Two inputs on which the backfill and `assignTrackToMoods` disagree -/

/-- A completed track with no mood columns, no features and no tags: every mood scores `0`. -/
def unscoredTrack : Track :=
  { analysisMode := none, moodHappy := none, moodSad := none, moodRelaxed := none,
    moodAggressive := none, moodParty := none, moodAcoustic := none, moodElectronic := none,
    valence := none, energy := none, arousal := none, danceability := none, acousticness := none,
    instrumentalness := none, bpm := none, keyScale := none, moodTags := [],
    analysisStatus := some "completed" }

/-- A `happy` row left by an earlier analysis of the track. -/
def earlierRows : Buckets (Fin 1) := fun _ key => if key = "happy" then some (1 / 2) else none

/-- A completed track analysed in enhanced mode with `moodHappy = 1` and nothing else: its
`happy` score is `1/2`. -/
def happyTrack : Track :=
  { unscoredTrack with analysisMode := some "enhanced", moodHappy := some 1 }

/-- Track `0` unscored, track `1` happy. -/
def twoTracks : Fin 2 → Option Track := fun trackId =>
  if trackId = 0 then some unscoredTrack else some happyTrack

/-- The first page query meets the rows as `0, 1`, the second as `1, 0`: `findMany` has no
`orderBy`. -/
def reorderedScan : Nat → List (Fin 2) := fun skip => if skip = 0 then [0, 1] else [1, 0]

/-- **The backfill and `assignTrackToMoods` disagree, in two ways.** First, a track that now
scores `0` on `happy`: the backfill (default `batchSize`, its one page and then an empty one)
processes it and leaves its earlier `happy` row at `1/2`, while `assignTrackToMoods` on it deletes
that row. Second, pages over an unstable order: with `batchSize = 1` the first page is track `0`
and the second, taken at offset `1` of the other order, is track `0` again, so the backfill
processes two tracks, never the happy one, and leaves its `happy` row absent, while
`assignTrackToMoods` on every completed track writes it. -/
theorem backfillAllTracks_keeps_zero_score_row :
    (calculateMoodScores unscoredTrack.toTrackWithAnalysis .happy = 0 ∧
      (backfillAllTracks (fun _ => some unscoredTrack) (fun _ => [0]) defaultBatchSize 2
          earlierRows).map (fun state => (state.processed, state.buckets 0 "happy")) =
        some (1, some (1 / 2)) ∧
      assignEachTrack (fun _ => some unscoredTrack) earlierRows [0] 0 "happy" = none) ∧
    ((backfillAllTracks twoTracks reorderedScan 1 3 (fun _ _ => none)).map
        (fun state => (state.processed, state.buckets 1 "happy")) = some (2, none) ∧
      assignEachTrack twoTracks (fun _ _ => none) [0, 1] 1 "happy" = some (1 / 2)) := by
  have happy : Mood.ofKey? "happy" = some .happy := rfl
  have unmatched : ∀ rule : Rule, rule.matches unscoredTrack.toTrackWithAnalysis = none
    | .between field _ _ => by cases field <;> rfl
    | .keyScaleIs _ => rfl
  have unscored : ∀ mood, calculateMoodScores unscoredTrack.toTrackWithAnalysis mood = 0 :=
    fun mood => (calculateMoodScores_cases _ mood).elim
      (fun ⟨_, rules⟩ => rules.trans (evaluateMoodRules_eq_zero fun rule _ => by simp [unmatched rule]))
      fun tags => tags.trans (by simp [calculateMoodScoresFromTags, unscoredTrack])
  refine ⟨?_, ?_⟩
  · -- the zero-score row
    have completed : ∀ t : Fin 1, completedAnalysis (fun _ => some unscoredTrack) t =
        some unscoredTrack.toTrackWithAnalysis := fun _ => rfl
    obtain ⟨state, ran, processed, -, rows⟩ := backfillAllTracks_of_stable
      (fun _ => some unscoredTrack) [(0 : Fin 1)] (show 0 < defaultBatchSize by decide)
      (show [(0 : Fin 1)].length < 2 by decide) earlierRows
    refine ⟨unscored _, ?_, ?_⟩
    · simp [ran, processed, rows, completedRows, completed, backfillRow, upsertedRow, happy,
        unscored, earlierRows]
    · simp [assignEachTrack_apply, assignRow, completed, scoredRow, happy, unscored]
  · -- the reordered pages
    have score : calculateMoodScores happyTrack.toTrackWithAnalysis .happy = 1 / 2 := by
      norm_num [calculateMoodScores, happyTrack, unscoredTrack, evaluateMoodRules, moodConfig,
        Rule.matches, TrackWithAnalysis.feature, Option.map]
      rw [if_neg (fun same => Option.noConfusion same)]
    have first : completedAnalysis twoTracks 0 = some unscoredTrack.toTrackWithAnalysis := rfl
    have second : completedAnalysis twoTracks 1 = some happyTrack.toTrackWithAnalysis := rfl
    refine ⟨?_, ?_⟩
    · simp [backfillAllTracks, backfillLoop, findCompleted, completedRows, first, second,
        reorderedScan, backfillTrack_eq, rewrite]
    · simp [assignEachTrack_apply, assignRow, second, scoredRow, happy, score]

end Lidify.MoodBucket
