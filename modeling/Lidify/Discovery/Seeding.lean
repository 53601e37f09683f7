import Mathlib.Data.List.Sort
/-
**`DiscoverySeeding.getSeedArtists`: the artists discovery starts from.**

The history path groups the user's plays of the last four weeks by track, weights a track's count
by 2 when its latest play is in the last two weeks, keeps the tracks with at least
`MIN_PLAYS_THRESHOLD` plays, and takes the `RECENT_PLAYS_LIMIT` best-weighted ones. With fewer than
`MIN_PLAYS_THRESHOLD` of them it falls back to the artists with the most library albums. Otherwise
it reads those tracks back from the database, keeps those in library albums, and collects the
first valid artist of each `artistId` in the order the rows come, up to the limit.

* `getSeedArtists`, `getFallbackSeedArtists` — the two paths over a database whose tables are
  lists: a query returns its rows in table order, so every order the database may return them in
  is the order of some table;
* `getSeedArtists_history_prefix` — on the history path the result is the first `limit` artists of
  a duplicate-free enumeration of the eligible ones, in the order the track rows come;
* `getFallbackSeedArtists_ranked` — on the fallback path every artist returned has at least as
  many library albums as any valid artist left out;
* `getSeedArtists_loses_rank` — the history path can return a lower-ranked artist in place of a
  higher one, and the fallback can return fewer artists than the limit and the eligible artists
  allow.

A `Date` is its instant in milliseconds and `subWeeks(now, n)` is `n` weeks of `604800000` ms
before it. JS's `sort` is stable, so `insertionSort` (stable) with the comparator's order sorts as
it does.
-/

namespace Lidify.Discovery

/-! ### The tables -/

/-- The `Artist` columns seeding reads. -/
structure Artist where
  id : String
  name : String
  mbid : Option String
  deriving DecidableEq, Repr

/-- The `Album` columns seeding reads. -/
structure Album where
  id : String
  artistId : String
  location : String
  deriving DecidableEq, Repr

/-- The `Track` columns seeding reads. -/
structure Track where
  id : String
  albumId : String
  deriving DecidableEq, Repr

/-- The `Play` columns seeding reads. -/
structure Play where
  userId : String
  trackId : String
  playedAt : Nat
  source : String
  deriving DecidableEq, Repr

/-- The tables, each in the order the database returns its rows. -/
structure Db where
  artists : List Artist
  albums : List Album
  tracks : List Track
  plays : List Play
  deriving DecidableEq, Repr

/-- `SeedArtist`. -/
structure SeedArtist where
  name : String
  mbid : Option String
  deriving DecidableEq, Repr

/-- `DEFAULT_SEED_COUNT`. -/
def DEFAULT_SEED_COUNT : Nat := 10

/-- `MIN_PLAYS_THRESHOLD`. -/
def MIN_PLAYS_THRESHOLD : Nat := 5

/-- `RECENT_PLAYS_LIMIT`. -/
def RECENT_PLAYS_LIMIT : Nat := 50

/-- One week in milliseconds. -/
def weekMs : Nat := 7 * 24 * 60 * 60 * 1000

/-- `subWeeks(now, weeks)`. -/
def subWeeks (now weeks : Nat) : Nat := now - weeks * weekMs

/-- `isValidMbid(mbid)`: `!!mbid && !mbid.startsWith('temp-')`. -/
def isValidMbid : Option String → Bool
  | some mbid => mbid ≠ "" && !("temp-".data.isPrefixOf mbid.data)
  | none => false

/-! ### The history path -/

/-- A `play.groupBy` row: `trackId`, `_count.id` and `_max.playedAt`. -/
structure PlayGroup where
  trackId : String
  count : Nat
  lastPlayedAt : Nat
  deriving DecidableEq, Repr

/-- `prisma.play.groupBy({ by: ['trackId'], where, _count: { id: true },
_max: { playedAt: true } })` over the rows `where` matches: one row per track, in the order the
tracks first occur. -/
def groupPlays (plays : List Play) : List PlayGroup :=
  (plays.map (·.trackId)).eraseDups.map fun trackId =>
    let rows := plays.filter (·.trackId = trackId)
    ⟨trackId, rows.length, rows.foldl (fun latest play => max latest play.playedAt) 0⟩

/-- `recentPlays`: the user's plays since `fourWeeksAgo` from `LIBRARY` or `DISCOVERY_KEPT`,
grouped by track. -/
def recentPlays (db : Db) (userId : String) (fourWeeksAgo : Nat) : List PlayGroup :=
  groupPlays (db.plays.filter fun play =>
    play.userId = userId && fourWeeksAgo ≤ play.playedAt &&
      play.source ∈ ["LIBRARY", "DISCOVERY_KEPT"])

/-- An entry of `weightedPlays`. -/
structure WeightedPlay where
  trackId : String
  weightedCount : Nat
  rawCount : Nat
  deriving DecidableEq, Repr

/-- `weightedPlays`: each group weighted by 2 when its latest play is since `twoWeeksAgo`, those
with `MIN_PLAYS_THRESHOLD` plays kept, sorted by weighted count downwards, the first
`RECENT_PLAYS_LIMIT` taken. -/
def weightedPlays (recent : List PlayGroup) (twoWeeksAgo : Nat) : List WeightedPlay :=
  (((recent.map fun play =>
      let weight := if twoWeeksAgo ≤ play.lastPlayedAt then 2 else 1
      (⟨play.trackId, play.count * weight, play.count⟩ : WeightedPlay)).filter
    fun play => MIN_PLAYS_THRESHOLD ≤ play.rawCount).insertionSort
    fun a b => b.weightedCount ≤ a.weightedCount).take RECENT_PLAYS_LIMIT

/-- A `track.findMany` row with its album and the album's artist. -/
structure TrackRow where
  track : Track
  album : Album
  artist : Artist
  deriving DecidableEq, Repr

/-- `prisma.track.findMany({ where: { id: { in: trackIds }, album: { location: 'LIBRARY' } },
include: { album: { include: { artist: true } } } })`. -/
def findSeedTracks (db : Db) (trackIds : List String) : List TrackRow :=
  db.tracks.filterMap fun track =>
    if track.id ∈ trackIds then
      match db.albums.find? (·.id = track.albumId) with
      | some album =>
        if album.location = "LIBRARY" then
          (db.artists.find? (·.id = album.artistId)).map (⟨track, album, ·⟩)
        else none
      | none => none
    else none

/-- One pass of the `artistMap` loop: an artist not yet in the map is set when its mbid is valid. -/
def collectArtist (artistMap : List (String × SeedArtist)) (row : TrackRow) :
    List (String × SeedArtist) :=
  if !(artistMap.any (·.1 = row.album.artistId)) then
    if isValidMbid row.artist.mbid then
      artistMap ++ [(row.album.artistId, ⟨row.artist.name, row.artist.mbid⟩)]
    else artistMap
  else artistMap

/-- `artistMap` after the loop, as its entries in insertion order. -/
def collectArtists (rows : List TrackRow) : List (String × SeedArtist) :=
  rows.foldl collectArtist []

/-! ### The fallback path -/

/-- An `album.groupBy` row: `artistId` and `_count.id`. -/
structure AlbumGroup where
  artistId : String
  count : Nat
  deriving DecidableEq, Repr

/-- `prisma.album.groupBy({ by: ['artistId'], _count: { id: true } })` over the rows `where`
matches: one row per artist, in the order the artists first occur. -/
def groupAlbums (albums : List Album) : List AlbumGroup :=
  (albums.map (·.artistId)).eraseDups.map fun artistId =>
    ⟨artistId, (albums.filter (·.artistId = artistId)).length⟩

/-- The groups of library albums in `orderBy: { _count: { id: 'desc' } }`, ties in the order the
artists first occur. -/
def rankedAlbumGroups (db : Db) : List AlbumGroup :=
  (groupAlbums (db.albums.filter (·.location = "LIBRARY"))).insertionSort
    fun a b => b.count ≤ a.count

/-- The artists `getFallbackSeedArtists(limit)` returns: those of the first `limit` ranked groups
(`take: limit`) from `artist.findMany`, with a valid mbid. -/
def fallbackArtists (db : Db) (limit : Nat) : List Artist :=
  let albums := (rankedAlbumGroups db).take limit
  let artists := db.artists.filter (·.id ∈ albums.map (·.artistId))
  artists.filter (isValidMbid ·.mbid)

/-- `getFallbackSeedArtists(limit)`. -/
def getFallbackSeedArtists (db : Db) (limit : Nat) : List SeedArtist :=
  (fallbackArtists db limit).map fun artist => ⟨artist.name, artist.mbid⟩

/-! ### `getSeedArtists` -/

/-- The candidate tracks at `now`: `weightedPlays`. -/
def seedCandidates (db : Db) (now : Nat) (userId : String) : List WeightedPlay :=
  weightedPlays (recentPlays db userId (subWeeks now 4)) (subWeeks now 2)

/-- `getSeedArtists(userId, seedCount)` at the instant `now`. -/
def getSeedArtists (db : Db) (now : Nat) (userId : String) (seedCount : Option Nat) :
    List SeedArtist :=
  let limit := seedCount.getD DEFAULT_SEED_COUNT
  let weighted := seedCandidates db now userId
  if weighted.length < MIN_PLAYS_THRESHOLD then getFallbackSeedArtists db limit
  else
    let tracks := findSeedTracks db (weighted.map (·.trackId))
    ((collectArtists tracks).map (·.2)).take limit

/-! ### How each path ranks an artist, and two libraries -/

/-- How much play history an artist has on the history path: the best weighted count among the
candidate tracks in library albums that are its. -/
def historyRank (db : Db) (candidates : List WeightedPlay) (artistId : String) : Nat :=
  ((candidates.filter fun play =>
      (findSeedTracks db [play.trackId]).any (·.album.artistId = artistId)).map
    (·.weightedCount)).foldl max 0

/-- What the fallback path orders artists by: the number of their albums in the library. -/
def libraryAlbumCount (db : Db) (artistId : String) : Nat :=
  (db.albums.filter fun album => album.artistId = artistId ∧ album.location = "LIBRARY").length

/-- Five plays of a track, at one instant. -/
def fivePlays (trackId : String) (playedAt : Nat) : List Play :=
  List.replicate 5 ⟨"u", trackId, playedAt, "LIBRARY"⟩

/-- The instant of the examples: five weeks after the epoch. -/
def seedNow : Nat := 5 * weekMs

/-- Artist `X` with four tracks played five times three weeks ago, and artist `Y` with one track
played five times this week; `X`'s tracks come first. -/
def historyDb : Db where
  artists := [⟨"X", "X", some "mb-x"⟩, ⟨"Y", "Y", some "mb-y"⟩]
  albums := [⟨"ax", "X", "LIBRARY"⟩, ⟨"ay", "Y", "LIBRARY"⟩]
  tracks := [⟨"t1", "ax"⟩, ⟨"t2", "ax"⟩, ⟨"t3", "ax"⟩, ⟨"t4", "ax"⟩, ⟨"t5", "ay"⟩]
  plays := fivePlays "t1" (2 * weekMs) ++ fivePlays "t2" (2 * weekMs) ++
    fivePlays "t3" (2 * weekMs) ++ fivePlays "t4" (2 * weekMs) ++ fivePlays "t5" (5 * weekMs)

/-- No plays; artist `T`, with a temporary mbid, has two library albums, and `V` one. -/
def fallbackDb : Db where
  artists := [⟨"T", "T", some "temp-t"⟩, ⟨"V", "V", some "mb-v"⟩]
  albums := [⟨"at1", "T", "LIBRARY"⟩, ⟨"at2", "T", "LIBRARY"⟩, ⟨"av", "V", "LIBRARY"⟩]
  tracks := []
  plays := []

/-! ### Grouping keeps every key -/

theorem mem_eraseDups_loop {α : Type} [BEq α] [LawfulBEq α] {a : α} :
    ∀ (as bs : List α), a ∈ List.eraseDups.loop as bs ↔ a ∈ as ∨ a ∈ bs
  | [], bs => by simp [List.eraseDups.loop]
  | x :: xs, bs => by
    unfold List.eraseDups.loop
    split <;> rename_i seen
    · have seen : x ∈ bs := List.elem_iff.mp seen
      rw [mem_eraseDups_loop xs bs, List.mem_cons]
      exact ⟨fun h => h.imp_left .inr, by rintro ((rfl | h) | h); exacts [.inr seen, .inl h, .inr h]⟩
    · rw [mem_eraseDups_loop xs (x :: bs), List.mem_cons, List.mem_cons]
      exact or_left_comm.trans or_assoc.symm

theorem mem_eraseDups {α : Type} [BEq α] [LawfulBEq α] {a : α} {as : List α} :
    a ∈ as.eraseDups ↔ a ∈ as := by
  simp [List.eraseDups, mem_eraseDups_loop]

/-! ### The history path keeps every eligible artist once -/

/-- `artistMap` holds each valid artist of the rows read so far once, and nothing else. -/
structure Collected (rows : List TrackRow) (artistMap : List (String × SeedArtist)) : Prop where
  nodup : (artistMap.map (·.1)).Nodup
  sound : ∀ entry ∈ artistMap, ∃ row ∈ rows, isValidMbid row.artist.mbid = true ∧
    row.album.artistId = entry.1 ∧ entry.2 = ⟨row.artist.name, row.artist.mbid⟩
  complete : ∀ row ∈ rows, isValidMbid row.artist.mbid = true →
    row.album.artistId ∈ artistMap.map (·.1)

/-- **Step lemma.** -/
theorem Collected.collectArtist {rows : List TrackRow} {artistMap : List (String × SeedArtist)}
    (collected : Collected rows artistMap) (row : TrackRow) :
    Collected (rows ++ [row]) (collectArtist artistMap row) := by
  have kept : ∀ entry ∈ artistMap, ∃ row' ∈ rows ++ [row], isValidMbid row'.artist.mbid = true ∧
      row'.album.artistId = entry.1 ∧ entry.2 = ⟨row'.artist.name, row'.artist.mbid⟩ :=
    fun entry mem =>
      let ⟨row', mem', rest⟩ := collected.sound entry mem
      ⟨row', List.mem_append_left _ mem', rest⟩
  have complete : ∀ keys : List String, (∀ key ∈ artistMap.map (·.1), key ∈ keys) →
      (isValidMbid row.artist.mbid = true → row.album.artistId ∈ keys) →
      ∀ row' ∈ rows ++ [row], isValidMbid row'.artist.mbid = true → row'.album.artistId ∈ keys := by
    intro keys wider last row' mem valid
    rcases List.mem_append.mp mem with old | new
    · exact wider _ (collected.complete row' old valid)
    · exact List.mem_singleton.mp new ▸ last (List.mem_singleton.mp new ▸ valid)
  unfold Lidify.Discovery.collectArtist
  by_cases present : row.album.artistId ∈ artistMap.map (·.1)
  · obtain ⟨entry, mem, same⟩ := List.mem_map.mp present
    have found : artistMap.any (·.1 = row.album.artistId) = true :=
      List.any_eq_true.mpr ⟨entry, mem, decide_eq_true same⟩
    simp only [found, Bool.not_true, Bool.false_eq_true, if_false]
    exact ⟨collected.nodup, kept, complete _ (fun _ => id) fun _ => present⟩
  · have missing : artistMap.any (·.1 = row.album.artistId) = false :=
      List.any_eq_false.mpr fun entry mem same =>
        present (of_decide_eq_true same ▸ List.mem_map_of_mem _ mem)
    simp only [missing, Bool.not_false, if_true]
    split <;> rename_i valid
    · refine ⟨?_, fun entry mem => ?_, complete _ (fun key mem => ?_) fun _ => ?_⟩
      · rw [List.map_append]
        exact collected.nodup.append (List.nodup_singleton _) (List.disjoint_singleton.mpr present)
      · rcases List.mem_append.mp mem with old | new
        · exact kept entry old
        · exact List.mem_singleton.mp new ▸ ⟨row, List.mem_append_right _ (List.mem_singleton_self _),
            valid, rfl, rfl⟩
      · rw [List.map_append]; exact List.mem_append_left _ mem
      · rw [List.map_append]; exact List.mem_append_right _ (List.mem_singleton_self _)
    · exact ⟨collected.nodup, kept, complete _ (fun _ => id) fun last => absurd last valid⟩

/-- **Run lemma.** -/
theorem Collected.foldl {rows : List TrackRow} {artistMap : List (String × SeedArtist)}
    (collected : Collected rows artistMap) :
    ∀ more, Collected (rows ++ more) (more.foldl Lidify.Discovery.collectArtist artistMap)
  | [] => by simpa using collected
  | row :: more => by
    simpa using (collected.collectArtist row).foldl more

theorem collected_collectArtists (rows : List TrackRow) : Collected rows (collectArtists rows) :=
  (show Collected [] [] from ⟨List.nodup_nil, by simp, by simp⟩).foldl rows

/-- **The history path returns a prefix of the eligible artists in row order.** When the history
has `MIN_PLAYS_THRESHOLD` candidate tracks, `getSeedArtists` returns the first `limit` entries of
an `artistMap` that holds every valid artist of the library rows of those tracks once: as many
distinct eligible artists as the limit allows, which ones decided by the order of `artistMap`,
built in the order the rows come in. -/
theorem getSeedArtists_history_prefix (db : Db) (now : Nat) (userId : String)
    (seedCount : Option Nat)
    (history : MIN_PLAYS_THRESHOLD ≤ (seedCandidates db now userId).length) :
    ∃ artistMap, Collected (findSeedTracks db ((seedCandidates db now userId).map (·.trackId)))
        artistMap ∧
      getSeedArtists db now userId seedCount =
        (artistMap.map (·.2)).take (seedCount.getD DEFAULT_SEED_COUNT) :=
  ⟨_, collected_collectArtists _, by simp only [getSeedArtists, if_neg (Nat.not_lt.mpr history)]⟩

theorem getSeedArtists_history_prefix_seedNow :
    MIN_PLAYS_THRESHOLD ≤ (seedCandidates historyDb seedNow "u").length ∧
    ∃ artistMap, Collected (findSeedTracks historyDb
        ((seedCandidates historyDb seedNow "u").map (·.trackId))) artistMap ∧
      getSeedArtists historyDb seedNow "u" (some 1) =
        (artistMap.map (·.2)).take ((some 1).getD DEFAULT_SEED_COUNT) :=
  ⟨by decide, getSeedArtists_history_prefix historyDb seedNow "u" (some 1) (by decide)⟩

/-! ### The fallback path keeps the ranking of what it returns -/

theorem count_of_mem_rankedAlbumGroups {db : Db} {group : AlbumGroup}
    (mem : group ∈ rankedAlbumGroups db) : group.count = libraryAlbumCount db group.artistId := by
  obtain ⟨artistId, _, rfl⟩ := List.mem_map.mp ((List.mem_insertionSort _).mp mem)
  simp only [libraryAlbumCount, List.filter_filter]
  congr 1
  exact List.filter_congr fun album _ => by simp [and_comm]

theorem mem_rankedAlbumGroups {db : Db} {artistId : String}
    (owns : 0 < libraryAlbumCount db artistId) :
    ∃ group ∈ rankedAlbumGroups db, group.artistId = artistId := by
  obtain ⟨album, mem, same, library⟩ : ∃ album ∈ db.albums,
      album.artistId = artistId ∧ album.location = "LIBRARY" := by
    simpa [libraryAlbumCount, List.length_pos_iff_exists_mem] using owns
  refine ⟨_, (List.mem_insertionSort _).mpr (List.mem_map.mpr ⟨artistId, ?_, rfl⟩), rfl⟩
  exact mem_eraseDups.mpr
    (List.mem_map.mpr ⟨album, List.mem_filter.mpr ⟨mem, by simp [library]⟩, same⟩)

theorem rankedAlbumGroups_sorted (db : Db) :
    (rankedAlbumGroups db).Sorted fun a b => b.count ≤ a.count := by
  haveI : IsTotal AlbumGroup fun a b => b.count ≤ a.count :=
    ⟨fun a b => Nat.le_total b.count a.count⟩
  haveI : IsTrans AlbumGroup fun a b => b.count ≤ a.count :=
    ⟨fun _ _ _ first second => second.trans first⟩
  exact List.sorted_insertionSort _ _

/-- **The fallback keeps the ranking.** An artist the fallback returns has at least as many library
albums as any valid artist with a library album that it leaves out. -/
theorem getFallbackSeedArtists_ranked (db : Db) (limit : Nat) {kept left : Artist}
    (returned : kept ∈ fallbackArtists db limit) (listed : left ∈ db.artists)
    (valid : isValidMbid left.mbid = true) (owns : 0 < libraryAlbumCount db left.id)
    (leftOut : left ∉ fallbackArtists db limit) :
    libraryAlbumCount db left.id ≤ libraryAlbumCount db kept.id := by
  simp only [fallbackArtists, List.mem_filter, List.mem_map, decide_eq_true_eq] at returned leftOut
  obtain ⟨⟨-, group, top, same⟩, -⟩ := returned
  obtain ⟨group', ranked, same'⟩ := mem_rankedAlbumGroups owns
  have split := List.take_append_drop limit (rankedAlbumGroups db)
  have below : group' ∈ (rankedAlbumGroups db).drop limit := by
    rw [← split] at ranked
    exact (List.mem_append.mp ranked).resolve_left fun high =>
      leftOut ⟨⟨listed, group', high, same'⟩, valid⟩
  have sorted := rankedAlbumGroups_sorted db
  rw [← split] at sorted
  rw [← same, ← same', ← count_of_mem_rankedAlbumGroups ranked,
    ← count_of_mem_rankedAlbumGroups (List.mem_of_mem_take top)]
  exact (List.pairwise_append.mp sorted).2.2 group top group' below

theorem getFallbackSeedArtists_ranked_historyDb :
    Artist.mk "X" "X" (some "mb-x") ∈ fallbackArtists historyDb 1 ∧
      Artist.mk "Y" "Y" (some "mb-y") ∈ historyDb.artists ∧ isValidMbid (some "mb-y") = true ∧
      0 < libraryAlbumCount historyDb "Y" ∧
      Artist.mk "Y" "Y" (some "mb-y") ∉ fallbackArtists historyDb 1 ∧
    libraryAlbumCount historyDb "Y" ≤ libraryAlbumCount historyDb "X" :=
  ⟨by decide, by decide, by decide, by decide, by decide,
    @getFallbackSeedArtists_ranked historyDb 1 (Artist.mk "X" "X" (some "mb-x"))
      (Artist.mk "Y" "Y" (some "mb-y")) (by decide) (by decide) (by decide) (by decide) (by decide)⟩

/-! ### Losing the ranking -/

/-- **Neither path returns the top-ranked eligible artists.** With one seed asked for, the history path returns `X`,
whose best candidate has weighted count 5, and leaves out `Y`, valid and ranked 10. The fallback
takes the one artist with the most library albums, `T`, then drops it for its temporary mbid and
returns nothing, though `V` is valid and has a library album. -/
theorem getSeedArtists_loses_rank :
    getSeedArtists historyDb seedNow "u" (some 1) = [⟨"X", some "mb-x"⟩] ∧
      isValidMbid (some "mb-y") = true ∧
      historyRank historyDb (seedCandidates historyDb seedNow "u") "X" = 5 ∧
      historyRank historyDb (seedCandidates historyDb seedNow "u") "Y" = 10 ∧
    getSeedArtists fallbackDb seedNow "u" (some 1) = [] ∧ isValidMbid (some "mb-v") = true ∧
      libraryAlbumCount fallbackDb "V" = 1 := by
  decide

end Lidify.Discovery
