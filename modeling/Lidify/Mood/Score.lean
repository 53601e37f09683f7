import Mathlib.Algebra.Order.Field.Rat
import Mathlib.Tactic.Common
import Mathlib.Tactic.Linarith
/-
**Mood scores: `MOOD_CONFIG` and `calculateMoodScores`.**

`services/moodBucketService.ts` scores a track for each of nine moods. A track with neither
`moodHappy` nor `moodSad` nor any mood tag is scored on every mood's `fallback` rules; one with
tags but no individual moods is scored from its tags; otherwise `enhanced` tracks use the
`primary` rules and the others the `fallback` rules. A rule set scores the fraction of its rules
the track meets, a rule on a null column counting as missed.

Scores are rationals: the bucket writers compare them with `0` and copy them into rows, which the
floating-point rounding of both writers does alike.

* `calculateMoodScores_nonneg`, `calculateMoodScores_le_one` — every score lies in `[0, 1]`: a rule
  set scores at most the rules it counts, and a tag score is capped at `1`. So each mood is either
  kept (`> 0`) or dropped (`= 0`) by the bucket writers.
-/

namespace Lidify.MoodBucket

/-- The keys of `MOOD_CONFIG`, in its order. -/
inductive Mood
  | happy | sad | chill | energetic | party | focus | melancholy | aggressive | acoustic
  deriving DecidableEq, Repr

/-- `VALID_MOODS = Object.keys(MOOD_CONFIG)`. -/
def Mood.all : List Mood :=
  [.happy, .sad, .chill, .energetic, .party, .focus, .melancholy, .aggressive, .acoustic]

/-- The mood's key, the `mood` column of its bucket rows. -/
def Mood.key : Mood → String
  | .happy => "happy"
  | .sad => "sad"
  | .chill => "chill"
  | .energetic => "energetic"
  | .party => "party"
  | .focus => "focus"
  | .melancholy => "melancholy"
  | .aggressive => "aggressive"
  | .acoustic => "acoustic"

/-- The mood a bucket row's key names, if any. -/
def Mood.ofKey? : String → Option Mood
  | "happy" => some .happy
  | "sad" => some .sad
  | "chill" => some .chill
  | "energetic" => some .energetic
  | "party" => some .party
  | "focus" => some .focus
  | "melancholy" => some .melancholy
  | "aggressive" => some .aggressive
  | "acoustic" => some .acoustic
  | _ => none

theorem Mood.mem_all (mood : Mood) : mood ∈ Mood.all := by
  cases mood <;> decide

theorem Mood.ofKey?_eq_some_iff {key : String} {mood : Mood} :
    Mood.ofKey? key = some mood ↔ mood.key = key := by
  constructor
  · intro named
    unfold Mood.ofKey? at named
    split at named <;> cases named <;> rfl
  · rintro rfl
    cases mood <;> rfl

theorem Mood.key_injective : Function.Injective Mood.key := fun _ _ equal =>
  Option.some.inj ((Mood.ofKey?_eq_some_iff.mpr equal).symm.trans (Mood.ofKey?_eq_some_iff.mpr rfl))

/-- The numeric `Track` columns the rules read. -/
inductive Feature
  | moodHappy | moodSad | moodRelaxed | moodAggressive | moodParty | moodAcoustic | moodElectronic
  | valence | energy | arousal | danceability | acousticness | instrumentalness | bpm
  deriving DecidableEq, Repr

/-- `TrackWithAnalysis`, without its `id`. -/
structure TrackWithAnalysis where
  analysisMode : Option String
  moodHappy : Option ℚ
  moodSad : Option ℚ
  moodRelaxed : Option ℚ
  moodAggressive : Option ℚ
  moodParty : Option ℚ
  moodAcoustic : Option ℚ
  moodElectronic : Option ℚ
  valence : Option ℚ
  energy : Option ℚ
  arousal : Option ℚ
  danceability : Option ℚ
  acousticness : Option ℚ
  instrumentalness : Option ℚ
  bpm : Option ℚ
  keyScale : Option String
  moodTags : List String
  deriving DecidableEq

/-- `track[field]`. -/
def TrackWithAnalysis.feature (track : TrackWithAnalysis) : Feature → Option ℚ
  | .moodHappy => track.moodHappy
  | .moodSad => track.moodSad
  | .moodRelaxed => track.moodRelaxed
  | .moodAggressive => track.moodAggressive
  | .moodParty => track.moodParty
  | .moodAcoustic => track.moodAcoustic
  | .moodElectronic => track.moodElectronic
  | .valence => track.valence
  | .energy => track.energy
  | .arousal => track.arousal
  | .danceability => track.danceability
  | .acousticness => track.acousticness
  | .instrumentalness => track.instrumentalness
  | .bpm => track.bpm

/-- One entry of a rule set: `{ min?, max? }` on a numeric column, or `keyScale: "minor"`. -/
inductive Rule
  | between (field : Feature) (min max : Option ℚ)
  | keyScaleIs (scale : String)
  deriving DecidableEq

/-- Whether the track meets the rule; `none` when the column is null (`continue`). -/
def Rule.matches (track : TrackWithAnalysis) : Rule → Option Bool
  | .between field min max =>
    (track.feature field).map fun value => min.all (· ≤ value) && max.all (value ≤ ·)
  | .keyScaleIs scale => track.keyScale.map (· == scale)

/-- A mood's entry of `MOOD_CONFIG`, without the display fields. -/
structure MoodConfig where
  moodTagKeywords : List String
  primary : List Rule
  fallback : List Rule

/-- `MOOD_CONFIG`. -/
def moodConfig : Mood → MoodConfig
  | .happy =>
    ⟨["happy", "upbeat", "cheerful", "joyful", "positive"],
      [.between .moodHappy (some 0.5) none, .between .moodSad none (some 0.4)],
      [.between .valence (some 0.6) none, .between .energy (some 0.5) none]⟩
  | .sad =>
    ⟨["sad", "melancholic", "melancholy", "dark", "somber"],
      [.between .moodSad (some 0.5) none, .between .moodHappy none (some 0.4)],
      [.between .valence none (some 0.35), .keyScaleIs "minor"]⟩
  | .chill =>
    ⟨["relaxed", "chill", "calm", "mellow"],
      [.between .moodRelaxed (some 0.5) none, .between .moodAggressive none (some 0.3)],
      [.between .energy none (some 0.5), .between .arousal none (some 0.5)]⟩
  | .energetic =>
    ⟨["energetic", "powerful", "exciting"],
      [.between .arousal (some 0.6) none, .between .energy (some 0.7) none],
      [.between .bpm (some 120) none, .between .energy (some 0.7) none]⟩
  | .party =>
    ⟨["party", "danceable", "groovy"],
      [.between .moodParty (some 0.5) none, .between .danceability (some 0.6) none],
      [.between .danceability (some 0.7) none, .between .energy (some 0.6) none]⟩
  | .focus =>
    ⟨["instrumental"],
      [.between .instrumentalness (some 0.5) none, .between .moodRelaxed (some 0.3) none],
      [.between .instrumentalness (some 0.5) none, .between .energy (some 0.2) (some 0.6)]⟩
  | .melancholy =>
    ⟨["sad", "melancholic", "emotional", "dark"],
      [.between .moodSad (some 0.4) none, .between .valence none (some 0.4)],
      [.between .valence none (some 0.35), .keyScaleIs "minor"]⟩
  | .aggressive =>
    ⟨["aggressive", "angry"],
      [.between .moodAggressive (some 0.5) none],
      [.between .energy (some 0.8) none, .between .arousal (some 0.7) none]⟩
  | .acoustic =>
    ⟨["acoustic"],
      [.between .moodAcoustic (some 0.5) none, .between .moodElectronic none (some 0.4)],
      [.between .acousticness (some 0.6) none, .between .energy (some 0.3) (some 0.6)]⟩

/-- `evaluateMoodRules`: `matchingRules / totalRules`, every rule counted in `totalRules`. -/
def evaluateMoodRules (track : TrackWithAnalysis) (rules : List Rule) : ℚ :=
  let counts := rules.foldl (fun (counts : Nat × Nat) rule =>
    (if rule.matches track = some true then counts.1 + 1 else counts.1, counts.2 + 1)) (0, 0)
  if counts.2 = 0 then 0 else (counts.1 : ℚ) / counts.2

/-- `calculateMoodScoresFromTags`: `0.3` for one matched keyword, `0.2` more for each further one,
at most `1`. Lower-casing is `String.toLower`, which maps the ASCII letters. -/
def calculateMoodScoresFromTags (moodTags : List String) (mood : Mood) : ℚ :=
  let normalizedTags := moodTags.map String.toLower
  let matchCount := ((moodConfig mood).moodTagKeywords.filter (· ∈ normalizedTags)).length
  if matchCount > 0 then min 1.0 (0.3 + ((matchCount : ℚ) - 1) * 0.2) else 0

/-- `calculateMoodScores`. -/
def calculateMoodScores (track : TrackWithAnalysis) (mood : Mood) : ℚ :=
  let hasIndividualMoods := track.moodHappy.isSome || track.moodSad.isSome
  let hasMoodTags := !track.moodTags.isEmpty
  if !hasIndividualMoods && !hasMoodTags then evaluateMoodRules track (moodConfig mood).fallback
  else if !hasIndividualMoods && hasMoodTags then calculateMoodScoresFromTags track.moodTags mood
  else
    let isEnhanced := track.analysisMode == some "enhanced"
    evaluateMoodRules track
      (if isEnhanced then (moodConfig mood).primary else (moodConfig mood).fallback)

theorem evaluateMoodRules_nonneg (track : TrackWithAnalysis) (rules : List Rule) :
    0 ≤ evaluateMoodRules track rules := by
  unfold evaluateMoodRules
  dsimp only
  split
  · exact le_rfl
  · exact div_nonneg (Nat.cast_nonneg _) (Nat.cast_nonneg _)

theorem calculateMoodScoresFromTags_nonneg (moodTags : List String) (mood : Mood) :
    0 ≤ calculateMoodScoresFromTags moodTags mood := by
  unfold calculateMoodScoresFromTags
  dsimp only
  split
  case isFalse => exact le_rfl
  case isTrue matched =>
    have one : (1 : ℚ) ≤ _ := Nat.one_le_cast.mpr matched
    exact le_min (by norm_num) (by linarith)

/-- The rules met never outnumber the rules counted. -/
theorem evaluateMoodRules_counts (track : TrackWithAnalysis) (rules : List Rule) (counts : Nat × Nat)
    (le : counts.1 ≤ counts.2) :
    (rules.foldl (fun (counts : Nat × Nat) rule =>
      (if rule.matches track = some true then counts.1 + 1 else counts.1, counts.2 + 1)) counts).1 ≤
    (rules.foldl (fun (counts : Nat × Nat) rule =>
      (if rule.matches track = some true then counts.1 + 1 else counts.1, counts.2 + 1)) counts).2 := by
  induction rules generalizing counts with
  | nil => exact le
  | cons rule rules ih =>
    refine ih _ ?_
    dsimp only
    split <;> omega

/-- A track that meets none of the rules scores `0` on them. -/
theorem evaluateMoodRules_eq_zero {track : TrackWithAnalysis} {rules : List Rule}
    (unmet : ∀ rule ∈ rules, rule.matches track ≠ some true) : evaluateMoodRules track rules = 0 := by
  have kept : ∀ (rules : List Rule) (counts : Nat × Nat),
      (∀ rule ∈ rules, rule.matches track ≠ some true) →
      (rules.foldl (fun (counts : Nat × Nat) rule =>
        (if rule.matches track = some true then counts.1 + 1 else counts.1, counts.2 + 1)) counts).1 =
      counts.1 := by
    intro rules
    induction rules with
    | nil => exact fun _ _ => rfl
    | cons rule rules ih =>
      intro counts unmet
      rw [List.foldl_cons, ih _ fun other mem => unmet other (List.mem_cons_of_mem _ mem),
        if_neg (unmet rule (List.mem_cons_self _ _))]
  unfold evaluateMoodRules
  dsimp only
  split
  · rfl
  · rw [kept rules (0, 0) unmet, Nat.cast_zero, zero_div]

theorem evaluateMoodRules_le_one (track : TrackWithAnalysis) (rules : List Rule) :
    evaluateMoodRules track rules ≤ 1 := by
  unfold evaluateMoodRules
  dsimp only
  split
  · exact zero_le_one
  · exact div_le_one_of_le₀ (Nat.cast_le.mpr (evaluateMoodRules_counts track rules _ le_rfl))
      (Nat.cast_nonneg _)

theorem calculateMoodScoresFromTags_le_one (moodTags : List String) (mood : Mood) :
    calculateMoodScoresFromTags moodTags mood ≤ 1 := by
  unfold calculateMoodScoresFromTags
  dsimp only
  split
  · exact (min_le_left _ _).trans (by norm_num)
  · exact zero_le_one

/-- A score is the score of some rules, or the score of the track's mood tags. -/
theorem calculateMoodScores_cases (track : TrackWithAnalysis) (mood : Mood) :
    (∃ rules, calculateMoodScores track mood = evaluateMoodRules track rules) ∨
      calculateMoodScores track mood = calculateMoodScoresFromTags track.moodTags mood := by
  unfold calculateMoodScores
  dsimp only
  split
  · exact .inl ⟨_, rfl⟩
  · split
    · exact .inr rfl
    · exact .inl ⟨_, rfl⟩

/-- **Every score is non-negative.** -/
theorem calculateMoodScores_nonneg (track : TrackWithAnalysis) (mood : Mood) :
    0 ≤ calculateMoodScores track mood :=
  (calculateMoodScores_cases track mood).elim
    (fun ⟨rules, rule⟩ => rule ▸ evaluateMoodRules_nonneg track rules)
    fun tags => tags ▸ calculateMoodScoresFromTags_nonneg _ mood

/-- **Every score is at most `1`.** -/
theorem calculateMoodScores_le_one (track : TrackWithAnalysis) (mood : Mood) :
    calculateMoodScores track mood ≤ 1 :=
  (calculateMoodScores_cases track mood).elim
    (fun ⟨rules, rule⟩ => rule ▸ evaluateMoodRules_le_one track rules)
    fun tags => tags ▸ calculateMoodScoresFromTags_le_one _ mood

end Lidify.MoodBucket
