import Lidify.Batch.Concurrent
/-
**One `updateBatchStatus` call: its retry budget, and the call that meets no other writer.**

A call alone is driven by what the store answers at each `await`. `Replies` gives, for the pass
the call makes with `retries` conflicts behind it, what that pass's `findUnique` and conditional
`update` resolve to or throw. A pass that does not return counts exactly one retry, so every
sequence of store outcomes is one `Replies`. `exec` performs `fuel` `await`s; `trace` lists the
steps the call passes through.

* `Step.Sound.await` — every step a call passes through is `Sound`: a pending `await` is within
  `maxRetries` with every earlier pass ended in a version conflict, a pending write follows its
  pass's `findUnique`, and a result is one the loop's body returned (`Replies.Ended`);
* `writes_le_budget` — a conditional write is paid from `Step.budget`, so a call performs at most
  `maxRetries + 1` of them;
* `exec_done` — each `await` lowers `Step.awaitsLeft`, so `3 * maxRetries + 2` of them end a call;
* `updateBatchStatus_retry_budget` — together: the call returns from inside the loop what the
  first pass that did not conflict decided, or `Max retries …` after `maxRetries + 1` conflicts;
* `updateBatchStatus_first_attempt` — on the store of `Lidify.Batch.Concurrent` with no other call,
  a batch with a version is written on the first attempt;
* `updateBatchStatus_null_version_exhausts_retries` — while a batch whose version is `null` is
  read as `0`, written against `version: 0`, never matched, and the lone call spends its whole
  budget on conflicts that no writer caused.
-/

namespace Lidify.Batch

/-! ### Result texts -/

/-- Two texts that open with prefixes neither of which extends the other differ. -/
theorem ne_of_openings {p q s t : String} (left : p.data <+: s.data) (right : q.data <+: t.data)
    (differs : ¬ p.data <+: q.data ∧ ¬ q.data <+: p.data) : s ≠ t := by
  rintro rfl
  exact (List.prefix_or_prefix_of_prefix left right).elim differs.1 differs.2

theorem data_prefix_append (p x y : String) : p.data <+: (p ++ x ++ y).data := by
  simp [String.data_append]

/-! ### A call against any store -/

/-- What the store does in the pass a call makes with `retries` conflicts behind it: what its
`findUnique` resolves to (`none` for no row, else the row's nullable version) or throws, and what
its conditional `update` resolves to (the written row's version) or throws. -/
structure Replies where
  findUnique : Nat → Except StoreError (Option (Option Nat))
  update : Nat → Except StoreError (Option Nat)

/-- The pass with `retries` behind it ended in a version conflict: its `findUnique` threw one, or
it found the row and its `update` threw one. -/
def Replies.Conflicted (replies : Replies) (retries : Nat) : Prop :=
  (∃ error, replies.findUnique retries = .error error ∧ error.isVersionConflict = true) ∨
    ∃ version error, replies.findUnique retries = .ok (some version) ∧
      replies.update retries = .error error ∧ error.isVersionConflict = true

/-- The call reached the pass with `retries` behind it inside the `while`: within `maxRetries`, with
every earlier pass ended in a version conflict. -/
def Replies.Reached (replies : Replies) (maxRetries : Int) (retries : Nat) : Prop :=
  (retries : Int) ≤ maxRetries ∧ ∀ k < retries, replies.Conflicted k

/-- The results the loop's body returns, each with what the store did in the pass that returned
it: the write applied, the batch was missing, a store call threw an error that is not a version
conflict, or the `maxRetries + 1`-th conflict. -/
inductive Replies.Ended (replies : Replies) (batchId : String) (maxRetries : Int) :
    BatchUpdateResult → Prop
  | updated {retries : Nat} {version updated : Option Nat}
      (found : replies.findUnique retries = .ok (some version))
      (written : replies.update retries = .ok updated) :
      Replies.Ended replies batchId maxRetries
        ⟨true, some (updated.getD (version.getD 0 + 1)), retries, none⟩
  | missing {retries : Nat} (absent : replies.findUnique retries = .ok none) :
      Replies.Ended replies batchId maxRetries ⟨false, none, retries, some s!"Batch {batchId} not found"⟩
  | failed {retries : Nat} {error : StoreError} {message : String}
      (thrown : replies.findUnique retries = .error error ∨ ∃ version,
        replies.findUnique retries = .ok (some version) ∧ replies.update retries = .error error)
      (unexpected : error.isVersionConflict = false) (text : error.message.getD "undefined" = message) :
      Replies.Ended replies batchId maxRetries
        ⟨false, none, retries, some s!"Unexpected error: {message}"⟩
  | exhausted :
      Replies.Ended replies batchId maxRetries
        ⟨false, none, maxRetries.toNat + 1, some s!"Max retries reached after {maxRetries} attempts"⟩

section Replies

variable (batchId : String) (maxRetries : Int) (replies : Replies)

/-- The call performs its pending `await`, which the store answers from `replies`. -/
def Step.await : Step → Step
  | .read retries =>
    match replies.findUnique retries with
    | .ok found => onFound batchId retries found
    | .error error => onError maxRetries retries error
  | .write retries currentVersion =>
    match replies.update retries with
    | .ok version => onUpdated retries currentVersion version
    | .error error => onError maxRetries retries error
  | .sleep retries => onWake maxRetries retries
  | .done result => .done result

/-- The call after `fuel` more `await`s. -/
def Step.exec : Nat → Step → Step
  | 0, step => step
  | fuel + 1, step => Step.exec fuel (step.await batchId maxRetries replies)

/-- The steps a call passes through in `fuel` `await`s, the last one included. -/
def Step.trace : Nat → Step → List Step
  | 0, step => [step]
  | fuel + 1, step => step :: Step.trace fuel (step.await batchId maxRetries replies)

/-- What holds of every step a call passes through. -/
def Step.Sound : Step → Prop
  | .read retries | .sleep retries => replies.Reached maxRetries retries
  | .write retries currentVersion => replies.Reached maxRetries retries ∧
      ∃ version, replies.findUnique retries = .ok (some version) ∧ currentVersion = version.getD 0
  | .done result => replies.Ended batchId maxRetries result ∧
      ∀ k < result.retries, replies.Conflicted k

/-- The conditional writes a step can still perform. -/
def Step.budget : Step → Nat
  | .read retries | .write retries _ | .sleep retries => (maxRetries + 1 - retries).toNat
  | .done _ => 0

/-- The `await`s a step can still perform. -/
def Step.awaitsLeft : Step → Nat
  | .read retries => 3 * (maxRetries.toNat - retries) + 2
  | .write retries _ => 3 * (maxRetries.toNat - retries) + 1
  | .sleep retries => 3 * (maxRetries.toNat - retries) + 3
  | .done _ => 0

end Replies

/-- Whether a step awaits a conditional write. -/
def Step.isWrite : Step → Bool
  | .write _ _ => true
  | _ => false

/-- The moves one `await` can make: return, go from a read to its write, from a read or a write to
the next pass's sleep within the budget, or from a sleep back to the `while`'s read. -/
inductive Step.Moves (maxRetries : Int) : Step → Step → Prop
  | finish {step : Step} (result : BatchUpdateResult) : Step.Moves maxRetries step (.done result)
  | found {retries currentVersion : Nat} :
      Step.Moves maxRetries (.read retries) (.write retries currentVersion)
  | conflict {step : Step} (retries : Nat)
      (pending : step = .read retries ∨ ∃ currentVersion, step = .write retries currentVersion)
      (within : ((retries + 1 : Nat) : Int) ≤ maxRetries) :
      Step.Moves maxRetries step (.sleep (retries + 1))
  | wake {retries : Nat} : Step.Moves maxRetries (.sleep retries) (.read retries)

section Steps

variable {batchId : String} {maxRetries : Int} {replies : Replies}

@[simp] theorem Step.exec_done (fuel : Nat) (result : BatchUpdateResult) :
    (Step.done result).exec batchId maxRetries replies fuel = .done result := by
  induction fuel with
  | zero => rfl
  | succ fuel ih => exact ih

/-- The `catch` keeps a reached pass sound, given what a conflict and any other error there mean
for that pass. -/
theorem Replies.Reached.onError_sound {retries : Nat} (reached : replies.Reached maxRetries retries)
    {error : StoreError} (conflicted : error.isVersionConflict = true → replies.Conflicted retries)
    (thrown : replies.findUnique retries = .error error ∨ ∃ version,
      replies.findUnique retries = .ok (some version) ∧ replies.update retries = .error error) :
    (onError maxRetries retries error).Sound batchId maxRetries replies := by
  unfold onError
  split
  case isTrue conflict =>
    have upTo : ∀ k < retries + 1, replies.Conflicted k := fun k below =>
      (Nat.lt_succ_iff_lt_or_eq.mp below).elim (reached.2 k) fun same => same ▸ conflicted conflict
    split
    case isTrue over =>
      have last : retries = maxRetries.toNat := by have := reached.1; omega
      subst last
      exact ⟨.exhausted, upTo⟩
    case isFalse => exact ⟨by omega, upTo⟩
  case isFalse other =>
    exact ⟨.failed thrown (by simpa using other) rfl, reached.2⟩

/-- **One `await` keeps a call sound.** -/
theorem Step.Sound.await {step : Step} (sound : step.Sound batchId maxRetries replies) :
    (step.await batchId maxRetries replies).Sound batchId maxRetries replies := by
  cases step with
  | read retries =>
    cases reply : replies.findUnique retries with
    | ok found =>
      cases found with
      | none => simpa only [Step.await, reply, onFound] using ⟨.missing reply, sound.2⟩
      | some version => simpa only [Step.await, reply, onFound] using ⟨sound, version, reply, rfl⟩
    | error error =>
      simpa only [Step.await, reply] using
        sound.onError_sound (fun conflict => .inl ⟨error, reply, conflict⟩) (.inl reply)
  | write retries currentVersion =>
    obtain ⟨reached, version, found, rfl⟩ := sound
    cases reply : replies.update retries with
    | ok updated => simpa only [Step.await, reply, onUpdated] using ⟨.updated found reply, reached.2⟩
    | error error =>
      simpa only [Step.await, reply] using
        reached.onError_sound (fun conflict => .inr ⟨version, error, found, reply, conflict⟩)
          (.inr ⟨version, found, reply⟩)
  | sleep retries => simpa only [Step.await, onWake, loopHead, if_pos sound.1] using sound
  | done result => exact sound

theorem Step.Sound.trace {step : Step} (sound : step.Sound batchId maxRetries replies)
    (fuel : Nat) : ∀ other ∈ step.trace batchId maxRetries replies fuel,
      other.Sound batchId maxRetries replies := by
  induction fuel generalizing step with
  | zero => simpa [Step.trace] using sound
  | succ fuel ih => exact List.forall_mem_cons.mpr ⟨sound, ih sound.await⟩

theorem onError_moves (step : Step) (retries : Nat)
    (pending : step = .read retries ∨ ∃ currentVersion, step = .write retries currentVersion)
    (error : StoreError) : Step.Moves maxRetries step (onError maxRetries retries error) := by
  unfold onError
  split
  · split
    · exact .finish _
    · exact .conflict retries pending (by omega)
  · exact .finish _

/-- What one `await` of a sound step does, as a move. -/
theorem Step.Sound.moves {step : Step} (sound : step.Sound batchId maxRetries replies) :
    Step.Moves maxRetries step (step.await batchId maxRetries replies) := by
  cases step with
  | read retries =>
    cases reply : replies.findUnique retries with
    | ok found =>
      cases found <;> simp only [Step.await, reply, onFound]
      · exact .finish _
      · exact .found
    | error error => simpa only [Step.await, reply] using onError_moves _ retries (.inl rfl) error
  | write retries currentVersion =>
    cases reply : replies.update retries with
    | ok version => simpa only [Step.await, reply] using .finish _
    | error error =>
      simpa only [Step.await, reply] using onError_moves _ retries (.inr ⟨_, rfl⟩) error
  | sleep retries => simpa only [Step.await, onWake, loopHead, if_pos sound.1] using .wake
  | done result => exact .finish result

/-- A move pays a write from the budget when it leaves a write. -/
theorem Step.Moves.budget_le {step next : Step} (move : step.Moves maxRetries next)
    (sound : step.Sound batchId maxRetries replies) :
    next.budget maxRetries + (if step.isWrite then 1 else 0) ≤ step.budget maxRetries := by
  cases move with
  | finish =>
    cases step with
    | write retries currentVersion =>
      have := sound.1.1
      simp only [Step.budget, Step.isWrite, if_true]
      omega
    | _ => simp [Step.budget, Step.isWrite]
  | found => simp [Step.budget, Step.isWrite]
  | conflict retries pending bound =>
    rcases pending with rfl | ⟨_, rfl⟩ <;> simp [Step.budget, Step.isWrite] <;> omega
  | wake => simp [Step.budget, Step.isWrite]

/-- A move from a step that has not returned lowers the `await`s left. -/
theorem Step.Moves.awaitsLeft_lt {step next : Step} (move : step.Moves maxRetries next)
    (pending : step.result? = none) : next.awaitsLeft maxRetries < step.awaitsLeft maxRetries := by
  cases move with
  | finish => cases step <;> simp_all [Step.awaitsLeft, Step.result?]
  | found => simp only [Step.awaitsLeft]; omega
  | conflict retries pending bound =>
    rcases pending with rfl | ⟨_, rfl⟩ <;> simp only [Step.awaitsLeft] <;> omega
  | wake => simp only [Step.awaitsLeft]; omega

/-- **At most the budget's writes.** -/
theorem Step.Sound.writes_le_budget {step : Step} (sound : step.Sound batchId maxRetries replies)
    (fuel : Nat) :
    ((step.trace batchId maxRetries replies fuel).filter Step.isWrite).length ≤
      step.budget maxRetries := by
  induction fuel generalizing step with
  | zero =>
    have paid := (@Step.Moves.finish maxRetries step ⟨false, none, 0, none⟩).budget_le sound
    cases write : step.isWrite <;> simp_all [Step.trace, Step.budget]
  | succ fuel ih =>
    have paid := sound.moves.budget_le sound
    have rest := ih sound.await
    cases write : step.isWrite <;>
      simp only [write, Step.trace, List.filter_cons, List.length_cons, ↓reduceIte,
        Bool.false_eq_true] at paid ⊢ <;> omega

/-- **Enough fuel returns.** A sound call has returned, soundly, once it has performed the
`await`s it has left. -/
theorem Step.Sound.exec_returns {step : Step} (sound : step.Sound batchId maxRetries replies)
    (fuel : Nat) (enough : step.awaitsLeft maxRetries ≤ fuel) :
    ∃ result, step.exec batchId maxRetries replies fuel = .done result ∧
      (Step.done result).Sound batchId maxRetries replies := by
  induction fuel generalizing step with
  | zero => cases step <;> simp_all [Step.awaitsLeft, Step.exec]
  | succ fuel ih =>
    cases pending : step.result? with
    | none =>
      have lower := sound.moves.awaitsLeft_lt pending
      exact ih sound.await (by omega)
    | some result =>
      cases step <;> simp only [Step.result?, reduceCtorEq] at pending
      cases pending
      exact ⟨_, Step.exec_done _ _, sound⟩

end Steps

/-! ### What the call returns -/

section Ended

variable {batchId : String} {maxRetries : Int} {replies : Replies} {result : BatchUpdateResult}

/-- The pass that returned did not end in a conflict, unless it was past the budget. -/
theorem Replies.Ended.not_conflicted (ended : replies.Ended batchId maxRetries result)
    (within : (result.retries : Int) ≤ maxRetries) : ¬ replies.Conflicted result.retries := by
  cases ended with
  | updated found written => simp [Replies.Conflicted, found, written]
  | missing absent => simp [Replies.Conflicted, absent]
  | failed thrown unexpected =>
    rcases thrown with thrown | ⟨_, found, thrown⟩ <;> simp_all [Replies.Conflicted]
  | exhausted => simp at within; omega

theorem Replies.Ended.error_ne_loopExit (ended : replies.Ended batchId maxRetries result) :
    result.error ≠ some "Update loop exited unexpectedly" := by
  cases ended <;> simp only [ne_eq, Option.some.injEq, reduceCtorEq, not_false_eq_true] <;>
    exact ne_of_openings (data_prefix_append _ _ _) (List.prefix_refl _) (by decide)

theorem Replies.Ended.retries_of_maxRetries (ended : replies.Ended batchId maxRetries result)
    (exhausted : result.error = some s!"Max retries reached after {maxRetries} attempts") :
    result.retries = maxRetries.toNat + 1 := by
  cases ended with
  | exhausted => rfl
  | updated => cases exhausted
  | missing =>
    exact absurd (Option.some.inj exhausted)
      (ne_of_openings (data_prefix_append _ _ _) (data_prefix_append _ _ _) (by decide))
  | failed =>
    exact absurd (Option.some.inj exhausted)
      (ne_of_openings (data_prefix_append _ _ _) (data_prefix_append _ _ _) (by decide))

end Ended

/-- **The retry budget holds and the call returns.** Whatever the store answers, a call with
`maxRetries ≥ 0` has returned after `3 * maxRetries + 2` `await`s, from inside the loop: its result
is what its last pass decided, every pass before that one ended in a version conflict, and a
`Max retries` failure comes after `maxRetries + 1` of them. However long it runs, the call
performs at most `maxRetries + 1` conditional writes, each in a pass whose `findUnique` found the
row and none in a pass after the one that returned. -/
theorem updateBatchStatus_retry_budget (batchId : String) {maxRetries : Int} (nonneg : 0 ≤ maxRetries)
    (replies : Replies) :
    ∃ result, (start maxRetries).exec batchId maxRetries replies (3 * maxRetries.toNat + 2) =
        .done result ∧
      replies.Ended batchId maxRetries result ∧ (∀ k < result.retries, replies.Conflicted k) ∧
      result.error ≠ some "Update loop exited unexpectedly" ∧
      (result.error = some s!"Max retries reached after {maxRetries} attempts" →
        result.retries = maxRetries.toNat + 1) ∧
      ∀ fuel,
        (((start maxRetries).trace batchId maxRetries replies fuel).filter Step.isWrite).length ≤
          maxRetries.toNat + 1 ∧
        ∀ retries currentVersion,
          Step.write retries currentVersion ∈ (start maxRetries).trace batchId maxRetries replies fuel →
            retries ≤ result.retries ∧ ∃ version, replies.findUnique retries = .ok (some version) := by
  have begun : (start maxRetries).Sound batchId maxRetries replies := by
    simp [start, loopHead, nonneg, Step.Sound, Replies.Reached]
  obtain ⟨result, returned, ended, conflicts⟩ :=
    begun.exec_returns (3 * maxRetries.toNat + 2) (by simp [start, loopHead, nonneg, Step.awaitsLeft])
  refine ⟨result, returned, ended, conflicts, ended.error_ne_loopExit,
    ended.retries_of_maxRetries, fun fuel => ⟨?_, fun retries currentVersion member => ?_⟩⟩
  · have budget : (start maxRetries).budget maxRetries = maxRetries.toNat + 1 := by
      simp [start, loopHead, nonneg, Step.budget]
      omega
    exact budget ▸ begun.writes_le_budget fuel
  · obtain ⟨⟨within, before⟩, version, found, -⟩ := begun.trace fuel _ member
    refine ⟨Nat.le_of_not_lt fun later => ended.not_conflicted ?_ (before _ later), version, found⟩
    omega

/-- The store of the test that mocks a permanent conflict: the batch at version `0`, and every
`update` throwing `P2025`. -/
def persistentConflict : Replies := ⟨fun _ => .ok (some (some 0)), fun _ => .error versionConflict⟩

theorem updateBatchStatus_retry_budget_persistent_conflict :
    (0 : Int) ≤ 5 ∧ (start 5).exec "batch-1" 5 persistentConflict (3 * (5 : Int).toNat + 2) =
      .done ⟨false, none, 6, some s!"Max retries reached after {(5 : Int)} attempts"⟩ := by
  obtain ⟨result, returned, ended, -⟩ :=
    @updateBatchStatus_retry_budget "batch-1" 5 (by decide) persistentConflict
  refine ⟨by decide, returned.trans ?_⟩
  cases ended with
  | updated _ written => cases written
  | missing absent => cases absent
  | failed thrown unexpected =>
    rcases thrown with thrown | ⟨_, _, thrown⟩ <;> cases thrown
    exact absurd unexpected (by decide)
  | exhausted => rfl

/-! ### A call that meets no other writer -/

/-- One `updateBatchStatus` call on the shared store of `Lidify.Batch.Concurrent` with no other
call, after `awaits` of its `await`s. -/
def loneCall (batchId : String) (data : BatchUpdateData) (maxRetries : Int) (batch : DiscoveryBatch)
    (awaits : Nat) : World Unit :=
  run batchId (fun _ => data) (fun _ => maxRetries) (initial (fun _ => maxRetries) batch)
    (List.replicate awaits ())

theorem versionConflict_isVersionConflict : versionConflict.isVersionConflict = true := by decide

section Lone

variable {batchId : String} {data : BatchUpdateData} {maxRetries : Int}

theorem update_unit (f : Unit → Step) (step : Step) : Function.update f () step = fun _ => step :=
  funext fun u => by cases u; exact Function.update_same _ _ _

theorem run_replicate_add (world : World Unit) (first second : Nat) :
    run batchId (fun _ => data) (fun _ => maxRetries) world (List.replicate (first + second) ()) =
      run batchId (fun _ => data) (fun _ => maxRetries)
        (run batchId (fun _ => data) (fun _ => maxRetries) world (List.replicate first ()))
        (List.replicate second ()) := by
  rw [List.replicate_add]
  exact List.foldl_append _ _ _ _

/-- A returned call is left as it is. -/
theorem run_returned (batch : DiscoveryBatch) (result : BatchUpdateResult) (writes : List Unit)
    (schedule : List Unit) :
    run batchId (fun _ => data) (fun _ => maxRetries) ⟨batch, fun _ => .done result, writes⟩ schedule =
      ⟨batch, fun _ => .done result, writes⟩ := by
  induction schedule with
  | nil => rfl
  | cons _ _ ih => exact ih

theorem initial_lone (nonneg : 0 ≤ maxRetries) (batch : DiscoveryBatch) :
    (initial (fun _ => maxRetries) batch : World Unit) = ⟨batch, fun _ => .read 0, []⟩ := by
  simp [initial, start, loopHead, nonneg]

/-- A pass against a `null` version: read as `0`, the write against `version: 0` matches nothing,
and within the budget the call sleeps and reads again. -/
theorem run_null_pass (fields : BatchFields) (retries : Nat)
    (within : ((retries + 1 : Nat) : Int) ≤ maxRetries) :
    run batchId (fun _ => data) (fun _ => maxRetries) ⟨⟨fields, none⟩, fun _ => .read retries, []⟩
        (List.replicate 3 ()) =
      ⟨⟨fields, none⟩, fun _ => .read (retries + 1), []⟩ := by
  have stays : (retries : Int) + 1 ≤ maxRetries := by omega
  simp [run, next, onFound, onError, versionConflict_isVersionConflict, not_lt.mpr stays, stays,
    onWake, loopHead, update_unit]

/-- The passes before the last one against a `null` version: the call reads again each time. -/
theorem run_null_passes (nonneg : 0 ≤ maxRetries) (fields : BatchFields) {passes : Nat}
    (within : (passes : Int) ≤ maxRetries) :
    run batchId (fun _ => data) (fun _ => maxRetries) (initial (fun _ => maxRetries) ⟨fields, none⟩)
        (List.replicate (3 * passes) ()) =
      ⟨⟨fields, none⟩, fun _ => .read passes, []⟩ := by
  induction passes with
  | zero => exact initial_lone nonneg _
  | succ passes ih => rw [Nat.mul_succ, run_replicate_add, ih (by omega), run_null_pass _ _ within]

end Lone

/-- **A `null` version exhausts the retries.** A batch whose stored version is `null` is read as
`0` and written against `version: 0`, which matches no row: alone on the store, the call meets a
conflict in each of its `maxRetries + 1` passes and returns `Max retries …`, the row untouched,
although no other writer touched it. -/
theorem updateBatchStatus_null_version_exhausts_retries (batchId : String) (data : BatchUpdateData)
    {maxRetries : Int} (nonneg : 0 ≤ maxRetries) (fields : BatchFields) {awaits : Nat}
    (enough : 3 * maxRetries.toNat + 2 ≤ awaits) :
    (loneCall batchId data maxRetries ⟨fields, none⟩ awaits).step () =
        .done ⟨false, none, maxRetries.toNat + 1,
          some s!"Max retries reached after {maxRetries} attempts"⟩ ∧
      (loneCall batchId data maxRetries ⟨fields, none⟩ awaits).batch = ⟨fields, none⟩ ∧
      (loneCall batchId data maxRetries ⟨fields, none⟩ awaits).writes = [] := by
  obtain ⟨extra, rfl⟩ := Nat.exists_eq_add_of_le enough
  have over : maxRetries < maxRetries ⊔ 0 + 1 := lt_of_le_of_lt le_sup_left (Int.lt_succ _)
  have last : run batchId (fun _ => data) (fun _ => maxRetries)
      ⟨⟨fields, none⟩, fun _ => .read maxRetries.toNat, []⟩ (List.replicate 2 ()) =
      ⟨⟨fields, none⟩, fun _ => .done ⟨false, none, maxRetries.toNat + 1,
        some s!"Max retries reached after {maxRetries} attempts"⟩, []⟩ := by
    simp [run, next, onFound, onError, versionConflict_isVersionConflict, over, update_unit]
  rw [loneCall, run_replicate_add, run_replicate_add, run_null_passes nonneg _ (by omega), last,
    run_returned]
  exact ⟨rfl, rfl, rfl⟩

theorem updateBatchStatus_null_version_exhausts_retries_five :
    (0 : Int) ≤ 5 ∧ 3 * (5 : Int).toNat + 2 ≤ 17 ∧
      (loneCall "batch-1" ⟨some "scanning", none, none, none, none, none, none⟩ 5
          ⟨⟨"downloading", 0, 0, 0, 0, none, none⟩, none⟩ 17).step () =
        .done ⟨false, none, (5 : Int).toNat + 1, some s!"Max retries reached after {(5 : Int)} attempts"⟩ ∧
      (loneCall "batch-1" ⟨some "scanning", none, none, none, none, none, none⟩ 5
          ⟨⟨"downloading", 0, 0, 0, 0, none, none⟩, none⟩ 17).batch =
        ⟨⟨"downloading", 0, 0, 0, 0, none, none⟩, none⟩ ∧
      (loneCall "batch-1" ⟨some "scanning", none, none, none, none, none, none⟩ 5
          ⟨⟨"downloading", 0, 0, 0, 0, none, none⟩, none⟩ 17).writes = [] :=
  ⟨by decide, by decide, updateBatchStatus_null_version_exhausts_retries _ _ (by decide) _ (by decide)⟩

/-- **An uncontended call succeeds on its first attempt.** Alone on the store, a batch with a
version `v` is read, written against `v` and matched: the call returns `success` with version
`v + 1` and `retries: 0`, and the row holds the data and that version. -/
theorem updateBatchStatus_first_attempt (batchId : String) (data : BatchUpdateData)
    {maxRetries : Int} (nonneg : 0 ≤ maxRetries) (fields : BatchFields) (version : Nat)
    {awaits : Nat} (enough : 2 ≤ awaits) :
    (loneCall batchId data maxRetries ⟨fields, some version⟩ awaits).step () =
        .done ⟨true, some (version + 1), 0, none⟩ ∧
      (loneCall batchId data maxRetries ⟨fields, some version⟩ awaits).batch =
        ⟨overwritten fields [data], some (version + 1)⟩ ∧
      (loneCall batchId data maxRetries ⟨fields, some version⟩ awaits).writes = [()] := by
  obtain ⟨extra, rfl⟩ := Nat.exists_eq_add_of_le enough
  have first : run batchId (fun _ => data) (fun _ => maxRetries)
      (initial (fun _ => maxRetries) ⟨fields, some version⟩) (List.replicate 2 ()) =
      ⟨⟨data.apply fields, some (version + 1)⟩, fun _ => .done ⟨true, some (version + 1), 0, none⟩,
        [()]⟩ := by
    simp [run, next, initial_lone nonneg, onFound, onUpdated, update_unit]
  rw [loneCall, run_replicate_add, first, run_returned]
  exact ⟨rfl, by rw [overwritten_single], rfl⟩

theorem updateBatchStatus_first_attempt_at_zero :
    (0 : Int) ≤ 10 ∧ 2 ≤ 5 ∧
      (loneCall "batch-1" ⟨some "scanning", none, some 5, some 1, none, none, none⟩ 10
          ⟨⟨"downloading", 0, 0, 0, 0, none, none⟩, some 0⟩ 5).step () =
        .done ⟨true, some (0 + 1), 0, none⟩ ∧
      (loneCall "batch-1" ⟨some "scanning", none, some 5, some 1, none, none, none⟩ 10
          ⟨⟨"downloading", 0, 0, 0, 0, none, none⟩, some 0⟩ 5).batch =
        ⟨overwritten ⟨"downloading", 0, 0, 0, 0, none, none⟩
          [⟨some "scanning", none, some 5, some 1, none, none, none⟩], some (0 + 1)⟩ ∧
      (loneCall "batch-1" ⟨some "scanning", none, some 5, some 1, none, none, none⟩ 10
          ⟨⟨"downloading", 0, 0, 0, 0, none, none⟩, some 0⟩ 5).writes = [()] :=
  ⟨by decide, by decide, updateBatchStatus_first_attempt _ _ (by decide) _ _ (by decide)⟩

end Lidify.Batch
