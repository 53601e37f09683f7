import Lidify.Lock.DistributedLock
/-
**`withLock` invocations interleaved on one key: mutual exclusion, and where it breaks.**

`withLock(key, ttlMs, callback)` awaits `acquire`, throws `Failed to acquire lock` on `false`, and
otherwise runs `callback` and then, in `finally`, awaits `release`. Every `await` is a point where
other invocations and the clock may move, so an invocation is a small machine (`Phase`) and a run
is any sequence of `Event`s: an invocation's acquire, its callback returning (or throwing), its
release, or the clock advancing. Invocation `i` calls through the instance `lockOf i`.

* `step_keeps_leaseInvariant` / `leaseInvariant_of_reachable` — **when no two invocations share an
  owner token**, every invocation whose acquire's lease has not run out owns the store entry
  (`LeaseInvariant`). An acquire succeeds only on an absent key, so no live lease is overwritten;
  a release deletes only its own token, so no other live lease is deleted.
* `withLock_mutual_exclusion` — hence no two callbacks run at once within their leases. This is the
  guarantee for invocations through distinct instances, or for a token drawn per acquire.
* `withLock_shared_instance_overlap` — through one shared instance (the exported singleton
  `distributedLock`) the token is shared: a callback that outlives its lease, a second acquire after
  the expiry, the first invocation's release (deleting the second's entry, which carries the same
  token), and a third acquire leave two callbacks running inside their leases.
-/

namespace Lidify.Lock

/-- Where one `withLock` invocation is. -/
inductive Phase
  | idle
  | running (acquiredAt ttlMs : Nat)
  | releasing (acquiredAt ttlMs : Nat)
  | refused
  | released
  deriving DecidableEq, Repr

/-- The instant the entry written by the invocation's acquire expires, while it still holds it. -/
def Phase.leaseEnd : Phase → Option Nat
  | .running acquiredAt ttlMs => some (acquiredAt + ttlMs)
  | .releasing acquiredAt ttlMs => some (acquiredAt + ttlMs)
  | _ => none

/-- The callback is running and still within `ttlMs` of its successful acquire, so the entry that
acquire wrote has not expired. -/
def Phase.inLease (now : Nat) : Phase → Bool
  | .running acquiredAt ttlMs => now ≤ acquiredAt + ttlMs
  | _ => false

theorem Phase.leaseEnd_of_inLease {phase : Phase} {now : Nat} (inside : phase.inLease now) :
    ∃ leaseEnd, phase.leaseEnd = some leaseEnd ∧ now ≤ leaseEnd := by
  cases phase <;> simp_all [Phase.inLease, Phase.leaseEnd]

/-- The store, the clock, and every invocation's phase. -/
structure World (ι : Type) where
  store : Store
  now : Nat
  phase : ι → Phase

/-- What can happen next in an interleaving. -/
inductive Event (ι : Type)
  | acquire (i : ι) (ttlMs : Nat)
  | finish (i : ι)
  | release (i : ι)
  | tick (elapsed : Nat)
  deriving DecidableEq, Repr

section System

variable {ι : Type} (lockOf : ι → DistributedLock)

/-- Any store and clock, no invocation started. -/
def initial (store : Store) (now : Nat) : World ι := ⟨store, now, fun _ => .idle⟩

/-- Every invocation whose lease is live owns the store entry. -/
def LeaseInvariant (world : World ι) : Prop :=
  ∀ i leaseEnd, (world.phase i).leaseEnd = some leaseEnd → world.now ≤ leaseEnd →
    world.store = some ⟨(lockOf i).lockValue, leaseEnd⟩

variable {lockOf}

theorem leaseInvariant_initial (store : Store) (now : Nat) :
    LeaseInvariant lockOf (initial store now : World ι) := by
  intro i leaseEnd
  simp [initial, Phase.leaseEnd]

/-- A live lease makes the key present. -/
theorem get_of_leaseInvariant {world : World ι} (holds : LeaseInvariant lockOf world) {i : ι}
    {leaseEnd : Nat} (lease : (world.phase i).leaseEnd = some leaseEnd)
    (live : world.now ≤ leaseEnd) : get world.now world.store = some (lockOf i).lockValue := by
  rw [holds i leaseEnd lease live, get_some, if_pos live]

variable (lockOf) [DecidableEq ι]

/-- One event. An event of an invocation not in the matching phase changes nothing. -/
def next (world : World ι) : Event ι → World ι
  | .acquire i ttlMs =>
    match world.phase i with
    | .idle =>
      let attempt := (lockOf i).acquire world.now ttlMs world.store
      { world with
        store := attempt.2
        phase := Function.update world.phase i
          (if attempt.1 then .running world.now ttlMs else .refused) }
    | _ => world
  | .finish i =>
    match world.phase i with
    | .running acquiredAt ttlMs =>
      { world with phase := Function.update world.phase i (.releasing acquiredAt ttlMs) }
    | _ => world
  | .release i =>
    match world.phase i with
    | .releasing _ _ =>
      { world with
        store := ((lockOf i).release world.now world.store).2
        phase := Function.update world.phase i .released }
    | _ => world
  | .tick elapsed => { world with now := world.now + elapsed }

/-- A whole interleaving. -/
def run (world : World ι) (events : List (Event ι)) : World ι :=
  events.foldl (next lockOf) world

/-- The worlds some interleaving reaches. -/
def Reachable (world : World ι) : Prop :=
  ∃ store now events, run lockOf (initial store now) events = world

variable {lockOf}

/-- A change of invocation `i`'s phase and of the store keeps the invariant when a live lease of
the new phase owns the new store and the store is unchanged under every other live lease. -/
theorem leaseInvariant_update {world : World ι} (holds : LeaseInvariant lockOf world) {i : ι}
    {phase : Phase} {store : Store}
    (own : ∀ leaseEnd, phase.leaseEnd = some leaseEnd → world.now ≤ leaseEnd →
      store = some ⟨(lockOf i).lockValue, leaseEnd⟩)
    (others : ∀ j, j ≠ i → ∀ leaseEnd, (world.phase j).leaseEnd = some leaseEnd →
      world.now ≤ leaseEnd → store = world.store) :
    LeaseInvariant lockOf ⟨store, world.now, Function.update world.phase i phase⟩ := by
  intro j leaseEnd lease live
  dsimp only at lease live ⊢
  by_cases same : j = i
  · subst same
    exact own leaseEnd (by rwa [Function.update_same] at lease) live
  · rw [Function.update_noteq same] at lease
    rw [others j same leaseEnd lease live]
    exact holds j leaseEnd lease live

/-- **One step keeps the invariant**, provided no two invocations share a token. -/
theorem step_keeps_leaseInvariant (distinct : Function.Injective lockOf) {world : World ι}
    (holds : LeaseInvariant lockOf world) (event : Event ι) :
    LeaseInvariant lockOf (next lockOf world event) := by
  cases event with
  | acquire i ttlMs =>
    simp only [next]
    split
    case h_2 => exact holds
    case h_1 =>
      by_cases won : ((lockOf i).acquire world.now ttlMs world.store).1 = true
      · refine leaseInvariant_update holds (fun leaseEnd lease _ => ?_)
          (fun j _ leaseEnd lease live => ?_)
        · simp_all [Phase.leaseEnd, DistributedLock.acquire_store_of_true won]
        · have absent := (DistributedLock.acquire_eq_true_iff.mp won).2
          rw [get_of_leaseInvariant holds lease live] at absent
          cases absent
      · refine leaseInvariant_update holds (fun leaseEnd lease _ => ?_)
          (fun _ _ _ _ _ => DistributedLock.acquire_store_of_false (Bool.eq_false_iff.mpr won))
        simp [won, Phase.leaseEnd] at lease
  | finish i =>
    simp only [next]
    split
    case h_2 => exact holds
    case h_1 acquiredAt ttlMs running =>
      exact leaseInvariant_update holds
        (fun leaseEnd lease live => holds i leaseEnd (by rw [running]; exact lease) live)
        (fun _ _ _ _ _ => rfl)
  | release i =>
    simp only [next]
    split
    case h_2 => exact holds
    case h_1 =>
      refine leaseInvariant_update holds (fun _ lease _ => by cases lease)
        (fun j other leaseEnd lease live => ?_)
      have foreign : get world.now world.store ≠ some (lockOf i).lockValue := by
        rw [get_of_leaseInvariant holds lease live]
        exact fun equal => other (distinct (DistributedLock.ext (Option.some.inj equal)))
      simp [DistributedLock.release_store, foreign]
  | tick elapsed =>
    intro j leaseEnd lease live
    exact holds j leaseEnd lease (by simp only [next] at live; omega)

/-- **Every interleaving keeps the invariant**, provided no two invocations share a token. -/
theorem run_keeps_leaseInvariant (distinct : Function.Injective lockOf) :
    ∀ (events : List (Event ι)) {world : World ι}, LeaseInvariant lockOf world →
      LeaseInvariant lockOf (run lockOf world events)
  | [], _, holds => holds
  | event :: events, _, holds =>
    run_keeps_leaseInvariant distinct events (step_keeps_leaseInvariant distinct holds event)

theorem leaseInvariant_of_reachable (distinct : Function.Injective lockOf) {world : World ι}
    (reach : Reachable lockOf world) : LeaseInvariant lockOf world := by
  obtain ⟨store, now, events, rfl⟩ := reach
  exact run_keeps_leaseInvariant distinct events (leaseInvariant_initial store now)

/-- **Mutual exclusion within the lease.** When no two invocations share an owner token, no two
callbacks run at the same instant while each is within `ttlMs` of its own successful acquire. -/
theorem withLock_mutual_exclusion (distinct : Function.Injective lockOf) {world : World ι}
    (reach : Reachable lockOf world) {i j : ι} (different : i ≠ j) :
    ¬ ((world.phase i).inLease world.now ∧ (world.phase j).inLease world.now) := by
  rintro ⟨insideI, insideJ⟩
  have holds := leaseInvariant_of_reachable distinct reach
  obtain ⟨endI, leaseI, liveI⟩ := Phase.leaseEnd_of_inLease insideI
  obtain ⟨endJ, leaseJ, liveJ⟩ := Phase.leaseEnd_of_inLease insideJ
  have same := (holds i endI leaseI liveI).symm.trans (holds j endJ leaseJ liveJ)
  simp only [Option.some.injEq, Entry.mk.injEq] at same
  exact different (distinct (DistributedLock.ext same.1))

end System

/-- Two instances with different tokens contend: invocation `1` acquires while `0` holds the key. -/
def contendedRun : List (Event (Fin 2)) := [.acquire 0 10, .tick 4, .acquire 1 10]

/-- In the contended run `1` is refused while `0` runs inside its lease. -/
theorem withLock_mutual_exclusion_two_instances :
    Function.Injective (fun i : Fin 2 => (⟨i.val⟩ : DistributedLock)) ∧
      Reachable (fun i : Fin 2 => (⟨i.val⟩ : DistributedLock))
        (run (fun i : Fin 2 => (⟨i.val⟩ : DistributedLock)) (initial none 0) contendedRun) ∧
      (0 : Fin 2) ≠ 1 ∧
      (run (fun i : Fin 2 => (⟨i.val⟩ : DistributedLock)) (initial none 0) contendedRun).phase 1 =
        .refused ∧
      ¬ (((run (fun i : Fin 2 => (⟨i.val⟩ : DistributedLock)) (initial none 0)
            contendedRun).phase 0).inLease 4 ∧
        ((run (fun i : Fin 2 => (⟨i.val⟩ : DistributedLock)) (initial none 0)
            contendedRun).phase 1).inLease 4) := by
  have distinct : Function.Injective (fun i : Fin 2 => (⟨i.val⟩ : DistributedLock)) :=
    fun i j equal => Fin.ext (congrArg DistributedLock.lockValue equal)
  exact ⟨distinct, ⟨none, 0, _, rfl⟩, by decide, by decide,
    withLock_mutual_exclusion distinct ⟨none, 0, contendedRun, rfl⟩ (by decide : (0 : Fin 2) ≠ 1)⟩

/-- The stale release: invocation `0` outlives its lease, `1` acquires once the entry has expired,
`0`'s `finally` releases (deleting `1`'s entry), and `2` acquires. -/
def staleReleaseRun : List (Event (Fin 3)) :=
  [.acquire 0 10, .tick 11, .acquire 1 10, .finish 0, .release 0, .acquire 2 10]

/-- **Through one shared instance, two callbacks run at once inside their leases.** -/
theorem withLock_shared_instance_overlap (distributedLock : DistributedLock) :
    let world := run (fun _ : Fin 3 => distributedLock) (initial none 0) staleReleaseRun
    (world.phase 1).inLease world.now ∧ (world.phase 2).inLease world.now := by
  simp [run, staleReleaseRun, next, initial, DistributedLock.acquire, DistributedLock.release,
    get_some, Phase.inLease]

end Lidify.Lock
