import Mathlib.Logic.Function.Basic
import Mathlib.Tactic.Common
/-
**The coordination store under one lock key, and `DistributedLock`'s three operations.**

`utils/distributedLock.ts` keeps a lock as the Redis key `lock:<key>`. Every invocation this
development looks at uses the same key, so the store is the entry under that key: the owner token
written by the last successful `SET … NX PX` and the instant it expires. Redis expires a key once
the clock has passed that instant, so a key reads as live while `now ≤ expiresAt` and as absent
after (`get`), whether or not Redis has reclaimed it yet.

* `DistributedLock.acquire` — `SET lock:<key> lockValue PX ttlMs NX`, `true` iff the reply is `OK`.
  Redis refuses a non-positive expire time; the `catch` turns that error into `false`.
* `DistributedLock.release` — the Lua script: delete only if `get` returns this instance's
  `lockValue`, `true` iff `del` returned `1`.

The token is drawn once, by the constructor (`randomBytes(16)`), and lives in the instance: two
calls through one instance write the same token. Tokens are compared for equality only, so they are
natural numbers here; distinct instances draw distinct tokens.

`acquire_eq_true_iff` and `release_store` are the two facts the interleaving proofs use: an acquire
succeeds exactly on an absent key, and a release deletes exactly an entry carrying its own token.
-/

namespace Lidify.Lock

/-- An owner token (`randomBytes(16).toString('hex')`), compared only for equality. -/
abbrev Token := Nat

/-- The entry under `lock:<key>`: the value written and the instant the `PX` expiry fires. -/
structure Entry where
  value : Token
  expiresAt : Nat
  deriving DecidableEq, Repr

/-- The coordination store under the lock key: an entry, or nothing. -/
abbrev Store := Option Entry

/-- Redis `GET` at time `now`: an entry is live up to and including its expiry instant. -/
def get (now : Nat) : Store → Option Token
  | some entry => if now ≤ entry.expiresAt then some entry.value else none
  | none => none

@[simp] theorem get_none (now : Nat) : get now none = none := rfl

theorem get_some (now : Nat) (entry : Entry) :
    get now (some entry) = if now ≤ entry.expiresAt then some entry.value else none := rfl

/-- One `DistributedLock` instance: the owner token its constructor drew. -/
@[ext] structure DistributedLock where
  lockValue : Token
  deriving DecidableEq, Repr

namespace DistributedLock

/-- `acquire(key, ttlMs)`: `SET lock:<key> lockValue PX ttlMs NX` at time `now`. -/
def acquire (self : DistributedLock) (now ttlMs : Nat) (store : Store) : Bool × Store :=
  if ttlMs = 0 then (false, store)
  else match get now store with
    | some _ => (false, store)
    | none => (true, some ⟨self.lockValue, now + ttlMs⟩)

/-- `release(key)`: the compare-token-then-delete script at time `now`. -/
def release (self : DistributedLock) (now : Nat) (store : Store) : Bool × Store :=
  if get now store = some self.lockValue then (true, none) else (false, store)

variable {self : DistributedLock} {now ttlMs : Nat} {store : Store}

/-- **An acquire succeeds exactly on an absent key with a positive TTL.** -/
theorem acquire_eq_true_iff :
    (self.acquire now ttlMs store).1 = true ↔ 0 < ttlMs ∧ get now store = none := by
  unfold acquire
  split
  · simp_all
  · split <;> simp_all [Nat.pos_iff_ne_zero]

/-- A successful acquire writes its own token, expiring `ttlMs` from now. -/
theorem acquire_store_of_true (won : (self.acquire now ttlMs store).1 = true) :
    (self.acquire now ttlMs store).2 = some ⟨self.lockValue, now + ttlMs⟩ := by
  obtain ⟨positive, absent⟩ := acquire_eq_true_iff.mp won
  simp [acquire, Nat.pos_iff_ne_zero.mp positive, absent]

/-- A failed acquire leaves the store as it was. -/
theorem acquire_store_of_false (lost : (self.acquire now ttlMs store).1 = false) :
    (self.acquire now ttlMs store).2 = store := by
  unfold acquire at lost ⊢
  split
  · rfl
  · split
    · rfl
    · simp_all

/-- **A release deletes the entry iff it is live and carries this instance's token.** -/
theorem release_store :
    (self.release now store).2 = if get now store = some self.lockValue then none else store := by
  unfold release
  split <;> rfl

end DistributedLock

end Lidify.Lock
