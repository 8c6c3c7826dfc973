import Mmorpg.Transition.Lease

/-!
# The database connections

`DBConnectionPool`: the connections it owns, the idle ones, last in first out,
and the notifications under way to threads that wait in `Pop`.
-/

namespace Mmorpg

open Transition

/-- The pool's connections, those that are idle, and the calls of `notify_one`
that no waiter has answered. -/
structure DBConnectionPool where
  ownedConnections : List Nat := []
  idleConnections : List Nat := []
  notifications : Nat := 0

namespace DBConnectionPool

/-- The loop of `Connect`: it stops at the first attempt that fails. -/
def newConnections : List (Option Nat) → Option (List Nat)
  | [] => some []
  | none :: _ => none
  | some connection :: rest => (newConnections rest).map (connection :: ·)

/-- `Connect`, with the outcome of every attempt. -/
def connect (attempts : List (Option Nat)) (pool : DBConnectionPool) : Bool × DBConnectionPool :=
  match newConnections attempts with
  | none => (false, pool)
  | some connections =>
      (true,
        { pool with
          ownedConnections := pool.ownedConnections ++ connections
          idleConnections := pool.idleConnections ++ connections })

/-- `Pop` once it has the lock; without an idle connection the thread waits. -/
def pop (pool : DBConnectionPool) : Option (Nat × DBConnectionPool) :=
  match pool.idleConnections.getLast? with
  | none => none
  | some connection =>
      some (connection, { pool with idleConnections := pool.idleConnections.dropLast })

/-- `Push` returns a connection and notifies one waiter. -/
def push (connection : Nat) (pool : DBConnectionPool) : DBConnectionPool :=
  { pool with
    idleConnections := pool.idleConnections ++ [connection]
    notifications := pool.notifications + 1 }

variable {pool next : DBConnectionPool} {connection : Nat} {attempts : List (Option Nat)}

/-- The pool connects if every attempt succeeds. -/
theorem newConnections_eq_some {connections : List Nat} :
    newConnections attempts = some connections ↔ attempts = connections.map some := by
  induction attempts generalizing connections with
  | nil => cases connections <;> simp [newConnections]
  | cons attempt rest ih =>
    rcases attempt with _ | connection
    · cases connections <;> simp [newConnections]
    · cases connections <;> simp [newConnections, ih, and_comm]

/-- `Pop` takes the connection that was returned last. -/
theorem pop_eq_some : pool.pop = some (connection, next) ↔ ∃ rest,
    pool.idleConnections = rest ++ [connection] ∧ next = { pool with idleConnections := rest } := by
  unfold pop
  constructor
  · intro taken
    split at taken
    · contradiction
    · next last isLast =>
      obtain ⟨rfl, rfl⟩ := Prod.mk.inj (Option.some.inj taken)
      exact ⟨_, (List.dropLast_append_getLast? last isLast).symm, rfl⟩
  · rintro ⟨rest, idle, rfl⟩
    simp [idle]

theorem pop_eq_none : pool.pop = none ↔ pool.idleConnections = [] := by
  unfold pop
  split
  · next none_ => simpa using List.getLast?_eq_none_iff.mp none_
  · next last isLast =>
    have filled : pool.idleConnections ≠ [] := by
      rintro empty
      rw [empty] at isLast
      contradiction
    simp [filled]

end DBConnectionPool

end Mmorpg
