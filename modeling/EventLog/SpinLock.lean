/-! A busy-wait lock. Nothing else runs while a caller spins, so the outcome of spinning is settled by
the first look: the lock is free, or the caller spins for as long as it is willing to. -/
namespace EventLog

structure SpinLock where
  locked : Bool := false
  deriving DecidableEq, Repr

namespace SpinLock

/-- Whether the lock was free and is now taken. -/
def tryLock (lock : SpinLock) : Bool × SpinLock := (!lock.locked, { locked := true })

/-- None when the caller would spin forever. -/
def lock? (lock : SpinLock) : Option SpinLock :=
  if lock.locked then none else some { locked := true }

/-- Gives up after a number of spins. -/
def lockBounded (lock : SpinLock) (_spins : Nat) : Bool × SpinLock := lock.tryLock

/-- Frees the lock, whoever holds it. -/
def unlock (_ : SpinLock) : SpinLock := {}

/-- A lock together with the one guard that its user may keep. A guard frees the lock when it is
dropped, and it is dropped when another takes its place. -/
structure Guarded where
  lock : SpinLock := {}
  kept : Bool := false
  deriving DecidableEq, Repr

namespace Guarded

def keep (state : Guarded) : Guarded :=
  { lock := if state.kept then state.lock.unlock else { locked := true }, kept := true }

end Guarded

inductive Action where
  | tryLock
  | lock
  | lockBounded (spins : Nat)
  | unlock
  | guard
  | guardBounded (spins : Nat)
  | drop
  deriving DecidableEq, Repr

inductive Answer where
  | done
  | flag (value : Bool)
  | waits
  deriving DecidableEq, Repr

def step (state : Guarded) : Action → Answer × Guarded
  | .tryLock =>
    let (taken, lock) := state.lock.tryLock
    (.flag taken, { state with lock })
  | .lock =>
    match state.lock.lock? with
    | some lock => (.done, { state with lock })
    | none => (.waits, state)
  | .lockBounded spins =>
    let (taken, lock) := state.lock.lockBounded spins
    (.flag taken, { state with lock })
  | .unlock => (.done, { state with lock := state.lock.unlock })
  | .guard => if state.lock.locked then (.waits, state) else (.done, state.keep)
  | .guardBounded _ => if state.lock.locked then (.flag false, state) else (.flag true, state.keep)
  | .drop =>
    if state.kept then (.flag true, { lock := state.lock.unlock, kept := false })
    else (.flag false, state)

end SpinLock
end EventLog
