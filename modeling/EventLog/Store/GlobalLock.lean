import EventLog.Store

/-! The global lock. A simple lock orders the changes to the table. A full lock also switches the store
off and holds the lock of every ring, so that nothing moves until it is released; the thread that
holds it still reads and resets. -/
namespace EventLog

/-- What the holder of the global lock keeps: the rings it locked, and for a full lock the position of
the switch to return to. A retired store is left uninitialized. -/
structure Guard where
  held : List Nat := []
  restore : Option Bool := none
  retired : Bool := false
  deriving DecidableEq, Repr

namespace Guard

def isFull (guard : Guard) : Bool := guard.restore.isSome

def retire (guard : Guard) : Guard :=
  { guard with retired := true, restore := guard.restore.map fun _ => false }

def inspect (guard : Guard) : String :=
  let flag (b : Bool) := if b then "true" else "false"
  Error.record "GlobalLockGuard"
    [("full", flag guard.isFull), ("held_buffers", Numeral.decimal guard.held.length),
      ("retired", flag guard.retired)]

end Guard

namespace Store

def alreadyHeld : Error := .concurrency "Global lock is already held by this thread"

def lockGlobal (store : Store) (me : ThreadId) (full : Bool) : Except Fault Guard × Store :=
  if store.holdsGlobal me then (.error (.error alreadyHeld), store)
  else if !store.isInitialized then (.error (.error .notInitialized), store)
  else
    match store.globalLock.lock? with
    | none => (.error .waits, store)
    | some globalLock =>
      let owned := { store with globalLock, owner := some me }
      if full then
        match store.table.mapRings? Ring.acquire? with
        | none => (.error .waits, store)
        | some table =>
          (.ok { held := store.table.ids, restore := some store.enabled },
            { owned with table, enabled := false, state := .fullyLocked })
      else
        (.ok {}, { owned with state := .simpleLocked })

def release (store : Store) (guard : Guard) : Store :=
  { store with
    table := store.table.mapAt guard.held Ring.release
    enabled := guard.restore.getD store.enabled
    state := if guard.retired then .uninitialized else .unlocked
    owner := none
    globalLock := store.globalLock.unlock }

/-- Runs a change under the global lock and releases it, whether the change fails or not. -/
def underLock {α : Type} (store : Store) (me : ThreadId) (full : Bool)
    (change : Store → Except Fault α × Store) : Except Fault α × Store :=
  match store.lockGlobal me full with
  | (.error fault, store) => (.error fault, store)
  | (.ok guard, store) =>
    let (result, store) := change store
    (result, store.release guard)

end Store
end EventLog
