import EventLog.Store.GlobalLock

/-! Bringing a store up and down, and adding, removing and emptying its rings. -/
namespace EventLog.Store

/-- Brings the store up and opens it for events. A capacity other than zero asks for a default buffer.
Renderers are installed first and stay when the buffer cannot be allocated. -/
def init (store : Store) (capacity : Nat) (memory : Memory) : Except Fault Unit × Store :=
  if store.isInitialized then (.error (.error .alreadyInitialized), store)
  else
    match store.globalLock.lock? with
    | none => (.error .waits, store)
    | some _ =>
      let store := { store with registry := store.registry.installBuiltins }
      let up (table : Table) : Store := { store with table, enabled := true, state := .unlocked }
      if capacity = 0 then (.ok (), up store.table)
      else
        match Ring.new? memory (store.config.clamp capacity) with
        | .error error => (.error (.error error), store)
        | .ok ring => (.ok (), up { store.table.put 0 ring with default := some 0 })

/-- Drops every ring. Registered renderers stay. -/
def cleanup (store : Store) (me : ThreadId) : Except Fault Unit × Store :=
  match store.lockGlobal me false with
  | (.error fault, store) => (.error fault, store)
  | (.ok guard, store) =>
    (.ok (), { store with enabled := false, table := Table.empty store.table.size }.release
      guard.retire)

/-- Adds a ring in the lowest free entry. -/
def create (store : Store) (me : ThreadId) (capacity : Nat) (memory : Memory) :
    Except Fault Nat × Store :=
  store.underLock me false fun store =>
    match store.table.free? with
    | none => (.error (.error (.noFreeBuffer store.config.maxBuffers)), store)
    | some id =>
      match Ring.new? memory (store.config.clamp capacity) with
      | .error error => (.error (.error error), store)
      | .ok ring => (.ok id, { store with table := store.table.add id ring })

def delete (store : Store) (me : ThreadId) (id : Nat) : Except Fault Unit × Store :=
  store.underLock me true fun store =>
    match store.table.get? id with
    | none => (.error (.error (.invalidBufferId id)), store)
    | some _ => (.ok (), { store with table := store.table.remove id })

/-- Empties every ring, each through the lock that the thread may already hold. -/
def resetPresent (store : Store) (me : ThreadId) : Except Fault Unit × Store :=
  if store.holdsRings me then
    (.ok (), { store with table := store.table.mapRings Ring.resetHeld })
  else
    match store.table.mapRings? Ring.reset? with
    | some table => (.ok (), { store with table })
    | none => (.error .waits, store)

def resetAll (store : Store) (me : ThreadId) : Except Fault Unit × Store :=
  if store.holdsGlobal me then store.resetPresent me
  else store.underLock me false fun store => store.resetPresent me

end EventLog.Store
