import EventLog.Context
import EventLog.Store.Table

/-! A store: a table of rings, the registry of renderers, the switch that lets events in, and the lock
under which the table is changed. Operations name the thread that calls them. -/
namespace EventLog

abbrev ThreadId := Nat

inductive LockState where
  | uninitialized
  | unlocked
  | simpleLocked
  | fullyLocked
  deriving DecidableEq, Repr

namespace LockState

def isInitialized (state : LockState) : Bool := state != uninitialized

def isLocked (state : LockState) : Bool := state == simpleLocked || state == fullyLocked

end LockState

structure Store where
  config : Config
  state : LockState := .uninitialized
  enabled : Bool := false
  globalLock : SpinLock := {}
  owner : Option ThreadId := none
  table : Table
  registry : Registry

/-- A buffer named by its id, or the default at the time of the call. -/
inductive Target where
  | default
  | buffer (id : Nat)
  deriving DecidableEq, Repr

namespace Store

def ofConfig (config : Config) : Store :=
  { config
    table := Table.empty config.maxBuffers
    registry := { capacity := config.rendererCapacity } }

/-- A store whose tables have the given sizes; none when they cannot be reserved. -/
def build? (config : Config) : Option Store := do
  let registry ← Registry.new? config.rendererCapacity
  let table ← Table.new? config.maxBuffers
  return { config, table, registry }

/-- Why there is no store. -/
inductive Refusal where
  | error (error : Error)
  | panic
  deriving DecidableEq, Repr

/-- A store with the given sizes, unless they are invalid or its tables too large. -/
def new? (config : Config) : Except Refusal Store :=
  match config.validate with
  | .error error => .error (.error error)
  | .ok () =>
    match build? config with
    | some store => .ok store
    | none => .error .panic

def isInitialized (store : Store) : Bool := store.state.isInitialized

def holdsGlobal (store : Store) (me : ThreadId) : Bool := store.owner == some me

/-- Whether the thread holds the full lock, and with it the lock of every ring. -/
def holdsRings (store : Store) (me : ThreadId) : Bool :=
  store.state == .fullyLocked && store.holdsGlobal me

def enable (store : Store) : Store := { store with enabled := true }

def disable (store : Store) : Store := { store with enabled := false }

def toggle (store : Store) : Store := { store with enabled := !store.enabled }

def register (store : Store) (renderer : Renderer) : Except Error EventType × Store :=
  let (result, registry) := store.registry.register renderer
  (result, { store with registry })

/-- A ring by its id, in an initialized store. -/
def require (store : Store) (id : Nat) : Except Fault Ring :=
  if !store.isInitialized then .error (.error .notInitialized)
  else
    match store.table.get? id with
    | some ring => .ok ring
    | none => .error (.error (.invalidBufferId id))

def orWaits {α : Type} : Option α → Except Fault α
  | some value => .ok value
  | none => .error .waits

def snapshot (store : Store) (me : ThreadId) (id : Nat) : Except Fault Snapshot := do
  let ring ← store.require id
  if store.holdsRings me then return ring.snapshotHeld else orWaits ring.snapshot?

/-- The bookkeeping of every ring. -/
def statuses (store : Store) (me : ThreadId) : Except Fault (List (Nat × Status)) :=
  store.table.present.mapM fun (id, ring) => do
    let status ← if store.holdsRings me then .ok ring.statusHeld else orWaits ring.status?
    return (id, status)

def reset (store : Store) (me : ThreadId) (id : Nat) : Except Fault Unit × Store :=
  match store.require id with
  | .error fault => (.error fault, store)
  | .ok ring =>
    if store.holdsRings me then
      (.ok (), { store with table := store.table.put id ring.resetHeld })
    else
      match ring.reset? with
      | some ring => (.ok (), { store with table := store.table.put id ring })
      | none => (.error .waits, store)

end Store
end EventLog
