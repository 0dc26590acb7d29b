import EventLog.Error
import EventLog.Memory
import EventLog.Renderer

/-! The table of renderers. Ids are handed out in ascending order and never twice, so an id keeps its
meaning for as long as the registry exists. -/
namespace EventLog

structure Registry where
  capacity : Nat
  initialized : Bool := false
  entries : List (EventType × Renderer) := []
  next : EventType := .firstDynamic

namespace Registry

/-- The renderers that are there from the start, which need no room. -/
def builtins : List (EventType × Renderer) :=
  [(.hexDump, .hexDump), (.backtrace, .backtrace)]

/-- Bytes of one entry of the table. -/
def entryBytes : Nat := 32

/-- An empty registry; none when its table cannot be reserved. -/
def new? (capacity : Nat) : Option Registry :=
  if canReserve capacity entryBytes then some { capacity } else none

/-- A second installation changes nothing. -/
def installBuiltins (registry : Registry) : Registry :=
  if registry.initialized then registry
  else
    { registry with
      initialized := true
      entries := registry.entries ++
        builtins.filter fun new => !registry.entries.any fun old => old.1 == new.1 }

def find? (registry : Registry) (renderer : Renderer) : Option EventType :=
  (registry.entries.find? fun entry => entry.2.same renderer).map Prod.fst

/-- A renderer that is already there keeps its id, also when the table is full. -/
def register (registry : Registry) (renderer : Renderer) : Except Error EventType × Registry :=
  if !registry.initialized then (.error .notInitialized, registry)
  else
    match registry.find? renderer with
    | some type => (.ok type, registry)
    | none =>
      if registry.capacity ≤ registry.entries.length then
        (.error (.registryFull registry.capacity), registry)
      else
        (.ok registry.next,
          { registry with
            entries := registry.entries ++ [(registry.next, renderer)]
            next := registry.next.next })

def resolve? (registry : Registry) (type : EventType) : Option Renderer :=
  if registry.initialized then
    (registry.entries.find? fun entry => entry.1 == type).map Prod.snd
  else
    none

/-- Whether the type is built in or has been handed out. -/
def isValid (registry : Registry) (type : EventType) : Bool :=
  type.isBuiltin || (type.isDynamic && type.id < registry.next.id)

/-- The two renderers of a pair of types, compared. -/
def same? (registry : Registry) (a b : EventType) : Option Bool := do
  return (← registry.resolve? a).same (← registry.resolve? b)

end Registry
end EventLog
