import EventLog.Ring

/-! The table of buffers of a store: a fixed number of entries, each free or holding a ring, and the
default among them. -/
namespace EventLog

structure Table where
  entries : List (Option Ring)
  default : Option Nat := none

namespace Table

def empty (size : Nat) : Table := { entries := List.replicate size none }

/-- Bytes of one entry. -/
def entryBytes : Nat := 8

/-- An empty table; none when it cannot be reserved. -/
def new? (size : Nat) : Option Table :=
  if canReserve size entryBytes then some (empty size) else none

def size (table : Table) : Nat := table.entries.length

def get? (table : Table) (id : Nat) : Option Ring := table.entries[id]?.join

def put (table : Table) (id : Nat) (ring : Ring) : Table :=
  { table with entries := table.entries.set id (some ring) }

/-- The rings that are there with their ids, ascending. -/
def present (table : Table) : List (Nat × Ring) :=
  table.entries.zipIdx.filterMap fun entry => entry.1.map fun ring => (entry.2, ring)

def ids (table : Table) : List Nat := table.present.map Prod.fst

/-- The lowest free entry. -/
def free? (table : Table) : Option Nat := table.entries.findIdx? Option.isNone

/-- Applies a change to every ring. -/
def mapRings (f : Ring → Ring) (table : Table) : Table :=
  { table with entries := table.entries.map (Option.map f) }

/-- Applies a change to every ring, unless one of them refuses it. -/
def mapRings? (f : Ring → Option Ring) (table : Table) : Option Table :=
  (table.entries.mapM fun
    | some ring => (f ring).map some
    | none => some none).map fun entries => { table with entries }

/-- Applies a change to the rings with the given ids. -/
def mapAt (ids : List Nat) (f : Ring → Ring) (table : Table) : Table :=
  { table with
    entries := table.entries.zipIdx.map fun entry =>
      if ids.contains entry.2 then entry.1.map f else entry.1 }

/-- Adds a ring in a free entry; it becomes the default where there is none. -/
def add (table : Table) (id : Nat) (ring : Ring) : Table :=
  { table.put id ring with default := some (table.default.getD id) }

/-- Frees an entry. When it was the default, the lowest ring that is left takes over. -/
def remove (table : Table) (id : Nat) : Table :=
  let left := { table with entries := table.entries.set id none }
  if table.default = some id then { left with default := left.ids.head? } else left

end Table
end EventLog
