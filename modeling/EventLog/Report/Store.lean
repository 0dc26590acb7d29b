import EventLog.Report.Event
import EventLog.Store

/-! What a store shows of its buffers: the list of them, one of them, or all. -/
namespace EventLog.Report

def uninitialized : String := "The log store has not been initialized"

/-- A line for every entry of the table. -/
def list (store : Store) : Emit Unit := do
  if !store.isInitialized then
    Emit.line uninitialized
  else
    (List.range store.config.maxBuffers).forM fun id =>
      Emit.line ("Log buffer #" ++ Numeral.decimal id ++ ": " ++
        (if store.table.ids.contains id then "initialized" else "not initialized") ++
        (if store.table.default = some id then " (default)" else ""))

/-- Runs `present` on the copied buffer, or `absent` where there is none to copy. -/
def withSnapshot (store : Store) (me : ThreadId) (id : Nat) (present : Snapshot → Emit Unit)
    (absent : Emit Unit) : Emit Unit :=
  match store.snapshot me id with
  | .ok snapshot => present snapshot
  | .error (.error _) => absent
  | .error .waits => throw .waits

/-- The events of a buffer. -/
def buffer (store : Store) (me : ThreadId) (id : Nat) : Emit Unit :=
  withSnapshot store me id (fun snapshot => events snapshot.records)
    (Emit.line ("Buffer " ++ Numeral.decimal id ++ " is not initialized."))

/-- Status and events of every entry of the table, as far as they are asked for. -/
def all (store : Store) (me : ThreadId) (withStatus withEvents : Bool) : Emit Unit := do
  if !store.isInitialized then
    Emit.line uninitialized
  else
    (List.range store.config.maxBuffers).forM fun id => do
      Emit.line ("Buffer index: " ++ Numeral.decimal id)
      withSnapshot store me id
        (fun snapshot => do
          if withStatus then status snapshot.status
          if withEvents then
            Emit.line "Log messages:"
            events snapshot.records)
        (Emit.line "This buffer is not initialized.")

end EventLog.Report
