import EventLog.Ring

/-! The text of events and of a ring's bookkeeping. -/
namespace EventLog

def StoredPayload.render (payload : StoredPayload) : Emit Bool :=
  match payload.renderer with
  | none => return false
  | some renderer => do
    renderer.render payload.data
    return true

namespace Report

/-- Stands for a missing text. -/
def noneMark : String := "-"

/-- The event without its payload; none if its time has no text. -/
def eventLine? (record : Record) : Option String :=
  record.time.text?.map fun time =>
    time ++ " " ++ String.join (List.replicate record.indent.toNat "  ") ++
      record.thread.getD noneMark ++ ":" ++ record.function.getD noneMark ++ ":" ++
      Numeral.decimal ((record.line.map UInt32.toNat).getD 0) ++ ": " ++
      (if record.message.isEmpty then noneMark else record.message)

/-- A payload that has a renderer follows its event between an empty line and a line end. -/
def event (record : Record) : Emit Unit := do
  match eventLine? record with
  | none => throw .panic
  | some line => Emit.line line
  match record.payload.filter fun payload => payload.renderer.isSome with
  | none => return
  | some payload =>
    Emit.line ""
    let _ ← payload.render
    Emit.line ""

def events (records : List Record) : Emit Unit := records.forM event

def status (status : Status) : Emit Unit := do
  Emit.line "Buffer status:"
  Emit.line ("  Buffer size         : " ++ Numeral.decimal status.capacity)
  Emit.line ("  Next write index    : " ++ Numeral.decimal status.next)
  Emit.line ("  Used slots          : " ++ Numeral.decimal status.used)
  Emit.line ("  Buffer wrapped      : " ++ Numeral.decimal status.wraps.toNat)
  Emit.line ("  Dropped events      : " ++ Numeral.decimal status.dropped.toNat)
  Emit.line ""

end Report
end EventLog
