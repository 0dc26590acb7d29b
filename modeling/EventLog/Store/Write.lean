import EventLog.Store

/-! Writing events to a store. The first check that fails decides the outcome; what the event leaves
open is filled in from the context of the thread that writes it. -/
namespace EventLog

/-- The event with the thread's name and depth where it gives none of its own. -/
def Context.complete (context : Context) (event : Event) : Event :=
  { event with
    thread := event.thread <|> context.name?
    indent := some (event.indent.getD context.depth) }

namespace Store

/-- The ring that a target names at this moment. -/
def resolve (store : Store) (target : Target) : Except Error (Nat × Ring) := do
  let id ←
    match target with
    | .buffer id => pure id
    | .default =>
      match store.table.default with
      | some id => pure id
      | none => throw .noDefaultBuffer
  match store.table.get? id with
  | some ring => return (id, ring)
  | none => throw (.invalidBufferId id)

/-- A payload of no kind passes; any other kind has to be known, also when there are no bytes. -/
def checkPayload (store : Store) (payload : Option Payload) : Except Error Unit :=
  match payload with
  | none => .ok ()
  | some payload =>
    if !payload.type.isNone && !store.registry.isValid payload.type then
      .error (.invalidEventType payload.type)
    else .ok ()

/-- The ring that an event goes to, or the reason why it is not let in. -/
def destination (store : Store) (target : Target) (event : Event) : Except Error (Nat × Ring) := do
  unless store.isInitialized do throw .notInitialized
  unless store.enabled do throw .disabled
  let found ← store.resolve target
  store.checkPayload event.payload
  return found

/-- Writes an event. The checks and the write are one step: nothing else happens to the store between
them. -/
def log (store : Store) (context : Context) (target : Target) (event : Event) (now : Instant) :
    Except Error Unit × Store :=
  match store.destination target event with
  | .error error => (.error error, store)
  | .ok (id, ring) =>
    let (result, ring) := ring.append (context.complete event) store.registry now
    (result, { store with table := store.table.put id ring })

end Store

def Event.ofMessage (message : String) : Event := { message }

/-- A message with a hex dump of the bytes. -/
def Event.ofHex (message : String) (data : Bytes) : Event :=
  { message, payload := some { type := .hexDump, data } }

/-- A message with the text of a captured backtrace. -/
def Event.ofBacktrace (message : String) (trace : String) : Event :=
  { message, payload := some { type := .backtrace, data := Utf8.encode trace } }

end EventLog
