import EventLog.Config
import EventLog.Event
import EventLog.Instant
import EventLog.SlotClaim
import EventLog.Text.Field

/-! The slot of a ring: text fields of fixed size, overwritten in place by every new event. -/
namespace EventLog

/-- A payload with the renderer that its type named when it was written, if there was one. -/
structure StoredPayload where
  type : EventType
  data : Bytes
  renderer : Option Renderer

/-- An event copied out of a slot. Empty texts are absent, except for the message. -/
structure Record where
  slot : Nat := 0
  thread : Option String := none
  function : Option String := none
  message : String
  line : Option UInt32 := none
  time : Instant := {}
  indent : UInt8 := 0
  payload : Option StoredPayload := none

structure Slot where
  claim : SlotClaim := {}
  used : Bool := false
  thread : Field Limits.threadCapacity := {}
  function : Field Limits.functionCapacity := {}
  message : Field Limits.messageCapacity := {}
  line : Option UInt32 := none
  time : Instant := {}
  indent : UInt8 := 0
  payload : Option StoredPayload := none

namespace Slot

/-- The payload as it is kept: an empty one, or one of no kind, is not. -/
def store (registry : Registry) (payload : Option Payload) : Option StoredPayload :=
  (payload.filter Payload.isStorable).map fun payload =>
    { type := payload.type, data := payload.data, renderer := registry.resolve? payload.type }

/-- Overwrites the slot; none if another writer holds it. Readers hold a slot only while they copy it
and are waited for. The old payload gives way to the new one, whether or not its memory is used again. -/
def populate? (slot : Slot) (event : Event) (registry : Registry) (now : Instant) : Option Slot :=
  if slot.claim.isWriting then none
  else
    some
      { claim := {}
        used := true
        thread := slot.thread.assign event.thread
        function := slot.function.assign event.function
        message := slot.message.set event.message
        line := event.line
        time := now
        indent := event.indent.getD 0
        payload := store registry event.payload }

def record (slot : Slot) (index : Nat) : Record :=
  { slot := index
    thread := slot.thread.nonEmpty?
    function := slot.function.nonEmpty?
    message := slot.message.text
    line := slot.line
    time := slot.time
    indent := slot.indent
    payload := slot.payload }

/-- The event in the slot; none if the slot is unused or being written. -/
def read? (slot : Slot) (index : Nat) : Option Record :=
  if slot.used && !slot.claim.isWriting then some (slot.record index) else none

end Slot
end EventLog
