import EventLog.EventType
import EventLog.Text.Utf8

/-! Events as they are handed to a buffer. -/
namespace EventLog

/-- Raw bytes whose kind selects the renderer. -/
structure Payload where
  type : EventType
  data : Bytes
  deriving DecidableEq

/-- Whether a buffer keeps the payload: it has a kind and is not empty. -/
def Payload.isStorable (payload : Payload) : Bool := !payload.type.isNone && !payload.data.isEmpty

/-- An absent thread or indent is filled in from the thread that writes the event. -/
structure Event where
  message : String
  thread : Option String := none
  function : Option String := none
  line : Option UInt32 := none
  indent : Option UInt8 := none
  payload : Option Payload := none

end EventLog
