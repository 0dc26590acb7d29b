import EventLog.EventType
import EventLog.Text.Quoted

/-! Why an operation on a store fails, with the wording and the status code of each cause. -/
namespace EventLog

inductive Error where
  | notInitialized
  | alreadyInitialized
  | disabled
  | invalidBufferId (id : Nat)
  | noDefaultBuffer
  | invalidEventType (type : EventType)
  | eventLocked
  | noFreeBuffer (max : Nat)
  | registryFull (capacity : Nat)
  | memory (message : String)
  | invalidParameter (parameter message : String)
  | concurrency (message : String)
  | io (context cause : String)
  deriving DecidableEq, Repr

namespace Error

/-- The context of a failed input or output operation that names none. -/
def ioContext : String := "I/O operation failed"

def message : Error → String
  | notInitialized => "Log store is not initialized"
  | alreadyInitialized => "Log store is already initialized"
  | disabled => "Logging is disabled"
  | invalidBufferId id => "Invalid buffer id: " ++ Numeral.decimal id
  | noDefaultBuffer => "No default buffer"
  | invalidEventType type => "Invalid extended event type: " ++ Numeral.decimal type.id.toNat
  | eventLocked => "Event slot locked by another writer, event dropped"
  | noFreeBuffer max => "No free buffer slot (maximum " ++ Numeral.decimal max ++ " buffers)"
  | registryFull capacity => "Renderer registry full (capacity " ++ Numeral.decimal capacity ++ ")"
  | memory message => "Memory error: " ++ message
  | invalidParameter parameter message => "Invalid parameter: " ++ parameter ++ " - " ++ message
  | concurrency message => "Concurrency error: " ++ message
  | io context cause => "I/O error: " ++ context ++ ": " ++ cause

/-- What the failure was caused by, where that is an error of its own. -/
def cause? : Error → Option String
  | io _ cause => some cause
  | _ => none

def isEventLocked : Error → Bool
  | eventLocked => true
  | _ => false

/-- The status code: a dropped event and a second initialization have codes of their own. -/
def code : Error → Int
  | eventLocked => -2
  | alreadyInitialized => -3
  | _ => -1

/-- The status code of a success is zero. -/
def statusOf {α : Type} : Except Error α → Int
  | .ok _ => 0
  | .error error => error.code

/-- A constructor with named fields, as programmers write it. -/
def record (name : String) (fields : List (String × String)) : String :=
  name ++ " \x7b " ++ String.intercalate ", " (fields.map fun f => f.1 ++ ": " ++ f.2) ++ " \x7d"

/-- The error as a programmer sees it: its constructor with its fields. -/
def inspect : Error → String
  | notInitialized => "NotInitialized"
  | alreadyInitialized => "AlreadyInitialized"
  | disabled => "Disabled"
  | invalidBufferId id => record "InvalidBufferId" [("id", Numeral.decimal id)]
  | noDefaultBuffer => "NoDefaultBuffer"
  | invalidEventType type =>
    record "InvalidEventType" [("event_type", Numeral.decimal type.id.toNat)]
  | eventLocked => "EventLocked"
  | noFreeBuffer max => record "NoFreeBuffer" [("max", Numeral.decimal max)]
  | registryFull capacity => record "RegistryFull" [("capacity", Numeral.decimal capacity)]
  | memory message => record "Memory" [("message", Quoted.encode message)]
  | invalidParameter parameter message =>
    record "InvalidParameter"
      [("parameter", Quoted.encode parameter), ("message", Quoted.encode message)]
  | concurrency message => record "Concurrency" [("message", Quoted.encode message)]
  | io context cause =>
    record "Io" [("message", Quoted.encode (context ++ ": " ++ cause)),
      ("source", "Some(" ++ Quoted.encode cause ++ ")")]

end Error

/-- An operation fails with an error, or it waits for a lock that nobody else will release. -/
inductive Fault where
  | error (error : Error)
  | waits
  deriving DecidableEq, Repr

end EventLog
