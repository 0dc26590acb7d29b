import EventLog.Text.Numeral

/-! Kinds of payload. The ids below 16 are kept for the kinds that are always there; a registered
renderer gets an id from 16 on. -/
namespace EventLog

structure EventType where
  id : UInt32 := 0
  deriving DecidableEq, Repr

namespace EventType

/-- No payload. -/
def none : EventType := ⟨0⟩

def hexDump : EventType := ⟨1⟩

def backtrace : EventType := ⟨2⟩

def lastBuiltin : EventType := backtrace

def firstDynamic : EventType := ⟨16⟩

def isNone (type : EventType) : Bool := type == none

def isBuiltin (type : EventType) : Bool := none.id < type.id && type.id ≤ lastBuiltin.id

def isDynamic (type : EventType) : Bool := firstDynamic.id ≤ type.id

def next (type : EventType) : EventType := ⟨type.id + 1⟩

def text (type : EventType) : String :=
  if type = none then "none"
  else if type = hexDump then "hexdump"
  else if type = backtrace then "backtrace"
  else "custom#" ++ Numeral.decimal type.id.toNat

end EventType
end EventLog
