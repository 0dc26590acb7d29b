import EventLog.Config
import EventLog.Text.Fit

/-! What a thread contributes to the events it writes: a name, and its call depth as indentation. -/
namespace EventLog

/-- An empty name is no name. -/
structure Context where
  name : String := ""
  depth : UInt8 := 0
  deriving DecidableEq, Repr

namespace Context

def setName (context : Context) (name : String) : Context :=
  { context with name := cut name (Limits.threadCapacity - 1) }

def clearName (context : Context) : Context := { context with name := "" }

def name? (context : Context) : Option String :=
  if context.name.isEmpty then none else some context.name

/-- The depth stays at its greatest value when a scope is entered there. -/
def enter (context : Context) : Context :=
  { context with depth := if context.depth = 255 then 255 else context.depth + 1 }

/-- Leaving a scope takes one off the depth, down to zero. -/
def leave (context : Context) : Context :=
  { context with depth := if context.depth = 0 then 0 else context.depth - 1 }

end Context
end EventLog
