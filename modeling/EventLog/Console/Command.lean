import EventLog.Text.Blank
import EventLog.Text.Numeral

/-! Console commands. The first character of a line that is not blank selects the command. -/
namespace EventLog

inductive Command where
  | listBuffers
  | selectBuffer (answer : Option String)
  | dumpActive
  | dumpAll
  | resetActive
  | resetAll
  | close
  | unknown
  deriving DecidableEq, Repr

namespace Command

def menu : List String :=
  ["[1] List log buffers", "[2] Select active buffer", "[3] Print logs from the active buffer",
    "[4] Print logs from all buffers", "[5] Reset (clear) the active buffer",
    "[6] Reset (clear) all buffers", "[7] Close connection\n"]

def prompt : String := "ringlog> "

/-- The rest of a line as an argument, unless it is blank. -/
def argument? (rest : List Char) : Option String :=
  if (trim rest).isEmpty then none else some (String.ofList (trim rest))

def parse (line : String) : Command :=
  match trim line.toList with
  | '1' :: _ => listBuffers
  | '2' :: rest => selectBuffer (argument? rest)
  | '3' :: _ => dumpActive
  | '4' :: _ => dumpAll
  | '5' :: _ => resetActive
  | '6' :: _ => resetAll
  | '7' :: _ => close
  | 'q' :: _ => close
  | _ => unknown

/-- Ids are words of 64 bits. -/
def idBound : Nat := UInt64.size

/-- A buffer id in decimal, or in hexadecimal after `0x`. -/
def bufferId? (text : String) : Option Nat :=
  match trim text.toList with
  | '0' :: 'x' :: ds => Numeral.read? 16 idBound ds
  | '0' :: 'X' :: ds => Numeral.read? 16 idBound ds
  | ds => Numeral.read? 10 idBound ds

end Command
end EventLog
