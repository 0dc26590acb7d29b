import EventLog.Config
import EventLog.Output
import EventLog.Text.Blank

/-! The input of a console session. A line counts up to a limit of bytes; what goes beyond is thrown
away, up to the end of the line. -/
namespace EventLog

/-- What is still to be read. A broken source fails at its end instead of ending. -/
structure Source where
  rest : Bytes
  broken : Bool := false
  deriving DecidableEq

namespace Source

/-- The error at the end of a broken source. -/
def failure : Halt := .io "source broken"

def newline : UInt8 := 10

/-- The first line of at most `room` bytes, its end included, and what follows. -/
def takeLine : (room : Nat) → Bytes → Bytes × Bytes
  | 0, rest => ([], rest)
  | _, [] => ([], [])
  | room + 1, b :: rest =>
    if b = newline then ([b], rest)
    else
      let line := takeLine room rest
      (b :: line.1, line.2)

/-- What follows the end of the current line. -/
def dropLine (rest : Bytes) : Bytes := (rest.dropWhile (· ≠ newline)).drop 1

def isWhole (line : Bytes) : Bool := line.getLast? == some newline

def decode (line : Bytes) : String := String.ofList (trimEnd (Utf8.lossy line).toList)

/-- The next line without white space at its end; none at the end of input. A line that has no end
reaches the end of the source. -/
def readLine (source : Source) : Except Halt (Option String) × Source :=
  let (line, rest) := takeLine Limits.commandLine source.rest
  let left := { source with rest }
  if isWhole line then (.ok (some (decode line)), left)
  else if line.length < Limits.commandLine then
    if source.broken then (.error failure, left)
    else (.ok (if line.isEmpty then none else some (decode line)), left)
  else
    let left := { source with rest := dropLine rest }
    if source.broken && !rest.contains newline then (.error failure, left)
    else (.ok (some (decode line)), left)

end Source
end EventLog
