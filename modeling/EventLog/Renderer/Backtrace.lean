import EventLog.Text.Lines
import EventLog.Text.Utf8

/-! The listing of a captured backtrace, one line for each of its lines. The payload is read
leniently and zero characters at its end are padding. -/
namespace EventLog.Backtrace

def withoutPadding (cs : List Char) : List Char := (cs.reverse.dropWhile (· = '\x00')).reverse

def frames (data : Bytes) : List String :=
  (linesOf (withoutPadding (Utf8.lossy data).toList)).map String.ofList

def lines (data : Bytes) : List String :=
  ("Backtrace:" :: frames data).map fun line => "\t" ++ line ++ "\n"

end EventLog.Backtrace
