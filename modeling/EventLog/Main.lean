import EventLog.CommandLine
import Std.Time.DateTime.Timestamp

/-! The program. Serving attaches the console to the standard streams. -/
namespace EventLog.Main

def write (stream : IO.FS.Stream) (bytes : Bytes) : IO Unit := do
  stream.write ⟨bytes.toArray⟩
  stream.flush

/-- Everything up to the end of a stream, after what was read before. -/
partial def readAll (stream : IO.FS.Stream) (read : ByteArray) : IO ByteArray := do
  let chunk ← stream.read 4096
  if chunk.isEmpty then return read else readAll stream (read ++ chunk)

/-- The time of the system clock. -/
def now : IO Instant := do
  let timestamp ← Std.Time.Timestamp.now
  return ⟨timestamp.toNanosecondsSinceUnixEpoch.val⟩

end EventLog.Main

open EventLog in
def main (arguments : List String) : IO UInt32 := do
  let out ← IO.getStdout
  -- The runtime allocates or ends the program.
  match CommandLine.run arguments (← Main.now) .ample with
  | .exit code bytes err =>
    Main.write out bytes
    (← IO.getStderr).putStr err
    return code
  | .serve settings store =>
    let input ← Main.readAll (← IO.getStdin) ByteArray.empty
    let host : Host := { store }
    let (transcript, _) := host.serve 0 { rest := input.toList } settings.banner
    Main.write out transcript.bytes
    return 0
