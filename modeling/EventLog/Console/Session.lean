import EventLog.Console.Command
import EventLog.Console.Source
import EventLog.Report.Store
import EventLog.Store.Lifecycle

/-! A console session. It shows the menu, reads a line and runs its command, until the peer closes or
its input ends. The active buffer belongs to the session. -/
namespace EventLog

structure Session where
  store : Store
  me : ThreadId
  active : Nat
  source : Source
  channel : Channel
  /-- Resets that failed, in order. -/
  failures : List Error := []

/-- A step of a session. -/
abbrev Talk := ExceptT Halt (StateM Session)

namespace Session

def defaultBanner : String := "\n  >> ringlog event log console <<\n\n"

/-- The buffer that a session starts with and falls back to. -/
def fallback (store : Store) : Nat := store.table.default.getD 0

def start (store : Store) (me : ThreadId) (source : Source) (channel : Channel) : Session :=
  { store, me, active := fallback store, source, channel }

/-- Output of a session. -/
def emit (writer : Emit Unit) : Talk Unit := ExceptT.mk fun session =>
  let (result, channel) := writer.run session.channel
  (result, { session with channel })

def line (text : String) : Talk Unit := emit (Emit.line text)

def readLine : Talk (Option String) := ExceptT.mk fun session =>
  let (result, source) := session.source.readLine
  (result, { session with source })

def rule : String := String.ofList (List.replicate 80 '=')

def header (title : String) : Talk Unit :=
  line ("\n" ++ rule ++ "\n" ++ title ++ "\n" ++ rule)

def footer : Talk Unit := line (rule ++ "\n")

def showActive : Talk Unit := do
  line ("Active buffer: " ++ Numeral.decimal (← get).active ++ "\n")

def showMenu : Talk Unit := do
  Command.menu.forM line
  emit (Emit.say Command.prompt)

/-- Makes the named buffer active, or the fallback when the answer names none. -/
def select (answer : String) : Talk Unit := do
  match Command.bufferId? answer with
  | some id =>
    modify fun session => { session with active := id }
    line ("The active buffer now is " ++ Numeral.decimal id)
  | none =>
    modify fun session => { session with active := fallback session.store }
    line "Error. Fallback to the default buffer."

/-- Runs a reset on the store and reports its outcome; a failure does not end the session. -/
def reset (action : Store → ThreadId → Except Fault Unit × Store) : Talk Unit := do
  let session ← get
  let (result, store) := action session.store session.me
  set { session with store }
  match result with
  | .ok () => line "Reset has been completed."
  | .error (.error error) =>
    modify fun session => { session with failures := session.failures ++ [error] }
    line ("Reset failed: " ++ error.message)
  | .error .waits => throw .waits

def dispatch : Command → Talk Unit
  | .listBuffers => do
    header "List log buffers"
    showActive
    emit (Report.list (← get).store)
    footer
  | .selectBuffer argument => do
    header "Set the active buffer"
    let answer ←
      match argument with
      | some argument => pure (some argument)
      | none =>
        emit (Emit.say "Buffer id: ")
        readLine
    match answer with
    | some answer => select answer
    | none => pure ()
    footer
  | .dumpActive => do
    header "Show logs from buffer"
    showActive
    let session ← get
    emit (Report.buffer session.store session.me session.active)
    footer
  | .dumpAll => do
    header "Show logs from all buffers"
    let session ← get
    emit (Report.all session.store session.me true true)
    footer
  | .resetActive => do
    header "Reset the active buffer"
    showActive
    let active := (← get).active
    reset fun store me => store.reset me active
    footer
  | .resetAll => do
    header "Reset all log buffers"
    reset Store.resetAll
    footer
  | .close => pure ()
  | .unknown => pure ()

/-- At most `n` rounds of menu, line and command. -/
def rounds : (n : Nat) → Talk Unit
  | 0 => pure ()
  | n + 1 => do
    showMenu
    match ← readLine with
    | none => pure ()
    | some line =>
      match Command.parse line with
      | .close => pure ()
      | command => do
        dispatch command
        rounds n

/-- Every round but the last consumes a byte of the input, which bounds their number. -/
def run (session : Session) : Except Halt Unit × Session :=
  (rounds (session.source.rest.length + 1)).run session

end Session
end EventLog
