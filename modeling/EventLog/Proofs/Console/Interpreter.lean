import EventLog.Console.Session
import EventLog.Proofs.Console.Line
import EventLog.Proofs.Store.Clearing

/-! The console as an interpreter. The lines of an input are a list of instructions, and every one of
them has a response: a text, and the console after it. -/
namespace EventLog

/-- A command, with the line that answers it if it asks a question. -/
structure Instruction where
  command : Command
  answer : Option String := none
  deriving DecidableEq, Repr

namespace Instruction

/-- What the lines ask for. A line that follows a bare selection is its answer and no command, and
nothing counts from the first line on that closes the session. -/
def ofLines : List String → List Instruction
  | [] => []
  | line :: lines =>
    match Command.parse line, lines with
    | .close, _ => []
    | .selectBuffer none, answer :: lines =>
      { command := .selectBuffer none, answer := some answer } :: ofLines lines
    | command, lines => { command } :: ofLines lines

/-- What a selection names: its argument, or else the answer. -/
def choice (instruction : Instruction) : Option String :=
  match instruction.command with
  | .selectBuffer (some argument) => some argument
  | .selectBuffer none => instruction.answer
  | _ => none

/-- The buffer that is active afterwards: the one that is named, or the fallback if the text names none;
without a text it stays. -/
def activate (instruction : Instruction) (fallback active : Nat) : Nat :=
  instruction.choice.elim active fun choice => (Command.bufferId? choice).getD fallback

/-- What it empties, while the given buffer is active. -/
def clearing? (instruction : Instruction) (active : Nat) : Option Clearing :=
  match instruction.command with
  | .resetActive => some (.ring active)
  | .resetAll => some .all
  | _ => none

/-- The rings that a list of instructions empties, in order. -/
def clearings (fallback : Nat) : (active : Nat) → List Instruction → List Clearing
  | _, [] => []
  | active, instruction :: instructions =>
    (instruction.clearing? active).toList ++
      clearings fallback (instruction.activate fallback active) instructions

end Instruction

/-- A session between two instructions. -/
structure Console where
  store : Store
  me : ThreadId
  active : Nat
  uses : Uses := {}
  /-- Resets that failed, in order. -/
  failures : List Error := []

/-- What a console says to an instruction, and the console afterwards. It ends early where a report
breaks off. -/
structure Response where
  text : Bytes
  halt : Option Halt := none
  console : Console

namespace Console

def start (store : Store) (me : ThreadId) (uses : Uses) : Console :=
  { store, me, active := Session.fallback store, uses }

def lineText (line : String) : Bytes := Utf8.encode (line ++ "\n")

def menu : Bytes := Command.menu.flatMap lineText ++ Utf8.encode Command.prompt

def head (title : String) : Bytes :=
  lineText ("\n" ++ Session.rule ++ "\n" ++ title ++ "\n" ++ Session.rule)

def foot : Bytes := lineText (Session.rule ++ "\n")

def activeText (console : Console) : Bytes :=
  lineText ("Active buffer: " ++ Numeral.decimal console.active ++ "\n")

/-- A section with a report of the store. -/
def present (console : Console) (above : Bytes) (report : Emit Unit) : Response :=
  let (transcript, uses) := report.transcript none console.uses
  { text := above ++ transcript.bytes ++ (if transcript.halt.isNone then foot else [])
    halt := transcript.halt
    console := { console with uses } }

def selectText : Option String → Bytes
  | none => []
  | some choice =>
    match Command.bufferId? choice with
    | some id => lineText ("The active buffer now is " ++ Numeral.decimal id)
    | none => lineText "Error. Fallback to the default buffer."

/-- A section that empties rings. -/
def clear (console : Console) (above : Bytes) (clearing : Clearing) : Response :=
  let refusal := console.store.refusal? clearing
  let outcome :=
    match refusal with
    | none => "Reset has been completed."
    | some error => "Reset failed: " ++ error.message
  { text := above ++ lineText outcome ++ foot
    console :=
      { console with
        store := console.store.cleared clearing
        failures := console.failures ++ refusal.toList } }

def obey (console : Console) (instruction : Instruction) : Response :=
  match instruction.command with
  | .listBuffers =>
    console.present (head "List log buffers" ++ console.activeText) (Report.list console.store)
  | .selectBuffer argument =>
    let question := if argument.isNone then Utf8.encode "Buffer id: " else []
    { text := head "Set the active buffer" ++ question ++ selectText instruction.choice ++ foot
      console :=
        { console with
          active := instruction.activate (Session.fallback console.store) console.active } }
  | .dumpActive =>
    console.present (head "Show logs from buffer" ++ console.activeText)
      (Report.buffer console.store console.me console.active)
  | .dumpAll =>
    console.present (head "Show logs from all buffers")
      (Report.all console.store console.me true true)
  | .resetActive =>
    console.clear (head "Reset the active buffer" ++ console.activeText) (.ring console.active)
  | .resetAll => console.clear (head "Reset all log buffers") .all
  | .close | .unknown => { text := [], console }

/-- The menu stands before every instruction, and once more when there is none left. -/
def interpret (console : Console) : List Instruction → Response
  | [] => { text := menu, console }
  | instruction :: instructions =>
    let response := console.obey instruction
    match response.halt with
    | some _ => { response with text := menu ++ response.text }
    | none =>
      let rest := response.console.interpret instructions
      { rest with text := menu ++ response.text ++ rest.text }

section
variable {console : Console} {instruction : Instruction}

theorem me_obey (console : Console) (instruction : Instruction) :
    (console.obey instruction).console.me = console.me := by
  unfold obey
  cases instruction.command with
  | _ => rfl

theorem store_obey (console : Console) (instruction : Instruction) :
    (console.obey instruction).console.store =
      (instruction.clearing? console.active).elim console.store console.store.cleared := by
  unfold obey Instruction.clearing?
  cases instruction.command with
  | _ => rfl

theorem phase_obey {guard : Option Guard} (h : console.store.Phase console.me guard)
    (instruction : Instruction) :
    (console.obey instruction).console.store.Phase (console.obey instruction).console.me guard := by
  rw [me_obey, store_obey]
  cases instruction.clearing? console.active with
  | none => exact h
  | some clearing => exact h.cleared clearing

/-- A response that is no end is followed by the next. -/
theorem interpret_cons_of_none (h : (console.obey instruction).halt = none)
    (instructions : List Instruction) :
    console.interpret (instruction :: instructions) =
      { (console.obey instruction).console.interpret instructions with
        text := menu ++ (console.obey instruction).text ++
          ((console.obey instruction).console.interpret instructions).text } := by
  rw [interpret]
  dsimp only
  rw [h]

theorem interpret_cons_of_some {halt : Halt} (h : (console.obey instruction).halt = some halt)
    (instructions : List Instruction) :
    console.interpret (instruction :: instructions) =
      { console.obey instruction with text := menu ++ (console.obey instruction).text } := by
  unfold interpret
  dsimp only
  rw [h]

end
end Console

namespace Instruction

section
variable {line answer : String} {lines : List String}

theorem ofLines_close (h : Command.parse line = .close) : ofLines (line :: lines) = [] := by
  unfold ofLines
  rw [h]

theorem ofLines_answered (h : Command.parse line = .selectBuffer none) :
    ofLines (line :: answer :: lines) =
      { command := .selectBuffer none, answer := some answer } :: ofLines lines := by
  rw [ofLines.eq_def]
  dsimp only
  rw [h]

theorem ofLines_unanswered (h : Command.parse line = .selectBuffer none) :
    ofLines [line] = [{ command := .selectBuffer none }] := by
  unfold ofLines
  rw [h]
  rfl

theorem ofLines_cons (hclose : Command.parse line ≠ .close)
    (hbare : Command.parse line ≠ .selectBuffer none) :
    ofLines (line :: lines) = { command := Command.parse line } :: ofLines lines := by
  rw [ofLines.eq_def]
  dsimp only
  split
  · next h => exact absurd h hclose
  · next h => exact absurd h hbare
  · rfl

end
end Instruction
end EventLog
