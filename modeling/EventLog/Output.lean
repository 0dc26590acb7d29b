import EventLog.Text.Utf8

/-! Output to a sink that may stop accepting bytes. A writer is an action on the channel that ends
early at the first refusal, so what a limited sink receives is a beginning of what an endless one
would. -/
namespace EventLog

/-- Why output ends early. -/
inductive Halt where
  | io (message : String)
  | panic
  | waits
  deriving DecidableEq, Repr

/-- A sink with room for a number of bytes; without a number it takes everything. -/
structure Sink where
  room : Option Nat := none
  taken : Array UInt8 := #[]

namespace Sink

/-- The error of a full sink. -/
def full : Halt := .io "sink full"

/-- Takes the bytes that fit; the answer is whether those were all. -/
def put (sink : Sink) (bytes : Bytes) : Bool × Sink :=
  match sink.room with
  | none => (true, { sink with taken := sink.taken ++ bytes })
  | some room =>
    if bytes.length ≤ room then
      (true, { room := some (room - bytes.length), taken := sink.taken ++ bytes })
    else
      (false, { room := some 0, taken := sink.taken ++ bytes.take room })

def bytes (sink : Sink) : Bytes := sink.taken.toList

end Sink

/-- How often each stateful renderer has been used. -/
structure Uses where
  count : Nat → Nat := fun _ => 0

def Uses.bump (uses : Uses) (key : Nat) : Uses :=
  ⟨fun k => if k = key then uses.count k + 1 else uses.count k⟩

/-- Where output goes: the sink, and the memory of the stateful renderers that write to it. -/
structure Channel where
  sink : Sink := {}
  uses : Uses := {}

/-- A writer. -/
abbrev Emit := ExceptT Halt (StateM Channel)

namespace Emit

def put (bytes : Bytes) : Emit Unit := ExceptT.mk fun channel =>
  match channel.sink.put bytes with
  | (true, sink) => (.ok (), { channel with sink })
  | (false, sink) => (.error Sink.full, { channel with sink })

def say (text : String) : Emit Unit := put (Utf8.encode text)

def line (text : String) : Emit Unit := say (text ++ "\n")

/-- Counts a use of a stateful renderer and answers the count so far, this use included. -/
def countUse (key : Nat) : Emit Nat := do
  modify fun channel => { channel with uses := channel.uses.bump key }
  return (← get).uses.count key

end Emit

/-- What reached the sink, and why it ended early if it did. -/
structure Transcript where
  bytes : Bytes
  halt : Option Halt

/-- Runs a writer against a sink with the given room. -/
def Emit.transcript {α : Type} (writer : Emit α) (room : Option Nat) (uses : Uses) :
    Transcript × Uses :=
  match writer.run { sink := { room }, uses } with
  | (.ok _, channel) => ({ bytes := channel.sink.bytes, halt := none }, channel.uses)
  | (.error halt, channel) => ({ bytes := channel.sink.bytes, halt := some halt }, channel.uses)

end EventLog
