/-! The claim word of a slot: one bit for the writer that fills the slot, and below it the number of
readers that copy it out. A writer that finds another gives up; one that finds readers waits. -/
namespace EventLog

structure SlotClaim where
  word : UInt32 := 0
  deriving DecidableEq, Repr

namespace SlotClaim

def writerBit : UInt32 := 0x80000000

def isWriting (claim : SlotClaim) : Bool := claim.word &&& writerBit != 0

def readers (claim : SlotClaim) : UInt32 := claim.word &&& ~~~writerBit

inductive Grant where
  | granted (claim : SlotClaim)
  | refused
  | waits
  deriving DecidableEq, Repr

/-- Refused if another writer holds the slot. -/
def tryWrite (claim : SlotClaim) : Grant :=
  if claim.word = 0 then .granted ⟨writerBit⟩
  else if claim.isWriting then .refused
  else .waits

/-- Waits for any other holder. -/
def write (claim : SlotClaim) : Grant := if claim.word = 0 then .granted ⟨writerBit⟩ else .waits

/-- Refused if a writer holds the slot. -/
def tryRead (claim : SlotClaim) : Grant :=
  if claim.isWriting then .refused else .granted ⟨claim.word + 1⟩

inductive Mode where
  | reading
  | writing
  deriving DecidableEq, Repr

/-- Gives up a claim. A writer is the only holder, so it clears the whole word. -/
def release (claim : SlotClaim) : Mode → SlotClaim
  | .reading => ⟨claim.word - 1⟩
  | .writing => {}

/-- A claim word with the claims its clients hold, each under a key. -/
structure Held where
  claim : SlotClaim := {}
  holders : List (String × Mode) := []
  deriving DecidableEq, Repr

namespace Held

def find? (state : Held) (key : String) : Option Mode := state.holders.lookup key

/-- Gives up the claim under a key, if there is one. -/
def drop (state : Held) (key : String) : Held :=
  match state.find? key with
  | some mode =>
    { claim := state.claim.release mode, holders := state.holders.filter fun h => h.1 != key }
  | none => state

/-- Keeps a new claim; one that was held under the same key is given up. -/
def keep (state : Held) (key : String) (mode : Mode) (claim : SlotClaim) : Held :=
  let rest := { state with claim }.drop key
  { rest with holders := (key, mode) :: rest.holders }

end Held

inductive Action where
  | tryRead (key : String)
  | tryWrite (key : String)
  | write (key : String)
  | drop (key : String)
  deriving DecidableEq, Repr

inductive Answer where
  | done
  | flag (value : Bool)
  | waits
  deriving DecidableEq, Repr

def answer (state : Held) (key : String) (mode : Mode) (yes : Answer) : Grant → Answer × Held
  | .granted claim => (yes, state.keep key mode claim)
  | .refused => (.flag false, state)
  | .waits => (.waits, state)

def step (state : Held) : Action → Answer × Held
  | .tryRead key => answer state key .reading (.flag true) state.claim.tryRead
  | .tryWrite key => answer state key .writing (.flag true) state.claim.tryWrite
  | .write key => answer state key .writing .done state.claim.write
  | .drop key => (.flag (state.find? key).isSome, state.drop key)

end SlotClaim
end EventLog
