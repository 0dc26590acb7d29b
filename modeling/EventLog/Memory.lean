/-! Memory. A table of fixed size is reserved at once, and a reservation beyond the limit is the end
of the program. The slots of a ring are asked for, and may be refused. -/
namespace EventLog

/-- No single reservation may have more bytes than this. -/
def maxReservation : Nat := 0x7fffffffffffffff

/-- Whether a table of so many entries can be reserved. -/
def canReserve (entries entryBytes : Nat) : Bool := entries * entryBytes ≤ maxReservation

/-- What the allocator answers at some moment: whether there is room for so many slots. -/
abbrev Memory := Nat → Bool

/-- Memory for whatever is asked for. -/
def Memory.ample : Memory := fun _ => true

end EventLog
