import EventLog.Text.Fit
import EventLog.Text.Utf8

/-! A text field of fixed size. A field of `capacity` cells keeps at most `capacity - 1` bytes, as if
the last cell were kept for a terminator. Setting a shorter text leaves the old bytes behind it in
place; only the first `len` cells are content. -/
namespace EventLog

structure Field (capacity : Nat) where
  cells : Bytes := List.replicate capacity 0
  len : Nat := 0

namespace Field

variable {capacity : Nat}

def maxLen (_ : Field capacity) : Nat := capacity - 1

def set (field : Field capacity) (text : String) : Field capacity :=
  let bytes := Utf8.encode (cut text field.maxLen)
  { cells := bytes ++ field.cells.drop bytes.length, len := bytes.length }

def clear (field : Field capacity) : Field capacity := { field with len := 0 }

/-- The content; bytes that are no text read as empty. -/
def text (field : Field capacity) : String := (Utf8.decode? (field.cells.take field.len)).getD ""

def isEmpty (field : Field capacity) : Bool := field.len == 0

def nonEmpty? (field : Field capacity) : Option String :=
  if field.isEmpty then none else some field.text

/-- Sets the text, or clears the field where there is none. -/
def assign (field : Field capacity) : Option String → Field capacity
  | some text => field.set text
  | none => field.clear

end Field
end EventLog
