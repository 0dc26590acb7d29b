/-! The longest beginning of a text that fits a number of bytes and splits no character. -/
namespace EventLog

def fit : (room : Nat) → List Char → List Char
  | _, [] => []
  | room, c :: cs => if c.utf8Size ≤ room then c :: fit (room - c.utf8Size) cs else []

/-- A text cut to at most `room` bytes. -/
def cut (text : String) (room : Nat) : String := String.ofList (fit room text.toList)

theorem isPrefix_fit (room : Nat) (cs : List Char) : fit room cs <+: cs := by
  induction cs generalizing room with
  | nil => simp [fit]
  | cons c cs ih =>
    simp only [fit]
    split
    · exact List.cons_prefix_cons.2 ⟨rfl, ih _⟩
    · exact List.nil_prefix

end EventLog
