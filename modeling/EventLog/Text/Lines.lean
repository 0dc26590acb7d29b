/-! Cutting a text into lines. A line ends at a line feed, together with a carriage return right
before it; a last line may lack its end, and no empty line follows the last line feed. -/
namespace EventLog

/-- Here `line` holds what is read of the current line, last character first. -/
def linesFrom (line : List Char) : List Char → List (List Char)
  | [] => if line.isEmpty then [] else [line.reverse]
  | c :: cs =>
    if c = '\n' then
      (if line.head? = some '\r' then line.tail else line).reverse :: linesFrom [] cs
    else
      linesFrom (c :: line) cs

def linesOf (text : List Char) : List (List Char) := linesFrom [] text

end EventLog
