import EventLog.Text.GraphemeExtend
import EventLog.Text.Numeral
import EventLog.Text.Unprintable

/-! Text between double quotes, with every mark that cannot be read off the screen escaped. -/
namespace EventLog.Quoted

def codePoint (c : Char) : List Char :=
  ['\\', 'u', '\x7b'] ++ Numeral.digits 16 c.toNat ++ ['\x7d']

/-- Combining marks are escaped as well, since they would attach to the mark before them. -/
def escape (c : Char) : List Char :=
  if c = '\x00' then ['\\', '0']
  else if c = '\t' then ['\\', 't']
  else if c = '\r' then ['\\', 'r']
  else if c = '\n' then ['\\', 'n']
  else if c = '"' then ['\\', '"']
  else if c = '\\' then ['\\', '\\']
  else if GraphemeExtend.contains c || Unprintable.contains c then codePoint c
  else [c]

def encode (text : String) : String := String.ofList ('"' :: text.toList.flatMap escape ++ ['"'])

end EventLog.Quoted
