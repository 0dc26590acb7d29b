/-! UTF-8 text as byte lists. Writing a character never fails; reading yields, for each character or
malformed stretch, one unit, so a strict and a lenient reading are two views of the same units. -/
namespace EventLog

abbrev Bytes := List UInt8

namespace Utf8

def encodeChar (c : Char) : Bytes :=
  let n := c.toNat
  if n < 0x80 then
    [UInt8.ofNat n]
  else if n < 0x800 then
    [UInt8.ofNat (0xC0 + n / 0x40), UInt8.ofNat (0x80 + n % 0x40)]
  else if n < 0x10000 then
    [UInt8.ofNat (0xE0 + n / 0x1000), UInt8.ofNat (0x80 + n / 0x40 % 0x40),
      UInt8.ofNat (0x80 + n % 0x40)]
  else
    [UInt8.ofNat (0xF0 + n / 0x40000), UInt8.ofNat (0x80 + n / 0x1000 % 0x40),
      UInt8.ofNat (0x80 + n / 0x40 % 0x40), UInt8.ofNat (0x80 + n % 0x40)]

def encodeChars (cs : List Char) : Bytes := cs.flatMap encodeChar

def encode (text : String) : Bytes := encodeChars text.toList

/-- What the first byte of a character promises: how many bytes follow, the range of the first of
them, and the bits already given. The ranges rule out overlong forms and surrogates. -/
structure Lead where
  more : Nat
  low : UInt8 := 0x80
  high : UInt8 := 0xBF
  bits : Nat

def lead? (b : UInt8) : Option Lead :=
  let n := b.toNat
  if n < 0x80 then some { more := 0, bits := n }
  else if n < 0xC2 then none
  else if n < 0xE0 then some { more := 1, bits := n - 0xC0 }
  else if n = 0xE0 then some { more := 2, low := 0xA0, bits := 0 }
  else if n = 0xED then some { more := 2, high := 0x9F, bits := 0xD }
  else if n < 0xF0 then some { more := 2, bits := n - 0xE0 }
  else if n = 0xF0 then some { more := 3, low := 0x90, bits := 0 }
  else if n < 0xF4 then some { more := 3, bits := n - 0xF0 }
  else if n = 0xF4 then some { more := 3, high := 0x8F, bits := 4 }
  else none

/-- The bytes that continue a character: at most `more`, the first within the given range. -/
def following : (more : Nat) → (low high : UInt8) → Bytes → Bytes
  | 0, _, _, _ => []
  | _ + 1, _, _, [] => []
  | more + 1, low, high, b :: rest =>
    if low ≤ b ∧ b ≤ high then b :: following more 0x80 0xBF rest else []

/-- The unit that starts with `b`: a character, or `none` for a malformed stretch, and how many
bytes after `b` belong to it. -/
def unit (b : UInt8) (rest : Bytes) : Option Char × Nat :=
  match lead? b with
  | none => (none, 0)
  | some lead =>
    let tail := following lead.more lead.low lead.high rest
    if tail.length = lead.more then
      (some (Char.ofNat (tail.foldl (fun n b => n * 0x40 + b.toNat % 0x40) lead.bits)), tail.length)
    else
      (none, tail.length)

def units : Bytes → List (Option Char)
  | [] => []
  | b :: rest => (unit b rest).1 :: units (rest.drop (unit b rest).2)
termination_by bytes => bytes.length
decreasing_by simp only [List.length_drop, List.length_cons]; omega

/-- The text, when every byte belongs to a character. -/
def decode? (bytes : Bytes) : Option String := ((units bytes).mapM id).map String.ofList

/-- The text with one replacement character for every malformed stretch. -/
def lossy (bytes : Bytes) : String :=
  String.ofList ((units bytes).map fun unit => unit.getD '\uFFFD')

end Utf8
end EventLog
