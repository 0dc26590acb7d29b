import EventLog.Text.Numeral
import EventLog.Text.Utf8

/-! The hex dump of a payload: a heading of three lines, then a row for every sixteen bytes. Each line
starts with a tab. -/
namespace EventLog.HexDump

def rowBytes : Nat := 16

def hexColumn : Nat := 8

def textColumn : Nat := 58

def rowWidth : Nat := textColumn + rowBytes

def heading (size : Nat) : List String :=
  ["Hexdump of " ++ Numeral.decimal size ++ " bytes:",
    "        +0          +4          +8          +c            0   4   8   c   ",
    "        ------------------------------------------------  ----------------"]

/-- Printable ASCII stands for itself and a point for every other byte. -/
def textChar (b : UInt8) : Char :=
  if 32 ≤ b.toNat ∧ b.toNat < 127 then Char.ofNat b.toNat else '.'

def hexCell (b : UInt8) : List (Option Char) :=
  [some (Numeral.digitChar (b.toNat / 16)), some (Numeral.digitChar (b.toNat % 16)), none]

/-- The cells of a row: two digits for each byte from `hexColumn`, then its character from
`textColumn`; the cells between stay open. -/
def cells (chunk : Bytes) : List (Option Char) :=
  let missing := rowBytes - chunk.length
  List.replicate hexColumn none ++ chunk.flatMap hexCell ++ List.replicate (3 * missing + 2) none ++
    chunk.map (fun b => some (textChar b)) ++ List.replicate missing none

/-- A row of blanks that starts with the offset. -/
def offsetRow (offset : Nat) : List Char :=
  let text := '+' :: Numeral.padded 4 (Numeral.digits 16 offset)
  (text ++ List.replicate (rowWidth - text.length) ' ').take rowWidth

/-- The cells laid over the offset. -/
def row (offset : Nat) (chunk : Bytes) : List Char :=
  (cells chunk).zipWith (fun cell blank => cell.getD blank) (offsetRow offset)

/-- The rows of the bytes that stand at `offset`. -/
def rows (offset : Nat) (data : Bytes) : List String :=
  if _ : data = [] then []
  else
    String.ofList (row offset (data.take rowBytes)) ::
      rows (offset + rowBytes) (data.drop rowBytes)
termination_by data.length
decreasing_by
  have := List.length_pos_iff.2 ‹_›
  simp only [List.length_drop, rowBytes]
  omega

def lines (data : Bytes) : List String :=
  (heading data.length ++ rows 0 data).map fun line => "\t" ++ line ++ "\n"

end EventLog.HexDump
