import EventLog.Text.Numeral

/-! Internet addresses and their text: four decimal octets, or eight hexadecimal groups of which one
run of zeros may be left out. -/
namespace EventLog

inductive Address where
  | v4 (a b c d : UInt8)
  | v6 (groups : List UInt16)
  deriving DecidableEq, Repr

namespace Address

def loopback : Address := v4 127 0 0 1

def isMulticast : Address → Bool
  | v4 a _ _ _ => 224 ≤ a && a ≤ 239
  | v6 groups => groups.head?.any fun group => 0xFF00 ≤ group

def octets (a b c d : UInt8) : String :=
  String.intercalate "." ([a, b, c, d].map fun octet => Numeral.decimal octet.toNat)

def join (groups : List UInt16) : String :=
  String.intercalate ":" (groups.map fun group => Numeral.hex group.toNat)

/-- The number of zero groups from an index on. -/
def zeros (groups : List UInt16) (index : Nat) : Nat :=
  ((groups.drop index).takeWhile (· = 0)).length

/-- Where the first of the longest runs of zero groups starts. -/
def longestZeros (groups : List UInt16) : Nat :=
  (List.range groups.length).foldl
    (fun best index => if zeros groups best < zeros groups index then index else best) 0

/-- Two or more zero groups are left out once, at their longest run. -/
def compressed (groups : List UInt16) : String :=
  let start := longestZeros groups
  let length := zeros groups start
  if length < 2 then join groups
  else join (groups.take start) ++ "::" ++ join (groups.drop (start + length))

def text : Address → String
  | v4 a b c d => octets a b c d
  | v6 [0, 0, 0, 0, 0, 0xFFFF, g, h] =>
    "::ffff:" ++ octets (g / 256).toUInt8 (g % 256).toUInt8 (h / 256).toUInt8 (h % 256).toUInt8
  | v6 groups => compressed groups

def socketText (address : Address) (port : UInt16) : String :=
  match address with
  | v4 .. => address.text ++ ":" ++ Numeral.decimal port.toNat
  | v6 _ => "[" ++ address.text ++ "]:" ++ Numeral.decimal port.toNat

/-- At most `width` digits of the base, and what follows them. -/
def number? (base width : Nat) (cs : List Char) : Option (Nat × List Char) :=
  let isDigit (c : Char) := (Numeral.digitValue? base c).isSome
  let ds := cs.takeWhile isDigit
  if ds.isEmpty || width < ds.length then none
  else (Numeral.value? base 0 ds).map fun n => (n, cs.dropWhile isDigit)

/-- An octet has no zero in front of other digits. -/
def octet? (cs : List Char) : Option (UInt8 × List Char) := do
  let (n, rest) ← number? 10 3 cs
  if (cs.head? = some '0' ∧ rest.length + 1 < cs.length) ∨ 255 < n then none
  else some (n.toUInt8, rest)

def skip? (c : Char) : List Char → Option (List Char)
  | [] => none
  | d :: cs => if d = c then some cs else none

def v4? (cs : List Char) : Option ((UInt8 × UInt8 × UInt8 × UInt8) × List Char) := do
  let (a, cs) ← octet? cs
  let (b, cs) ← octet? (← skip? '.' cs)
  let (c, cs) ← octet? (← skip? '.' cs)
  let (d, cs) ← octet? (← skip? '.' cs)
  return ((a, b, c, d), cs)

/-- Up to `limit` groups with colons between them, the last two perhaps as octets. The groups, whether
octets came last, and what follows. -/
def groups (first : Bool) : (limit : Nat) → List Char → List UInt16 × Bool × List Char
  | 0, cs => ([], false, cs)
  | limit + 1, cs =>
    match if first then some cs else skip? ':' cs with
    | none => ([], false, cs)
    | some inner =>
      match if limit = 0 then none else v4? inner with
      | some ((a, b, c, d), rest) =>
        ([a.toUInt16 * 256 + b.toUInt16, c.toUInt16 * 256 + d.toUInt16], true, rest)
      | none =>
        match number? 16 4 inner with
        | none => ([], false, cs)
        | some (n, rest) =>
          let (more, octets, rest) := groups false limit rest
          (n.toUInt16 :: more, octets, rest)

def v6? (cs : List Char) : Option (List UInt16 × List Char) := do
  let (head, octets, rest) := groups true 8 cs
  if head.length = 8 then return (head, rest)
  if octets then none
  let rest ← skip? ':' (← skip? ':' rest)
  let (tail, _, rest) := groups true (7 - head.length) rest
  return (head ++ List.replicate (8 - head.length - tail.length) 0 ++ tail, rest)

def parse? (text : String) : Option Address :=
  match v4? text.toList with
  | some ((a, b, c, d), rest) => if rest.isEmpty then some (v4 a b c d) else none
  | none =>
    match v6? text.toList with
    | some (groups, rest) => if rest.isEmpty then some (v6 groups) else none
    | none => none

end Address
end EventLog
