/-! Natural numbers in positional notation: writing them, and reading them with a bound. -/
namespace EventLog.Numeral

def digitChar (d : Nat) : Char := Char.ofNat (if d < 10 then 0x30 + d else 0x57 + d)

/-- The digits of `n`, most significant first; zero has one digit. -/
def digits (base n : Nat) : List Char :=
  if _ : n < base ∨ base < 2 then [digitChar n]
  else digits base (n / base) ++ [digitChar (n % base)]
termination_by n
decreasing_by exact Nat.div_lt_self (by omega) (by omega)

/-- At least `width` digits, with zeros in front. -/
def padded (width : Nat) (ds : List Char) : List Char := List.replicate (width - ds.length) '0' ++ ds

def decimal (n : Nat) : String := String.ofList (digits 10 n)

def hex (n : Nat) : String := String.ofList (digits 16 n)

def paddedDecimal (width n : Nat) : String := String.ofList (padded width (digits 10 n))

def paddedHex (width n : Nat) : String := String.ofList (padded width (digits 16 n))

/-- The value of a digit, letters of either case counting from ten. -/
def digitValue? (base : Nat) (c : Char) : Option Nat :=
  let n := c.toNat
  let value? :=
    if 0x30 ≤ n ∧ n ≤ 0x39 then some (n - 0x30)
    else if 0x61 ≤ n ∧ n ≤ 0x7A then some (n - 0x57)
    else if 0x41 ≤ n ∧ n ≤ 0x5A then some (n - 0x37)
    else none
  value?.filter (· < base)

/-- The value of a digit string read from left to right, starting from `start`. -/
def value? (base start : Nat) : List Char → Option Nat
  | [] => some start
  | c :: cs => (digitValue? base c).bind fun d => value? base (start * base + d) cs

def withoutPlus : List Char → List Char
  | '+' :: cs => cs
  | cs => cs

/-- One or more digits after an optional plus sign, with a value below `bound`. -/
def read? (base bound : Nat) (cs : List Char) : Option Nat :=
  match withoutPlus cs with
  | [] => none
  | ds => (value? base 0 ds).filter (· < bound)

end EventLog.Numeral
