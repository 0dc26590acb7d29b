/-! Dates of the proleptic Gregorian calendar and their day numbers, day 0 being 1 January 1970.
Counting starts in March, so that a leap day ends its year. -/
namespace EventLog

structure Date where
  year : Int
  month : Nat
  day : Nat
  deriving DecidableEq, Repr

namespace Date

def isLeap (year : Int) : Bool := year % 4 == 0 && (year % 100 != 0 || year % 400 == 0)

def monthLength (year : Int) : Nat → Nat
  | 2 => if isLeap year then 29 else 28
  | 4 | 6 | 9 | 11 => 30
  | _ => 31

def Valid (date : Date) : Prop :=
  1 ≤ date.month ∧ date.month ≤ 12 ∧ 1 ≤ date.day ∧ date.day ≤ monthLength date.year date.month

instance (date : Date) : Decidable (Valid date) := by unfold Valid; infer_instance

/-- Days from 1 March of year 0 to 1 January 1970. -/
def epochOffset : Int := 719468

/-- The first day of the `m`-th month of a year that starts in March. -/
def monthStart (m : Nat) : Nat := (153 * m + 2) / 5

/-- The day number: whole years since year 0, a leap day every fourth of them save the centuries
that 400 does not divide, and the days since March. -/
def toDays (date : Date) : Int :=
  let year := if date.month ≤ 2 then date.year - 1 else date.year
  let month := if date.month ≤ 2 then date.month + 9 else date.month - 3
  365 * year + year / 4 - year / 100 + year / 400 + monthStart month + (date.day - 1) - epochOffset

/-- The year and the day of that year for a day of a cycle of four hundred years. The last century of
a cycle and the last year of four are a day longer. -/
def splitCycle (day : Nat) : Nat × Nat :=
  let century := min (day / 36524) 3
  let inCentury := day - century * 36524
  let inQuad := inCentury % 1461
  let year := min (inQuad / 365) 3
  (century * 100 + inCentury / 1461 * 4 + year, inQuad - year * 365)

/-- The month, March being 0, and the day of that month for a day of a year. -/
def splitYear (day : Nat) : Nat × Nat :=
  let month := (5 * day + 2) / 153
  (month, day - monthStart month)

def ofDays (days : Int) : Date :=
  let shifted := days + epochOffset
  let inCycle := splitCycle (shifted % 146097).toNat
  let inYear := splitYear inCycle.2
  let year := shifted / 146097 * 400 + inCycle.1
  { year := if inYear.1 < 10 then year else year + 1
    month := if inYear.1 < 10 then inYear.1 + 3 else inYear.1 - 9
    day := inYear.2 + 1 }

end Date
end EventLog
