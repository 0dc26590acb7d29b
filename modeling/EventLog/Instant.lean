import EventLog.Calendar
import EventLog.Text.Numeral

/-! Points in time and their text, `mm/dd/yy hh:mm:ss.uuuuuu` in universal time. -/
namespace EventLog

/-- Nanoseconds since the start of 1970. -/
structure Instant where
  nanos : Int := 0
  deriving DecidableEq, Repr

namespace Instant

def ofUnix (seconds : Int) (nanos : Nat) : Instant := ⟨seconds * 1000000000 + nanos⟩

/-- Whole microseconds, rounded down. -/
def micros (instant : Instant) : Int := instant.nanos / 1000

def date (instant : Instant) : Date := Date.ofDays (instant.micros / 86400000000)

def microsOfDay (instant : Instant) : Nat := (instant.micros % 86400000000).toNat

/-- The years that have a text. -/
def Supported (instant : Instant) : Prop :=
  -262143 ≤ instant.date.year ∧ instant.date.year ≤ 262142

instance (instant : Instant) : Decidable instant.Supported := by unfold Supported; infer_instance

/-- The year is given modulo one hundred. -/
def text (instant : Instant) : String :=
  let two (n : Nat) := Numeral.paddedDecimal 2 n
  let date := instant.date
  let micros := instant.microsOfDay
  two date.month ++ "/" ++ two date.day ++ "/" ++ two (date.year % 100).toNat ++ " " ++
    two (micros / 3600000000) ++ ":" ++ two (micros / 60000000 % 60) ++ ":" ++
    two (micros / 1000000 % 60) ++ "." ++ Numeral.paddedDecimal 6 (micros % 1000000)

def text? (instant : Instant) : Option String :=
  if instant.Supported then some instant.text else none

end Instant
end EventLog
