import EventLog.Calendar
import Mathlib.Tactic.IntervalCases

/-! The calendar as it is kept by hand: the days are numbered from 1 January 1970 on, forwards and
backwards, each date following the one before it by the lengths of the months. The day number that is
computed of a date, and the date that is computed of a day number, are those of this count. -/
namespace EventLog.Date

/-- The date of the day after. -/
def next (date : Date) : Date :=
  if date.day < monthLength date.year date.month then { date with day := date.day + 1 }
  else if date.month < 12 then { year := date.year, month := date.month + 1, day := 1 }
  else { year := date.year + 1, month := 1, day := 1 }

/-- The dates of the calendar with the numbers of their days. -/
inductive Numbered : Date → Int → Prop
  | epoch : Numbered ⟨1970, 1, 1⟩ 0
  | after {date : Date} {days : Int} (h : Numbered date days) : Numbered date.next (days + 1)
  | before {date : Date} {days : Int} (hvalid : date.Valid) (h : Numbered date.next (days + 1)) :
      Numbered date days

/-- The year of a date where years start in March. -/
def marchYear (date : Date) : Int := if date.month ≤ 2 then date.year - 1 else date.year

/-- The months counted from March. -/
def marchMonth (month : Nat) : Nat := if month ≤ 2 then month + 9 else month - 3

/-- The days since March. -/
def dayOfYear (date : Date) : Nat := monthStart (marchMonth date.month) + (date.day - 1)

/-- The days from March of year 0 to March of another year. -/
def yearStart (year : Int) : Int := 365 * year + year / 4 - year / 100 + year / 400

def leapDays (year : Int) : Nat := if isLeap year then 1 else 0

/-- The days of a year that starts in March; the leap day comes last, in the February after. -/
def yearLength (year : Int) : Nat := 365 + leapDays (year + 1)

/-- The date of a day of a year that starts in March. -/
def ofMarch (year : Int) (day : Nat) : Date :=
  { year := if (splitYear day).1 < 10 then year else year + 1
    month := if (splitYear day).1 < 10 then (splitYear day).1 + 3 else (splitYear day).1 - 9
    day := (splitYear day).2 + 1 }

section
variable {date other : Date} {days year : Int} {month day m e : Nat}

/-! Years. -/

theorem isLeap_iff : isLeap year = true ↔ year % 4 = 0 ∧ (year % 100 ≠ 0 ∨ year % 400 = 0) := by
  simp [isLeap]

theorem leapDays_cases (year : Int) :
    leapDays year = 1 ∧ year % 4 = 0 ∧ (year % 100 ≠ 0 ∨ year % 400 = 0) ∨
      leapDays year = 0 ∧ ¬ (year % 4 = 0 ∧ (year % 100 ≠ 0 ∨ year % 400 = 0)) := by
  rw [← isLeap_iff]
  unfold leapDays
  split
  · next hleap => exact .inl ⟨rfl, hleap⟩
  · next hcommon => exact .inr ⟨rfl, hcommon⟩

theorem yearStart_succ (year : Int) : yearStart (year + 1) = yearStart year + yearLength year := by
  have hleap := leapDays_cases (year + 1)
  unfold yearStart yearLength
  omega

/-- Four hundred years are a cycle. -/
theorem yearStart_cycle (k year : Int) : yearStart (400 * k + year) = 146097 * k + yearStart year := by
  unfold yearStart
  omega

theorem yearLength_cycle (k year : Int) : yearLength (400 * k + year) = yearLength year := by
  have hlong := leapDays_cases (400 * k + year + 1)
  have hshort := leapDays_cases (year + 1)
  unfold yearLength
  omega

/-! Months. -/

theorem monthLength_february (year : Int) : monthLength year 2 = 28 + leapDays year := by
  show (if isLeap year then 29 else 28) = _
  unfold leapDays
  split <;> rfl

theorem monthLength_bounds (year : Int) (month : Nat) :
    1 ≤ monthLength year month ∧ monthLength year month ≤ 31 := by
  unfold monthLength
  split <;> first | omega | (split <;> omega)

/-- Every month but the last starts its length before the next one. -/
theorem monthStart_succ (hlow : 1 ≤ month) (hhigh : month ≤ 12) (hlast : month ≠ 2) (year : Int) :
    monthStart (marchMonth month + 1) = monthStart (marchMonth month) + monthLength year month := by
  interval_cases month
  case «2» => exact absurd rfl hlast
  all_goals rfl

theorem marchMonth_le (hlow : 1 ≤ month) (hhigh : month ≤ 12) (hlast : month ≠ 2) :
    marchMonth month ≤ 10 := by
  unfold marchMonth
  split <;> omega

theorem splitYear_add (he : monthStart m + e < monthStart (m + 1)) :
    splitYear (monthStart m + e) = (m, e) := by
  unfold monthStart at he
  have hmonth : (5 * (monthStart m + e) + 2) / 153 = m := by
    unfold monthStart
    omega
  unfold splitYear
  rw [hmonth]
  dsimp only
  rw [Nat.add_sub_cancel_left]

theorem splitYear_spec (day : Nat) :
    monthStart (splitYear day).1 + (splitYear day).2 = day ∧
      day < monthStart ((splitYear day).1 + 1) := by
  unfold splitYear monthStart
  dsimp only
  omega

/-- The months fill the year, February coming last with what is left of it. -/
theorem dayOfYear_lt (h : date.Valid) :
    date.dayOfYear < monthStart (marchMonth date.month + 1) ∧
      date.dayOfYear < yearLength date.marchYear := by
  obtain ⟨hlow, hhigh, hfirst, hlength⟩ := h
  unfold dayOfYear yearLength
  by_cases hlast : date.month = 2
  · have hyear : date.marchYear + 1 = date.year := by
      unfold marchYear
      rw [if_pos (by omega)]
      omega
    rw [hlast, monthLength_february] at hlength
    have hleap := leapDays_cases date.year
    rw [hyear, hlast, show monthStart (marchMonth 2) = 337 from rfl,
      show monthStart (marchMonth 2 + 1) = 367 from rfl]
    omega
  · have hmonth := monthStart_succ hlow hhigh hlast date.year
    have hle := marchMonth_le hlow hhigh hlast
    have hstart : monthStart (marchMonth date.month + 1) ≤ 337 := by
      unfold monthStart
      omega
    omega

/-! Dates and the days of a year that starts in March. -/

theorem toDays_eq (hday : 1 ≤ date.day) :
    date.toDays = yearStart date.marchYear + date.dayOfYear - 719468 := by
  have hcast : ((date.day - 1 : Nat) : Int) = date.day - 1 := by omega
  unfold dayOfYear
  rw [Int.natCast_add, hcast, ← Int.add_assoc]
  rfl

theorem ofMarch_dayOfYear (h : date.Valid) : ofMarch date.marchYear date.dayOfYear = date := by
  have hsplit : splitYear date.dayOfYear = (marchMonth date.month, date.day - 1) :=
    splitYear_add (dayOfYear_lt h).1
  obtain ⟨hlow, hhigh, hfirst, -⟩ := h
  obtain ⟨year, month, day⟩ := date
  unfold ofMarch
  rw [hsplit]
  dsimp only at hlow hhigh hfirst ⊢
  unfold marchMonth marchYear
  simp only [Date.mk.injEq]
  split_ifs <;> omega

/-- Every day of a year that starts in March has a date, and only one. -/
theorem ofMarch_spec (hday : day < yearLength year) :
    (ofMarch year day).Valid ∧ (ofMarch year day).marchYear = year ∧
      (ofMarch year day).dayOfYear = day := by
  obtain ⟨hsum, hnext⟩ := splitYear_spec day
  have hleap := leapDays_cases (year + 1)
  unfold yearLength at hday
  obtain ⟨⟨m, e⟩, hsplit⟩ : ∃ inYear, splitYear day = inYear := ⟨_, rfl⟩
  rw [hsplit] at hsum hnext
  dsimp only at hsum hnext
  have hm : m ≤ 11 := by
    unfold monthStart at hsum
    omega
  have hback : marchMonth (if m < 10 then m + 3 else m - 9) = m := by
    unfold marchMonth
    split_ifs <;> omega
  have hlength : e + 1 ≤ monthLength (if m < 10 then year else year + 1)
      (if m < 10 then m + 3 else m - 9) := by
    by_cases hlast : m = 11
    · subst hlast
      rw [if_neg (by omega), if_neg (by omega), monthLength_february]
      rw [show monthStart 11 = 337 from rfl] at hsum
      omega
    · have hrange : 1 ≤ (if m < 10 then m + 3 else m - 9) ∧
          (if m < 10 then m + 3 else m - 9) ≤ 12 ∧ (if m < 10 then m + 3 else m - 9) ≠ 2 := by
        split_ifs <;> omega
      have hmonth := monthStart_succ hrange.1 hrange.2.1 hrange.2.2
        (if m < 10 then year else year + 1)
      rw [hback] at hmonth
      omega
  unfold ofMarch dayOfYear marchYear
  rw [hsplit]
  dsimp only
  refine ⟨⟨?_, ?_, Nat.le_add_left 1 e, hlength⟩, ?_, ?_⟩
  · dsimp only
    split <;> omega
  · dsimp only
    split <;> omega
  · split_ifs <;> omega
  · rw [hback]
    omega

theorem toDays_ofMarch (hday : day < yearLength year) :
    (ofMarch year day).toDays = yearStart year + day - 719468 := by
  obtain ⟨hvalid, hyear, hindex⟩ := ofMarch_spec hday
  rw [toDays_eq hvalid.2.2.1, hyear, hindex]

/-! Day numbers. -/

/-- A day of a cycle of four hundred years is a day of one of them. -/
theorem splitCycle_spec (hday : day < 146097) :
    (splitCycle day).2 < yearLength (splitCycle day).1 ∧
      (day : Int) = yearStart (splitCycle day).1 + (splitCycle day).2 := by
  obtain ⟨c, hc⟩ : ∃ c, c = min (day / 36524) 3 := ⟨_, rfl⟩
  obtain ⟨q, hq⟩ : ∃ q, q = (day - c * 36524) / 1461 := ⟨_, rfl⟩
  obtain ⟨y, hy⟩ : ∃ y, y = min ((day - c * 36524) % 1461 / 365) 3 := ⟨_, rfl⟩
  obtain ⟨d, hd⟩ : ∃ d, d = (day - c * 36524) % 1461 - y * 365 := ⟨_, rfl⟩
  have hsplit : splitCycle day = (c * 100 + q * 4 + y, d) := by
    rw [hd, hy, hq, hc]
    rfl
  have hcentury : c ≤ 3 ∧ q ≤ 24 ∧ y ≤ 3 := by omega
  have hsum : day = 36524 * c + 1461 * q + 365 * y + d := by omega
  -- The last of four years is longer, except at the end of the first three centuries.
  have hlast : d < 365 ∨ d = 365 ∧ y = 3 ∧ (q = 24 → c = 3) := by omega
  rw [hsplit, hsum]
  clear hsplit hc hq hy hd hsum
  have hleap := leapDays_cases ((c * 100 + q * 4 + y : Nat) + 1)
  dsimp only
  constructor
  · unfold yearLength
    omega
  · unfold yearStart
    omega

/-- Every day is a day of a year that starts in March, and its date is found there. -/
theorem ofDays_spec (days : Int) :
    ∃ year day, day < yearLength year ∧ days = yearStart year + day - 719468 ∧
      ofDays days = ofMarch year day := by
  have hcycle : ((days + 719468) % 146097).toNat < 146097 := by omega
  obtain ⟨hlt, hday⟩ := splitCycle_spec hcycle
  refine ⟨400 * ((days + 719468) / 146097) + (splitCycle ((days + 719468) % 146097).toNat).1,
    (splitCycle ((days + 719468) % 146097).toNat).2, ?_, ?_, ?_⟩
  · rwa [yearLength_cycle]
  · rw [yearStart_cycle]
    omega
  · rw [Int.mul_comm 400]
    rfl

theorem yearStart_mono {first second : Int} (h : first ≤ second) :
    yearStart first ≤ yearStart second := by
  unfold yearStart
  omega

/-- A day is a day of one year only. -/
theorem eq_of_yearStart_add {first second : Int} {d e : Nat} (hd : d < yearLength first)
    (he : e < yearLength second) (h : yearStart first + d = yearStart second + e) :
    first = second ∧ d = e := by
  have hfirst := yearStart_succ first
  have hsecond := yearStart_succ second
  rcases Int.lt_trichotomy first second with hlt | rfl | hlt
  · have := yearStart_mono (Int.add_one_le_of_lt hlt)
    omega
  · exact ⟨rfl, by omega⟩
  · have := yearStart_mono (Int.add_one_le_of_lt hlt)
    omega

theorem valid_ofDays (days : Int) : (ofDays days).Valid := by
  obtain ⟨year, day, hday, -, hof⟩ := ofDays_spec days
  rw [hof]
  exact (ofMarch_spec hday).1

theorem toDays_ofDays (days : Int) : (ofDays days).toDays = days := by
  obtain ⟨year, day, hday, hdays, hof⟩ := ofDays_spec days
  rw [hof, toDays_ofMarch hday, hdays]

/-- Different dates of the calendar are different days. -/
theorem eq_of_toDays (h : date.Valid) (hother : other.Valid) (heq : date.toDays = other.toDays) :
    date = other := by
  rw [toDays_eq h.2.2.1, toDays_eq hother.2.2.1] at heq
  obtain ⟨hyear, hday⟩ := eq_of_yearStart_add (dayOfYear_lt h).2 (dayOfYear_lt hother).2
    (by omega)
  rw [← ofMarch_dayOfYear h, ← ofMarch_dayOfYear hother, hyear, hday]

/-! The day after. -/

theorem valid_next (h : date.Valid) : date.next.Valid := by
  obtain ⟨hlow, hhigh, hfirst, hlength⟩ := h
  have hpos (year : Int) (month : Nat) := (monthLength_bounds year month).1
  unfold next
  split
  · next hwithin => exact ⟨hlow, hhigh, Nat.le_add_left 1 _, hwithin⟩
  · split
    · next hmonth => exact ⟨Nat.le_add_left 1 _, hmonth, Nat.le_refl 1, hpos _ _⟩
    · exact ⟨Nat.le_refl 1, Nat.le_add_left 1 11, Nat.le_refl 1, hpos _ _⟩

theorem marchMonth_succ (hlow : 1 ≤ month) (hlast : month ≠ 2) :
    marchMonth (month + 1) = marchMonth month + 1 := by
  unfold marchMonth
  split_ifs <;> omega

/-- After the last day of a month comes the first day of the next one, in the same year unless a year
that starts in March is over. -/
theorem toDays_next (h : date.Valid) : date.next.toDays = date.toDays + 1 := by
  have hvalid := valid_next h
  obtain ⟨hlow, hhigh, hfirst, hlength⟩ := h
  rw [toDays_eq hvalid.2.2.1, toDays_eq hfirst]
  clear hvalid
  -- The day after is in the same month, in the next month or in the next year. Only from February on to
  -- March does a year that starts in March end; from December on to January it does not.
  unfold next
  split
  · unfold dayOfYear marchYear
    dsimp only
    omega
  next hlong =>
  have hend : date.day = monthLength date.year date.month := by omega
  split
  · next hmonth =>
    unfold dayOfYear marchYear
    dsimp only
    by_cases hlast : date.month = 2
    · have hstart := yearStart_succ (date.year - 1)
      unfold yearLength at hstart
      rw [Int.sub_add_cancel] at hstart
      rw [hlast, monthLength_february] at hend
      rw [hlast, hend, if_neg (by decide), if_pos (by decide), hstart,
        show monthStart (marchMonth (2 + 1)) = 0 from rfl,
        show monthStart (marchMonth 2) = 337 from rfl]
      omega
    · rw [marchMonth_succ hlow hlast, monthStart_succ hlow hhigh hlast date.year]
      split_ifs <;> omega
  · have hmonth : date.month = 12 := by omega
    rw [hmonth] at hend
    have hdecember : date.day = 31 := hend
    unfold dayOfYear marchYear
    dsimp only
    rw [hmonth, hdecember, if_pos (by decide), if_neg (by decide), Int.add_sub_cancel,
      show monthStart (marchMonth 1) = 306 from rfl, show monthStart (marchMonth 12) = 275 from rfl]
    omega

/-! The count. -/

theorem next_ofDays (days : Int) : (ofDays days).next = ofDays (days + 1) := by
  have hvalid := valid_ofDays days
  refine eq_of_toDays (valid_next hvalid) (valid_ofDays _) ?_
  rw [toDays_next hvalid, toDays_ofDays, toDays_ofDays]

theorem numbered_ofDays (days : Int) : Numbered (ofDays days) days := by
  induction days with
  | zero => exact .epoch
  | succ n ih =>
    rw [← next_ofDays]
    exact ih.after
  | pred n ih =>
    refine .before (valid_ofDays _) ?_
    rw [next_ofDays, Int.sub_add_cancel]
    exact ih

/-- The dates of the count are those of the calendar, and the number of a date is the one that is
computed of it. -/
theorem numbered_iff : Numbered date days ↔ date.Valid ∧ date.toDays = days := by
  constructor
  · intro h
    induction h with
    | epoch => decide
    | after _ ih => exact ⟨valid_next ih.1, (toDays_next ih.1).trans (congrArg (· + 1) ih.2)⟩
    | before hvalid _ ih =>
      have hnext := toDays_next hvalid
      exact ⟨hvalid, by omega⟩
  · rintro ⟨hvalid, rfl⟩
    rw [eq_of_toDays hvalid (valid_ofDays _) (toDays_ofDays _).symm]
    rw [toDays_ofDays]
    exact numbered_ofDays _

example : Numbered ⟨2000, 2, 29⟩ 11016 := numbered_iff.mpr (by decide)

/-! The same day of the year in another century. -/

theorem yearStart_century {first second : Int} (hlt : first < second)
    (hmod : first % 100 = second % 100) : yearStart first + 36524 ≤ yearStart second := by
  unfold yearStart
  omega

/-- The same day and month of years with the same last two digits are a century apart or more. -/
theorem eq_of_toDays_near (hmonth : date.month = other.month) (hday : date.day = other.day)
    (hyear : date.year % 100 = other.year % 100) (hfirst : 1 ≤ date.day)
    (hnear : (date.toDays - other.toDays).natAbs < 36524) : date = other := by
  have hindex : date.dayOfYear = other.dayOfYear := by
    unfold dayOfYear
    rw [hmonth, hday]
  have hmarch : date.marchYear % 100 = other.marchYear % 100 ∧
      (date.marchYear = other.marchYear → date.year = other.year) := by
    unfold marchYear
    rw [hmonth]
    split <;> omega
  rw [toDays_eq hfirst, toDays_eq (hday ▸ hfirst), hindex] at hnear
  have heq : date.year = other.year := by
    rcases Int.lt_trichotomy date.marchYear other.marchYear with hlt | heq | hlt
    · have := yearStart_century hlt hmarch.1
      omega
    · exact hmarch.2 heq
    · have := yearStart_century hlt hmarch.1.symm
      omega
  cases date
  cases other
  simp only [Date.mk.injEq]
  exact ⟨heq, hmonth, hday⟩

end
end EventLog.Date
