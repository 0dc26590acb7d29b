import EventLog.Proofs.Instant.Calendar
import EventLog.Proofs.Text.Numeral
import EventLog.Report.Event

/-! Times in a text. The text of an instant has numerals of fixed widths and marks at fixed places, and
the date and the time of day that they tell are those of the microsecond that the instant lies in,
but for the century. -/
namespace EventLog

/-- The numbers that tell a time. -/
structure Stamp where
  month : Nat
  day : Nat
  year : Nat
  hour : Nat
  minute : Nat
  second : Nat
  micro : Nat

namespace Stamp

/-- A number written with so many digits, and the mark behind it. -/
structure Part where
  width : Nat
  value : Nat
  mark : List Char

def Part.chars (part : Part) : List Char :=
  Numeral.padded part.width (Numeral.digits 10 part.value) ++ part.mark

/-- The texts that consist of the given parts, one after the other. -/
inductive Spelled : List Part → List Char → Prop
  | nil : Spelled [] []
  | cons {part : Part} {parts : List Part} {ds cs : List Char} (hwidth : ds.length = part.width)
      (hdigits : Numeral.Digits 10 ds part.value) (h : Spelled parts cs) :
      Spelled (part :: parts) (ds ++ part.mark ++ cs)

/-- `mm/dd/yy hh:mm:ss.uuuuuu` -/
def parts (stamp : Stamp) : List Part :=
  [⟨2, stamp.month, ['/']⟩, ⟨2, stamp.day, ['/']⟩, ⟨2, stamp.year, [' ']⟩, ⟨2, stamp.hour, [':']⟩,
    ⟨2, stamp.minute, [':']⟩, ⟨2, stamp.second, ['.']⟩, ⟨6, stamp.micro, []⟩]

/-- The microsecond, counted from the start of 1970, whose date and time of day these are, in some
year with the given last two digits. -/
def Denotes (stamp : Stamp) (micros : Int) : Prop :=
  stamp.hour < 24 ∧ stamp.minute < 60 ∧ stamp.second < 60 ∧ stamp.micro < 1000000 ∧
    ∃ year days : Int, year % 100 = stamp.year ∧ Date.Valid ⟨year, stamp.month, stamp.day⟩ ∧
      Date.Numbered ⟨year, stamp.month, stamp.day⟩ days ∧
      micros = (((days * 24 + stamp.hour) * 60 + stamp.minute) * 60 + stamp.second) * 1000000 +
        stamp.micro

theorem parts_inj {stamp other : Stamp} (h : stamp.parts = other.parts) : stamp = other := by
  cases stamp
  cases other
  simpa [parts] using h

/-- All stamps are laid out alike. -/
theorem layout_eq (stamp other : Stamp) :
    (stamp.parts.map fun part => (part.width, part.mark)) =
      other.parts.map fun part => (part.width, part.mark) := rfl

theorem ascii_marks (stamp : Stamp) :
    ∀ part ∈ stamp.parts, ∀ c ∈ part.mark, c.toNat < 0x80 := by
  simp [parts]

namespace Spelled

variable {part : Part} {parts others : List Part} {cs text : List Char}

theorem length_eq (h : Spelled parts cs) :
    cs.length = (parts.map fun part => part.width + part.mark.length).sum := by
  induction h with
  | nil => rfl
  | cons hwidth _ _ ih =>
    rw [List.length_append, List.length_append, hwidth, ih, List.map_cons, List.sum_cons]

theorem ascii (h : Spelled parts cs) (hmarks : ∀ part ∈ parts, ∀ c ∈ part.mark, c.toNat < 0x80) :
    ∀ c ∈ cs, c.toNat < 0x80 := by
  induction h with
  | nil => nofun
  | cons _ hdigits _ ih =>
    obtain ⟨hmark, hrest⟩ := List.forall_mem_cons.mp hmarks
    intro c hc
    rcases List.mem_append.mp hc with hc | hc
    · rcases List.mem_append.mp hc with hc | hc
      · obtain ⟨d, hd⟩ := hdigits.isDigit_of_mem hc
        have hcode := (Numeral.isDigit_iff (by decide)).mp hd
        omega
      · exact hmark c hc
    · exact ih hrest c hc

theorem exists_of_cons (h : Spelled (part :: parts) text) :
    ∃ ds cs, text = ds ++ part.mark ++ cs ∧ ds.length = part.width ∧
      Numeral.Digits 10 ds part.value ∧ Spelled parts cs := by
  cases h with
  | cons hwidth hdigits h => exact ⟨_, _, rfl, hwidth, hdigits, h⟩

/-- A text is read in one way only as parts of given widths and marks. -/
theorem unique (h : Spelled parts text) (hother : Spelled others text)
    (hlayout : (parts.map fun part => (part.width, part.mark)) =
      others.map fun part => (part.width, part.mark)) : parts = others := by
  induction parts generalizing others text with
  | nil => exact (List.map_eq_nil_iff.mp hlayout.symm).symm
  | cons part parts ih =>
    cases others with
    | nil => simp at hlayout
    | cons other others =>
      rw [List.map_cons, List.map_cons, List.cons.injEq, Prod.mk.injEq] at hlayout
      obtain ⟨⟨hwidths, hmarks⟩, hlayouts⟩ := hlayout
      obtain ⟨ds, cs, rfl, hds, hdigits, hcs⟩ := h.exists_of_cons
      obtain ⟨es, ct, heq, hes, hothers, hct⟩ := hother.exists_of_cons
      -- Digits of the same number end at the same place, so the texts agree part by part.
      rw [List.append_assoc, List.append_assoc, ← hmarks] at heq
      obtain ⟨rfl, hrest⟩ := List.append_inj heq (by rw [hds, hes, hwidths])
      obtain rfl := List.append_cancel_left hrest
      have hvalue := ((Numeral.digits_iff (by decide)).mp hdigits).2
      rw [((Numeral.digits_iff (by decide)).mp hothers).2, Option.some.injEq] at hvalue
      obtain rfl := ih hcs hct hlayouts
      cases part
      cases other
      simp_all

/-- Numbers within the widths of their parts are written so. -/
theorem flatMap_chars (h : ∀ part ∈ parts, 0 < part.width ∧ part.value < 10 ^ part.width) :
    Spelled parts (parts.flatMap Part.chars) := by
  induction parts with
  | nil => exact .nil
  | cons part parts ih =>
    obtain ⟨⟨hwidth, hvalue⟩, hrest⟩ := List.forall_mem_cons.mp h
    have hdigits := Numeral.digits_digits (show 10 ≤ 16 by decide) (by decide) part.value
    refine .cons ?_ (hdigits.padded (by decide) part.width) (ih hrest)
    obtain ⟨k, hk⟩ : ∃ k, part.width = k + 1 := ⟨part.width - 1, by omega⟩
    rw [hk] at hvalue ⊢
    have hlength := Numeral.length_digits_le hvalue
    unfold Numeral.padded
    rw [List.length_append, List.length_replicate]
    exact Nat.sub_add_cancel hlength

end Spelled
end Stamp

namespace Instant

/-- The numbers in the text of an instant. -/
def stamp (instant : Instant) : Stamp :=
  { month := instant.date.month
    day := instant.date.day
    year := (instant.date.year % 100).toNat
    hour := instant.microsOfDay / 3600000000
    minute := instant.microsOfDay / 60000000 % 60
    second := instant.microsOfDay / 1000000 % 60
    micro := instant.microsOfDay % 1000000 }

section
variable {instant other : Instant}

theorem microsOfDay_lt (instant : Instant) : instant.microsOfDay < 86400000000 := by
  unfold microsOfDay
  omega

theorem valid_date (instant : Instant) : instant.date.Valid := Date.valid_ofDays _

/-- The numbers of a stamp are within the ranges of the calendar and of the clock. -/
theorem stamp_lt (instant : Instant) :
    instant.stamp.month < 100 ∧ instant.stamp.day < 100 ∧ instant.stamp.year < 100 ∧
      instant.stamp.hour < 24 ∧ instant.stamp.minute < 60 ∧ instant.stamp.second < 60 ∧
      instant.stamp.micro < 1000000 := by
  obtain ⟨-, hmonth, -, hday⟩ := instant.valid_date
  have hlength := (Date.monthLength_bounds instant.date.year instant.date.month).2
  have htime := instant.microsOfDay_lt
  unfold stamp
  dsimp only
  omega

theorem spelled_text (instant : Instant) :
    Stamp.Spelled instant.stamp.parts instant.text.toList := by
  have htext : instant.text.toList = instant.stamp.parts.flatMap Stamp.Part.chars := by
    simp [text, stamp, Stamp.parts, Stamp.Part.chars, Numeral.paddedDecimal]
  have hlt := instant.stamp_lt
  rw [htext]
  apply Stamp.Spelled.flatMap_chars
  simp only [Stamp.parts, List.forall_mem_cons, List.not_mem_nil, false_implies, implies_true,
    and_true]
  omega

/-- The date and the time of day are those of the microsecond that an instant lies in. -/
theorem denotes_stamp (instant : Instant) : instant.stamp.Denotes instant.micros := by
  obtain ⟨-, -, -, hhour, hminute, hsecond, hmicro⟩ := instant.stamp_lt
  refine ⟨hhour, hminute, hsecond, hmicro, instant.date.year, instant.micros / 86400000000, ?_,
    instant.valid_date, Date.numbered_ofDays _, ?_⟩
  · show _ = ((instant.date.year % 100).toNat : Int)
    omega
  · unfold stamp microsOfDay
    dsimp only
    omega

/-- A text shows the numbers that it was made of. -/
theorem stamp_eq_of_text (h : instant.text = other.text) : instant.stamp = other.stamp := by
  have hother := other.spelled_text
  rw [← h] at hother
  exact Stamp.parts_inj (instant.spelled_text.unique hother (Stamp.layout_eq _ _))

/-- The clock shows no two microseconds of a day alike. -/
theorem eq_of_clock {a b : Nat} (hhour : a / 3600000000 = b / 3600000000)
    (hminute : a / 60000000 % 60 = b / 60000000 % 60)
    (hsecond : a / 1000000 % 60 = b / 1000000 % 60) (hmicro : a % 1000000 = b % 1000000) :
    a = b := by
  omega

theorem eq_of_lastDigits {a b : Int} (h : (a % 100).toNat = (b % 100).toNat) : a % 100 = b % 100 := by
  omega

theorem days_near {a b : Int} (h : (a - b).natAbs ≤ 36523 * 86400000000000) :
    (a / 1000 / 86400000000 - b / 1000 / 86400000000).natAbs < 36524 := by
  omega

theorem eq_of_days {a b : Int} (hdays : a / 86400000000 = b / 86400000000)
    (hrest : (a % 86400000000).toNat = (b % 86400000000).toNat) : a = b := by
  omega

/-- Instants within a century of each other that have the same text lie in the same microsecond. -/
theorem micros_eq_of_text (h : instant.text = other.text)
    (hnear : (instant.nanos - other.nanos).natAbs ≤ 36523 * 86400000000000) :
    instant.micros = other.micros := by
  have hstamp := stamp_eq_of_text h
  unfold stamp at hstamp
  rw [Stamp.mk.injEq] at hstamp
  obtain ⟨hmonth, hday, hyear, hhour, hminute, hsecond, hmicro⟩ := hstamp
  have hdays : instant.date.toDays = instant.micros / 86400000000 := Date.toDays_ofDays _
  have hothers : other.date.toDays = other.micros / 86400000000 := Date.toDays_ofDays _
  have hdate : instant.date = other.date := by
    refine Date.eq_of_toDays_near hmonth hday (eq_of_lastDigits hyear) instant.valid_date.2.2.1 ?_
    rw [hdays, hothers]
    exact days_near hnear
  rw [hdate, hothers] at hdays
  exact eq_of_days hdays.symm (eq_of_clock hhour hminute hsecond hmicro)

theorem text?_of_supported (h : instant.Supported) : instant.text? = some instant.text := if_pos h

end
end Instant

/-- The line of an event starts with the text of its time. -/
theorem Report.eventLine?_eq {record : Record} (h : record.time.Supported) :
    ∃ rest, eventLine? record = some (record.time.text ++ " " ++ rest) := by
  unfold eventLine?
  rw [Instant.text?_of_supported h, Option.map_some]
  simp only [String.append_assoc]
  exact ⟨_, rfl⟩

namespace Instant

variable {instant : Instant}

/-- An instant whose year has a text is written in twenty-four ASCII characters, as numerals of fixed
widths with marks at fixed places, and some date of the calendar with these last two digits of the year
and the time of day are those of the microsecond that the instant lies in. So another instant within a
century that has the same text lies in the same microsecond, and every line of an event starts with
its time, a blank at the twenty-fifth place. -/
theorem text_tells_microsecond (h : instant.Supported) :
    (∃ (text : String) (stamp : Stamp) (micros : Int), instant.text? = some text ∧
      text.toList.length = 24 ∧ (∀ c ∈ text.toList, c.toNat < 0x80) ∧
      Stamp.Spelled stamp.parts text.toList ∧
      stamp.Denotes micros ∧ 1000 * micros ≤ instant.nanos ∧
      instant.nanos < 1000 * micros + 1000) ∧
    (∀ other : Instant, other.text? = instant.text? →
      (instant.nanos - other.nanos).natAbs ≤ 36523 * 86400000000000 →
        other.nanos / 1000 = instant.nanos / 1000) ∧
    ∀ record : Record, record.time = instant →
      ∃ time rest, instant.text? = some time ∧ time.toList.length = 24 ∧
        Report.eventLine? record = some (time ++ " " ++ rest) := by
  have hspelled := instant.spelled_text
  have hlength : instant.text.toList.length = 24 := hspelled.length_eq
  have htext := text?_of_supported h
  refine ⟨⟨instant.text, instant.stamp, instant.micros, htext, hlength,
    hspelled.ascii instant.stamp.ascii_marks, hspelled, instant.denotes_stamp, ?_, ?_⟩, ?_, ?_⟩
  · unfold micros
    omega
  · unfold micros
    omega
  · intro other hother hnear
    rw [htext] at hother
    obtain ⟨-, htexts⟩ := Option.ite_none_right_eq_some.mp hother
    exact (micros_eq_of_text (Option.some.inj htexts).symm hnear).symm
  · rintro record rfl
    obtain ⟨rest, hline⟩ := Report.eventLine?_eq h
    exact ⟨_, rest, htext, hlength, hline⟩

/-- The last nanosecond before 1970 is in the last microsecond before it. -/
theorem text_tells_microsecond_beforeEpoch :
    Supported ⟨-1⟩ ∧ text? ⟨-1⟩ = some "12/31/69 23:59:59.999999" ∧
      ∃ stamp : Stamp, Stamp.Spelled stamp.parts "12/31/69 23:59:59.999999".toList ∧
        stamp.Denotes (-1) := by
  have hsupported : Supported ⟨-1⟩ := by decide
  have htext : text? ⟨-1⟩ = some "12/31/69 23:59:59.999999" := by decide +kernel
  obtain ⟨text, stamp, micros, htext', -, -, hspelled, hdenotes, hlow, hhigh⟩ :=
    (text_tells_microsecond hsupported).1
  obtain rfl := Option.some.inj (htext.symm.trans htext')
  obtain rfl : micros = -1 := by
    dsimp only at hlow hhigh
    omega
  exact ⟨hsupported, htext, stamp, hspelled, hdenotes⟩

end Instant
end EventLog
