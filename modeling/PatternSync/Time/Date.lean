/-!
# Calendar dates

Days of the proleptic Gregorian calendar. A date carries the proof that its month and day exist,
so stepping to a neighbouring day never leaves the calendar.
-/

namespace PatternSync

/-- Whether the year has a 29th of February. -/
def isLeapYear (year : Int) : Bool :=
  year % 4 == 0 && (year % 100 != 0 || year % 400 == 0)

def daysInMonth (year : Int) (month : Nat) : Nat :=
  if month = 2 then (if isLeapYear year then 29 else 28)
  else if month = 4 ∨ month = 6 ∨ month = 9 ∨ month = 11 then 30
  else 31

theorem daysInMonth_pos (year : Int) (month : Nat) : 1 ≤ daysInMonth year month := by
  unfold daysInMonth
  repeat' split
  all_goals omega

/-- A day of the calendar. -/
structure Date where
  year : Int
  month : Nat
  day : Nat
  valid : 1 ≤ month ∧ month ≤ 12 ∧ 1 ≤ day ∧ day ≤ daysInMonth year month
  deriving DecidableEq

namespace Date

/-- The day with this number, if the month has one. -/
def of? (year : Int) (month day : Nat) : Option Date :=
  if valid : 1 ≤ month ∧ month ≤ 12 ∧ 1 ≤ day ∧ day ≤ daysInMonth year month then
    some { year, month, day, valid }
  else none

/-- The first of January. -/
def newYear (year : Int) : Date where
  year := year
  month := 1
  day := 1
  valid := ⟨by omega, by omega, by omega, daysInMonth_pos year 1⟩

def next (d : Date) : Date :=
  if h : d.day < daysInMonth d.year d.month then
    { year := d.year, month := d.month, day := d.day + 1
      valid := ⟨d.valid.1, d.valid.2.1, by omega, h⟩ }
  else if h : d.month < 12 then
    { year := d.year, month := d.month + 1, day := 1
      valid := ⟨by omega, by omega, by omega, daysInMonth_pos _ _⟩ }
  else newYear (d.year + 1)

def previous (d : Date) : Date :=
  if h : 1 < d.day then
    { year := d.year, month := d.month, day := d.day - 1
      valid := ⟨d.valid.1, d.valid.2.1, by omega, by have := d.valid.2.2.2; omega⟩ }
  else if h : 1 < d.month then
    { year := d.year, month := d.month - 1, day := daysInMonth d.year (d.month - 1)
      valid := ⟨by omega, by have := d.valid.2.1; omega, daysInMonth_pos _ _, Nat.le_refl _⟩ }
  else
    { year := d.year - 1, month := 12, day := 31
      valid := ⟨by omega, by omega, by omega, by simp [daysInMonth]⟩ }

def addDays (d : Date) : Nat → Date
  | 0 => d
  | n + 1 => (d.addDays n).next

end Date

end PatternSync
