/-!
# Calendar

Dates of the proleptic Gregorian calendar from the year 1 to the year 9999, and times of day to the
microsecond.
-/

namespace Workgraph

namespace Calendar

/-- Whether a year has a 29th of February. -/
def isLeap (year : Nat) : Bool :=
  year % 4 == 0 && (year % 100 != 0 || year % 400 == 0)

def monthLength (year month : Nat) : Nat :=
  if month = 2 then if isLeap year then 29 else 28
  else if month = 4 ∨ month = 6 ∨ month = 9 ∨ month = 11 then 30
  else 31

theorem one_le_monthLength (year month : Nat) : 1 ≤ monthLength year month := by
  unfold monthLength
  repeat' split
  all_goals omega

def lastYear : Nat := 9999

end Calendar

open Calendar

structure Date where
  year : Nat
  month : Nat
  day : Nat
  year_valid : 1 ≤ year ∧ year ≤ lastYear
  month_valid : 1 ≤ month ∧ month ≤ 12
  day_valid : 1 ≤ day ∧ day ≤ monthLength year month

namespace Date

/-- The day with these numbers, if there is one. -/
def of? (year month day : Nat) : Option Date :=
  if hy : 1 ≤ year ∧ year ≤ lastYear then
    if hm : 1 ≤ month ∧ month ≤ 12 then
      if hd : 1 ≤ day ∧ day ≤ monthLength year month then
        some ⟨year, month, day, hy, hm, hd⟩
      else none
    else none
  else none

def daysBeforeYear (year : Nat) : Nat :=
  let past := year - 1
  past * 365 + past / 4 - past / 100 + past / 400

def daysBeforeMonth (year : Nat) : Nat → Nat
  | 0 => 0
  | 1 => 0
  | month + 1 => daysBeforeMonth year month + monthLength year month

/-- The number of a day, counted from the first day of the year 1, which is day 1. -/
def ordinal (d : Date) : Nat :=
  daysBeforeYear d.year + daysBeforeMonth d.year d.month + d.day

/-- The day of the week, from 0 for Monday to 6 for Sunday. -/
def weekday (d : Date) : Nat := (d.ordinal + 6) % 7

/-- The day after; the calendar ends with the last year. -/
def next? (d : Date) : Option Date :=
  if hd : d.day < monthLength d.year d.month then
    some ⟨d.year, d.month, d.day + 1, d.year_valid, d.month_valid, by omega, hd⟩
  else if hm : d.month < 12 then
    some ⟨d.year, d.month + 1, 1, d.year_valid, by omega, by omega, one_le_monthLength _ _⟩
  else if hy : d.year < lastYear then
    some ⟨d.year + 1, 1, 1, by omega, by omega, by omega, one_le_monthLength _ _⟩
  else none

/-- The day so many days later, if the calendar reaches it. -/
def advance? : Nat → Date → Option Date
  | 0, d => some d
  | days + 1, d => d.next?.bind (advance? days)

end Date

structure DateTime where
  date : Date
  hour : Fin 24
  minute : Fin 60
  second : Fin 60
  microsecond : Fin 1000000

namespace DateTime

/-- The decimal digits of a number, with zeros in front up to a width. -/
def padded (width n : Nat) : String :=
  let digits := Nat.toDigits 10 n
  String.ofList (List.replicate (width - digits.length) '0' ++ digits)

/-- The text of a time; the microseconds are left out when they are zero. -/
def text (t : DateTime) : String :=
  padded 4 t.date.year ++ "-" ++ padded 2 t.date.month ++ "-" ++ padded 2 t.date.day ++ "T" ++
    padded 2 t.hour ++ ":" ++ padded 2 t.minute ++ ":" ++ padded 2 t.second ++
    if t.microsecond.val = 0 then "" else "." ++ padded 6 t.microsecond

/-- The same day at a full hour; what is below the second stays. -/
def atHour (t : DateTime) (hour : Fin 24) : DateTime :=
  { t with hour, minute := 0, second := 0 }

/-- Noon of the fifteenth of January 2024. -/
def standard : DateTime where
  date := ⟨2024, 1, 15, by decide, by decide, by decide⟩
  hour := 12
  minute := 0
  second := 0
  microsecond := 0

end DateTime

end Workgraph
