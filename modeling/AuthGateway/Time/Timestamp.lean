namespace AuthGateway

namespace Time

/-!
Instants on the calendar, in universal time and to the nanosecond.

A timestamp is kept as the fields it is written with, so that writing and reading it back never
goes through a count of days.  A leap second is a second that lasts for a thousand million
nanoseconds more.
-/

/-- The Gregorian rule. -/
def isLeapYear (year : Int) : Bool :=
  year % 4 == 0 && (year % 100 != 0 || year % 400 == 0)

/-- The number of days of a month; zero when there is no such month. -/
def daysInMonth (year : Int) (month : Nat) : Nat :=
  if month = 2 then (if isLeapYear year then 29 else 28)
  else if month = 4 ∨ month = 6 ∨ month = 9 ∨ month = 11 then 30
  else if 1 ≤ month ∧ month ≤ 12 then 31
  else 0

/-- The years that have a calendar here. -/
def firstYear : Int := -262143
/-- The last of the years that have a calendar here. -/
def lastYear : Int := 262142

structure Date where
  year : Int
  month : Nat
  day : Nat
deriving DecidableEq, Repr

def Date.Legal (d : Date) : Prop :=
  firstYear ≤ d.year ∧ d.year ≤ lastYear ∧ 1 ≤ d.day ∧ d.day ≤ daysInMonth d.year d.month

instance (d : Date) : Decidable d.Legal :=
  inferInstanceAs (Decidable (_ ∧ _ ∧ _ ∧ _))

def Date.next (d : Date) : Date :=
  if d.day < daysInMonth d.year d.month then { d with day := d.day + 1 }
  else if d.month < 12 then { d with month := d.month + 1, day := 1 }
  else { year := d.year + 1, month := 1, day := 1 }

def Date.previous (d : Date) : Date :=
  if 1 < d.day then { d with day := d.day - 1 }
  else if 1 < d.month then
    { d with month := d.month - 1, day := daysInMonth d.year (d.month - 1) }
  else { year := d.year - 1, month := 12, day := 31 }

/-- The number of days since the first of January 1970. -/
def Date.daysSinceEpoch (d : Date) : Int :=
  let before := d.year - 1
  let leapDays := before / 4 - before / 100 + before / 400
  let ofYear := (List.range (d.month - 1)).foldl (fun sum m => sum + daysInMonth d.year (m + 1)) 0
  before * 365 + leapDays + Int.ofNat ofYear + Int.ofNat d.day - 719163

def secondsPerDay : Nat := 86400

/-- A time within a day: its second, and the nanoseconds on top of it. -/
structure TimeOfDay where
  second : Nat
  nano : Nat
deriving DecidableEq, Repr

/-- The time exists; only the last second of a minute can be a leap second. -/
def TimeOfDay.Legal (t : TimeOfDay) : Prop :=
  t.second < secondsPerDay ∧ t.nano < 2000000000 ∧ (1000000000 ≤ t.nano → t.second % 60 = 59)

instance (t : TimeOfDay) : Decidable t.Legal :=
  inferInstanceAs (Decidable (_ ∧ _ ∧ _))

structure Timestamp where
  date : Date
  time : TimeOfDay
  date_legal : date.Legal
  time_legal : time.Legal
deriving DecidableEq

namespace Timestamp

/-- The instant of a day and a time, if both exist. -/
def of? (date : Date) (time : TimeOfDay) : Option Timestamp :=
  if hd : date.Legal then
    if ht : time.Legal then some { date, time, date_legal := hd, time_legal := ht } else none
  else none

def epoch : Timestamp where
  date := { year := 1970, month := 1, day := 1 }
  time := { second := 0, nano := 0 }
  date_legal := by decide
  time_legal := by decide

instance : Inhabited Timestamp :=
  ⟨epoch⟩

/-- Whole seconds since the epoch; a leap second counts as the second before it. -/
def unixSeconds (t : Timestamp) : Int :=
  t.date.daysSinceEpoch * secondsPerDay + t.time.second

/-- The universal time of a local one, `east` seconds ahead of it and less than a day apart. -/
def ofLocal? (date : Date) (time : TimeOfDay) (east : Int) : Option Timestamp :=
  let second := Int.ofNat time.second - east
  if second < 0 then
    of? date.previous { time with second := (second + secondsPerDay).toNat }
  else if second < secondsPerDay then of? date { time with second := second.toNat }
  else of? date.next { time with second := (second - secondsPerDay).toNat }

end Timestamp

end Time

end AuthGateway
