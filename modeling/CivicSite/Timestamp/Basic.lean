import CivicSite.Double.Decimal

/-!
# Timestamps

A timestamp is a day of the Gregorian calendar, a time of that day to the microsecond, and the
offset of the local clock from universal time. Two timestamps may name the same instant on
clocks of different offsets, so the instant is computed and the local reading is kept.
-/

namespace CivicSite

/-! ## The calendar -/

namespace Calendar

/-- Whether a year has a 29th of February. -/
def isLeap (year : Nat) : Bool :=
  year % 4 == 0 && (year % 100 != 0 || year % 400 == 0)

/-- The days of a month, counted from 1. -/
def daysInMonth (year month : Nat) : Nat :=
  if month = 2 then (if isLeap year then 29 else 28)
  else if month = 4 ∨ month = 6 ∨ month = 9 ∨ month = 11 then 30
  else 31

theorem daysInMonth_le (year month : Nat) : daysInMonth year month ≤ 31 := by
  unfold daysInMonth
  split
  · split <;> omega
  · split <;> omega

/-- The days of the years before a year, counted from year 1. -/
def daysBeforeYear (year : Nat) : Nat :=
  let y := year - 1
  y * 365 + y / 4 - y / 100 + y / 400

def daysBeforeMonth (year : Nat) : Nat → Nat
  | month + 2 => daysBeforeMonth year (month + 1) + daysInMonth year (month + 1)
  | _ => 0

/-- The number of a day, the first of January of year 1 being day 1. -/
def dayNumber (year month day : Nat) : Nat :=
  daysBeforeYear year + daysBeforeMonth year month + day

/-- The day of the week of a day number, Monday being 0. -/
def weekday (n : Nat) : Nat := (n + 6) % 7

end Calendar

/-! ## Timestamps -/

def microsPerDay : Nat := 86400 * 1000000

/-- The parts of a timestamp as they are written, before they are checked. The offset is in
microseconds, east of universal time. -/
structure TimestampParts where
  year : Nat
  month : Nat
  day : Nat
  hour : Nat
  minute : Nat
  second : Nat
  micro : Nat
  offset : Int
deriving DecidableEq, Repr

/-- Why a value is no timestamp. -/
inductive TimestampError where
  | notText (literal : Text)
  | malformed (text : Text)
  | year (n : Nat)
  | month
  | day
  | hour
  | minute
  | second
  | offset (micros : Int)
deriving DecidableEq, Repr

/-- The parts that name a day from year 1 to 9999, a time of day and an offset below a day. -/
def TimestampParts.IsValid (p : TimestampParts) : Prop :=
  (1 ≤ p.year ∧ p.year ≤ 9999) ∧ (1 ≤ p.month ∧ p.month ≤ 12) ∧
    (1 ≤ p.day ∧ p.day ≤ Calendar.daysInMonth p.year p.month) ∧
    p.hour < 24 ∧ p.minute < 60 ∧ p.second < 60 ∧ p.micro < 1000000 ∧
    p.offset.natAbs < microsPerDay

instance (p : TimestampParts) : Decidable p.IsValid := by
  unfold TimestampParts.IsValid; infer_instance

/-- A timestamp: parts that are valid. -/
structure Timestamp extends TimestampParts where
  isValid : toTimestampParts.IsValid
deriving DecidableEq

namespace TimestampParts

/-- The first part that is out of its range. -/
def fault (p : TimestampParts) : TimestampError :=
  if microsPerDay ≤ p.offset.natAbs then .offset p.offset
  else if p.year < 1 || 9999 < p.year then .year p.year
  else if p.month < 1 || 12 < p.month then .month
  else if p.day < 1 || Calendar.daysInMonth p.year p.month < p.day then .day
  else if 24 ≤ p.hour then .hour
  else if 60 ≤ p.minute then .minute
  else .second

def check (p : TimestampParts) : Except TimestampError Timestamp :=
  if h : p.IsValid then .ok ⟨p, h⟩ else .error p.fault

end TimestampParts

namespace Timestamp

instance : Inhabited Timestamp := ⟨⟨⟨1970, 1, 1, 0, 0, 0, 0, 0⟩, by decide⟩⟩

/-- The microseconds from the first of January 1970 in universal time. -/
def instant (t : Timestamp) : Int :=
  let days : Int := Calendar.dayNumber t.year t.month t.day - Calendar.dayNumber 1970 1 1
  let seconds := ((days * 24 + t.hour) * 60 + t.minute) * 60 + t.second
  seconds * 1000000 + t.micro - t.offset

/-- The seconds from the first of January 1970, as the nearest double. -/
def seconds (t : Timestamp) : Double :=
  Double.ofRatio (t.instant < 0) t.instant.natAbs 1000000

end Timestamp

end CivicSite
