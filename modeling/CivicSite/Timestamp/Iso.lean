import CivicSite.Timestamp.Basic
import CivicSite.Text.Blank

/-!
# Timestamps in ISO 8601

`iso` writes a timestamp with a `T` between date and time, the fraction only where there is
one, and an offset of hours and minutes, with seconds only where there are any.

`parseIso` reads far more. The date may be a day of a month or of a week of the year, with or
without dashes; any one character may stand between date and time; the time may stop after
the hours or the minutes, with or without colons; a fraction may follow any of its parts; and
the offset may be missing, `Z`, or written like a time. The reader looks only where it must:
one byte in front of the offset, and what follows six digits of a fraction there, is not
looked at. The one character between date and time may be half a surrogate pair.
-/

namespace CivicSite.Timestamp

/-! ## Writing -/

/-- A number with at least the given count of digits. -/
def padded (width n : Nat) : List Char :=
  let digits := Nat.toDigits 10 n
  List.replicate (width - digits.length) '0' ++ digits

/-- The fraction of a second, nothing where it is zero. -/
def fractionText (micro : Nat) : List Char :=
  if micro = 0 then [] else '.' :: padded 6 micro

def offsetText (offset : Int) : List Char :=
  let micros := offset.natAbs
  let seconds := micros / 1000000
  let micro := micros % 1000000
  (if offset < 0 then '-' else '+') :: padded 2 (seconds / 3600) ++ ':' ::
    padded 2 (seconds / 60 % 60) ++
    if seconds % 60 = 0 ∧ micro = 0 then []
    else ':' :: padded 2 (seconds % 60) ++ fractionText micro

def iso (t : Timestamp) : Text :=
  .ofChars <|
    padded 4 t.year ++ '-' :: padded 2 t.month ++ '-' :: padded 2 t.day ++ 'T' ::
      padded 2 t.hour ++ ':' :: padded 2 t.minute ++ ':' :: padded 2 t.second ++
      fractionText t.micro ++ offsetText t.offset

/-! ## Reading digits -/

def byteSize (cs : List Char) : Nat := (String.ofList cs).utf8ByteSize

/-- What stands for the end of the text where a character is looked at. -/
def endMark : Char := Char.ofNat 0

/-- The number written by the first `count` characters, all of which must be digits, and the
rest. -/
def digits? (count : Nat) (cs : List Char) : Option (Nat × List Char) :=
  let ds := cs.take count
  if ds.length = count ∧ ds.all Char.isDigit then
    some (Nat.ofDigitChars 10 ds 0, cs.drop count)
  else none

/-! ## Reading a date -/

/-- The calendar day of a day of a week of a year, where the year has that week. The calendar
begins with year 1; of year 0 only the month is found missing. -/
def weekDate? (year week day : Nat) : Option (Nat × Nat × Nat) := do
  let newYear := Calendar.weekday (Calendar.dayNumber year 1 1)
  guard (year != 0 || week != 53)
  guard (1 ≤ week && (week ≤ 52 || week == 53 &&
    (newYear == 3 || newYear == 2 && Calendar.isLeap year)))
  guard (1 ≤ day && day ≤ 7)
  if year = 0 then return (1, 0, day)
  let firstMonday := Calendar.dayNumber year 1 1 + (if newYear > 3 then 7 else 0) - newYear
  return dateOf (firstMonday + (week - 1) * 7 + day - 1) year
where
  /-- The date of a day number that lies in the given year or next to it. -/
  dateOf (n year : Nat) : Nat × Nat × Nat :=
    let start (y : Nat) := Calendar.daysBeforeYear y
    let y := if n ≤ start year then year - 1 else if start (year + 1) < n then year + 1 else year
    let rest := n - start y
    let month := ((List.range' 1 12).filter fun m => Calendar.daysBeforeMonth y m < rest).length
    (y, month, rest - Calendar.daysBeforeMonth y month)

/-- The year, month and day at the start of the text. The date ends at the place `stop`, which
only a week without a day looks at. -/
def date? (stop : Nat) (cs : List Char) : Option (Nat × Nat × Nat) := do
  let (year, cs) ← digits? 4 cs
  let dashed := cs.headD endMark == '-'
  let cs := if dashed then cs.drop 1 else cs
  let read := if dashed then 5 else 4
  if cs.headD endMark == 'W' then
    let (week, cs) ← digits? 2 (cs.drop 1)
    if read + 3 < stop then
      guard (!dashed || cs.headD endMark == '-')
      let (day, _) ← digits? 1 (if dashed then cs.drop 1 else cs)
      weekDate? year week day
    else weekDate? year week 1
  else
    let (month, cs) ← digits? 2 cs
    guard (!dashed || cs.headD endMark == '-')
    let (day, _) ← digits? 2 (if dashed then cs.drop 1 else cs)
    return (year, month, day)

/-- The place where the date ends, by the characters that tell its forms apart. Places and
the size of the text are counted in bytes; before the end of a date a byte is a character. -/
def dateEnd (size : Nat) (cs : List Char) : Nat :=
  let at' (i : Nat) : Char := (cs.drop i).headD endMark
  if size == 7 then 7
  else if at' 4 == '-' then
    if at' 5 == 'W' then
      if 8 < size && at' 8 == '-' then
        if 10 < size && (at' 10).isDigit then 8 else 10
      else 8
    else 10
  else if at' 4 == 'W' then
    let stop := 7 + ((cs.drop 7).takeWhile Char.isDigit).length
    if stop < 9 then stop else if stop % 2 == 0 then 7 else 8
  else 8

/-! ## Reading a time -/

/-- The parts of a time and what follows them: whether the text ends there. -/
structure ClockReading where
  hour : Nat
  minute : Nat
  second : Nat
  micro : Nat
  complete : Bool

/-- The digits of a fraction, at most six of which count, and whether the text ends there. -/
def fraction? (left : Nat) (cs : List Char) : Option (Nat × Bool) := do
  let count := min left 6
  let (n, rest) ← digits? count cs
  let rest := rest.dropWhile Char.isDigit
  return (n * Nat.pow 10 (6 - count), rest.headD endMark == endMark)

/-- Reads hours, minutes and seconds in turn. `left` bytes belong to the time; the text may go
on after them. -/
def clockParts? (read : List Nat) (colons : Bool) :
    Nat → Nat → List Char → Option (List Nat × Nat × Bool)
  | 0, left, cs => do
    let (micro, complete) ← fraction? left cs
    return (read, micro, complete)
  | more + 1, left, cs => do
    let (n, cs) ← digits? 2 cs
    let c := cs.headD endMark
    let read := read ++ [n]
    let colons := if read.length == 1 then c == ':' else colons
    if left ≤ 3 then return (read, 0, c == endMark)
    else if colons && c == ':' then clockParts? read colons more (left - 3) (cs.drop 1)
    else if c == '.' || c == ',' then
      let (micro, complete) ← fraction? (left - 3) (cs.drop 1)
      return (read, micro, complete)
    else if !colons then clockParts? read colons more (left - 2) cs
    else none

/-- The time in the first `left` bytes. -/
def clock? (left : Nat) (cs : List Char) : Option ClockReading := do
  let (parts, micro, complete) ← clockParts? [] true 3 left cs
  return ⟨parts.getD 0 0, parts.getD 1 0, parts.getD 2 0, micro, complete⟩

/-- The offset that a sign and a time after it write. Less than a second is no offset. -/
def offset? (cs : List Char) : Option Int := do
  let digits := cs.drop 1
  let r ← clock? (byteSize digits) digits
  guard r.complete
  let seconds := (r.hour * 60 + r.minute) * 60 + r.second
  let micros : Int := if seconds = 0 then 0 else seconds * 1000000 + r.micro
  return if cs.headD endMark == '-' then -micros else micros

/-- A time with its offset, if it has one. -/
def time? (cs : List Char) : Option (ClockReading × Int) := do
  let isMark (c : Char) : Bool := c == '+' || c == '-' || c == 'Z'
  guard (!cs.isEmpty)
  let before := cs.takeWhile fun c => !isMark c
  let clock ← clock? (byteSize before) cs
  let rest := cs.drop before.length
  match rest with
  | [] => do
    guard clock.complete
    return (clock, 0)
  | 'Z' :: after => do
    guard (after.headD endMark == endMark)
    return (clock, 0)
  | _ => return (clock, ← offset? rest)

/-! ## Reading a timestamp -/

/-- The parts of a timestamp in ISO 8601, in universal time if no offset is written. -/
def parts? (cs : List Char) : Option TimestampParts := do
  let size := byteSize cs
  guard (7 ≤ size)
  let stop := dateEnd size cs
  let (year, month, day) ← date? stop cs
  if size ≤ stop then return ⟨year, month, day, 0, 0, 0, 0, 0⟩
  let (clock, offset) ← time? (cs.drop (stop + 1))
  return ⟨year, month, day, clock.hour, clock.minute, clock.second, clock.micro, offset⟩

/-- The places where the date may end, counted in code points. -/
def separatorPlaces : List Nat := [7, 8, 10]

/-- The characters of a text in which a half of a pair stands alone at one of the places where
the date may end, if anywhere: there a `T` takes its place. -/
def characters? (s : Text) : Option (List Char) :=
  match separatorPlaces.find? fun i => s[i]?.any (·.char?.isNone) with
  | some i => Text.chars? (s.set i 'T')
  | none => s.chars?

/-- The timestamp that a text writes in ISO 8601. Blanks around it do not count, and a `Z` at
its end means universal time. -/
def parseIso (s : Text) : Except TimestampError Timestamp :=
  let inner := Text.trim s
  let text : Text := if inner.getLast? == some 'Z' then inner.dropLast ++ "+00:00" else inner
  match (characters? text).bind parts? with
  | some p => p.check
  | none => .error (.malformed text)

end CivicSite.Timestamp
