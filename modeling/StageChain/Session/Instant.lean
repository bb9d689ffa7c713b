import StageChain.Number.Numeral

/-!
# Instants

A moment on the calendar to the microsecond, with the offset of its clock from universal time or
without one. The time between two moments is reported in whole milliseconds: it is taken as a double
number of seconds, which is multiplied by a thousand and cut.

* `dateOfDays_zero`: the calendar starts with the first of March of the year zero.
-/

namespace StageChain

/-- A moment, in microseconds from the first of March of the year zero on its own clock, and the
offset of the clock in microseconds if it has one. -/
structure Instant where
  microseconds : Int
  offset : Option Int
  deriving DecidableEq, Repr, Inhabited

namespace Instant

/-- Microseconds in a second. -/
def second : Nat := 1000000

/-- Microseconds in a day. -/
def day : Nat := 86400 * second

/-- The days from the first of March of the year zero to a date. Years are counted from March, so
that the leap day is the last one. -/
def daysOfDate (year month date : Nat) : Nat :=
  let y := if month ≤ 2 then year - 1 else year
  let m := if month ≤ 2 then month + 9 else month - 3
  365 * y + y / 4 - y / 100 + y / 400 + (153 * m + 2) / 5 + date - 1

/-- The date that lies some days after the first of March of the year zero. -/
def dateOfDays (days : Nat) : Nat × Nat × Nat :=
  let era := days / 146097
  let d := days % 146097
  let y := (d - d / 1460 + d / 36524 - d / 146096) / 365
  let dayOfYear := d - (365 * y + y / 4 - y / 100)
  let m := (5 * dayOfYear + 2) / 153
  let date := dayOfYear - (153 * m + 2) / 5 + 1
  let month := if m < 10 then m + 3 else m - 9
  let year := 400 * era + y + if month ≤ 2 then 1 else 0
  (year, month, date)

/-- A number in decimal digits, with zeros before it up to a width. -/
def digits (width n : Nat) : String :=
  let ds := Nat.toDigits 10 n
  String.ofList (List.replicate (width - ds.length) '0' ++ ds)

/-- Hours, minutes and perhaps seconds and microseconds of a span. -/
def clock (full : Bool) (microseconds : Nat) : String :=
  let s := microseconds / second
  let us := microseconds % second
  let hm := digits 2 (s / 3600) ++ ":" ++ digits 2 (s / 60 % 60)
  let hms := if full || s % 60 ≠ 0 || us ≠ 0 then hm ++ ":" ++ digits 2 (s % 60) else hm
  if us = 0 then hms else hms ++ "." ++ digits 6 us

/-- A moment as text: date, time with six places of a second or none, and offset. -/
def text (i : Instant) : String :=
  let us := i.microseconds.toNat
  let (y, m, d) := dateOfDays (us / day)
  let date := digits 4 y ++ "-" ++ digits 2 m ++ "-" ++ digits 2 d
  let offset := match i.offset with
    | none => ""
    | some o => (if o < 0 then "-" else "+") ++ clock false o.natAbs
  date ++ "T" ++ clock true (us % day) ++ offset

/-- The moment of a date and a time. -/
def ofParts (year month date hour minute s us : Nat) (offset : Option Int) : Instant :=
  ⟨(daysOfDate year month date * 86400 + hour * 3600 + minute * 60 + s : Nat) * second + us, offset⟩

/-- A moment so many microseconds later. -/
def later (i : Instant) (microseconds : Int) : Instant :=
  { i with microseconds := i.microseconds + microseconds }

/-- The microseconds from one moment to another; `none` if only one of the clocks has an offset. -/
def since? (start stop : Instant) : Option Int :=
  match start.offset, stop.offset with
  | none, none => some (stop.microseconds - start.microseconds)
  | some a, some b => some ((stop.microseconds - b) - (start.microseconds - a))
  | _, _ => none

/-- A span of microseconds in whole milliseconds. -/
def milliseconds (microseconds : Int) : Int :=
  let seconds := Double.ofRatio (microseconds < 0) microseconds.natAbs second
  ((seconds.timesNat 1000).truncate?).getD 0

/-- A number of exactly so many digits at the start of a text, and the rest. -/
def takeNumber? (width : Nat) (cs : List Char) : Option (Nat × List Char) :=
  let ds := cs.take width
  if ds.length = width ∧ ds.all isDigit = true then some (readNat 10 ds, cs.drop width) else none

/-- A character at the start of a text that must be there. -/
def expect? (c : Char) : List Char → Option (List Char)
  | x :: cs => if x = c then some cs else none
  | [] => none

/-- The offset that a whole text stands for: a sign, hours and minutes, or nothing. -/
def readOffset? : List Char → Option (Option Int)
  | [] => some none
  | sign :: cs => do
    let (h, cs) ← takeNumber? 2 cs
    let cs ← expect? ':' cs
    let (m, cs) ← takeNumber? 2 cs
    let size : Int := (h * 3600 + m * 60 : Nat) * second
    if !cs.isEmpty then none
    else if sign = '+' then some (some size)
    else if sign = '-' then some (some (-size))
    else none

/-- The six places of a second after a point, if there is one, and the rest. -/
def readMicroseconds? : List Char → Option (Nat × List Char)
  | '.' :: cs => takeNumber? 6 cs
  | cs => some (0, cs)

/-- The moment that a text stands for. -/
def ofText? (s : String) : Option Instant := do
  let (y, cs) ← takeNumber? 4 s.toList
  let (m, cs) ← takeNumber? 2 (← expect? '-' cs)
  let (d, cs) ← takeNumber? 2 (← expect? '-' cs)
  let (h, cs) ← takeNumber? 2 (← expect? 'T' cs)
  let (min, cs) ← takeNumber? 2 (← expect? ':' cs)
  let (sec, cs) ← takeNumber? 2 (← expect? ':' cs)
  let (us, cs) ← readMicroseconds? cs
  return ofParts y m d h min sec us (← readOffset? cs)

theorem dateOfDays_zero : dateOfDays 0 = (0, 3, 1) := rfl

end Instant

end StageChain
