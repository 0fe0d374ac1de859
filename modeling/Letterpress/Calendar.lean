import Letterpress.Number.Digits

/-!
This file holds dates and moments and writes them in ISO notation.
-/

namespace Letterpress

structure CalendarDate where
  year : Nat
  month : Nat
  day : Nat
  deriving DecidableEq, Repr

/-- An offset from universal time, in microseconds. -/
structure ZoneOffset where
  microseconds : Int
  deriving DecidableEq, Repr

structure Moment where
  date : CalendarDate
  hour : Nat
  minute : Nat
  second : Nat
  microsecond : Nat
  offset : Option ZoneOffset
  deriving DecidableEq, Repr

namespace CalendarDate

def padded (width value : Nat) : String := String.ofList (padZeros width (decimalDigits value))

def isoText (date : CalendarDate) : String :=
  padded 4 date.year ++ "-" ++ padded 2 date.month ++ "-" ++ padded 2 date.day

/-- This reads fields of fixed width between separators. -/
def readField? (width : Nat) (characters : List Char) : Option (Nat × List Char) :=
  let digits := characters.take width
  if digits.length = width ∧ digits.all Char.isDigit then
    some (readDecimal digits, characters.drop width)
  else none

def skip? (separator : Char) : List Char → Option (List Char)
  | [] => none
  | character :: rest => if character = separator then some rest else none

def readPrefix? (characters : List Char) : Option (CalendarDate × List Char) := do
  let (year, afterYear) ← readField? 4 characters
  let (month, afterMonth) ← readField? 2 (← skip? '-' afterYear)
  let (day, rest) ← readField? 2 (← skip? '-' afterMonth)
  some (⟨year, month, day⟩, rest)

def read? (text : String) : Option CalendarDate :=
  match readPrefix? text.toList with
  | some (date, []) => some date
  | _ => none

/-- The days before the date, counted from the start of the common era. -/
def dayNumber (date : CalendarDate) : Int :=
  let shifted : Int := if date.month ≤ 2 then date.year - 1 else date.year
  let month : Int := if date.month ≤ 2 then date.month + 9 else date.month - 3
  365 * shifted + shifted / 4 - shifted / 100 + shifted / 400 + (153 * month + 2) / 5 + date.day

end CalendarDate

/-- The precision to which the time of a moment is written. -/
inductive TimePrecision
  | automatic
  | hours
  | minutes
  | seconds
  | milliseconds
  | microseconds

namespace ZoneOffset

/-- Seconds and their fraction are written only where they are not zero. -/
def isoText (offset : ZoneOffset) : String :=
  let total := offset.microseconds.natAbs
  let seconds := total / 1000000
  let clock := (if offset.microseconds < 0 then "-" else "+") ++
    CalendarDate.padded 2 (seconds / 3600) ++ ":" ++ CalendarDate.padded 2 (seconds / 60 % 60)
  if total % 1000000 ≠ 0 then
    clock ++ ":" ++ CalendarDate.padded 2 (seconds % 60) ++ "." ++
      CalendarDate.padded 6 (total % 1000000)
  else if seconds % 60 ≠ 0 then clock ++ ":" ++ CalendarDate.padded 2 (seconds % 60)
  else clock

end ZoneOffset

namespace Moment

/-- The time of day to the given precision. -/
def timeText (moment : Moment) (precision : TimePrecision) : String :=
  let hours := CalendarDate.padded 2 moment.hour
  let minutes := hours ++ ":" ++ CalendarDate.padded 2 moment.minute
  let seconds := minutes ++ ":" ++ CalendarDate.padded 2 moment.second
  let microseconds := seconds ++ "." ++ CalendarDate.padded 6 moment.microsecond
  match precision with
  | .automatic => if moment.microsecond = 0 then seconds else microseconds
  | .hours => hours
  | .minutes => minutes
  | .seconds => seconds
  | .milliseconds => seconds ++ "." ++ CalendarDate.padded 3 (moment.microsecond / 1000)
  | .microseconds => microseconds

def isoTextWith (moment : Moment) (separator : String) (precision : TimePrecision) : String :=
  moment.date.isoText ++ separator ++ moment.timeText precision ++
    ((moment.offset.map ZoneOffset.isoText).getD "")

def isoText (moment : Moment) : String := moment.isoTextWith "T" .automatic

/-- Two digits of a clock after a colon, or none. -/
def readClockField (characters : List Char) : Option (Nat × List Char) :=
  match characters with
  | ':' :: rest => CalendarDate.readField? 2 rest
  | _ => some (0, characters)

/-- The fraction of a second has six digits. -/
def readFraction (characters : List Char) : Option (Nat × List Char) :=
  match characters with
  | '.' :: rest => CalendarDate.readField? 6 rest
  | _ => some (0, characters)

/-- This reads hours, minutes and optional seconds as microseconds. -/
def readClock? (characters : List Char) : Option (Nat × List Char) := do
  let (hours, afterHours) ← CalendarDate.readField? 2 characters
  let (minutes, afterMinutes) ← readClockField afterHours
  let (seconds, afterSeconds) ← readClockField afterMinutes
  let (fraction, rest) ← readFraction afterSeconds
  some (((hours * 60 + minutes) * 60 + seconds) * 1000000 + fraction, rest)

def readOffset? : List Char → Option (Option ZoneOffset)
  | [] => some none
  | sign :: rest =>
      match readClock? rest with
      | some (amount, []) =>
          if sign = '+' then some (some ⟨amount⟩)
          else if sign = '-' then some (some ⟨-(amount : Int)⟩)
          else none
      | _ => none

def read? (text : String) : Option Moment := do
  let (date, afterDate) ← CalendarDate.readPrefix? text.toList
  let (time, rest) ← readClock? (afterDate.drop 1)
  let offset ← readOffset? rest
  let seconds := time / 1000000
  some ⟨date, seconds / 3600, seconds / 60 % 60, seconds % 60, time % 1000000, offset⟩

/-- The microseconds since the start of the common era, by the clock of the moment's own zone. -/
def localInstant (moment : Moment) : Int :=
  (((moment.date.dayNumber * 24 + moment.hour) * 60 + moment.minute) * 60 + moment.second) *
    1000000 + moment.microsecond

/-- Two moments with an offset are equal when they are the same instant. -/
def isSame (first second : Moment) : Bool :=
  match first.offset, second.offset with
  | none, none => first.localInstant = second.localInstant
  | some firstOffset, some secondOffset =>
      first.localInstant - firstOffset.microseconds =
        second.localInstant - secondOffset.microseconds
  | _, _ => false

end Moment

end Letterpress
