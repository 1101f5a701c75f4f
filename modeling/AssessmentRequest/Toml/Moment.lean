import AssessmentRequest.Toml.Reader

/-!
# Reading TOML: dates and times

A date, a time of day, or a date with a time of day and perhaps an offset. Each part has to
name a moment that exists: months have their true number of days, hours end at 23, minutes
at 59, and seconds at 60 for the sake of leap seconds.
-/

namespace AssessmentRequest.Toml

namespace Moment

/-- Takes a number of exactly `digits` digits, `value` standing before them. -/
def number (digits : Nat) (value : Nat) (text : List Char) : Option (Nat × List Char) :=
  match digits, text with
  | 0, rest => some (value, rest)
  | more + 1, char :: rest =>
    if char.isDigit then number more (10 * value + (char.toNat - '0'.toNat)) rest else none
  | _ + 1, [] => none

/-- Takes a number of two digits between two bounds. -/
def pair (least greatest : Nat) (text : List Char) : Option (Nat × List Char) :=
  match number 2 0 text with
  | some (value, rest) =>
    if least ≤ value ∧ value ≤ greatest then some (value, rest) else none
  | none => none

/-- The year has a 29th of February. -/
def isLeapYear (year : Nat) : Bool := year % 4 = 0 && (year % 100 ≠ 0 || year % 400 = 0)

/-- The number of days of a month. -/
def daysInMonth (year month : Nat) : Nat :=
  if month = 2 then (if isLeapYear year then 29 else 28)
  else if month = 4 ∨ month = 6 ∨ month = 9 ∨ month = 11 then 30
  else 31

/-- The text after the date in front. -/
def date? (text : List Char) : Option (List Char) := do
  let (year, rest) ← number 4 0 text
  let rest ← expect? ['-'] rest
  let (month, rest) ← pair 1 12 rest
  let rest ← expect? ['-'] rest
  let (_, rest) ← pair 1 (daysInMonth year month) rest
  some rest

/-- The text after the fraction of a second in front, if there is one. -/
def skipFraction : List Char → List Char
  | '.' :: digit :: rest =>
    if digit.isDigit then rest.dropWhile Char.isDigit else '.' :: digit :: rest
  | text => text

/-- The text after the time of day in front. -/
def time? (text : List Char) : Option (List Char) := do
  let (_, rest) ← pair 0 23 text
  let rest ← expect? [':'] rest
  let (_, rest) ← pair 0 59 rest
  let rest ← expect? [':'] rest
  let (_, rest) ← pair 0 60 rest
  some (skipFraction rest)

/-- The text after the hours and minutes in front. -/
def clock? (text : List Char) : Option (List Char) := do
  let (_, rest) ← pair 0 23 text
  let rest ← expect? [':'] rest
  let (_, rest) ← pair 0 59 rest
  some rest

/-- The text after the offset in front, if there is one. -/
def skipOffset (text : List Char) : List Char :=
  match text with
  | [] => []
  | char :: rest =>
    if char = 'Z' ∨ char = 'z' then rest
    else if char = '+' ∨ char = '-' then (clock? rest).getD text
    else text

/-- The text after the time of day that follows a date, if one does. -/
def skipTimeOfDate (text : List Char) : List Char :=
  match text with
  | [] => []
  | char :: rest =>
    if char = 'T' ∨ char = 't' ∨ char = ' ' then
      match time? rest with
      | some rest => skipOffset rest
      | none => text
    else text

/-- The text after the date, time or both in front. -/
def rest? (text : List Char) : Option (List Char) :=
  match date? text with
  | some rest => some (skipTimeOfDate rest)
  | none => time? text

end Moment

/-- Takes a date, a time or both. -/
def moment : Reader String := fun text =>
  (Moment.rest? text).map fun rest =>
    (String.ofList (text.take (text.length - rest.length)), rest)

end AssessmentRequest.Toml
