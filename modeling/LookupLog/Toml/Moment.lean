import LookupLog.Text.Basic

/-!
# Dates and times

A moment is a date, a time of day, or a date and a time with or without an offset. Days exist in
their month, with leap years; a minute may have a second 60.
-/

namespace LookupLog.Toml

/-! ## 1. Parts -/

/-- The number that exactly `count` digits write, and what follows them. -/
def fixedDigits? (count : Nat) (text : Text) : Option (Nat × Text) :=
  let digits := text.take count
  if digits.length = count ∧ digits.all Char.isDigit then
    some (Text.toNat digits, text.drop count)
  else none

/-- Has a day more than other years. -/
def isLeapYear (year : Nat) : Bool :=
  year % 4 = 0 ∧ (year % 100 ≠ 0 ∨ year % 400 = 0)

/-- How many days a month has. -/
def daysInMonth (year month : Nat) : Nat :=
  if month = 2 then if isLeapYear year then 29 else 28
  else if month ∈ [4, 6, 9, 11] then 30
  else 31

/-! ## 2. Readers: each returns what follows -/

/-- A date such as `1979-05-27`. -/
def date? (text : Text) : Option Text := do
  let (year, rest) ← fixedDigits? 4 text
  let rest ← Text.after? ['-'] rest
  let (month, rest) ← fixedDigits? 2 rest
  let rest ← Text.after? ['-'] rest
  let (day, rest) ← fixedDigits? 2 rest
  if 1 ≤ month ∧ month ≤ 12 ∧ 1 ≤ day ∧ day ≤ daysInMonth year month then some rest
  else none

/-- Hours and minutes such as `07:32`. -/
def hourMinute? (text : Text) : Option Text := do
  let (hour, rest) ← fixedDigits? 2 text
  let rest ← Text.after? [':'] rest
  let (minute, rest) ← fixedDigits? 2 rest
  if hour ≤ 23 ∧ minute ≤ 59 then some rest else none

/-- A fraction of a second such as `.999`, if there is a point. -/
def secondFraction? : Text → Option Text
  | '.' :: rest =>
    if rest.takeWhile Char.isDigit = [] then none else some (rest.dropWhile Char.isDigit)
  | text => some text

/-- A time such as `07:32:00.999`. -/
def time? (text : Text) : Option Text := do
  let rest ← hourMinute? text
  let rest ← Text.after? [':'] rest
  let (second, rest) ← fixedDigits? 2 rest
  if second ≤ 60 then secondFraction? rest else none

/-- An offset such as `Z` or `-07:00`, if there is one, and nothing else. -/
def isOffset : Text → Bool
  | [] => true
  | ['Z'] => true
  | ['z'] => true
  | '+' :: rest => hourMinute? rest = some []
  | '-' :: rest => hourMinute? rest = some []
  | _ => false

/-! ## 3. Moments -/

/-- A date and nothing else. -/
def isDate (text : Text) : Bool :=
  date? text = some []

/-- A moment and nothing else. -/
def isMoment (text : Text) : Bool :=
  match date? text with
  | some [] => true
  | some (mark :: rest) =>
    (mark = 'T' || mark = 't' || mark = ' ') && (time? rest).any isOffset
  | none => time? text = some []

end LookupLog.Toml
