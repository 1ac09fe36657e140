import OverlayConfig.Text.Characters
set_option autoImplicit false

namespace OverlayConfig

structure Timestamp where
  seconds : Int
  leap : Bool
  deriving DecidableEq, Repr

inductive TimestampError where
  | tooShort
  | tooLong
  | invalid
  | outOfRange
  | impossible
  deriving DecidableEq, Repr

def TimestampError.message : TimestampError → String
  | .tooShort => "premature end of input"
  | .tooLong => "trailing input"
  | .invalid => "input contains invalid characters"
  | .outOfRange => "input is out of range"
  | .impossible => "no possible date and time matching input"

namespace Timestamp

def digitsValue : (value : Nat) → List Char → Except TimestampError Nat
  | value, [] => .ok value
  | value, c :: cs =>
    let n := value * 10 + (c.toNat - 48)
    if n < Nat.pow 2 63 then digitsValue n cs else .error .outOfRange

/-- Reads a number of at least one digit, and of at most `most` digits if there is a bound. -/
def number (most : Option Nat) (cs : List Char) : Except TimestampError (Nat × List Char) :=
  match cs with
  | [] => .error .tooShort
  | c :: _ =>
    if c.isDigit then do
      let all := cs.takeWhile Char.isDigit
      let digits := match most with
        | some n => all.take n
        | none => all
      let n ← digitsValue 0 digits
      .ok (n, cs.drop digits.length)
    else .error .invalid

def field (low high : Nat) (cs : List Char) : Except TimestampError (Nat × List Char) := do
  let (n, cs) ← number (some 2) (Text.trimStart cs)
  if low ≤ n ∧ n ≤ high then .ok (n, cs) else .error .outOfRange

def year (cs : List Char) : Except TimestampError (Int × List Char) := do
  let (n, cs) ← match Text.trimStart cs with
    | '-' :: rest => (number none rest).map fun p => (-(p.1 : Int), p.2)
    | '+' :: rest => (number none rest).map fun p => ((p.1 : Int), p.2)
    | cs => (number (some 4) cs).map fun p => ((p.1 : Int), p.2)
  if -(Int.pow 2 31) ≤ n ∧ n < Int.pow 2 31 then .ok (n, cs) else .error .outOfRange

def separator (allowed : List Char) : List Char → Except TimestampError (List Char)
  | [] => .error .tooShort
  | c :: cs => if allowed.contains c then .ok cs else .error .invalid

def isLeapYear (year : Int) : Bool := year % 4 = 0 && (year % 100 != 0 || year % 400 = 0)

def daysInMonth (year : Int) (month : Nat) : Nat :=
  if month = 2 then (if isLeapYear year then 29 else 28)
  else if month = 4 ∨ month = 6 ∨ month = 9 ∨ month = 11 then 30
  else 31

/-- The number of days from the start of 1970 to a date. Years are counted from March on, so that a
leap day is the last day of its year. -/
def daysFromDate (year : Int) (month day : Nat) : Int :=
  let y := if month ≤ 2 then year - 1 else year
  let era := y.fdiv 400
  let yearOfEra := y - era * 400
  let monthFromMarch : Int := (month + 9) % 12
  let dayOfYear := (153 * monthFromMarch + 2).fdiv 5 + day - 1
  let dayOfEra := yearOfEra * 365 + yearOfEra.fdiv 4 - yearOfEra.fdiv 100 + dayOfYear
  era * 146097 + dayOfEra - 719468

def dateFromDays (days : Int) : Int × Nat × Nat :=
  let z := days + 719468
  let era := z.fdiv 146097
  let dayOfEra := z - era * 146097
  let yearOfEra :=
    (dayOfEra - dayOfEra.fdiv 1460 + dayOfEra.fdiv 36524 - dayOfEra.fdiv 146096).fdiv 365
  let dayOfYear := dayOfEra - (365 * yearOfEra + yearOfEra.fdiv 4 - yearOfEra.fdiv 100)
  let m := (5 * dayOfYear + 2).fdiv 153
  let day := dayOfYear - (153 * m + 2).fdiv 5 + 1
  let month := if m < 10 then m + 3 else m - 9
  let year := yearOfEra + era * 400 + (if month ≤ 2 then 1 else 0)
  (year, month.toNat, day.toNat)

def fraction : List Char → Except TimestampError (List Char)
  | '.' :: cs => (number (some 9) cs).map fun _ => cs.dropWhile Char.isDigit
  | cs => .ok cs

def twoDigits : List Char → Except TimestampError (Nat × List Char)
  | [] => .error .tooShort
  | [c] => .error (if c.utf8Size = 1 then .tooShort else .invalid)
  | c :: d :: cs =>
    if c.isDigit && d.isDigit then .ok ((c.toNat - 48) * 10 + (d.toNat - 48), cs)
    else .error .invalid

def offsetSize (cs : List Char) : Except TimestampError (Int × List Char) := do
  let (hours, cs) ← twoDigits cs
  let (minutes, cs) ← twoDigits (cs.dropWhile fun c => c = ':' || Text.isBlank c)
  if 59 < minutes then .error .outOfRange
  else .ok (((hours * 60 + minutes) * 60 : Nat), cs)

def offset : List Char → Except TimestampError (Int × List Char)
  | [] => .error .tooShort
  | c :: cs =>
    if ((c :: cs).take 3).map Char.toUpper = ['U', 'T', 'C'] then .ok (0, cs.drop 2)
    else if c = 'Z' ∨ c = 'z' then .ok (0, cs)
    else if c = '+' then offsetSize cs
    else if c = '-' ∨ c = '\u2212' then (offsetSize cs).map fun p => (-p.1, p.2)
    else .error .invalid

def firstYear : Int := -262143

def lastYear : Int := 262142

def parse (cs : List Char) : Except TimestampError Timestamp := do
  let (year, cs) ← year cs
  let cs ← separator ['-'] (Text.trimStart cs)
  let (month, cs) ← field 1 12 cs
  let cs ← separator ['-'] (Text.trimStart cs)
  let (day, cs) ← field 1 31 cs
  let cs ← separator ['T', 't', ' '] cs
  let (hour, cs) ← field 0 23 cs
  let cs ← separator [':'] (Text.trimStart cs)
  let (minute, cs) ← field 0 59 cs
  let cs ← separator [':'] (Text.trimStart cs)
  let (second, cs) ← field 0 60 cs
  let cs ← fraction cs
  let (shift, cs) ← offset (Text.trimStart cs)
  if !(Text.trimStart cs).isEmpty then .error .tooLong
  else if year < firstYear ∨ lastYear < year ∨ daysInMonth year month < day
      ∨ 86400 ≤ shift.natAbs then .error .outOfRange
  else
    let time : Nat := (hour * 60 + minute) * 60 + min second 59
    let seconds := daysFromDate year month day * 86400 + time - shift
    if seconds < daysFromDate firstYear 1 1 * 86400
        ∨ daysFromDate (lastYear + 1) 1 1 * 86400 ≤ seconds then .error .impossible
    else .ok ⟨seconds, second = 60⟩

def padded (width n : Nat) : List Char :=
  let cs := Nat.toDigits 10 n
  List.replicate (width - cs.length) '0' ++ cs

def yearText (year : Int) : List Char :=
  let sign := if year < 0 then ['-'] else if 9999 < year then ['+'] else []
  sign ++ padded 4 year.natAbs

def text (t : Timestamp) : List Char :=
  let (year, month, day) := dateFromDays (t.seconds.fdiv 86400)
  let s := (t.seconds.fmod 86400).toNat
  let second := s % 60 + (if t.leap then 1 else 0)
  yearText year ++ '-' :: padded 2 month ++ '-' :: padded 2 day ++ 'T' :: padded 2 (s / 3600)
    ++ ':' :: padded 2 (s / 60 % 60) ++ ':' :: padded 2 second ++ ['Z']

end Timestamp

end OverlayConfig
