/-
# Moments as text

A moment is written in Universal Time as `2024-01-31T12:00:00Z`, with a fraction of three, six or
nine digits when it has one.  Reading is more lenient: any offset, `UTC` for `Z`, a space for the
`T`, white space between the parts.
-/
import SchemaBridge.Schema.Audit
import SchemaBridge.Text.Blank

namespace SchemaBridge.Moment

/-! ## Calendar -/

/-- Number of the day in the calendar, counted from the first day of 1970. -/
def dayNumber (year : Int) (month day : Nat) : Int :=
  let y := if month ≤ 2 then year - 1 else year
  let era := Int.fdiv y 400
  let yearOfEra := y - era * 400
  let dayOfYear : Int := (153 * ((month + 9) % 12) + 2) / 5 + day - 1
  let dayOfEra := yearOfEra * 365 + yearOfEra / 4 - yearOfEra / 100 + dayOfYear
  era * 146097 + dayOfEra - 719468

/-- Year, month and day of a numbered day. -/
def civil (day : Int) : Int × Nat × Nat :=
  let z := day + 719468
  let era := Int.fdiv z 146097
  let dayOfEra := z - era * 146097
  let yearOfEra := (dayOfEra - dayOfEra / 1460 + dayOfEra / 36524 - dayOfEra / 146096) / 365
  let dayOfYear := dayOfEra - (365 * yearOfEra + yearOfEra / 4 - yearOfEra / 100)
  let shifted := (5 * dayOfYear + 2) / 153
  let d := dayOfYear - (153 * shifted + 2) / 5 + 1
  let m := if shifted < 10 then shifted + 3 else shifted - 9
  let y := yearOfEra + era * 400
  (if m ≤ 2 then y + 1 else y, m.toNat, d.toNat)

/-- Whether a year has 366 days. -/
def isLeapYear (year : Int) : Bool := year % 4 = 0 && (year % 100 ≠ 0 || year % 400 = 0)

/-- Number of days of a month. -/
def daysInMonth (year : Int) : Nat → Nat
  | 2 => if isLeapYear year then 29 else 28
  | 4 | 6 | 9 | 11 => 30
  | _ => 31

/-! ## Writing -/

/-- Decimal digits with zeros before them up to a width. -/
def padded (width n : Nat) : String :=
  let ds := Nat.toDigits 10 n
  String.ofList (List.replicate (width - ds.length) '0' ++ ds)

/-- A year: four digits, or a sign and at least four. -/
def yearText (y : Int) : String :=
  if 0 ≤ y ∧ y ≤ 9999 then padded 4 y.toNat
  else (if y < 0 then "-" else "+") ++ padded 4 y.natAbs

/-- The fraction of a second with 0, 3, 6 or 9 digits. -/
def fractionText (nanos : Nat) : String :=
  if nanos = 0 then ""
  else if nanos % 1000000 = 0 then "." ++ padded 3 (nanos / 1000000)
  else if nanos % 1000 = 0 then "." ++ padded 6 (nanos / 1000)
  else "." ++ padded 9 nanos

/-- Text of a moment, without the mark of its zone. -/
def textWithoutZone (i : Instant) : String :=
  let day := Int.fdiv i.seconds 86400
  let (y, m, d) := civil day
  let time := (i.seconds - day * 86400).toNat
  -- nanoseconds beyond a second stand for the sixty-first second of a minute
  let (second, nanos) :=
    if i.nanos ≥ 1000000000 then (time % 60 + 1, i.nanos - 1000000000) else (time % 60, i.nanos)
  yearText y ++ "-" ++ padded 2 m ++ "-" ++ padded 2 d ++ "T" ++ padded 2 (time / 3600) ++ ":"
    ++ padded 2 (time / 60 % 60) ++ ":" ++ padded 2 second ++ fractionText nanos

/-- A moment as sessions write it, in Universal Time. -/
def text (i : Instant) : String := textWithoutZone i ++ "Z"

/-! ## Reading -/

/-- A number of at most `width` digits, after white space. -/
def number? (width : Nat) (s : List Char) : Option (Nat × List Char) :=
  let s := Text.trimStart s
  match (s.take width).takeWhile Char.isDigit with
  | [] => none
  | ds => some (Text.digitsValue ds, s.drop ds.length)

/-- A number of two digits within bounds. -/
def pair? (low high : Nat) (s : List Char) : Option (Nat × List Char) := do
  let (n, r) ← number? 2 s
  if low ≤ n ∧ n ≤ high then some (n, r) else none

/-- A character, after white space. -/
def mark? (c : Char) (s : List Char) : Option (List Char) :=
  match Text.trimStart s with
  | d :: r => if d == c then some r else none
  | [] => none

/-- A year: four digits at most, or a sign and any number of digits. -/
def year? (s : List Char) : Option (Int × List Char) := do
  let (y, r) : Int × List Char ← match Text.trimStart s with
    | '+' :: r =>
      match r.takeWhile Char.isDigit with
      | [] => none
      | ds => some ((Text.digitsValue ds : Int), r.drop ds.length)
    | '-' :: r =>
      match r.takeWhile Char.isDigit with
      | [] => none
      | ds => some (-(Text.digitsValue ds : Int), r.drop ds.length)
    | r => (number? 4 r).map fun (n, r) => ((n : Int), r)
  if -262143 ≤ y ∧ y ≤ 262142 then some (y, r) else none

/-- Nanoseconds of a fraction; digits after the ninth are dropped. -/
def fraction? : List Char → Option (Nat × List Char)
  | '.' :: r =>
    match (r.take 9).takeWhile Char.isDigit with
    | [] => none
    | ds =>
      some (Text.digitsValue ds * Nat.pow 10 (9 - ds.length), (r.drop ds.length).dropWhile Char.isDigit)
  | r => some (0, r)

/-- Two digits in a row. -/
def twoDigits? : List Char → Option (Nat × List Char)
  | a :: b :: r =>
    if a.isDigit && b.isDigit then some (Text.digitsValue [a, b], r) else none
  | _ => none

/-- Seconds east of Universal Time. -/
def offset? (s : List Char) : Option (Int × List Char) :=
  match s with
  | 'Z' :: r | 'z' :: r => some (0, r)
  | '+' :: r => signed 1 r
  | '-' :: r | '−' :: r => signed (-1) r
  | a :: b :: c :: r =>
    if [a, b, c].map Char.toUpper = ['U', 'T', 'C'] then some (0, r) else none
  | _ => none
where
  signed (sign : Int) (s : List Char) : Option (Int × List Char) := do
    let (hours, r) ← twoDigits? s
    let (minutes, r) ← twoDigits? (r.dropWhile fun c => c == ':' || Text.isBlank c)
    if minutes < 60 ∧ hours < 24 then some (sign * (hours * 3600 + minutes * 60), r) else none

/-- Read a moment. -/
def parse? (text : String) : Option Instant := do
  let (year, r) ← year? text.toList
  let (month, r) ← pair? 1 12 (← mark? '-' r)
  let (day, r) ← pair? 1 (daysInMonth year month) (← mark? '-' r)
  let r ← match r with
    | 'T' :: r | 't' :: r | ' ' :: r => some r
    | _ => none
  let (hour, r) ← pair? 0 23 r
  let (minute, r) ← pair? 0 59 (← mark? ':' r)
  let (second, r) ← pair? 0 60 (← mark? ':' r)
  let (nanos, r) ← fraction? r
  let (offset, r) ← offset? (Text.trimStart r)
  if (Text.trimStart r).isEmpty then
    let time : Int := hour * 3600 + minute * 60 + (if second = 60 then 59 else second)
    some
      { seconds := dayNumber year month day * 86400 + time - offset
        nanos := if second = 60 then nanos + 1000000000 else nanos }
  else none

end SchemaBridge.Moment
