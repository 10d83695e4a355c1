import WidgetRepair.Text.Blank
import WidgetRepair.Json.Scan

/-! Moments in universal time, written as RFC 3339 texts. Reading is lenient about blanks, the
letter between date and time, and the zone; writing has one form for each moment. -/

namespace WidgetRepair

/-- Seconds since the start of 1970 and nanoseconds. A leap second is the second before it with
a thousand million nanoseconds more. -/
structure Timestamp where
  seconds : Int
  nanos : Nat
  deriving DecidableEq, Repr, Inhabited

namespace Timestamp

/-- Days from the start of 1970 to a date; years begin in March here, so that the leap day comes
last. -/
def daysOf (year : Int) (month day : Nat) : Int :=
  let year := if month ≤ 2 then year - 1 else year
  let era := year.fdiv 400
  let ofEra := year - era * 400
  let ofYear : Int := ((153 * ((month + 9) % 12) + 2) / 5 + day - 1 : Nat)
  era * 146097 + ofEra * 365 + ofEra / 4 - ofEra / 100 + ofYear - 719468

/-- The year, month and day of a count of days. -/
def dateOf (days : Int) : Int × Nat × Nat :=
  let shifted := days + 719468
  let era := shifted.fdiv 146097
  let ofEra := (shifted - era * 146097).toNat
  let year := (ofEra - ofEra / 1460 + ofEra / 36524 - ofEra / 146096) / 365
  let ofYear := ofEra - (365 * year + year / 4 - year / 100)
  let part := (5 * ofYear + 2) / 153
  let day := ofYear - (153 * part + 2) / 5 + 1
  let month := if part < 10 then part + 3 else part - 9
  ((year : Int) + era * 400 + (if month ≤ 2 then 1 else 0), month, day)

def isLeap (year : Int) : Bool := year % 4 == 0 && (year % 100 != 0 || year % 400 == 0)

def daysIn (year : Int) (month : Nat) : Nat :=
  if month = 2 then (if isLeap year then 29 else 28)
  else if month = 4 || month = 6 || month = 9 || month = 11 then 30
  else 31

open Text (trimStart isBlank)
open Json (isDigit digitValue)

def valueOf (digits : List Char) : Nat := digits.foldl (fun n c => n * 10 + digitValue c) 0

/-- A number of one to `most` digits after blanks. -/
def number? (most : Nat) (text : List Char) : Option (Nat × List Char) :=
  let digits := (text.takeWhile isDigit).take most
  if digits.isEmpty then none else some (valueOf digits, text.drop digits.length)

/-- A year of up to four digits, or of any length after a sign. -/
def year? (text : List Char) : Option (Int × List Char) :=
  match trimStart text with
  | '-' :: rest => (number? rest.length rest).map fun (n, rest) => (-(n : Int), rest)
  | '+' :: rest => (number? rest.length rest).map fun (n, rest) => ((n : Int), rest)
  | rest => (number? 4 rest).map fun (n, rest) => ((n : Int), rest)

/-- A part of two digits at most, between two limits. -/
def part? (least most : Nat) (text : List Char) : Option (Nat × List Char) := do
  let (n, rest) ← number? 2 (trimStart text)
  if least ≤ n && n ≤ most then some (n, rest) else none

/-- A separator after blanks. -/
def separator? (c : Char) (text : List Char) : Option (List Char) :=
  match trimStart text with
  | d :: rest => if c = d then some rest else none
  | [] => none

/-- The fraction of a second, of which nine digits count. -/
def fraction? : List Char → Option (Nat × List Char)
  | '.' :: rest => do
    let (n, _) ← number? 9 rest
    let size := ((rest.takeWhile isDigit).take 9).length
    some (n * Nat.pow 10 (9 - size), rest.dropWhile isDigit)
  | rest => some (0, rest)

/-- The offset of a zone in seconds: `Z`, `UTC`, or hours and minutes with a sign. -/
def offset? (text : List Char) : Option (Int × List Char) :=
  let text := trimStart text
  if (text.take 3).map Char.toUpper = ['U', 'T', 'C'] then some (0, text.drop 3)
  else
    match text with
    | 'Z' :: rest => some (0, rest)
    | 'z' :: rest => some (0, rest)
    | sign :: h :: i :: rest =>
      if (sign = '+' || sign = '-' || sign.toNat = 0x2212) && isDigit h && isDigit i then
        match rest.dropWhile fun c => c = ':' || isBlank c with
        | m :: n :: rest =>
          if isDigit m && digitValue m ≤ 5 && isDigit n then
            let size : Int := (valueOf [h, i] * 60 + valueOf [m, n]) * 60
            some (if sign = '+' then size else -size, rest)
          else none
        | _ => none
      else none
    | _ => none

/-- The first year that moments lie in, and the last one. -/
def firstYear : Int := -262143

def lastYear : Int := 262142

/-- The moment a text names. Both its own date and that of universal time have to lie in the years
that there are. -/
def ofText? (text : String) : Option Timestamp := do
  let (year, rest) ← year? text.toList
  let (month, rest) ← part? 1 12 (← separator? '-' rest)
  let (day, rest) ← part? 1 31 (← separator? '-' rest)
  let rest ← match rest with
    | 't' :: rest => some rest
    | 'T' :: rest => some rest
    | ' ' :: rest => some rest
    | _ => none
  let (hour, rest) ← part? 0 23 rest
  let (minute, rest) ← part? 0 59 (← separator? ':' rest)
  let (second, rest) ← part? 0 60 (← separator? ':' rest)
  let (nanos, rest) ← fraction? rest
  let (offset, rest) ← offset? rest
  guard (rest.all isBlank)
  guard (day ≤ daysIn year month)
  guard (firstYear ≤ year && year ≤ lastYear && offset.natAbs < 86400)
  let leap := second = 60
  let ofDay : Int := (hour * 60 + minute) * 60 + (if leap then 59 else second)
  let seconds := daysOf year month day * 86400 + ofDay - offset
  guard (daysOf firstYear 1 1 * 86400 ≤ seconds && seconds < daysOf (lastYear + 1) 1 1 * 86400)
  some ⟨seconds, if leap then nanos + 1000000000 else nanos⟩

/-- A number with leading zeros up to a width. -/
def padded (width n : Nat) : List Char :=
  let digits := Nat.toDigits 10 n
  List.replicate (width - digits.length) '0' ++ digits

/-- A year has four digits; one that needs more, or that lies before the era, has a sign. -/
def yearText (year : Int) : List Char :=
  if 0 ≤ year && year ≤ 9999 then padded 4 year.natAbs
  else (if year < 0 then '-' else '+') :: padded 4 year.natAbs

/-- The fraction of a second in as many groups of three digits as it needs. -/
def fractionText (nanos : Nat) : List Char :=
  if nanos = 0 then []
  else if nanos % 1000000 = 0 then '.' :: padded 3 (nanos / 1000000)
  else if nanos % 1000 = 0 then '.' :: padded 6 (nanos / 1000)
  else '.' :: padded 9 nanos

def toText (t : Timestamp) : String :=
  let (year, month, day) := dateOf (t.seconds.fdiv 86400)
  let ofDay := (t.seconds.fmod 86400).toNat
  let leap := t.nanos / 1000000000
  let time := padded 2 (ofDay / 3600) ++ ':' :: padded 2 (ofDay / 60 % 60) ++
    ':' :: padded 2 (ofDay % 60 + leap) ++ fractionText (t.nanos % 1000000000)
  String.ofList (yearText year ++ '-' :: padded 2 month ++ '-' :: padded 2 day ++
    'T' :: time ++ ['Z'])

/-- The moment some milliseconds earlier. -/
def before (t : Timestamp) (millis : Nat) : Timestamp :=
  let total : Int := t.seconds * 1000000000 + t.nanos - (millis * 1000000 : Nat)
  ⟨total.fdiv 1000000000, (total.fmod 1000000000).toNat⟩

end Timestamp

end WidgetRepair
