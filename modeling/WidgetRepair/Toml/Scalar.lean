import WidgetRepair.Json.Scan
import WidgetRepair.Timestamp

/-! The smallest pieces of a TOML text: blanks, comments, quoted texts, numbers and moments. Each
reader takes a piece from the front of what is left, or fails. -/

namespace WidgetRepair.Toml

open Json (isDigit digitValue hexValue?)

/-- Taking something from the front of a text. -/
abbrev Scan := StateT (List Char) Option

namespace Scan

def fail {α : Type} : Scan α := fun _ => none

def peek : Scan (Option Char) := do return (← get).head?

/-- One character that is known to come next. -/
def expect (c : Char) : Scan Unit := fun text =>
  match text with
  | d :: rest => if c = d then some ((), rest) else none
  | [] => none

/-- Whether a piece of text comes next; if so, it is taken. -/
def taken (piece : List Char) : Scan Bool := fun text =>
  if piece.isPrefixOf text then some (true, text.drop piece.length) else some (false, text)

/-- The longest run of characters of a kind. -/
def run (kind : Char → Bool) : Scan (List Char) := fun text =>
  some (text.takeWhile kind, text.dropWhile kind)

/-- What follows the first reading that succeeds. -/
def either {α : Type} (first second : Scan α) : Scan α := fun text => (first text).or (second text)

/-- A piece that may be absent. -/
def maybe {α : Type} (piece : Scan α) : Scan (Option α) := fun text =>
  match piece text with
  | some (a, rest) => some (some a, rest)
  | none => some (none, text)

end Scan

open Scan

def isBlank (c : Char) : Bool := c == ' ' || c == '\t'

def blanks : Scan Unit := do let _ ← run isBlank

/-- A line ends with a line feed, or a carriage return and one. -/
def lineEnd : Scan Unit := do
  if ← taken ['\r', '\n'] then return else expect '\n'

/-- Characters that a comment and a literal text may hold. -/
def isPlain (c : Char) : Bool := c == '\t' || (0x20 ≤ c.toNat && c.toNat != 0x7F)

def comment : Scan Unit := do
  if ← taken ['#'] then let _ ← run isPlain

/-- The end of a line, after blanks and a comment. -/
def closeLine : Scan Unit := do
  blanks
  comment
  if (← get).isEmpty then return else lineEnd

/-- Blanks, comments and line ends, as they may stand between the items of a list. -/
def space : Nat → Scan Unit
  | 0 => fail
  | fuel + 1 => do
    blanks
    comment
    match ← peek with
    | some '\n' | some '\r' =>
      lineEnd
      space fuel
    | _ => return

/-- The value of exactly `count` hexadecimal digits. -/
def hexCode : (count : Nat) → Nat → Scan Nat
  | 0, n => return n
  | count + 1, n => fun text =>
    match text with
    | c :: rest =>
      match hexValue? c with
      | some d => hexCode count (n * 16 + d) rest
      | none => none
    | [] => none

def character (code : Nat) : Scan Char :=
  if code.isValidChar then return Char.ofNat code else fail

/-- The character an escape stands for, after the backslash. -/
def escape : Scan Char := fun text =>
  match text with
  | 'b' :: rest => some (Char.ofNat 8, rest)
  | 't' :: rest => some ('\t', rest)
  | 'n' :: rest => some ('\n', rest)
  | 'f' :: rest => some (Char.ofNat 12, rest)
  | 'r' :: rest => some ('\r', rest)
  | '"' :: rest => some ('"', rest)
  | '\\' :: rest => some ('\\', rest)
  | 'u' :: rest => (hexCode 4 0 >>= character) rest
  | 'U' :: rest => (hexCode 8 0 >>= character) rest
  | _ => none

/-- A text in double quotes, after the first of them. -/
def basicText : Nat → Scan (List Char)
  | 0 => fail
  | fuel + 1 => do
    match ← peek with
    | none => fail
    | some c =>
      modify (·.drop 1)
      if c == '"' then return []
      else if c == '\\' then return (← escape) :: (← basicText fuel)
      else if isPlain c then return c :: (← basicText fuel)
      else fail

/-- A text in single quotes, after the first of them. -/
def literalText : Scan (List Char) := do
  let content ← run fun c => isPlain c && c != '\x27'
  expect '\x27'
  return content

/-- A text of many lines after its opening quotes. Up to two quotes may stand before the closing
three; a backslash at the end of a line takes the space after it away. -/
def longText (quote : Char) : Nat → Scan (List Char)
  | 0 => fail
  | fuel + 1 => do
    match ← get with
    | [] => fail
    | c :: rest =>
      if c == quote then
        let count := ((c :: rest).takeWhile (· == quote)).length
        if count < 3 then
          modify (·.drop count)
          return List.replicate count quote ++ (← longText quote fuel)
        else
          let extra := min (count - 3) 2
          modify (·.drop (extra + 3))
          return List.replicate extra quote
      else if c == '\\' && quote == '"' then
        set rest
        if ((rest.dropWhile isBlank).head?.map fun d => d == '\n' || d == '\r').getD false then
          blanks
          lineEnd
          longGap fuel
          longText quote fuel
        else return (← escape) :: (← longText quote fuel)
      else if c == '\n' || c == '\r' then
        lineEnd
        return '\n' :: (← longText quote fuel)
      else if isPlain c then
        set rest
        return c :: (← longText quote fuel)
      else fail
where
  /-- Blanks and line ends up to the next other character. -/
  longGap : Nat → Scan Unit
    | 0 => fail
    | fuel + 1 => do
      blanks
      match ← peek with
      | some '\n' | some '\r' =>
        lineEnd
        longGap fuel
      | _ => return

/-- A quoted text of any of the four forms. -/
def quoted (fuel : Nat) : Scan String := do
  if ← taken ['"', '"', '"'] then long '"'
  else if ← taken ['\x27', '\x27', '\x27'] then long '\x27'
  else if ← taken ['"'] then return String.ofList (← basicText fuel)
  else
    expect '\x27'
    return String.ofList (← literalText)
where
  long (quote : Char) : Scan String := do
    match ← peek with
    | some '\n' | some '\r' => let _ ← maybe lineEnd
    | _ => pure ()
    return String.ofList (← longText quote fuel)

/-- Digits with single underscores between them. -/
def digitRun (digit : Char → Bool) : Scan (List Char) := do
  let all ← run fun c => digit c || c == '_'
  if separated all then return all.filter (· != '_') else fail
where
  separated : List Char → Bool
    | [] => false
    | [c] => c != '_'
    | c :: d :: rest => !(c == '_' && d == '_') && separated (d :: rest)

/-- Digits as `digitRun` takes them, of which the first is no underscore. -/
def digits (digit : Char → Bool) : Scan (List Char) := do
  match ← peek with
  | some c => if digit c then digitRun digit else fail
  | none => fail

def sign : Scan Bool := do
  if ← taken ['-'] then return true
  let _ ← taken ['+']
  return false

/-- Digits of a whole number: a zero in front stands alone. -/
def wholeDigits : Scan (List Char) := do
  if ← taken ['0'] then return ['0'] else digits isDigit

def valueIn (base : Nat) (digits : List Char) : Nat :=
  digits.foldl (fun n c => n * base + (hexValue? c).getD 0) 0

/-- A whole number of 64 bits. -/
def whole : Scan Int := do
  if ← taken ['0', 'x'] then unsigned 16 fun c => (hexValue? c).isSome
  else if ← taken ['0', 'o'] then unsigned 8 fun c => '0' ≤ c && c ≤ '7'
  else if ← taken ['0', 'b'] then unsigned 2 fun c => c == '0' || c == '1'
  else
    let negative ← sign
    let n := valueIn 10 (← wholeDigits)
    if negative then (if n ≤ Nat.pow 2 63 then return -(n : Int) else fail)
    else if n < Nat.pow 2 63 then return n else fail
where
  unsigned (base : Nat) (digit : Char → Bool) : Scan Int := do
    let n := valueIn base (← digits digit)
    if n < Nat.pow 2 63 then return n else fail

/-- A number with a fraction, an exponent or both. One too large for a positive value is none. -/
def real : Scan Float := do
  let negative ← sign
  let whole ← wholeDigits
  let fraction ← if ← taken ['.'] then digits isDigit else pure []
  let exponent ← maybe do
    if !(← taken ['e']) then expect 'E'
    let negative ← sign
    let n := valueIn 10 (← digits isDigit)
    return if negative then -(n : Int) else n
  if fraction.isEmpty && exponent.isNone then fail
  let shift := exponent.getD 0 - fraction.length
  let x := Float.ofScientific (valueIn 10 (whole ++ fraction)) (shift < 0) shift.natAbs
  if negative then return -x else if x.isInf then fail else return x

def word (letters : String) : Scan Unit := do
  if ← taken letters.toList then return else fail

/-- The values that are not numbers of their own. -/
def specialReal : Scan Float := do
  let negative ← sign
  let x ← either (do word "inf"; return 1.0 / 0.0) (do word "nan"; return 0.0 / 0.0)
  return if negative then -x else x

/-- Exactly `count` digits with a value between two limits. -/
def fixed (count least most : Nat) : Scan Nat := fun text =>
  let digits := text.take count
  let n := valueIn 10 digits
  if digits.length = count && digits.all isDigit && least ≤ n && n ≤ most then
    some (n, text.drop count)
  else none

def date : Scan Unit := do
  let year ← fixed 4 0 9999
  expect '-'
  let month ← fixed 2 1 12
  expect '-'
  let _ ← fixed 2 1 (Timestamp.daysIn year month)

def time : Scan Unit := do
  let _ ← fixed 2 0 23
  expect ':'
  let _ ← fixed 2 0 59
  expect ':'
  let _ ← fixed 2 0 60
  if ← taken ['.'] then
    if (← run isDigit).isEmpty then fail

def zone : Scan Unit := fun text =>
  match text with
  | 'Z' :: rest | 'z' :: rest => some ((), rest)
  | '+' :: rest | '-' :: rest => (do
      let _ ← fixed 2 0 23
      expect ':'
      let _ ← fixed 2 0 59) rest
  | _ => none

/-- A date, a time, or both with or without a zone. -/
def moment : Scan Unit :=
  either
    (do
      date
      let _ ← maybe do
        if !(← taken ['T']) && !(← taken ['t']) then expect ' '
        time
        maybe zone)
    time

end WidgetRepair.Toml
