import WidgetRepair.Json.Basic
import WidgetRepair.Source

/-! The pieces of a JSON text that hold no other pieces: quoted texts, numbers and words. Each
can be read for its content or only passed over; passing over accepts more, namely unpaired
halves of a character and numbers of any size. -/

namespace WidgetRepair.Json

def isSpace (c : Char) : Bool := c == ' ' || c == '\n' || c == '\t' || c == '\r'

def skipSpace (text : List Char) : List Char := text.dropWhile isSpace

/-- The fault of a text that breaks off where more has to follow, or goes on with something else. -/
def stopFault (text : List Char) : Fault := if text.isEmpty then .cutShort else .malformed

def hexValue? (c : Char) : Option Nat :=
  let n := c.toNat
  if 48 ≤ n && n ≤ 57 then some (n - 48)
  else if 97 ≤ n && n ≤ 102 then some (n - 87)
  else if 65 ≤ n && n ≤ 70 then some (n - 55)
  else none

def hex4? (a b c d : Char) : Option Nat := do
  let a ← hexValue? a
  let b ← hexValue? b
  let c ← hexValue? c
  let d ← hexValue? d
  return ((a * 16 + b) * 16 + c) * 16 + d

/-- The character of an escape of one letter. -/
def shortEscape? (c : Char) : Option Char :=
  if c == '"' || c == '\\' || c == '/' then some c
  else if c == 'b' then some (Char.ofNat 8)
  else if c == 'f' then some (Char.ofNat 12)
  else if c == 'n' then some '\n'
  else if c == 'r' then some '\r'
  else if c == 't' then some '\t'
  else none

/-- Fewer than four bytes left cannot hold the digits of an escape. -/
def brokenHex (text : List Char) : Fault :=
  if text.foldl (fun n c => n + c.utf8Size) 0 < 4 then .cutShort else .malformed

def isHighHalf (n : Nat) : Bool := 0xD800 ≤ n && n ≤ 0xDBFF

def isLowHalf (n : Nat) : Bool := 0xDC00 ≤ n && n ≤ 0xDFFF

def joinHalves (high low : Nat) : Char :=
  Char.ofNat ((high - 0xD800) * 0x400 + (low - 0xDC00) + 0x10000)

/-- The content of a quoted text after its opening quote, and what follows the closing one. -/
def scanText : List Char → Except Fault (List Char × List Char)
  | [] => .error .cutShort
  | '"' :: rest => .ok ([], rest)
  | '\\' :: 'u' :: a :: b :: c :: d :: rest =>
    match hex4? a b c d with
    | none => .error .malformed
    | some n =>
      if isLowHalf n then .error .malformed
      else if isHighHalf n then
        match rest with
        | [] => .error .cutShort
        | '\\' :: [] => .error .cutShort
        | '\\' :: 'u' :: e :: f :: g :: h :: more =>
          match hex4? e f g h with
          | none => .error .malformed
          | some low =>
            if isLowHalf low then do
              let (text, rest) ← scanText more
              return (joinHalves n low :: text, rest)
            else .error .malformed
        | '\\' :: 'u' :: more => .error (brokenHex more)
        | _ => .error .malformed
      else do
        let (text, rest) ← scanText rest
        return (Char.ofNat n :: text, rest)
  | '\\' :: 'u' :: rest => .error (brokenHex rest)
  | '\\' :: [] => .error .cutShort
  | '\\' :: e :: rest =>
    match shortEscape? e with
    | none => .error .malformed
    | some c => do
      let (text, rest) ← scanText rest
      return (c :: text, rest)
  | c :: rest =>
    if c.toNat < 32 then .error .malformed
    else do
      let (text, rest) ← scanText rest
      return (c :: text, rest)

/-- Passing over a quoted text after its opening quote. -/
def skipText : List Char → Except Fault (List Char)
  | [] => .error .cutShort
  | '"' :: rest => .ok rest
  | '\\' :: 'u' :: a :: b :: c :: d :: rest =>
    if (hex4? a b c d).isSome then skipText rest else .error .malformed
  | '\\' :: 'u' :: rest => .error (brokenHex rest)
  | '\\' :: [] => .error .cutShort
  | '\\' :: e :: rest => if (shortEscape? e).isSome then skipText rest else .error .malformed
  | c :: rest => if c.toNat < 32 then .error .malformed else skipText rest

def isDigit (c : Char) : Bool := 48 ≤ c.toNat && c.toNat ≤ 57

def digitValue (c : Char) : Nat := c.toNat - 48

/-- The parts of a number as written. -/
structure Numeral where
  negative : Bool
  whole : List Char
  fraction : Option (List Char)
  exponent : Option (Bool × List Char)

/-- A numeral that breaks off, as seen when it is read and when it is passed over. -/
structure BrokenNumeral where
  reading : Fault
  skipping : Fault

/-- The digits at the start, of which there has to be at least one. -/
def someDigits (text : List Char) : Except BrokenNumeral (List Char × List Char) :=
  let digits := text.takeWhile isDigit
  if digits.isEmpty then .error ⟨stopFault text, .malformed⟩
  else .ok (digits, text.dropWhile isDigit)

def scanWhole (text : List Char) : Except BrokenNumeral (List Char × List Char) := do
  let (digits, rest) ← someDigits text
  if digits.head? = some '0' && digits.length > 1 then throw ⟨.malformed, .malformed⟩
  return (digits, rest)

def scanFraction : List Char → Except BrokenNumeral (Option (List Char) × List Char)
  | '.' :: rest => do
    let (digits, rest) ← someDigits rest
    return (some digits, rest)
  | rest => return (none, rest)

def scanExponent : List Char → Except BrokenNumeral (Option (Bool × List Char) × List Char)
  | [] => return (none, [])
  | c :: rest => do
    if c == 'e' || c == 'E' then
      let (negative, rest) := match rest with
        | '+' :: more => (false, more)
        | '-' :: more => (true, more)
        | more => (false, more)
      let (digits, rest) ← someDigits rest
      return (some (negative, digits), rest)
    else return (none, c :: rest)

/-- The numeral at the start of a text that begins with a digit or a minus sign. -/
def scanNumeral (text : List Char) : Except BrokenNumeral (Numeral × List Char) := do
  let (negative, text) := match text with
    | '-' :: rest => (true, rest)
    | rest => (false, rest)
  let (whole, text) ← scanWhole text
  let (fraction, text) ← scanFraction text
  let (exponent, text) ← scanExponent text
  return (⟨negative, whole, fraction, exponent⟩, text)

def naturalLimit : Nat := Nat.pow 2 64

/-- Digits taken into a significand of 64 bits for as long as they fit, and those left over. -/
def takeDigits (significand : Nat) : List Char → Nat × List Char
  | [] => (significand, [])
  | c :: rest =>
    let next := significand * 10 + digitValue c
    if next < naturalLimit then takeDigits next rest else (significand, c :: rest)

def powerOfTen (n : Nat) : Float := Float.ofScientific 1 false n

/-- A significand scaled by a power of ten, in one step where the power fits and in steps of 308
otherwise; `none` when the result is too large. -/
def scale? (x : Float) (exponent : Int) : Nat → Option Float
  | 0 => some x
  | fuel + 1 =>
    if exponent.natAbs ≤ 308 then
      if 0 ≤ exponent then
        let y := x * powerOfTen exponent.natAbs
        if y.isInf then none else some y
      else some (x / powerOfTen exponent.natAbs)
    else if x == 0 then some x
    else if 0 ≤ exponent then none
    else scale? (x / powerOfTen 308) (exponent + 308) fuel

def scaledReal? (negative : Bool) (significand : Nat) (exponent : Int) : Option Number :=
  (scale? significand.toUInt64.toFloat exponent (exponent.natAbs / 308 + 2)).map fun x =>
    .real (if negative then -x else x)

/-- A whole number within 64 bits; a negative zero and anything larger is a real. -/
def wholeNumber (negative : Bool) (n : Nat) : Number :=
  if !negative then .natural n
  else if 1 ≤ n && n ≤ Nat.pow 2 63 then .negative n
  else .real (-n.toUInt64.toFloat)

/-- Exponents are counted up to 31 bits; beyond that only zero keeps a value. -/
def exponentLimit : Nat := Nat.pow 2 31

/-- The number a numeral stands for; `none` when it is out of range. -/
def Numeral.value? (n : Numeral) : Option Number :=
  let (significand, beyond) := takeDigits 0 n.whole
  let shift : Int := beyond.length
  let (significand, shift, real) := match n.fraction with
    | none => (significand, shift, !beyond.isEmpty)
    | some digits =>
      let (taken, left) := takeDigits significand digits
      (taken, shift - (digits.length - left.length : Nat), true)
  match n.exponent with
  | none =>
    if real then scaledReal? n.negative significand shift
    else some (wholeNumber n.negative significand)
  | some (downward, digits) =>
    let size := digits.foldl (fun k c => min exponentLimit (k * 10 + digitValue c)) 0
    if size < exponentLimit then
      scaledReal? n.negative significand (if downward then shift - size else shift + size)
    else if significand != 0 && !downward then none
    else some (.real (if n.negative then -0.0 else 0.0))

end WidgetRepair.Json
