import WidgetRepair.Json.Basic
import WidgetRepair.Decimal.Shortest

/-! Writing JSON: on one line without spaces, or over several lines with two spaces for each
level. Reals are written with the fewest digits that read back. -/

namespace WidgetRepair.Json

/-- The layout of reals: positional from `0.00001` up to sixteen digits before the point, with
an exponent and its sign beyond; a positional real always shows its point. -/
structure RealLayout where
  leastPositional : Int := -5
  mostPositional : Int := 15

def realLayout : RealLayout := {}

def zeros (count : Int) : List Char := List.replicate count.toNat '0'

def naturalText (n : Nat) : List Char := Nat.toDigits 10 n

/-- A positive decimal as text. -/
def decimalText (layout : RealLayout) (d : Decimal.Numeral) : List Char :=
  let (digits, exponent) := d.significant
  let size : Int := digits.length
  if layout.leastPositional ≤ exponent && exponent ≤ layout.mostPositional then
    if size - 1 ≤ exponent then digits ++ zeros (exponent - size + 1) ++ ['.', '0']
    else if 0 ≤ exponent then
      digits.take (exponent + 1).toNat ++ '.' :: digits.drop (exponent + 1).toNat
    else ['0', '.'] ++ zeros (-exponent - 1) ++ digits
  else
    let fraction := match digits.drop 1 with
      | [] => []
      | more => '.' :: more
    let sign := if exponent < 0 then '-' else '+'
    digits.take 1 ++ fraction ++ 'e' :: sign :: naturalText exponent.natAbs

/-- A real as text. JSON has no text for infinities, so they are written as `null`. -/
def realText (x : Float) : List Char :=
  match Decimal.Dyadic.ofBits? x.toBits with
  | none => "null".toList
  | some value =>
    let sign := if value.negative then ['-'] else []
    if value.mantissa = 0 then sign ++ ['0', '.', '0']
    else sign ++ decimalText realLayout (Decimal.shortest value)

def Number.text : Number → List Char
  | .natural n => naturalText n
  | .negative n => '-' :: naturalText n
  | .real x => realText x

def hexDigit (n : Nat) : Char := (Nat.digitChar (n % 16))

/-- One character inside a quoted text. Quotes, backslashes and control characters need an
escape; everything else stands for itself. -/
def escapeChar (c : Char) : List Char :=
  if c = '"' then ['\\', '"']
  else if c = '\\' then ['\\', '\\']
  else if c = '\n' then ['\\', 'n']
  else if c = '\r' then ['\\', 'r']
  else if c = '\t' then ['\\', 't']
  else if c.toNat = 8 then ['\\', 'b']
  else if c.toNat = 12 then ['\\', 'f']
  else if c.toNat < 32 then ['\\', 'u', '0', '0', hexDigit (c.toNat / 16), hexDigit c.toNat]
  else [c]

def quoted (s : String) : List Char := '"' :: (s.toList.flatMap escapeChar ++ ['"'])

def flagText (b : Bool) : List Char := if b then "true".toList else "false".toList

mutual

/-- The text of a value on one line. -/
def Value.compact : Value → List Char
  | .null => "null".toList
  | .flag b => flagText b
  | .number n => n.text
  | .text s => quoted s
  | .list items => '[' :: Value.compactItems items
  | .record fields => '\x7b' :: Value.compactFields fields

def Value.compactItems : List Value → List Char
  | [] => [']']
  | [v] => v.compact ++ [']']
  | v :: rest => v.compact ++ ',' :: Value.compactItems rest

def Value.compactFields : List (String × Value) → List Char
  | [] => ['\x7d']
  | [(name, v)] => quoted name ++ ':' :: (v.compact ++ ['\x7d'])
  | (name, v) :: rest => quoted name ++ ':' :: (v.compact ++ ',' :: Value.compactFields rest)

end

def newline (level : Nat) : List Char := '\n' :: List.replicate (2 * level) ' '

mutual

/-- The text of a value over several lines, as it stands at an indentation level. -/
def Value.indented (level : Nat) : Value → List Char
  | .null => "null".toList
  | .flag b => flagText b
  | .number n => n.text
  | .text s => quoted s
  | .list items =>
    if items.isEmpty then ['[', ']']
    else '[' :: (newline (level + 1) ++ Value.indentedItems (level + 1) items ++
      newline level ++ [']'])
  | .record fields =>
    if fields.isEmpty then ['\x7b', '\x7d']
    else '\x7b' :: (newline (level + 1) ++ Value.indentedFields (level + 1) fields ++
      newline level ++ ['\x7d'])

def Value.indentedItems (level : Nat) : List Value → List Char
  | [] => []
  | [v] => v.indented level
  | v :: rest => v.indented level ++ ',' :: (newline level ++ Value.indentedItems level rest)

def Value.indentedFields (level : Nat) : List (String × Value) → List Char
  | [] => []
  | [(name, v)] => quoted name ++ ':' :: ' ' :: v.indented level
  | (name, v) :: rest =>
    quoted name ++ ':' :: ' ' :: (v.indented level ++
      ',' :: (newline level ++ Value.indentedFields level rest))

end

/-- A value on one line. -/
def Value.render (v : Value) : String := String.ofList v.compact

/-- A value over several lines, two spaces for each level. -/
def Value.pretty (v : Value) : String := String.ofList (v.indented 0)

end WidgetRepair.Json
