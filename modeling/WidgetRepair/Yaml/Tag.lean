import WidgetRepair.Json.Scan
import WidgetRepair.Yaml.Cursor

/-! Tags of YAML nodes. A tag has a handle, which stands for a prefix, and a suffix. Escapes in a
suffix have the form of UTF-8 without having to be characters, so a tag consists of bytes. -/

namespace WidgetRepair.Yaml

structure Tag where
  bytes : List UInt8
  deriving DecidableEq, Repr

namespace Tag

def ofText (s : String) : Tag := ⟨s.toUTF8.toList⟩

/-- The tag of a node that is to be read as what it looks like. -/
def plain : Tag := ofText "!"

/-- A tag of the standard types. -/
def standard (name : String) : Tag := ofText ("tag:yaml.org,2002:" ++ name)

/-- What follows the mark of a tag of one's own. -/
def ownName? (t : Tag) : Option String :=
  match t.bytes with
  | 33 :: name => String.fromUTF8? ⟨name.toArray⟩
  | _ => none

/-- A tag handle; in a directive anything but a lone mark has to be closed by another. -/
def handle (directive : Bool) (c : Cursor) : Option (List Char × Cursor) :=
  if c.at? 0 '!' then
    let (name, next) := c.skip.takeWhile isNameChar
    if next.at? 0 '!' then some ('!' :: name ++ ['!'], next.skip)
    else if directive && !name.isEmpty then none
    else some ('!' :: name, next)
  else none

def isUriChar (wide : Bool) (c : Char) : Bool :=
  isNameChar c || ";/?:@&=+$.!~*'()%".toList.contains c || (wide && ",[]".toList.contains c)

/-- A byte written as `%` and two hexadecimal digits. -/
def escapedByte? : List Char → Option (UInt8 × List Char)
  | '%' :: a :: b :: rest => do
    let high ← Json.hexValue? a
    let low ← Json.hexValue? b
    return ((high * 16 + low).toUInt8, rest)
  | _ => none

/-- How many bytes belong to the one that begins a character. -/
def followers? (b : UInt8) : Option Nat :=
  if b < 0x80 then some 0
  else if b < 0xC0 then none
  else if b < 0xE0 then some 1
  else if b < 0xF0 then some 2
  else if b < 0xF8 then some 3
  else none

/-- Escaped bytes that continue a character. -/
def continued? : Nat → List Char → Option (List UInt8 × List Char)
  | 0, rest => some ([], rest)
  | n + 1, rest => do
    let (b, rest) ← escapedByte? rest
    guard (0x80 ≤ b && b < 0xC0)
    let (more, rest) ← continued? n rest
    return (b :: more, rest)

/-- The bytes of a text in which bytes may be escaped. Only their form is looked at, so also what
UTF-8 excludes is let through: overlong forms, surrogates and what lies beyond the last plane. -/
def uriBytes : (fuel : Nat) → List Char → Option (List UInt8)
  | _, [] => some []
  | 0, _ => none
  | fuel + 1, '%' :: rest => do
    let (b, rest) ← escapedByte? ('%' :: rest)
    let (more, rest) ← continued? (← followers? b) rest
    return b :: more ++ (← uriBytes fuel rest)
  | fuel + 1, c :: rest => do return c.toNat.toUInt8 :: (← uriBytes fuel rest)

/-- The longest prefix or suffix of a tag at a place, behind the letters of `head`. A zero byte
ends it. -/
def uri (wide : Bool) (head : List Char) (c : Cursor) : Option (List UInt8 × Cursor) := do
  let (raw, next) := c.takeWhile (isUriChar wide)
  guard (!head.isEmpty || !raw.isEmpty)
  let bytes ← uriBytes (raw.length + 1) raw
  return (((head.drop 1).map (·.toNat.toUInt8) ++ bytes).takeWhile (· != 0), next)

/-- The handle and the suffix of a tag; a handle without text stands for nothing. -/
def written (inFlow : Bool) (c : Cursor) : Option (List Char × List UInt8 × Cursor) := do
  let (handle, suffix, next) ←
    if c.at? 1 '<' then do
      let (bytes, next) ← uri true [] (c.skipMany 2)
      guard (next.at? 0 '>')
      pure ([], bytes, next.skip)
    else do
      let (handle, next) ← handle false c
      if handle.length > 1 && handle.getLast? == some '!' then
        let (bytes, next) ← uri false [] next
        pure (handle, bytes, next)
      else
        let (bytes, next) ← uri false handle next
        if bytes.isEmpty then pure ([], plain.bytes, next) else pure (['!'], bytes, next)
  guard ((inFlow && next.at? 0 ',') || next.spaceAt 0)
  return (handle, suffix, next)

end Tag

end WidgetRepair.Yaml
