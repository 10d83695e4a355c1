import WidgetRepair.Toml.Scalar
import WidgetRepair.Toml.Table
import WidgetRepair.Source

/-! TOML documents: keys, values and headings, and the resulting tables as sources. -/

namespace WidgetRepair.Toml

open Scan Json

/-- Lists and tables in braces nest this deep, and keys have this many parts. -/
def depthLimit : Nat := 79

def isKeyChar (c : Char) : Bool := c.isAlphanum || c == '_' || c == '-'

/-- One part of a key. -/
def keyPart (fuel : Nat) : Scan String := do
  match ← peek with
  | some '"' =>
    modify (·.drop 1)
    return String.ofList (← basicText fuel)
  | some '\x27' =>
    modify (·.drop 1)
    return String.ofList (← literalText)
  | _ =>
    let name ← run isKeyChar
    if name.isEmpty then fail else return String.ofList name

/-- The parts of a key with dots between them. -/
def keyParts (fuel : Nat) : (limit : Nat) → Scan (List String)
  | 0 => fail
  | limit + 1 => do
    blanks
    let part ← keyPart fuel
    blanks
    if ← taken ['.'] then return part :: (← keyParts fuel limit) else return [part]

/-- A key as the tables it goes through and its last part. -/
def key (fuel : Nat) : Scan (List String × String) := do
  let parts ← keyParts fuel depthLimit
  return (parts.dropLast, parts.getLastD "")

def number : Scan Value :=
  either (do moment; return .moment) (either (.real <$> real) (either (.real <$> specialReal)
    (.whole <$> whole)))

mutual

/-- A value; `room` more lists or tables may be entered. -/
def value (room : Nat) : Nat → Scan Value
  | 0 => fail
  | fuel + 1 => do
    match ← peek with
    | none => fail
    | some c =>
      if c == '"' || c == '\x27' then return .text (← quoted fuel)
      else if c == '[' then
        modify (·.drop 1)
        if room = 0 then fail
        return .list (← listItems (room - 1) fuel)
      else if c == '\x7b' then
        modify (·.drop 1)
        if room = 0 then fail
        blanks
        if ← taken ['\x7d'] then return .table .inline []
        let t ← inlineEntries (room - 1) fuel ⟨.inline, []⟩
        return .table .inline t.entries
      else if c == 't' then do word "true"; return .flag true
      else if c == 'f' then do word "false"; return .flag false
      else number

/-- The items of a list after its bracket or a comma. -/
def listItems (room : Nat) : Nat → Scan (List Value)
  | 0 => fail
  | fuel + 1 => do
    space (fuel + 1)
    if ← taken [']'] then return []
    let v ← value room fuel
    space (fuel + 1)
    if ← taken [','] then return v :: (← listItems room fuel)
    expect ']'
    return [v]

/-- The entries of a table in braces, of which there is at least one. -/
def inlineEntries (room : Nat) : Nat → Table → Scan Table
  | 0, _ => fail
  | fuel + 1, t => do
    let (path, name) ← key fuel
    expect '='
    blanks
    let v ← value room fuel
    blanks
    match t.put path name v with
    | none => fail
    | some t =>
      if ← taken [','] then inlineEntries room fuel t
      else
        expect '\x7d'
        return t

end

/-- The lines of a document, below the heading `heading` and into the root table. -/
def lines (heading : List String) (root : Table) : Nat → Scan Table
  | 0 => fail
  | fuel + 1 => do
    blanks
    match ← get with
    | [] => return root
    | '#' :: _ | '\n' :: _ | '\r' :: _ =>
      closeLine
      lines heading root fuel
    | '[' :: '[' :: rest =>
      set rest
      let (path, name) ← key fuel
      word "]]"
      closeLine
      match root.append path name with
      | some root => lines (path ++ [name]) root fuel
      | none => fail
    | '[' :: rest =>
      set rest
      let (path, name) ← key fuel
      expect ']'
      closeLine
      match root.head path name with
      | some root => lines (path ++ [name]) root fuel
      | none => fail
    | _ =>
      let (path, name) ← key fuel
      expect '='
      blanks
      let v ← value depthLimit fuel
      closeLine
      match root.change false (Table.put path name v) heading with
      | some root => lines heading root fuel
      | none => fail

/-- The table a text describes. -/
def ofText? (text : String) : Option Value :=
  let chars := match text.toList with
    | c :: rest => if c.toNat = 0xFEFF then rest else c :: rest
    | [] => []
  (lines [] ⟨.headed, []⟩ (2 * chars.length + 2) chars).map fun (root, _) =>
    .table .headed root.entries

namespace Value

def string : Value → Except Fault String
  | .text s => .ok s
  | _ => .error .mismatched

def bool : Value → Except Fault Bool
  | .flag b => .ok b
  | _ => .error .mismatched

def items : Value → Except Fault (List (Except Fault Value))
  | .list items => .ok (items.map .ok)
  | .tables items => .ok (items.reverse.map fun entries => .ok (.table .headed entries))
  | _ => .error .mismatched

/-- A table by name, a list in order; a moment is a table without any name that matters. -/
def record : Value → Except Fault (Shape Value (Except Fault))
  | .table _ entries => .ok (.named (entries.map .ok))
  | .moment => .ok (.named [])
  | v => v.items.map fun items => .ordered items none

def isVoid : Value → Bool
  | .table _ entries => entries.isEmpty
  | .list items => items.isEmpty
  | .tables items => items.isEmpty
  | _ => false

/-- One of several names: a text, or a table whose only key has the name and no content. -/
def choice {α : Type} (parse : String → Option α) (v : Value) : Except Fault α :=
  let name := match v with
    | .text s => some s
    | .table _ [(name, content)] => if content.isVoid then some name else none
    | _ => none
  match name.bind parse with
  | some a => .ok a
  | none => .error .mismatched

/-- A whole number below `limit`. -/
def bounded (limit : Nat) : Value → Except Fault Nat
  | .whole (.ofNat n) => if n < limit then .ok n else .error .mismatched
  | _ => .error .mismatched

end Value

instance : Source Value (Except Fault) where
  text := Value.string
  flag := Value.bool
  optional v := .ok (some v)
  items := Value.items
  record := Value.record
  choice := Value.choice
  skip _ := .ok ()

end WidgetRepair.Toml
