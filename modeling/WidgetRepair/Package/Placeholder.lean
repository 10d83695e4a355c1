/-! Texts with placeholders, `{{name}}`, that values are put into. A text is cut into pieces once;
what is put in is never looked at again. -/

namespace WidgetRepair.Placeholder

def startsName (c : Char) : Bool := c.isAlpha || c == '_'

def continuesName (c : Char) : Bool := c.isAlphanum || c == '_'

/-- The name of the placeholder that a text starts with. -/
def nameAt? : List Char → Option (List Char)
  | '\x7b' :: '\x7b' :: c :: rest =>
    let name := c :: rest.takeWhile continuesName
    if startsName c && ['\x7d', '\x7d'].isPrefixOf (rest.dropWhile continuesName) then some name
    else none
  | _ => none

/-- A placeholder as it is written. -/
def written (name : List Char) : List Char := ['\x7b', '\x7b'] ++ name ++ ['\x7d', '\x7d']

inductive Piece where
  | char (c : Char)
  | hole (name : List Char)
  deriving DecidableEq, Repr

/-- The pieces of a text; `skip` characters still belong to the placeholder just passed. -/
def piecesFrom : (skip : Nat) → List Char → List Piece
  | _, [] => []
  | skip + 1, _ :: rest => piecesFrom skip rest
  | 0, c :: rest =>
    match nameAt? (c :: rest) with
    | some name => .hole name :: piecesFrom (name.length + 3) rest
    | none => .char c :: piecesFrom 0 rest

/-- A text as characters and placeholders, the leftmost placeholder first. -/
def pieces (text : List Char) : List Piece := piecesFrom 0 text

/-- Values by name. -/
abbrev Values := List (String × String)

def value? (values : Values) (name : List Char) : Option String :=
  (values.find? (·.1 == String.ofList name)).map (·.2)

/-- A piece with the value of its name; a placeholder without a value stays. -/
def fill (values : Values) : Piece → List Char
  | .char c => [c]
  | .hole name =>
    match value? values name with
    | some v => v.toList
    | none => written name

def render (text : String) (values : Values) : String :=
  String.ofList ((pieces text.toList).flatMap (fill values))

/-- The names of the placeholders that have no value, in order. -/
def unresolved (text : String) (values : Values) : List String :=
  (pieces text.toList).filterMap fun
    | .char _ => none
    | .hole name => if (value? values name).isSome then none else some (String.ofList name)

end WidgetRepair.Placeholder
