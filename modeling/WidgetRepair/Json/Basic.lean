/-! JSON values. Records keep their fields in the order written; numbers keep the distinction
between whole numbers and reals, because it shows when they are written again. -/

namespace WidgetRepair.Json

inductive Number where
  | natural (n : Nat)
  /-- The negative whole number `-n`. -/
  | negative (n : Nat)
  | real (x : Float)

inductive Value where
  | null
  | flag (b : Bool)
  | number (n : Number)
  | text (s : String)
  | list (items : List Value)
  | record (fields : List (String × Value))

instance : Inhabited Value := ⟨.null⟩

def Number.toFloat : Number → Float
  | .natural n => n.toUInt64.toFloat
  | .negative n => -n.toUInt64.toFloat
  | .real x => x

namespace Value

def ofNat (n : Nat) : Value := .number (.natural n)

def ofFloat (x : Float) : Value := .number (.real x)

def ofOption {α : Type} (f : α → Value) : Option α → Value
  | none => .null
  | some a => f a

def ofTexts (texts : List String) : Value := .list (texts.map .text)

/-- A field that is written only when there is something to write. -/
def fieldOf {α : Type} (name : String) (f : α → Value) : Option α → List (String × Value)
  | none => []
  | some a => [(name, f a)]

/-- The value of the field `name`; where a record repeats a name, the last one counts. -/
def get? (name : String) : Value → Option Value
  | .record fields => (fields.reverse.find? (·.1 == name)).map (·.2)
  | _ => none

end Value

/-- A field set in a list sorted by name: it replaces the one of the same name. -/
def insertSorted (name : String) (v : Value) : List (String × Value) → List (String × Value)
  | [] => [(name, v)]
  | (other, w) :: rest =>
    if name = other then (name, v) :: rest
    else if name < other then (name, v) :: (other, w) :: rest
    else (other, w) :: insertSorted name v rest

mutual

/-- The value with every record sorted by name, each name once with its last value. -/
def Value.sorted : Value → Value
  | .list items => .list (Value.sortedItems items)
  | .record fields => .record (Value.sortedFields fields [])
  | v => v

def Value.sortedItems : List Value → List Value
  | [] => []
  | v :: rest => v.sorted :: Value.sortedItems rest

def Value.sortedFields : List (String × Value) → List (String × Value) → List (String × Value)
  | [], done => done
  | (name, v) :: rest, done => Value.sortedFields rest (insertSorted name v.sorted done)

end

end WidgetRepair.Json
