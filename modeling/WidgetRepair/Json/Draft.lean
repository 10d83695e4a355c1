import WidgetRepair.Json.Scan

/-! What a text says before anyone asks for a shape. A draft is the tree of a text up to the
place where the text goes wrong, with the fault kept at that place. A reader that walks a draft
from left to right meets faults of form and faults of shape in the order of the text. -/

namespace WidgetRepair.Json

inductive Draft where
  | null
  | flag (b : Bool)
  /-- A number, or the fault of reading it; it can be passed over either way. -/
  | number (n : Except Fault Number)
  | text (s : Except Fault String)
  /-- The items, and the fault met where the next one or the end was due. -/
  | list (items : List Draft) (ending : Option Fault)
  | record (fields : List (Except Fault String × Draft)) (ending : Option Fault)
  /-- Nothing more could be made of the text: the fault of reading a value here, of passing over
  it, and of taking it for one of several names. -/
  | broken (reading skipping choosing : Fault)

instance : Inhabited Draft := ⟨.null⟩

namespace Draft

/-- The place where a draft breaks because of what stands there instead of a value. -/
def missing (input : List Char) : Draft :=
  .broken (stopFault input) (stopFault input) (stopFault input)

/-- The rest of the text after a draft, or `none` after a fault that ends reading. -/
abbrev Rest := Option (List Char)

/-- A literal word whose first letter has been seen. -/
def word (letters : List Char) (value : Draft) (input : List Char) : Draft × Rest :=
  if letters.isPrefixOf input then (value, some (input.drop letters.length))
  else
    let fault := if input.isPrefixOf letters then .cutShort else .malformed
    (.broken fault fault .malformed, none)

def quotedText (input : List Char) : Draft × Rest :=
  match skipText input with
  | .ok rest =>
    match scanText input with
    | .ok (content, _) => (.text (.ok (String.ofList content)), some rest)
    | .error f => (.text (.error f), some rest)
  | .error skip =>
    match scanText input with
    | .ok (_, _) => (.broken skip skip skip, none)
    | .error f => (.broken f skip f, none)

def numeral (input : List Char) : Draft × Rest :=
  match scanNumeral input with
  | .ok (n, rest) =>
    match n.value? with
    | some v => (.number (.ok v), some rest)
    | none => (.number (.error .malformed), some rest)
  | .error b => (.broken b.reading b.skipping .malformed, none)

mutual

/-- The draft of the value at the start of a text. `fuel` counts the steps still allowed; three
for each character are enough, since no more than two in a row take none. -/
def read : (fuel : Nat) → List Char → Draft × Rest
  | 0, _ => (.broken .cutShort .cutShort .cutShort, none)
  | fuel + 1, input =>
    match skipSpace input with
    | [] => (missing [], none)
    | c :: rest =>
      if c = '"' then quotedText rest
      else if c = '[' then
        let (items, ending, rest) := readItems fuel true rest
        (.list items ending, rest)
      else if c = '\x7b' then
        let (fields, ending, rest) := readFields fuel true rest
        (.record fields ending, rest)
      else if c = 'n' then word "ull".toList .null rest
      else if c = 't' then word "rue".toList (.flag true) rest
      else if c = 'f' then word "alse".toList (.flag false) rest
      else if c = '-' || isDigit c then numeral (c :: rest)
      else (.broken .malformed .malformed .malformed, none)

/-- The items of a list from where the next one or the end is due. -/
def readItems : (fuel : Nat) → (first : Bool) → List Char → List Draft × Option Fault × Rest
  | 0, _, _ => ([], some .cutShort, none)
  | fuel + 1, first, input =>
    match skipSpace input with
    | [] => ([], some .cutShort, none)
    | c :: rest =>
      if c = ']' then ([], none, some rest)
      else if first then readItem fuel (c :: rest)
      else if c = ',' then
        match skipSpace rest with
        | [] => ([missing []], none, none)
        | d :: more =>
          if d = ']' then ([missing [d]], none, none) else readItem fuel (d :: more)
      else ([], some .malformed, none)

def readItem : (fuel : Nat) → List Char → List Draft × Option Fault × Rest
  | 0, _ => ([], some .cutShort, none)
  | fuel + 1, input =>
    match read fuel input with
    | (item, none) => ([item], none, none)
    | (item, some rest) =>
      let (items, ending, rest) := readItems fuel false rest
      (item :: items, ending, rest)

/-- The fields of a record from where the next name or the end is due. -/
def readFields : (fuel : Nat) → (first : Bool) → List Char →
    List (Except Fault String × Draft) × Option Fault × Rest
  | 0, _, _ => ([], some .cutShort, none)
  | fuel + 1, first, input =>
    match skipSpace input with
    | [] => ([], some .cutShort, none)
    | c :: rest =>
      if c = '\x7d' then ([], none, some rest)
      else if first then
        if c = '"' then readField fuel rest else ([], some .malformed, none)
      else if c = ',' then
        match skipSpace rest with
        | [] => ([(.error .cutShort, missing [])], none, none)
        | d :: more =>
          if d = '"' then readField fuel more
          else ([(.error .malformed, missing [d])], none, none)
      else ([], some .malformed, none)

/-- A field after the opening quote of its name. -/
def readField : (fuel : Nat) → List Char →
    List (Except Fault String × Draft) × Option Fault × Rest
  | 0, _ => ([], some .cutShort, none)
  | fuel + 1, input =>
    match quotedText input with
    | (.text name, some rest) =>
      match skipSpace rest with
      | [] => ([(name, missing [])], none, none)
      | c :: rest =>
        if c = ':' then
          match read fuel rest with
          | (v, none) => ([(name, v)], none, none)
          | (v, some rest) =>
            let (fields, ending, rest) := readFields fuel false rest
            ((name, v) :: fields, ending, rest)
        else ([(name, missing [c])], none, none)
    | (.broken fault skip choice, _) => ([(.error fault, .broken fault skip choice)], none, none)
    | _ => ([], some .malformed, none)

end

/-- The draft of a whole text and what follows the value. -/
def ofText (input : List Char) : Draft × Rest := read (3 * input.length + 3) input

end Draft

end WidgetRepair.Json
