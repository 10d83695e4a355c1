/-! Values that were read from a text and can be asked for a shape. The same description of a
record serves every notation; a notation only says how its values answer. -/

namespace WidgetRepair

/-- Why a text does not yield what was asked for: it breaks the rules of its notation, it says
something of another shape, or it ended too early. -/
inductive Fault where
  | malformed
  | mismatched
  | cutShort
  deriving DecidableEq, Repr

def Fault.message : Fault → String
  | malformed => "malformed text"
  | mismatched => "not of the expected shape"
  | cutShort => "unexpected end of text"

/-- A record as its notation gives it: fields by name, or values in the order of the fields with
the fault of giving too many. An entry may itself fail, where the text went wrong. -/
inductive Shape (ν : Type) (m : Type → Type) where
  | named (fields : List (m (String × ν)))
  | ordered (items : List (m ν)) (surplus : Option Fault)

/-- What can be asked of a value. The answers come in `m`, in which a notation also keeps what it
has to remember from one answer to the next. -/
class Source (ν : Type) (m : outParam (Type → Type)) where
  text : ν → m String
  flag : ν → m Bool
  /-- The value itself, or `none` where the notation says that there is none. -/
  optional : ν → m (Option ν)
  items : ν → m (List (m ν))
  record : ν → m (Shape ν m)
  /-- One of several names. -/
  choice : {α : Type} → (String → Option α) → ν → m α
  /-- Faults of a value that nobody asks for. -/
  skip : ν → m Unit

namespace Source

variable {ν : Type} {m : Type → Type} [Monad m] [MonadExcept Fault m] [Source ν m] {σ α : Type}

/-- A text that has to have a meaning of its own. -/
def parsed (parse : String → Option α) (v : ν) : m α := do
  match parse (← text v) with
  | some a => return a
  | none => throw Fault.mismatched

def option (item : ν → m α) (v : ν) : m (Option α) := do
  match ← optional v with
  | none => return none
  | some v => return some (← item v)

def listOf (item : ν → m α) (v : ν) : m (List α) := do
  (← items v).mapM fun place => do item (← place)

/-- A field of a record that is read into a partly filled `σ`. -/
structure Field (ν : Type) (m : Type → Type) (σ : Type) where
  name : String
  filled : σ → Bool
  read : σ → ν → m σ

/-- A field kept as an option until the record is complete. -/
def Field.of (name : String) (get : σ → Option α) (set : Option α → σ → σ)
    (item : ν → m α) : Field ν m σ where
  name := name
  filled s := (get s).isSome
  read s v := do return set (some (← item v)) s

/-- Fields by name. A name the record does not know is passed over; one that comes twice is a
fault. -/
def namedFields (fields : List (Field ν m σ)) : List (m (String × ν)) → σ → m σ
  | [], s => return s
  | entry :: rest, s => do
    let (name, v) ← entry
    match fields.find? (·.name == name) with
    | none =>
      skip v
      namedFields fields rest s
    | some field =>
      if field.filled s then throw Fault.mismatched
      else
        let s ← field.read s v
        namedFields fields rest s

/-- Values in the order of the fields. There may be fewer of them. -/
def orderedFields (surplus : Option Fault) :
    List (Field ν m σ) → List (m ν) → σ → m σ
  | _, [], s => return s
  | [], item :: _, s => do
    let _ ← item
    match surplus with
    | none => return s
    | some f => throw f
  | field :: fields, item :: items, s => do
    let s ← field.read s (← item)
    orderedFields surplus fields items s

/-- A record. `finish` supplies what may be left out and refuses when something else is
missing. -/
def recordOf (fields : List (Field ν m σ)) (start : σ) (finish : σ → Option α) (v : ν) : m α := do
  let filled ← match ← record v with
    | .named entries => namedFields fields entries start
    | .ordered items surplus => orderedFields surplus fields items start
  match finish filled with
  | some a => return a
  | none => throw Fault.mismatched

end Source

end WidgetRepair
