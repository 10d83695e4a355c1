import WidgetRepair.Json.Draft

/-! Asking drafts for shapes. Faults come in the order of the text. Containers are counted: a
text may nest them 127 deep, except inside what is passed over. -/

namespace WidgetRepair.Json

namespace Draft

/-- The fault of a value that is not of the kind asked for. -/
def mismatch : Draft → Fault
  | .number (.error f) => f
  | .text (.error f) => f
  | .broken f _ _ => f
  | _ => .mismatched

/-- The fault of an ending, if it has one. -/
def close (ending : Option Fault) : Except Fault Unit :=
  match ending with
  | none => .ok ()
  | some f => .error f

mutual

/-- Passing over a value: only faults of form count. -/
def skip : Draft → Except Fault Unit
  | .list items ending => do
    skipItems items
    close ending
  | .record fields ending => do
    skipFields fields
    close ending
  | .broken _ f _ => .error f
  | _ => .ok ()

def skipItems : List Draft → Except Fault Unit
  | [] => .ok ()
  | item :: rest => do
    item.skip
    skipItems rest

def skipFields : List (Except Fault String × Draft) → Except Fault Unit
  | [] => .ok ()
  | (_, v) :: rest => do
    v.skip
    skipFields rest

end

end Draft

/-- A draft and how many more containers may be entered from it, plus one. -/
structure Place where
  room : Nat
  draft : Draft

/-- Entering a container. -/
def enter (room : Nat) : Except Fault Nat :=
  if room ≤ 1 then .error .malformed else .ok (room - 1)

/-- A list of entries with the fault that ended it. -/
def withEnding {α : Type} (entries : List (Except Fault α)) (ending : Option Fault) :
    List (Except Fault α) :=
  entries ++ (ending.map Except.error).toList

namespace Place

def text : Place → Except Fault String
  | ⟨_, .text s⟩ => s
  | ⟨_, d⟩ => .error d.mismatch

def flag : Place → Except Fault Bool
  | ⟨_, .flag b⟩ => .ok b
  | ⟨_, d⟩ => .error d.mismatch

def real : Place → Except Fault Float
  | ⟨_, .number n⟩ => n.map Number.toFloat
  | ⟨_, d⟩ => .error d.mismatch

/-- A whole number below `limit`. -/
def below (limit : Nat) : Place → Except Fault Nat
  | ⟨_, .number (.ok (.natural n))⟩ => if n < limit then .ok n else .error .mismatched
  | ⟨_, d⟩ => .error d.mismatch

def items : Place → Except Fault (List (Except Fault Place))
  | ⟨room, .list items ending⟩ => do
    let room ← enter room
    return withEnding (items.map fun d => .ok ⟨room, d⟩) ending
  | ⟨_, d⟩ => .error d.mismatch

def record : Place → Except Fault (Shape Place (Except Fault))
  | ⟨room, .record fields ending⟩ => do
    let room ← enter room
    let entries := fields.map fun (name, d) => name.map fun name => (name, Place.mk room d)
    return .named (withEnding entries ending)
  | ⟨room, .list items ending⟩ => do
    let room ← enter room
    return .ordered (withEnding (items.map fun d => .ok ⟨room, d⟩) ending) (some .malformed)
  | ⟨_, d⟩ => .error d.mismatch

/-- One of several names: a text, or a record whose only field has the name and no content. -/
def choice {α : Type} (parse : String → Option α) : Place → Except Fault α
  | ⟨_, .text s⟩ => do
    match parse (← s) with
    | some a => .ok a
    | none => .error .mismatched
  | ⟨room, .record fields ending⟩ => do
    let _ ← enter room
    match fields with
    | [] => .error (ending.getD .malformed)
    | (name, v) :: others =>
      let some a := parse (← name) | .error .mismatched
      match v with
      | .null =>
        if others.isEmpty then
          Draft.close ending
          return a
        else .error .malformed
      | v => .error v.mismatch
  | ⟨_, .broken _ _ f⟩ => .error f
  | _ => .error .malformed

end Place

instance : Source Place (Except Fault) where
  text := Place.text
  flag := Place.flag
  optional
    | ⟨_, .null⟩ => .ok none
    | place => .ok (some place)
  items := Place.items
  record := Place.record
  choice := Place.choice
  skip place := place.draft.skip

mutual

/-- Any value, with the fields of records in the order written. -/
def Draft.value (room : Nat) : Draft → Except Fault Value
  | .null => .ok .null
  | .flag b => .ok (.flag b)
  | .number n => n.map .number
  | .text s => s.map .text
  | .list items ending => do
    let inside ← enter room
    let items ← Draft.valueItems inside items
    Draft.close ending
    return .list items
  | .record fields ending => do
    let inside ← enter room
    let fields ← Draft.valueFields inside fields
    Draft.close ending
    return .record fields
  | .broken f _ _ => .error f

def Draft.valueItems (room : Nat) : List Draft → Except Fault (List Value)
  | [] => .ok []
  | item :: rest => do
    let v ← item.value room
    let rest ← Draft.valueItems room rest
    return v :: rest

def Draft.valueFields (room : Nat) :
    List (Except Fault String × Draft) → Except Fault (List (String × Value))
  | [] => .ok []
  | (name, item) :: rest => do
    let name ← name
    let v ← item.value room
    let rest ← Draft.valueFields room rest
    return (name, v) :: rest

end

def Place.value (place : Place) : Except Fault Value := place.draft.value place.room

/-- A whole text read as one value of a shape. -/
def decode {α : Type} (read : Place → Except Fault α) (text : String) : Except Fault α := do
  let (draft, rest) := Draft.ofText text.toList
  let a ← read ⟨128, draft⟩
  match rest with
  | some rest => if rest.all isSpace then .ok a else .error .malformed
  | none => .error .malformed

/-- Any value with the fields of its records in the order written. -/
def parse (text : String) : Except Fault Value := decode Place.value text

end WidgetRepair.Json
