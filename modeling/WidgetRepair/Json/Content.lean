import WidgetRepair.Json.Basic
import WidgetRepair.Source

/-! JSON values that are already complete, as sources. Nothing about their form can be wrong. -/

namespace WidgetRepair.Json

namespace Value

def asText : Value → Except Fault String
  | .text s => .ok s
  | _ => .error .mismatched

def asFlag : Value → Except Fault Bool
  | .flag b => .ok b
  | _ => .error .mismatched

def asItems : Value → Except Fault (List (Except Fault Value))
  | .list items => .ok (items.map .ok)
  | _ => .error .mismatched

def asRecord : Value → Except Fault (Shape Value (Except Fault))
  | .record fields => .ok (.named (fields.map .ok))
  | .list items => .ok (.ordered (items.map .ok) (some .mismatched))
  | _ => .error .mismatched

/-- One of several names: a text, or a record whose only field has the name and no content. -/
def asChoice {α : Type} (parse : String → Option α) (v : Value) : Except Fault α :=
  let name := match v with
    | .text s => some s
    | .record [(name, .null)] => some name
    | _ => none
  match name.bind parse with
  | some a => .ok a
  | none => .error .mismatched

end Value

instance : Source Value (Except Fault) where
  text := Value.asText
  flag := Value.asFlag
  optional
    | .null => .ok none
    | v => .ok (some v)
  items := Value.asItems
  record := Value.asRecord
  choice := Value.asChoice
  skip _ := .ok ()

end WidgetRepair.Json
