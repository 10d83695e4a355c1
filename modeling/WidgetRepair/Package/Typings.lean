import WidgetRepair.Widget.Basic

/-! The types of a widget's props: what the component receives when it runs and what its preview
receives in the editor. -/

namespace WidgetRepair.Typings

/-- A type as it is written in the typings. -/
inductive PropType where
  | name (s : String)
  | applied (head argument : String)
  | listOf (item : String)
  | record (fields : List (String × String))
  | orNull (t : PropType)
  deriving Repr

namespace PropType

def text : PropType → String
  | name s => s
  | applied head argument => head ++ "<" ++ argument ++ ">"
  | listOf item => item ++ "[]"
  | record [] => "\x7b\x7d"
  | record fields =>
    "\x7b " ++ "; ".intercalate (fields.map fun (field, t) => field ++ ": " ++ t) ++ " \x7d"
  | orNull t => t.text ++ " | null"

/-- The name in front of a type that has one there. -/
def head? : PropType → Option String
  | name s => some s
  | applied head _ => some head
  | _ => none

/-- The names of types that a type uses. -/
def names : PropType → List String
  | name s => [s]
  | applied head argument => [head, argument]
  | listOf item => [item]
  | record fields => fields.map (·.2)
  | orNull t => t.names ++ ["null"]

end PropType

/-- A name with its first letter made capital. -/
def capitalized (s : String) : String :=
  match s.toList with
  | [] => ""
  | c :: rest => String.ofList (c.toUpper :: rest)

/-- The type of the options of an enumeration. -/
def optionsType (p : Property) : String := capitalized p.key ++ "Enum"

/-- The type of a property when the widget runs. -/
def runType (p : Property) : PropType :=
  let linked := p.source.isSome
  match p.kind with
  | .text => .name "string"
  | .boolean => .name "boolean"
  | .integer => .name "number"
  | .decimal => .name "Big"
  | .enumeration => .name (optionsType p)
  | .textTemplate | .expression =>
    .applied (if linked then "ListExpressionValue" else "DynamicValue") "string"
  | .action => .name (if linked then "ListActionValue" else "ActionValue")
  | .entityAttribute => .applied (if linked then "ListAttributeValue" else "EditableValue") "string"
  | .datasource => .name "ListValue"
  | .widgets => .name (if linked then "ListWidgetValue" else "ReactNode")
  | .image => .applied "DynamicValue" "WebImage"
  | .icon => .applied "DynamicValue" "WebIcon"
  | .association => .name (if linked then "ListReferenceValue" else "ReferenceValue")
  | .object => .listOf "unknown"

/-- The types that the platform supplies to be imported. -/
def platformNames : List String := [
  "ActionValue", "DynamicValue", "EditableValue", "ListActionValue", "ListAttributeValue",
  "ListExpressionValue", "ListReferenceValue", "ListValue", "ListWidgetValue", "ReferenceValue"]

/-- The type that has to be imported for a property. -/
def platformType? (p : Property) : Option String :=
  (runType p).head?.filter platformNames.contains

/-- The type of a property in the preview. -/
def previewType (p : Property) : PropType :=
  match p.kind with
  | .boolean => .name "boolean"
  | .integer | .decimal => .orNull (.name "number")
  | .action | .datasource => .orNull (.record [])
  | .widgets => .record [("widgetCount", "number"), ("renderer", "any")]
  | .image | .icon => .orNull (.record [("type", "string")])
  | .object => .listOf "unknown"
  | _ => .name "string"

/-- Whether the platform supplies a value for a property of this kind in any case. -/
def alwaysPresent : PropertyKind → Bool
  | .text | .boolean | .integer | .enumeration => true
  | _ => false

structure Member where
  name : String
  optional : Bool := false
  type : PropType

def Member.line (m : Member) : String :=
  "    " ++ m.name ++ (if m.optional then "?" else "") ++ ": " ++ m.type.text ++ ";\n"

/-- A type for the options of an enumeration. -/
structure Alias where
  name : String
  keys : List String
  deriving DecidableEq, Repr

def Alias.lines (a : Alias) : String :=
  let type := if a.keys.isEmpty then "string"
    else " | ".intercalate (a.keys.map fun key => "\"" ++ key ++ "\"")
  "export type " ++ a.name ++ " = " ++ type ++ ";\n\n"

def runMembers (w : Widget) : List Member :=
  w.properties.map (fun p => ⟨p.key, !(p.required || alwaysPresent p.kind), runType p⟩) ++
    w.events.map fun e => ⟨e.name, true, .name "ActionValue"⟩

def previewMembers (w : Widget) : List Member :=
  w.properties.map (fun p => ⟨p.key, false, previewType p⟩) ++
    w.events.map fun e => ⟨e.name, false, .orNull (.record [])⟩

/-- The members every running widget has. -/
def standardMembers : List Member := [
  ⟨"name", false, .name "string"⟩, ⟨"class", false, .name "string"⟩,
  ⟨"style", true, .name "CSSProperties"⟩, ⟨"tabIndex", true, .name "number"⟩]

/-- The members every preview has. -/
def standardPreviewMembers : List Member := [⟨"readOnly", false, .name "boolean"⟩]

def aliases (w : Widget) : List Alias :=
  (w.properties.filter (·.kind == .enumeration)).map fun p =>
    ⟨optionsType p, p.options.map (·.key)⟩

/-- The types to import from the platform, by name and each once. -/
def platformTypes (w : Widget) : List String :=
  let used := w.properties.filterMap platformType? ++ w.events.map fun _ => "ActionValue"
  used.eraseDups.mergeSort fun a b => decide (a ≤ b)

def usesDecimals (w : Widget) : Bool := w.properties.any (·.kind == .decimal)

def interface (name : String) (members : List Member) : String :=
  "export interface " ++ name ++ " \x7b\n" ++ String.join (members.map Member.line) ++ "\x7d\n"

def imports (w : Widget) : String :=
  "import \x7b CSSProperties \x7d from \"react\";\n" ++
    (if usesDecimals w then "import \x7b Big \x7d from \"big.js\";\n" else "") ++
    (if (platformTypes w).isEmpty then ""
      else "import \x7b " ++ ", ".intercalate (platformTypes w) ++ " \x7d from \"mendix\";\n")

def render (w : Widget) : String :=
  "/**\n * This file was generated from " ++ w.componentName ++ ".xml\n */\n" ++
    imports w ++ "\n" ++ String.join ((aliases w).map Alias.lines) ++
    interface (w.componentName ++ "ContainerProps") (standardMembers ++ runMembers w) ++ "\n" ++
    interface (w.componentName ++ "PreviewProps") (standardPreviewMembers ++ previewMembers w)

end WidgetRepair.Typings
