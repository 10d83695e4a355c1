import WidgetRepair.Widget.Basic
import WidgetRepair.Json.Basic
import WidgetRepair.Source

/-! Widget descriptions as documents. Writing leaves out what is absent or empty; reading takes
the same names from any notation and supplies what may be left out. -/

namespace WidgetRepair

open Source Json

variable {ν : Type} {m : Type → Type} [Monad m] [MonadExcept Fault m] [Source ν m]

def EnumOption.read : ν → m EnumOption :=
  recordOf (σ := Option String × Option String)
    [.of "key" (·.1) (fun v s => (v, s.2)) text, .of "caption" (·.2) (fun v s => (s.1, v)) text]
    (none, none) fun (key, caption) => do return ⟨← key, ← caption⟩

/-- The fields of a property as far as they have been read. -/
structure PropertyFields where
  key : Option String := none
  kind : Option PropertyKind := none
  caption : Option String := none
  description : Option String := none
  required : Option Bool := none
  defaultValue : Option (Option String) := none
  options : Option (List EnumOption) := none
  attributeKinds : Option (List String) := none
  source : Option (Option String) := none

def PropertyFields.all : List (Field ν m PropertyFields) := [
  .of "key" (·.key) (fun v s => { s with key := v }) text,
  .of "type" (·.kind) (fun v s => { s with kind := v }) (choice PropertyKind.ofName?),
  .of "caption" (·.caption) (fun v s => { s with caption := v }) text,
  .of "description" (·.description) (fun v s => { s with description := v }) text,
  .of "required" (·.required) (fun v s => { s with required := v }) flag,
  .of "defaultValue" (·.defaultValue) (fun v s => { s with defaultValue := v }) (option text),
  .of "enumValues" (·.options) (fun v s => { s with options := v }) (listOf EnumOption.read),
  .of "allowedAttributeTypes" (·.attributeKinds) (fun v s => { s with attributeKinds := v })
    (listOf text),
  .of "dataSource" (·.source) (fun v s => { s with source := v }) (option text)]

def PropertyFields.finish (s : PropertyFields) : Option Property := do
  return {
    key := ← s.key
    kind := ← s.kind
    caption := s.caption.getD ""
    description := s.description.getD ""
    required := s.required.getD false
    defaultValue := s.defaultValue.getD none
    options := s.options.getD []
    attributeKinds := s.attributeKinds.getD []
    source := s.source.getD none }

def Property.read : ν → m Property :=
  recordOf PropertyFields.all {} PropertyFields.finish

structure EventFields where
  name : Option String := none
  caption : Option String := none
  description : Option String := none

def EventFields.all : List (Field ν m EventFields) := [
  .of "name" (·.name) (fun v s => { s with name := v }) text,
  .of "caption" (·.caption) (fun v s => { s with caption := v }) text,
  .of "description" (·.description) (fun v s => { s with description := v }) text]

def WidgetEvent.read : ν → m WidgetEvent :=
  recordOf EventFields.all {} fun s => do
    return ⟨← s.name, s.caption.getD "", s.description.getD ""⟩

structure WidgetFields where
  name : Option String := none
  shownName : Option String := none
  description : Option String := none
  category : Option String := none
  company : Option String := none
  properties : Option (List Property) := none
  events : Option (List WidgetEvent) := none
  targetProject : Option (Option String) := none

def WidgetFields.all : List (Field ν m WidgetFields) := [
  .of "name" (·.name) (fun v s => { s with name := v }) text,
  .of "displayName" (·.shownName) (fun v s => { s with shownName := v }) text,
  .of "description" (·.description) (fun v s => { s with description := v }) text,
  .of "category" (·.category) (fun v s => { s with category := v }) text,
  .of "company" (·.company) (fun v s => { s with company := v }) text,
  .of "properties" (·.properties) (fun v s => { s with properties := v }) (listOf Property.read),
  .of "events" (·.events) (fun v s => { s with events := v }) (listOf WidgetEvent.read),
  .of "targetProjectPath" (·.targetProject) (fun v s => { s with targetProject := v })
    (option text)]

def WidgetFields.finish (s : WidgetFields) : Option Widget := do
  return {
    name := ← s.name
    shownName := s.shownName.getD ""
    description := s.description.getD ""
    category := s.category.getD "Display"
    company := s.company.getD "mendix"
    properties := s.properties.getD []
    events := s.events.getD []
    targetProject := s.targetProject.getD none }

def Widget.read : ν → m Widget :=
  recordOf WidgetFields.all {} WidgetFields.finish

/-- A list that is written only when it has items. -/
def listField {α : Type} (name : String) (f : α → Value) (items : List α) : List (String × Value) :=
  if items.isEmpty then [] else [(name, .list (items.map f))]

def EnumOption.toJson (o : EnumOption) : Value :=
  .record [("key", .text o.key), ("caption", .text o.caption)]

def Property.toJson (p : Property) : Value :=
  .record ([("key", .text p.key), ("type", .text p.kind.name), ("caption", .text p.caption),
      ("description", .text p.description), ("required", .flag p.required)] ++
    Value.fieldOf "defaultValue" .text p.defaultValue ++
    listField "enumValues" EnumOption.toJson p.options ++
    listField "allowedAttributeTypes" .text p.attributeKinds ++
    Value.fieldOf "dataSource" .text p.source)

def WidgetEvent.toJson (e : WidgetEvent) : Value :=
  .record [("name", .text e.name), ("caption", .text e.caption),
    ("description", .text e.description)]

def Widget.toJson (w : Widget) : Value :=
  .record ([("name", .text w.name), ("displayName", .text w.shownName),
      ("description", .text w.description), ("category", .text w.category),
      ("company", .text w.company), ("properties", .list (w.properties.map Property.toJson)),
      ("events", .list (w.events.map WidgetEvent.toJson))] ++
    Value.fieldOf "targetProjectPath" .text w.targetProject)

end WidgetRepair
