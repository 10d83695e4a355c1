import WidgetRepair.Text.Blank
import WidgetRepair.Text.Lower

/-! The description of a widget to build: its names, its typed properties and the events it
raises. Everything the library generates is a function of such a description. -/

namespace WidgetRepair

/-- The kinds of property a widget can be configured with. -/
inductive PropertyKind where
  | text
  | boolean
  | integer
  | decimal
  | enumeration
  | textTemplate
  | expression
  | action
  | entityAttribute
  | datasource
  | widgets
  | image
  | icon
  | association
  | object
  deriving DecidableEq, Repr

namespace PropertyKind

def all : List PropertyKind :=
  [text, boolean, integer, decimal, enumeration, textTemplate, expression, action, entityAttribute,
    datasource, widgets, image, icon, association, object]

/-- The name of a kind in the widget definition. -/
def name : PropertyKind → String
  | text => "string"
  | boolean => "boolean"
  | integer => "integer"
  | decimal => "decimal"
  | enumeration => "enumeration"
  | textTemplate => "textTemplate"
  | expression => "expression"
  | action => "action"
  | entityAttribute => "attribute"
  | datasource => "datasource"
  | widgets => "widgets"
  | image => "image"
  | icon => "icon"
  | association => "association"
  | object => "object"

/-- The descriptive name some kinds have besides. -/
def otherName? : PropertyKind → Option String
  | text => some "text"
  | enumeration => some "enum"
  | textTemplate => some "template-text"
  | datasource => some "list-datasource"
  | widgets => some "child-widgets"
  | object => some "nested-object"
  | _ => none

/-- The kind with exactly this name, as documents have to spell it. -/
def ofName? (s : String) : Option PropertyKind :=
  all.find? fun kind => kind.name == s || kind.otherName? == some s

/-- The kind a person means: case and outer blanks do not matter, and two short forms count. -/
def ofLooseName? (s : String) : Option PropertyKind :=
  let wanted := Text.lowered (Text.trimmed s)
  if wanted == "bool" then some boolean
  else if wanted == "int" then some integer
  else all.find? fun kind => Text.lowered kind.name == wanted || kind.otherName? == some wanted

/-- Whether a property of this kind can take its value from a list of objects. -/
def linkable : PropertyKind → Bool
  | entityAttribute | action | expression | textTemplate | widgets | association => true
  | _ => false

end PropertyKind

/-- One option of an enumeration. -/
structure EnumOption where
  key : String
  caption : String
  deriving DecidableEq, Repr

structure Property where
  key : String
  kind : PropertyKind
  caption : String := ""
  description : String := ""
  required : Bool := false
  defaultValue : Option String := none
  /-- The options of an enumeration. -/
  options : List EnumOption := []
  /-- The kinds of attribute that may be bound to an attribute property. -/
  attributeKinds : List String := []
  /-- The key of the datasource property this one is linked to. -/
  source : Option String := none
  deriving DecidableEq, Repr

/-- Something the widget reports to the page it stands on. -/
structure WidgetEvent where
  name : String
  caption : String := ""
  description : String := ""
  deriving DecidableEq, Repr

structure Widget where
  name : String
  shownName : String := ""
  description : String := ""
  category : String := "Display"
  company : String := "mendix"
  properties : List Property := []
  events : List WidgetEvent := []
  /-- The project the built package is tried out in. -/
  targetProject : Option String := none
  deriving DecidableEq, Repr

/-- ASCII letters and digits, the only characters that reach generated names. -/
def isNameChar (c : Char) : Bool := c.isAlphanum

namespace Widget

/-- The name people see; the plain name where none is given. -/
def displayName (w : Widget) : String := if Text.blank w.shownName then w.name else w.shownName

/-- The name of the package: the lower-case letters and digits of the widget's name. -/
def packageName (w : Widget) : String :=
  String.ofList ((w.name.toList.filter isNameChar).map Char.toLower)

/-- The letters and digits of a name, where those that begin a run of them are capital. -/
def capitalizeRuns : (inside : Bool) → List Char → List Char
  | _, [] => []
  | inside, c :: rest =>
    if isNameChar c then (if inside then c else c.toUpper) :: capitalizeRuns true rest
    else capitalizeRuns false rest

/-- The name of the component. -/
def componentName (w : Widget) : String := String.ofList (capitalizeRuns false w.name.toList)

def property? (w : Widget) (key : String) : Option Property := w.properties.find? (·.key == key)

/-- A widget can be built when something is left of its name. -/
def runnable (w : Widget) : Bool := !w.packageName.isEmpty

end Widget

end WidgetRepair
