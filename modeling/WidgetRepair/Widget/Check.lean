import WidgetRepair.Widget.Basic

/-! The full check of a widget description. Errors stop a build; warnings are only shown. -/

namespace WidgetRepair

/-- What is wrong with a description. -/
inductive WidgetFlaw where
  | emptyName
  | emptyKey
  | duplicateKey (key : String)
  | emptyEnumeration (key : String)
  | unlinkable (key : String) (kind : PropertyKind)
  | unknownSource (key source : String)
  | duplicateEvent (name : String)
  | eventIsProperty (name : String)
  deriving DecidableEq, Repr

/-- What is only suspicious about it. -/
inductive WidgetDoubt where
  | noDescription
  | strayOptions (key : String) (kind : PropertyKind)
  | strayAttributeKinds (key : String) (kind : PropertyKind)
  deriving DecidableEq, Repr

def WidgetFlaw.message : WidgetFlaw → String
  | .emptyName => "Widget name cannot be empty"
  | .emptyKey => "Property key cannot be empty"
  | .duplicateKey key => "Duplicate property key '" ++ key ++ "'"
  | .emptyEnumeration key =>
    "Enumeration property '" ++ key ++ "' must declare at least one value"
  | .unlinkable key kind =>
    "Property '" ++ key ++ "' of type " ++ kind.name ++ " cannot be linked to a datasource"
  | .unknownSource key source =>
    "Property '" ++ key ++ "' references unknown datasource '" ++ source ++ "'"
  | .duplicateEvent name => "Duplicate event '" ++ name ++ "'"
  | .eventIsProperty name => "Event '" ++ name ++ "' clashes with a property of the same key"

def WidgetDoubt.message : WidgetDoubt → String
  | .noDescription => "Widget description is recommended"
  | .strayOptions key kind =>
    "Property '" ++ key ++ "' declares enum values but is of type " ++ kind.name
  | .strayAttributeKinds key kind =>
    "Property '" ++ key ++ "' declares attribute kinds but is of type " ++ kind.name

/-- The outcome of a check, in the order found. -/
structure Findings where
  valid : Bool := true
  flaws : List WidgetFlaw := []
  doubts : List WidgetDoubt := []

namespace Findings

def addFlaw (f : Findings) (flaw : WidgetFlaw) : Findings :=
  { f with valid := false, flaws := f.flaws ++ [flaw] }

def addDoubt (f : Findings) (doubt : WidgetDoubt) : Findings := { f with doubts := f.doubts ++ [doubt] }

def addFlaws (f : Findings) (flaws : List WidgetFlaw) : Findings := flaws.foldl addFlaw f

def addDoubts (f : Findings) (doubts : List WidgetDoubt) : Findings := doubts.foldl addDoubt f

end Findings

namespace Widget

/-- Whether `source` names a property that yields a list of objects. -/
def hasSource (w : Widget) (source : String) : Bool :=
  match w.property? source with
  | some p => p.kind == .datasource
  | none => false

def linkFlaws (w : Widget) (p : Property) : List WidgetFlaw :=
  match p.source with
  | none => []
  | some source =>
    (if p.kind.linkable then [] else [.unlinkable p.key p.kind]) ++
      (if w.hasSource source then [] else [.unknownSource p.key source])

/-- What is wrong with one property, given the keys before it. -/
def propertyFlaws (w : Widget) (seen : List String) (p : Property) : List WidgetFlaw :=
  (if seen.contains p.key then [.duplicateKey p.key] else []) ++
    (if p.kind == .enumeration && p.options.isEmpty then [.emptyEnumeration p.key] else []) ++
    w.linkFlaws p

def propertyDoubts (p : Property) : List WidgetDoubt :=
  (if p.kind != .enumeration && !p.options.isEmpty then [.strayOptions p.key p.kind] else []) ++
    (if p.kind != .entityAttribute && !p.attributeKinds.isEmpty
      then [.strayAttributeKinds p.key p.kind] else [])

/-- Adds the findings for properties. A property without a key is reported and left out of the rest. -/
def checkProperties (w : Widget) : List String → List Property → Findings → Findings
  | _, [], found => found
  | seen, p :: rest, found =>
    if Text.blank p.key then w.checkProperties seen rest (found.addFlaw .emptyKey)
    else
      w.checkProperties (p.key :: seen) rest
        ((found.addFlaws (w.propertyFlaws seen p)).addDoubts (propertyDoubts p))

/-- The keys that properties are known by. -/
def keys (w : Widget) : List String :=
  (w.properties.map (·.key)).filter fun key => !Text.blank key

/-- What is wrong with one event, given the names before it. -/
def eventFlaws (w : Widget) (seen : List String) (e : WidgetEvent) : List WidgetFlaw :=
  (if seen.contains e.name then [.duplicateEvent e.name] else []) ++
    (if w.keys.contains e.name then [.eventIsProperty e.name] else [])

/-- Adds the findings for events. -/
def checkEvents (w : Widget) : List String → List WidgetEvent → Findings → Findings
  | _, [], found => found
  | seen, e :: rest, found =>
    w.checkEvents (e.name :: seen) rest (found.addFlaws (w.eventFlaws seen e))

def check (w : Widget) : Findings :=
  let named : Findings := if w.runnable then {} else Findings.addFlaw {} .emptyName
  let described := if Text.blank w.description then named.addDoubt .noDescription else named
  w.checkEvents [] w.events (w.checkProperties [] w.properties described)

end Widget

end WidgetRepair
