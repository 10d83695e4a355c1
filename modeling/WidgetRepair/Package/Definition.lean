import WidgetRepair.Package.Markup
import WidgetRepair.Widget.Basic

/-! The definition of a widget for the modelling tool: its names, properties and events as
markup. -/

namespace WidgetRepair.Definition

open Markup

def label (name text : String) : Element := .leaf name [] text

def flagText (b : Bool) : String := if b then "true" else "false"

/-- The value a property starts with: its own, or the one its kind supplies. -/
def startValue? (p : Property) : Option String :=
  match p.defaultValue with
  | some v => some v
  | none => if p.kind == .boolean then some "false" else p.options.head?.map (·.key)

def attributes (p : Property) : List Attribute :=
  [⟨"key", p.key⟩, ⟨"type", p.kind.name⟩] ++
    (if p.kind == .datasource || p.kind == .object then [⟨"isList", "true"⟩] else []) ++
    (if p.kind == .boolean || p.kind == .enumeration then []
      else [⟨"required", flagText p.required⟩]) ++
    ((startValue? p).map (Attribute.mk "defaultValue")).toList ++
    (p.source.map (Attribute.mk "dataSource")).toList

/-- The kinds of attribute a property can be bound to; texts where none are named. -/
def attributeKinds (p : Property) : List String :=
  if p.attributeKinds.isEmpty then ["String"] else p.attributeKinds

/-- What a property of its kind says besides its labels. -/
def details (p : Property) : List Element :=
  match p.kind with
  | .entityAttribute =>
    [.group "attributeTypes" []
      ((attributeKinds p).map fun kind => .empty "attributeType" [⟨"name", kind⟩])]
  | .enumeration =>
    [.group "enumerationValues" []
      (p.options.map fun o => .leaf "enumerationValue" [⟨"key", o.key⟩] o.caption)]
  | .expression => [.empty "returnType" [⟨"type", "String"⟩]]
  | _ => []

def property (p : Property) : Element :=
  .group "property" (attributes p)
    ([label "caption" p.caption, label "description" p.description] ++ details p)

def event (e : WidgetEvent) : Element :=
  .group "property" [⟨"key", e.name⟩, ⟨"type", "action"⟩, ⟨"required", "false"⟩]
    [label "caption" e.caption, label "description" e.description]

def section_ (caption : String) (children : List Element) : Element :=
  .group "propertyGroup" [⟨"caption", caption⟩] children

/-- The sections of the properties: one for all of them, and one for events where there are
any. -/
def sections (w : Widget) : List Element :=
  section_ "General" (w.properties.map property) ::
    (if w.events.isEmpty then [] else [section_ "Events" (w.events.map event)])

def widgetId (w : Widget) : String :=
  w.company ++ "." ++ w.packageName ++ "." ++ w.componentName

def body (w : Widget) : List Element := [
  label "name" w.displayName,
  label "description" w.description,
  label "studioProCategory" w.category,
  .group "properties" [] [section_ "General" (sections w)]]

def render (w : Widget) : String :=
  String.ofList ("<?xml version=\"1.0\" encoding=\"utf-8\" ?>\n".toList ++
    opening "widget"
      [⟨"id", widgetId w⟩, ⟨"pluginWidget", "true"⟩, ⟨"offlineCapable", "true"⟩] ++
    "\n        xmlns=\"http://www.mendix.com/widget/1.0/\">\n".toList ++
    Element.allLines 1 (body w) ++ closing "widget")

end WidgetRepair.Definition
