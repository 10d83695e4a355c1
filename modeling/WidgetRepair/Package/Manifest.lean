import WidgetRepair.Json.Printer
import WidgetRepair.Text.Search
import WidgetRepair.Widget.Basic

/-! The manifest of a package: its names, scripts and dependencies. -/

namespace WidgetRepair.Manifest

open Json

def fileName : String := "package.json"

/-- The scripts of every package. -/
def standardScripts : List (String × String) := [
  ("build", "pluggable-widgets-tools build:web"),
  ("dev", "pluggable-widgets-tools start:web"),
  ("lint", "pluggable-widgets-tools lint"),
  ("release", "pluggable-widgets-tools release:web")]

def packageVersion : String := "1.0.0"

def toolsVersion : String := "^10.0.1"

/-- The project the package is tried out in, with slashes of one kind. -/
def projectPath (w : Widget) : String :=
  match w.targetProject with
  | some p => Text.substitute p "\\" "/"
  | none => "./tests/testProject"

def value (w : Widget) : Value := .record [
  ("name", .text w.packageName),
  ("widgetName", .text w.componentName),
  ("version", .text packageVersion),
  ("description", .text w.description),
  ("license", .text "Apache-2.0"),
  ("packagePath", .text w.company),
  ("config", .record [
    ("projectPath", .text (projectPath w)),
    ("mendixHost", .text "http://localhost:8080"),
    ("developmentPort", .ofNat 3000)]),
  ("scripts", .record (standardScripts.map fun (name, command) => (name, .text command))),
  ("devDependencies", .record [("@mendix/pluggable-widgets-tools", .text toolsVersion)]),
  ("dependencies", .record [("classnames", .text "^2.3.2")])]

/-- A manifest as a file: fields by name, and a line end. -/
def fileText (v : Value) : String := v.sorted.pretty ++ "\n"

def render (w : Widget) : String := fileText (value w)

end WidgetRepair.Manifest
