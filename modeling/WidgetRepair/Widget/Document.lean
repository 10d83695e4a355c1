import WidgetRepair.Disk.Basic
import WidgetRepair.Json.Decode
import WidgetRepair.Toml.Document
import WidgetRepair.Widget.Codec
import WidgetRepair.Yaml.Node

/-! Widget descriptions as files. The name of a file tells its format. -/

namespace WidgetRepair

inductive DocumentFormat where
  | json
  | yaml
  | toml
  deriving DecidableEq, Repr

/-- The format a file has by the ending of its name, in any case. -/
def DocumentFormat.ofPath? (p : Path) : Option DocumentFormat := do
  let ending := Text.lowered (← p.extension?)
  if ending = "json" then some .json
  else if ending = "yaml" || ending = "yml" then some .yaml
  else if ending = "toml" then some .toml
  else none

/-- Why a widget description cannot be had. -/
inductive WidgetFault where
  | notFound (path : Path)
  | unsupported (path : Path)
  | missingName
  | disk (fault : DiskFault)
  | text (format : DocumentFormat) (fault : Fault)
  deriving DecidableEq, Repr

/-- How a fault of a text in a format is introduced. -/
def DocumentFormat.complaint : DocumentFormat → String
  | json => "JSON parsing error: "
  | yaml => "YAML parsing error: "
  | toml => "TOML parsing error: "

def WidgetFault.message : WidgetFault → String
  | notFound path => "Widget config not found at path: " ++ path.text
  | unsupported path =>
    "Unsupported config format for " ++ path.text ++ " (expected .json, .yaml, .yml or .toml)"
  | missingName => "Missing required field: name"
  | disk fault => "IO error: " ++ fault.message
  | text format fault => format.complaint ++ fault.message

namespace Widget

/-- The widget a text describes. -/
def ofText (format : DocumentFormat) (text : String) : Except WidgetFault Widget :=
  match format with
  | .json => (Json.decode Widget.read text).mapError (.text .json)
  | .yaml =>
    match Yaml.Document.ofText? text with
    | none => .error (.text .yaml .malformed)
    | some document => (document.decode Widget.read).mapError (.text .yaml)
  | .toml =>
    match Toml.ofText? text with
    | none => .error (.text .toml .malformed)
    | some table => (Widget.read table).mapError (.text .toml)

/-- The widget a file describes. -/
def load (d : Disk) (path : Path) : Except WidgetFault Widget := do
  if !d.exists? path then throw (.notFound path)
  let some format := DocumentFormat.ofPath? path | throw (.unsupported path)
  let content ← (d.readText path).mapError .disk
  ofText format content

end Widget

end WidgetRepair
