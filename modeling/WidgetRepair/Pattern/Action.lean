import WidgetRepair.Json.Content
import WidgetRepair.Json.Decode

/-! What is done about an error. Only edits and script entries are carried out; the other kinds
are advice. -/

namespace WidgetRepair

/-- A repair. -/
inductive FixAction where
  /-- In the files that match, `search` becomes `replace`. An empty `search` puts `replace` in
  front of files that do not hold it. -/
  | fileEdit (file search replace : String)
  /-- The manifest gets these scripts where it has none of the same name; sorted by name. -/
  | configChange (scripts : List (String × String))
  | dependencyAdd (packages : List String) (dev : Bool)
  | manual (instructions : String)
  deriving DecidableEq, Repr

namespace FixAction

def kind : FixAction → String
  | fileEdit .. => "file-edit"
  | configChange .. => "config-change"
  | dependencyAdd .. => "dependency-add"
  | manual .. => "manual"

/-- The command by which a person installs what is missing. -/
def installCommand? : FixAction → Option String
  | dependencyAdd packages dev =>
    if packages.isEmpty then none
    else some ("npm install " ++ (if dev then "--save-dev " else "") ++ " ".intercalate packages)
  | _ => none

/-- Scripts sorted by name; of several with one name the last one counts. -/
def sortScripts (scripts : List (String × String)) : List (String × String) :=
  scripts.foldl (fun done (name, command) => put name command done) []
where
  put (name command : String) : List (String × String) → List (String × String)
    | [] => [(name, command)]
    | (other, c) :: rest =>
      if name = other then (name, command) :: rest
      else if name < other then (name, command) :: (other, c) :: rest
      else (other, c) :: put name command rest

def prepend (file content : String) : FixAction := fileEdit file "" content

open Json

def toJson : FixAction → Value
  | fileEdit file search replace =>
    .record [("type", .text "file-edit"), ("file", .text file), ("search", .text search),
      ("replace", .text replace)]
  | configChange scripts =>
    .record [("type", .text "config-change"),
      ("scripts", .record (scripts.map fun (name, command) => (name, .text command)))]
  | dependencyAdd packages dev =>
    .record [("type", .text "dependency-add"), ("packages", Value.ofTexts packages),
      ("dev", .flag dev)]
  | manual instructions =>
    .record [("type", .text "manual"), ("instructions", .text instructions)]

open Source

def readFileEdit : Value → Except Fault FixAction :=
  recordOf (σ := Option String × Option String × Option String)
    [.of "file" (·.1) (fun v s => (v, s.2)) text,
      .of "search" (·.2.1) (fun v s => (s.1, v, s.2.2)) text,
      .of "replace" (·.2.2) (fun v s => (s.1, s.2.1, v)) text]
    (none, none, none) fun (file, search, replace) => do
      return fileEdit (← file) (search.getD "") (replace.getD "")

def readScripts : Value → Except Fault (List (String × String))
  | .record fields => do
    return sortScripts (← fields.mapM fun (name, v) => do return (name, ← v.asText))
  | _ => .error .mismatched

def readConfigChange : Value → Except Fault FixAction :=
  recordOf [.of "scripts" id (fun v _ => v) readScripts] none fun scripts => do
    return configChange (← scripts)

def readDependencyAdd : Value → Except Fault FixAction :=
  recordOf (σ := Option (List String) × Option Bool)
    [.of "packages" (·.1) (fun v s => (v, s.2)) (listOf text),
      .of "dev" (·.2) (fun v s => (s.1, v)) flag]
    (none, none) fun (packages, dev) => do return dependencyAdd (← packages) (dev.getD false)

def readManual : Value → Except Fault FixAction :=
  recordOf [.of "instructions" id (fun v _ => v) text] none fun instructions => do
    return manual (← instructions)

/-- How the fields of the kind with this name are read. -/
def readerOf? (kind : String) : Option (Value → Except Fault FixAction) :=
  if kind = "file-edit" then some readFileEdit
  else if kind = "config-change" then some readConfigChange
  else if kind = "dependency-add" then some readDependencyAdd
  else if kind = "manual" then some readManual
  else none

def readKind (place : Place) : Except Fault (Value → Except Fault FixAction) := do
  match readerOf? (← place.text) with
  | some reader => return reader
  | none => .error .mismatched

/-- The fields in the order written, of which one names the kind. -/
def readFields : List (Except Fault (String × Place)) →
    Option (Value → Except Fault FixAction) → List (String × Value) → Except Fault FixAction
  | [], some reader, fields => reader (.record fields.reverse)
  | [], none, _ => .error .mismatched
  | entry :: rest, reader, fields => do
    let (name, place) ← entry
    if name = "type" then
      if reader.isSome then .error .mismatched
      else do
        let reader ← readKind place
        readFields rest (some reader) fields
    else do
      let v ← place.value
      readFields rest reader ((name, v) :: fields)

/-- A repair as a document gives it: a record with its kind, or a list that begins with it. -/
def read (place : Place) : Except Fault FixAction := do
  match ← place.record with
  | .named entries => readFields entries none []
  | .ordered [] _ => .error .mismatched
  | .ordered (first :: items) _ =>
    let reader ← readKind (← first)
    reader (.list (← items.mapM fun item => do (← item).value))

end FixAction

end WidgetRepair
