import WidgetRepair.Json.Decode
import WidgetRepair.Text.Blank

/-! Plans of edits, as a language model writes them: one JSON object somewhere in its answer. -/

namespace WidgetRepair

open Source Json

inductive EditKind where
  | replace
  | prepend
  | append
  | create
  deriving DecidableEq, Repr

namespace EditKind

def all : List EditKind := [replace, prepend, append, create]

def name : EditKind → String
  | replace => "replace"
  | prepend => "prepend"
  | append => "append"
  | create => "create"

def ofName? (s : String) : Option EditKind := all.find? (·.name == s)

end EditKind

/-- One edit of a plan. The file is named from the root of the widget. -/
structure PlannedEdit where
  file : String
  kind : EditKind
  search : Option String := none
  replacement : Option String := none
  content : Option String := none
  deriving DecidableEq, Repr

/-- The text an edit puts in. Either field may carry it; the one that suits the kind comes
first. -/
def PlannedEdit.payload? (e : PlannedEdit) : Option String :=
  match e.kind with
  | .replace => e.replacement.or e.content
  | _ => e.content.or e.replacement

structure EditPlan where
  analysis : String := ""
  edits : List PlannedEdit := []
  description : String := ""
  deriving DecidableEq, Repr

/-- Why an answer yields no plan. -/
inductive PlanFault where
  | noObject
  | noEdits
  | unreadable (fault : Fault)
  deriving DecidableEq, Repr

/-- Where a scan of an object stands: outside of texts, inside one, or after a backslash there. -/
inductive ScanState where
  | outside
  | inText
  | escaped
  deriving DecidableEq, Repr

/-- The text up to the brace that closes the last of `depth` open ones. Braces inside quoted
texts do not count. -/
def closeObject (depth : Nat) : ScanState → List Char → Option (List Char)
  | _, [] => none
  | .escaped, c :: rest => (closeObject depth .inText rest).map (c :: ·)
  | .inText, c :: rest =>
    let next := if c == '\\' then .escaped else if c == '"' then .outside else .inText
    (closeObject depth next rest).map (c :: ·)
  | .outside, c :: rest =>
    if c == '"' then (closeObject depth .inText rest).map (c :: ·)
    else if c == '\x7b' then (closeObject (depth + 1) .outside rest).map (c :: ·)
    else if c == '\x7d' then
      if depth ≤ 1 then some [c] else (closeObject (depth - 1) .outside rest).map (c :: ·)
    else (closeObject depth .outside rest).map (c :: ·)

/-- The first balanced object of a text. -/
def firstObject? (text : List Char) : Option (List Char) :=
  match text.dropWhile (· != '\x7b') with
  | [] => none
  | _ :: rest => (closeObject 1 .outside rest).map ('\x7b' :: ·)

structure EditFields where
  file : Option String := none
  kind : Option EditKind := none
  search : Option (Option String) := none
  replacement : Option (Option String) := none
  content : Option (Option String) := none

def EditFields.all : List (Field Place (Except Fault) EditFields) := [
  .of "file" (·.file) (fun v s => { s with file := v }) text,
  .of "action" (·.kind) (fun v s => { s with kind := v }) (choice EditKind.ofName?),
  .of "search" (·.search) (fun v s => { s with search := v }) (option text),
  .of "replace" (·.replacement) (fun v s => { s with replacement := v }) (option text),
  .of "content" (·.content) (fun v s => { s with content := v }) (option text)]

def PlannedEdit.read : Place → Except Fault PlannedEdit :=
  recordOf EditFields.all {} fun s => do
    return {
      file := ← s.file
      kind := ← s.kind
      search := s.search.getD none
      replacement := s.replacement.getD none
      content := s.content.getD none }

def PlannedEdit.toJson (e : PlannedEdit) : Value :=
  .record ([("file", .text e.file), ("action", .text e.kind.name)] ++
    Value.fieldOf "search" .text e.search ++ Value.fieldOf "replace" .text e.replacement ++
    Value.fieldOf "content" .text e.content)

namespace EditPlan

structure Fields where
  analysis : Option String := none
  edits : Option (List PlannedEdit) := none
  description : Option String := none

def Fields.all : List (Field Place (Except Fault) Fields) := [
  .of "analysis" (·.analysis) (fun v s => { s with analysis := v }) text,
  .of "fixes" (·.edits) (fun v s => { s with edits := v }) (listOf PlannedEdit.read),
  .of "description" (·.description) (fun v s => { s with description := v }) text]

def read : Place → Except Fault EditPlan :=
  recordOf Fields.all {} fun s =>
    some ⟨s.analysis.getD "", s.edits.getD [], s.description.getD ""⟩

def toJson (p : EditPlan) : Value :=
  .record [("analysis", .text p.analysis), ("fixes", .list (p.edits.map PlannedEdit.toJson)),
    ("description", .text p.description)]

/-- The plan in an answer: its first object, with at least one edit. -/
def parse (answer : String) : Except PlanFault EditPlan := do
  let some object := firstObject? answer.toList | throw .noObject
  let plan ← (Json.decode read (String.ofList object)).mapError .unreadable
  if plan.edits.isEmpty then throw .noEdits
  return plan

/-- The plan in few words; its analysis where it has no description. -/
def summary (p : EditPlan) : String :=
  if Text.blank p.description then Text.trimmed p.analysis else Text.trimmed p.description

end EditPlan

end WidgetRepair
