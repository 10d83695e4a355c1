import WidgetRepair.Disk.Basic
import WidgetRepair.Json.Printer
import WidgetRepair.Store.Basic

/-! The file of a store: one indented JSON document, replaced as a whole. -/

namespace WidgetRepair

open Source Json

structure DocumentFields where
  version : Option String := none
  updated : Option Timestamp := none
  patterns : Option (List FixPattern) := none
  templates : Option (List WidgetTemplate) := none
  notes : Option (List ApiNote) := none
  practices : Option (List Practice) := none

def DocumentFields.all : List (Field Place (Except Fault) DocumentFields) := [
  .of "version" (·.version) (fun v s => { s with version := v }) text,
  .of "lastUpdated" (·.updated) (fun v s => { s with updated := v }) (parsed Timestamp.ofText?),
  .of "errorFixes" (·.patterns) (fun v s => { s with patterns := v }) (listOf FixPattern.read),
  .of "widgetTemplates" (·.templates) (fun v s => { s with templates := v })
    (listOf WidgetTemplate.read),
  .of "sdkApis" (·.notes) (fun v s => { s with notes := v }) (listOf ApiNote.read),
  .of "bestPractices" (·.practices) (fun v s => { s with practices := v }) (listOf Practice.read)]

namespace StoreDocument

def read : Place → Except Fault StoreDocument :=
  recordOf DocumentFields.all {} fun s => do
    return {
      version := ← s.version
      updated := ← s.updated
      patterns := s.patterns.getD []
      templates := s.templates.getD []
      notes := s.notes.getD []
      practices := s.practices.getD [] }

def toJson (doc : StoreDocument) : Value :=
  .record [("version", .text doc.version), ("lastUpdated", doc.updated.toJson),
    ("errorFixes", .list (doc.patterns.map FixPattern.toJson)),
    ("widgetTemplates", .list (doc.templates.map WidgetTemplate.toJson)),
    ("sdkApis", .list (doc.notes.map ApiNote.toJson)),
    ("bestPractices", .list (doc.practices.map Practice.toJson))]

/-- The document as it stands in a file. -/
def toText (doc : StoreDocument) : String := Value.pretty doc.toJson

def ofText (text : String) : Except Fault StoreDocument := Json.decode read text

end StoreDocument

/-- Why an operation on a store fails. -/
inductive StoreFault where
  | patternNotFound (id : String)
  | patternExists (id : String)
  | templateNotFound (id : String)
  | disk (fault : DiskFault)
  deriving DecidableEq, Repr

def StoreFault.message : StoreFault → String
  | patternNotFound id => "Pattern not found: " ++ id
  | patternExists id => "Pattern already exists: " ++ id
  | templateNotFound id => "Widget template not found: " ++ id
  | disk fault => "IO error: " ++ fault.message

namespace Store

/-- The store of a file. Where there is no file that can be read, the store is a new one; either
way it keeps the path, is clean, and holds every builtin pattern. -/
def load (d : Disk) (path : Path) (now : Timestamp) : Store :=
  let document :=
    match d.readText path with
    | .error _ => .builtin now
    | .ok content =>
      match StoreDocument.ofText content with
      | .ok doc => doc.completed
      | .error _ => .builtin now
  { path := some path, document := document }

/-- The file a document is written to before it takes the place of the old one. -/
def draftPath (path : Path) : Path := path.withExtension "json.tmp"

/-- Puts a document into the place of a file. Up to the last step the old content stands. -/
def writeDocument (path : Path) (doc : StoreDocument) : OnDisk Unit := do
  OnDisk.makeParent path
  OnDisk.writeText (draftPath path) doc.toText
  OnDisk.rename (draftPath path) path

end Store

end WidgetRepair
