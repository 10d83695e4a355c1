import WidgetRepair.Disk.Basic
import WidgetRepair.Json.Printer
import WidgetRepair.Knowledge.Basic
import WidgetRepair.Text.ByteLine

/-! The file of the knowledge: one entry a line. Lines are only ever added. -/

namespace WidgetRepair

namespace Knowledge

/-- The entry of a line; a line that holds none is passed over. -/
def lineEntry? (line : String) : Option KnowledgeEntry :=
  if Text.blank line then none else (Json.decode KnowledgeEntry.read line).toOption

/-- The entries of a file. Every line has to be text. -/
def entriesOf (content : ByteArray) : Except DiskFault (List KnowledgeEntry) := do
  let lines ← (Text.byteLines content).mapM fun line =>
    match String.fromUTF8? line with
    | some s => .ok s
    | none => .error .notText
  return lines.filterMap lineEntry?

/-- The knowledge of a file; there is none where there is no file. -/
def load (d : Disk) (path : Path) : Except DiskFault Knowledge := do
  if !d.exists? path then return { path := some path }
  return { path := some path, entries := ← entriesOf (← d.read path) }

/-- The line that an entry is written as. -/
def lineOf (e : KnowledgeEntry) : String := e.toJson.render ++ "\n"

/-- Adds an entry. The file gets it first; when that fails the knowledge stays as it was. -/
def append (k : Knowledge) (e : KnowledgeEntry) : OnDisk Knowledge := do
  match k.path with
  | none => pure ()
  | some path =>
    OnDisk.makeParent path
    OnDisk.append path (lineOf e).toUTF8
  return { k with entries := k.entries ++ [e] }

end Knowledge

end WidgetRepair
