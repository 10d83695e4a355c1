import WidgetRepair.Edit.Basic

/-! Scripts of a manifest. They are only ever added; what is there stays. -/

namespace WidgetRepair.Edit

open Json

abbrev Scripts := List (String × String)

/-- The scripts that a manifest has; anything but a record counts as none. -/
def scriptsOf (manifest : List (String × Value)) : List (String × Value) :=
  match manifest.find? (·.1 == "scripts") with
  | some (_, .record scripts) => scripts
  | _ => []

/-- The wanted scripts that are missing. -/
def missingScripts (manifest : List (String × Value)) (wanted : Scripts) : Scripts :=
  wanted.filter fun (name, _) => !(scriptsOf manifest).any (·.1 == name)

/-- A manifest with scripts put in. -/
def withScripts (manifest : List (String × Value)) (added : Scripts) : List (String × Value) :=
  let scripts := added.foldl (fun all (name, command) => insertSorted name (.text command) all)
    (scriptsOf manifest)
  insertSorted "scripts" (.record scripts) manifest

/-- The fields of a manifest, sorted by name. -/
def readManifest (text : String) : Except EditFault (List (String × Value)) := do
  match (← (Json.parse text).mapError .manifestText).sorted with
  | .record fields => return fields
  | _ => throw .manifestShape

/-- Adds the scripts that the manifest of a widget lacks; gives their names. -/
def ensureScripts (folder : Path) (wanted : Scripts) : OnEdit (List String) := do
  let path := folder / Manifest.fileName
  if !(← get).isFile path then fail (.missingManifest path)
  let text ← onDisk (OnDisk.lift (·.readText path))
  let manifest ← (readManifest text : Except EditFault _)
  let added := missingScripts manifest wanted
  if !added.isEmpty then
    onDisk (OnDisk.writeText path (Manifest.fileText (.record (withScripts manifest added))))
  return added.map (·.1)

end WidgetRepair.Edit
