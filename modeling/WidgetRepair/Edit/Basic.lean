import WidgetRepair.Disk.Glob
import WidgetRepair.Json.Decode
import WidgetRepair.Package.Manifest

/-! Edits of the files of a widget. -/

namespace WidgetRepair

/-- Why an edit cannot be made. -/
inductive EditFault where
  | missingManifest (path : Path)
  | manifestShape
  | manifestText (fault : Fault)
  | pattern (fault : PatternFault)
  | outside (file : String)
  | noContent (file : String)
  | noSearch (file : String)
  | disk (fault : DiskFault)
  deriving DecidableEq, Repr

/-- A computation on the disk that edits a widget. What was written before a fault stays. -/
abbrev OnEdit := ExceptT EditFault (StateM Disk)

namespace Edit

def fail {α : Type} (f : EditFault) : OnEdit α := throw f

def onDisk {α : Type} (job : OnDisk α) : OnEdit α := ExceptT.adapt .disk job

/-- The folder that patterns start from: that of the sources where there is one. -/
def root (d : Disk) (folder : Path) : Path :=
  if d.isFolder (folder / "src") then folder / "src" else folder

/-- A text without the `./` in front of it, however often it stands there. -/
def withoutHere : List Char → List Char
  | '.' :: '/' :: rest => withoutHere rest
  | text => text

/-- The order of parts: the root, then points, then names. -/
def partRank : PathPart → Nat
  | .root => 0
  | .here => 1
  | .up => 2
  | .name _ => 3

def partAtMost (p q : PathPart) : Bool :=
  match p, q with
  | .name a, .name b => decide (a ≤ b)
  | p, q => partRank p ≤ partRank q

/-- The order of paths, part by part. -/
def partsAtMost : List PathPart → List PathPart → Bool
  | [], _ => true
  | _ :: _, [] => false
  | p :: ps, q :: qs => if p = q then partsAtMost ps qs else partAtMost p q

def pathAtMost (p q : Path) : Bool := partsAtMost p.parts q.parts

/-- The files of a widget that a pattern stands for, in order. Installed packages never count. -/
def matchingFiles (d : Disk) (folder : Path) (pattern : String) :
    Except PatternFault (List Path) := do
  let tail := String.ofList (withoutHere pattern.toList)
  let found ← Glob.paths d (Glob.escape (root d folder).text ++ "/" ++ tail)
  let files := found.filter fun p => d.isFile p && !p.parts.contains (.name "node_modules")
  return files.mergeSort pathAtMost

/-- `addition` on lines of its own in front of a text that does not hold it yet. -/
def prepended? (content addition : String) : Option String :=
  if Text.blank addition || Text.contains content (Text.trimmed addition) then none
  else some (addition ++ (if addition.toList.getLast? = some '\n' then "" else "\n") ++ content)

/-- A text with `search` replaced everywhere; an empty `search` puts `replace` in front. -/
def edited? (content search replace : String) : Option String :=
  if search.isEmpty then prepended? content replace
  else if Text.contains content search then some (Text.substitute content search replace)
  else none

/-- Writes a file anew where there is a new text for it that differs. -/
def putNew (file : Path) (content : String) (new : Option String) : OnEdit Bool := do
  match new with
  | none => return false
  | some new =>
    if new = content then return false
    onDisk (OnDisk.writeText file new)
    return true

/-- Edits files one after the other; gives those that changed. -/
def editEach (search replace : String) : List Path → OnEdit (List Path)
  | [] => return []
  | file :: rest => do
    let content ← onDisk (OnDisk.lift (·.readText file))
    let changed ← putNew file content (edited? content search replace)
    let others ← editEach search replace rest
    return if changed then file :: others else others

/-- Edits the files of a widget that a pattern stands for. -/
def editFiles (folder : Path) (pattern search replace : String) : OnEdit (List Path) := do
  match matchingFiles (← get) folder pattern with
  | .error f => fail (.pattern f)
  | .ok files => editEach search replace files

end Edit

def EditFault.message : EditFault → String
  | missingManifest path => "Package manifest not found: " ++ path.text
  | manifestShape => "Invalid edit: " ++ Manifest.fileName ++ " is not an object"
  | manifestText fault => "JSON error: " ++ fault.message
  | pattern fault => "Invalid file pattern: " ++ fault.message
  | outside file => "Edit outside the widget directory: " ++ file
  | noContent file => "Invalid edit: " ++ file ++ ": no content"
  | noSearch file => "Invalid edit: " ++ file ++ ": replace without search"
  | disk fault => "IO error: " ++ fault.message

end WidgetRepair
