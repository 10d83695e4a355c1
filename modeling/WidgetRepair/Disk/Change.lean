import WidgetRepair.Disk.Basic

/-! What differs between two states of a folder. -/

namespace WidgetRepair

/-- What became of something below a folder. -/
inductive Change where
  | file (content : ByteArray)
  /-- A folder without content. -/
  | emptyFolder
  | removed

namespace Disk

/-- The files and the empty folders below a location, each with its path from there. The path of a
folder ends with a slash. -/
def listing (d : Disk) (l : Location) : List (String × Option ByteArray) :=
  (d.below l).filterMap fun (other, entry) =>
    let path := "/".intercalate (other.drop l.length)
    match entry with
    | .file content => some (path, some content)
    | .folder => if (d.below other).isEmpty then some (path ++ "/", none) else none

/-- Whether two states of one path are the same. -/
def sameContent : Option ByteArray → Option ByteArray → Bool
  | some a, some b => a.data == b.data
  | none, none => true
  | _, _ => false

def changeOf : Option ByteArray → Change
  | some content => .file content
  | none => .emptyFolder

/-- What is new, different or gone below a location. -/
def changes (before after : Disk) (l : Location) : List (String × Change) :=
  let old := before.listing l
  let new := after.listing l
  let kept := fun (path, content) =>
    match old.find? (·.1 == path) with
    | some (_, earlier) => sameContent earlier content
    | none => false
  (new.filter (!kept ·)).map (fun (path, content) => (path, changeOf content)) ++
    (old.filter fun (path, _) => !new.any (·.1 == path)).map fun (path, _) => (path, .removed)

end Disk

end WidgetRepair
