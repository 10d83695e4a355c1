import WidgetRepair.Disk.Path

/-! The files and folders that the library works on, as a value. An entry stands at a location,
which is the list of names that lead to it; entries are kept in the order of their locations, so
a folder comes before its content and siblings come by name. -/

namespace WidgetRepair

abbrev Location := List String

inductive Entry where
  | file (content : ByteArray)
  | folder

/-- What happens to one of the next steps that change the disk: nothing unusual, a refusal, or a
write that stops after some bytes. -/
inductive Hitch where
  | none
  | refused
  | cut (size : Nat)
  deriving DecidableEq, Repr

/-- Whether entries stand in the order of their locations, each location once. -/
abbrev InOrder (entries : List (Location × Entry)) : Prop :=
  entries.Pairwise fun a b => a.1 < b.1

structure Disk where
  entries : List (Location × Entry) := []
  inOrder : InOrder entries := by exact List.Pairwise.nil
  /-- The folder that relative paths start from. -/
  origin : Location := []
  /-- What the next changing steps meet; all further ones meet nothing. -/
  hitches : List Hitch := []
  /-- Folders that nobody may add entries to or take them from. -/
  sealed : List Location := []

/-- The disk on which nothing but the root is. -/
def Disk.empty : Disk := {}

instance : Inhabited Disk := ⟨Disk.empty⟩

/-- Why a step on the disk fails. -/
inductive DiskFault where
  | missing
  | denied
  | occupied
  | notFolder
  | isFolder
  | full
  | nameTooLong
  | emptyTree
  | notText
  | nulInName
  deriving DecidableEq, Repr

def DiskFault.message : DiskFault → String
  | missing => "No such file or directory (os error 2)"
  | denied => "Permission denied (os error 13)"
  | occupied => "File exists (os error 17)"
  | notFolder => "Not a directory (os error 20)"
  | isFolder => "Is a directory (os error 21)"
  | full => "No space left on device (os error 28)"
  | nameTooLong => "File name too long (os error 36)"
  | emptyTree => "failed to create whole tree"
  | notText => "stream did not contain valid UTF-8"
  | nulInName => "file name contained an unexpected NUL byte"

/-- A computation on the disk. What was changed before a fault stays changed. -/
abbrev OnDisk := ExceptT DiskFault (StateM Disk)

namespace Disk

/-- What stands at a location; the root is a folder. -/
def get? (d : Disk) (l : Location) : Option Entry :=
  if l.isEmpty then some .folder else (d.entries.find? (·.1 == l)).map (·.2)

/-- Whether the entry at a location stays as it is: the folder around it is sealed. -/
def fixed (d : Disk) (l : Location) : Bool := d.sealed.contains l.dropLast

/-- Entries with `e` at `l`, in order. -/
def putEntry (l : Location) (e : Entry) : List (Location × Entry) → List (Location × Entry)
  | [] => [(l, e)]
  | (other, f) :: rest =>
    if l = other then (l, e) :: rest
    else if l < other then (l, e) :: (other, f) :: rest
    else (other, f) :: putEntry l e rest

theorem eq_or_mem_of_mem_putEntry {l : Location} {e : Entry} {x : Location × Entry}
    {entries : List (Location × Entry)} (member : x ∈ putEntry l e entries) :
    x = (l, e) ∨ x ∈ entries := by
  induction entries with
  | nil => simpa [putEntry] using member
  | cons first rest step =>
    unfold putEntry at member
    split at member
    · rcases List.mem_cons.mp member with new | old
      · exact .inl new
      · exact .inr (List.mem_cons_of_mem _ old)
    · split at member
      · rcases List.mem_cons.mp member with new | old
        · exact .inl new
        · exact .inr old
      · rcases List.mem_cons.mp member with same | later
        · exact .inr (same ▸ List.mem_cons_self)
        · exact (step later).imp_right (List.mem_cons_of_mem _)

theorem putEntry_inOrder (l : Location) (e : Entry) {entries : List (Location × Entry)}
    (ordered : InOrder entries) : InOrder (putEntry l e entries) := by
  induction entries with
  | nil => exact List.pairwise_singleton ..
  | cons first rest step =>
    obtain ⟨before, ordered⟩ := List.pairwise_cons.mp ordered
    unfold putEntry
    split
    case isTrue same =>
      exact List.pairwise_cons.mpr ⟨fun x inRest => same ▸ before x inRest, ordered⟩
    case isFalse different =>
      split
      case isTrue less =>
        refine List.pairwise_cons.mpr ⟨fun x inRest => ?_, List.pairwise_cons.mpr ⟨before, ordered⟩⟩
        rcases List.mem_cons.mp inRest with same | later
        · exact same ▸ less
        · exact List.lt_trans less (before x later)
      case isFalse notLess =>
        refine List.pairwise_cons.mpr ⟨fun x inPut => ?_, step ordered⟩
        rcases eq_or_mem_of_mem_putEntry inPut with new | old
        · subst new
          rcases Decidable.em (first.1 < l) with less | notGreater
          · exact less
          · exact absurd (List.le_antisymm (List.not_lt.mp notGreater) (List.not_lt.mp notLess))
              different
        · exact before x old

/-- The disk with `e` at `l`. -/
def put (d : Disk) (l : Location) (e : Entry) : Disk :=
  { d with
    entries := putEntry l e d.entries
    inOrder := putEntry_inOrder l e d.inOrder }

/-- The disk without what stands at a location and below. -/
def erase (d : Disk) (l : Location) : Disk :=
  { d with
    entries := d.entries.filter fun (other, _) => !l.isPrefixOf other
    inOrder := d.inOrder.filter _ }

/-- The entries below a location, in order. -/
def below (d : Disk) (l : Location) : List (Location × Entry) :=
  d.entries.filter fun (other, _) => l.isPrefixOf other && other != l

/-- One step on the way along a path. -/
inductive Step where
  | stay
  | up
  | into (name : String)
  deriving DecidableEq, Repr

/-- Every piece of a path is a step. A slash at the end asks for a folder. -/
def steps (p : Path) : List Step :=
  let pieces := (Text.splitWhere (· == '/') p.text.toList).filter (!·.isEmpty)
  let steps := pieces.map fun piece =>
    if piece == ['.'] then .stay
    else if piece == ['.', '.'] then .up
    else .into (String.ofList piece)
  if p.text.toList.getLast? = some '/' then steps ++ [.stay] else steps

/-- The bytes that a name may have. -/
def nameLimit : Nat := 255

/-- The bytes that the text of a path may have. -/
def pathLimit : Nat := 4095

/-- Walking along steps. Only the last name may be of something that is not there. -/
def walk (d : Disk) : Location → List Step → Except DiskFault Location
  | l, [] => .ok l
  | l, .stay :: rest => d.walk l rest
  | l, .up :: rest => d.walk l.dropLast rest
  | l, .into name :: rest =>
    if name.utf8ByteSize > nameLimit then .error .nameTooLong
    else if rest.isEmpty then .ok (l ++ [name])
    else
      match d.get? (l ++ [name]) with
      | none => .error .missing
      | some (.file _) => .error .notFolder
      | some .folder => d.walk (l ++ [name]) rest

/-- The folder that a path starts from. -/
def start (d : Disk) (p : Path) : Location := if p.absolute then [] else d.origin

/-- Why a text cannot be the path of anything. -/
def refusal? (p : Path) : Option DiskFault :=
  if p.text.toList.any (·.toNat == 0) then some .nulInName
  else if p.isEmpty then some .missing
  else if p.text.utf8ByteSize > pathLimit then some .nameTooLong
  else none

/-- The location a path leads to. -/
def locate (d : Disk) (p : Path) : Except DiskFault Location :=
  match refusal? p with
  | some fault => .error fault
  | none => d.walk (d.start p) (steps p)

/-- Where something new would be made: a slash at the end does not matter. -/
def locateNew (d : Disk) (p : Path) : Except DiskFault Location :=
  match refusal? p with
  | some fault => .error fault
  | none =>
    let trimmed := (p.text.toList.reverse.dropWhile (· == '/')).reverse
    d.walk (d.start p) (steps ⟨String.ofList trimmed⟩)

/-- The disk as it is seen from a folder. -/
def seenFrom (d : Disk) (folder : Path) : Disk :=
  match d.locate folder with
  | .ok l => { d with origin := l }
  | .error _ => d

/-- What a path leads to. -/
def find? (d : Disk) (p : Path) : Option Entry :=
  match d.locate p with
  | .ok l => d.get? l
  | .error _ => none

def exists? (d : Disk) (p : Path) : Bool := (d.find? p).isSome

def isFile (d : Disk) (p : Path) : Bool :=
  match d.find? p with
  | some (.file _) => true
  | _ => false

def isFolder (d : Disk) (p : Path) : Bool :=
  match d.find? p with
  | some .folder => true
  | _ => false

/-- The content of a file. -/
def read (d : Disk) (p : Path) : Except DiskFault ByteArray := do
  let l ← d.locate p
  match d.get? l with
  | none => .error .missing
  | some .folder => .error .isFolder
  | some (.file content) => .ok content

def readText (d : Disk) (p : Path) : Except DiskFault String := do
  match String.fromUTF8? (← d.read p) with
  | some s => .ok s
  | none => .error .notText

end Disk

namespace OnDisk

def fail {α : Type} (f : DiskFault) : OnDisk α := throw f

/-- The next hitch, which is used up. -/
def nextHitch : OnDisk Hitch := do
  let d ← get
  set { d with hitches := d.hitches.drop 1 }
  return d.hitches.headD .none

def lift {α : Type} (look : Disk → Except DiskFault α) : OnDisk α := do
  match look (← get) with
  | .ok a => return a
  | .error f => fail f

def put (l : Location) (e : Entry) : OnDisk Unit := modify fun d => d.put l e

/-- Makes one folder in a folder that is there. -/
def makeFolder (p : Path) : OnDisk Unit := do
  let l ← lift (·.locateNew p)
  if ((← get).get? l).isSome then fail .occupied
  if (← get).fixed l then fail .denied
  match ← nextHitch with
  | .none => put l .folder
  | _ => fail .full

/-- Makes a folder and, from the outside, those around it that are missing. -/
def makeFoldersIn : List Path → OnDisk Unit
  | [] => fail .emptyTree
  | p :: around => do
    if p.isEmpty then return
    try makeFolder p
    catch
      | .missing => do
        makeFoldersIn around
        try makeFolder p
        catch f => if (← get).isFolder p then pure () else fail f
      | f => if (← get).isFolder p then pure () else fail f

def makeFolders (p : Path) : OnDisk Unit := makeFoldersIn p.ancestors

/-- The folder around a path, made where it is missing. -/
def makeParent (p : Path) : OnDisk Unit :=
  match p.parent? with
  | some around => if around.isEmpty then return else makeFolders around
  | none => return

/-- The location of a file to write. A file that is there can be written also where no other may be added. -/
def fileToWrite (p : Path) : OnDisk Location := do
  if p.text.toList.getLast? = some '/' then
    let _ ← lift (·.locateNew p)
    fail .isFolder
  let l ← lift (·.locate p)
  match (← get).get? l with
  | some .folder => fail .isFolder
  | some (.file _) => return l
  | none => if (← get).fixed l then fail .denied else return l

/-- Writes a whole file. A write that is cut short leaves what it got to. -/
def write (p : Path) (content : ByteArray) : OnDisk Unit := do
  let l ← fileToWrite p
  match ← nextHitch with
  | .none => put l (.file content)
  | .refused => fail .full
  | .cut size =>
    put l (.file (content.extract 0 (min size content.size)))
    fail .full

def writeText (p : Path) (content : String) : OnDisk Unit := write p content.toUTF8

/-- Adds to the end of a file, which is made where it is missing. -/
def append (p : Path) (content : ByteArray) : OnDisk Unit := do
  let l ← fileToWrite p
  let before := match (← get).get? l with
    | some (.file before) => before
    | _ => ByteArray.empty
  match ← nextHitch with
  | .none => put l (.file (before ++ content))
  | .refused => fail .full
  | .cut size =>
    put l (.file (before ++ content.extract 0 (min size content.size)))
    fail .full

/-- Gives a file another path in one step; a file that stood there is gone. -/
def rename (p q : Path) : OnDisk Unit := do
  let content ← lift (·.read p)
  let l ← lift (·.locate p)
  let target ← fileToWrite q
  let d ← get
  if d.fixed l || d.fixed target then fail .denied
  match ← nextHitch with
  | .none =>
    modify fun d => d.erase l
    put target (.file content)
  | _ => fail .full

/-- Copies a file over another. What is written to goes empty first, so a file that is copied to
itself ends up empty. -/
def copy (p q : Path) : OnDisk Unit := do
  let content ← lift (·.read p)
  let l ← lift (·.locate p)
  let target ← fileToWrite q
  write q (if l = target then ByteArray.empty else content)

/-- Runs a computation on a disk; the disk comes back also after a fault. -/
def run {α : Type} (job : OnDisk α) (d : Disk) : Except DiskFault α × Disk :=
  (ExceptT.run job).run d

end OnDisk

end WidgetRepair
