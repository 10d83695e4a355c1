import WidgetRepair.Text.Search

/-! Paths as texts with `/` between their parts. The text is kept as it was given, because it is
shown to people; the parts are what it means. -/

namespace WidgetRepair

structure Path where
  text : String
  deriving DecidableEq, Repr, Inhabited

/-- A part of a path. A point counts only at the start of a relative path. -/
inductive PathPart where
  | root
  | here
  | up
  | name (s : String)
  deriving DecidableEq, Repr

/-- The number of characters of a part. -/
def PathPart.length : PathPart → Nat
  | root | here => 1
  | up => 2
  | name s => s.length

namespace Path

def absolute (p : Path) : Bool := p.text.toList.head? == some '/'

def isEmpty (p : Path) : Bool := p.text.isEmpty

/-- The pieces between slashes, each with the number of characters up to its end. -/
def pieces (p : Path) : List (List Char × Nat) :=
  measured 0 (Text.splitWhere (· == '/') p.text.toList)
where
  measured (start : Nat) : List (List Char) → List (List Char × Nat)
    | [] => []
    | piece :: rest => (piece, start + piece.length) :: measured (start + piece.length + 1) rest

/-- The part a piece stands for; `first` tells whether it begins a relative path. -/
def partOf? (first : Bool) (piece : List Char) : Option PathPart :=
  match piece with
  | [] => none
  | ['.'] => if first then some .here else none
  | ['.', '.'] => some .up
  | name => some (.name (String.ofList name))

/-- The parts, each with the number of characters up to its end. -/
def measuredParts (p : Path) : List (PathPart × Nat) :=
  match p.pieces with
  | [] => []
  | (piece, size) :: rest =>
    let first := if p.absolute then [(PathPart.root, 1)]
      else ((partOf? true piece).map fun part => (part, size)).toList
    first ++ rest.filterMap fun (piece, size) => (partOf? false piece).map fun part => (part, size)

def parts (p : Path) : List PathPart := p.measuredParts.map (·.1)

/-- The path of the first `size` characters. -/
def take (p : Path) (size : Nat) : Path := ⟨String.ofList (p.text.toList.take size)⟩

/-- The path without its last part. -/
def parent? (p : Path) : Option Path :=
  match p.measuredParts.reverse with
  | [] => none
  | (.root, _) :: _ => none
  | _ :: [] => some ⟨""⟩
  | _ :: (_, size) :: _ => some (p.take size)

/-- The path and the paths around it, from the inside. -/
def ancestors (p : Path) : List Path :=
  go p p.measuredParts.length
where
  go (p : Path) : Nat → List Path
    | 0 => [p]
    | n + 1 => p :: ((p.parent?.map fun q => go q n).getD [])

/-- The last part, where it is a name. -/
def fileName? (p : Path) : Option String :=
  match p.measuredParts.getLast? with
  | some (.name s, _) => some s
  | _ => none

/-- A file name up to its last point and what follows it. A point in front does not count. -/
def splitName (name : String) : String × Option String :=
  let back := name.toList.reverse
  let ending := back.takeWhile (· != '.')
  match back.drop ending.length with
  | [] | [_] => (name, none)
  | _ :: stem => (String.ofList stem.reverse, some (String.ofList ending.reverse))

def extension? (p : Path) : Option String := do (splitName (← p.fileName?)).2

/-- The path with another ending after the last point of its file name. -/
def withExtension (p : Path) (ending : String) : Path :=
  match p.measuredParts.getLast? with
  | some (.name s, size) =>
    let stem := (splitName s).1
    ⟨(p.take (size - (s.length - stem.length))).text ++ "." ++ ending⟩
  | _ => p

/-- The path from `base` on, where that leads to it. -/
def relativeTo? (p base : Path) : Option Path :=
  if base.parts.isPrefixOf p.parts then
    match p.measuredParts.drop base.parts.length with
    | [] => some ⟨""⟩
    | (first, size) :: others =>
      let start := size - first.length
      let size := (others.getLast?.map (·.2)).getD size
      some ⟨String.ofList ((p.text.toList.take size).drop start)⟩
  else none

/-- `q` as seen from `p`. -/
def join (p : Path) (q : String) : Path :=
  if q.toList.head? = some '/' then ⟨q⟩
  else if p.isEmpty || p.text.toList.getLast? = some '/' then ⟨p.text ++ q⟩
  else ⟨p.text ++ "/" ++ q⟩

end Path

instance : HDiv Path String Path := ⟨Path.join⟩

end WidgetRepair
