import WidgetRepair.Disk.Basic

/-! Files by pattern. A pattern is matched part by part: `?` stands for one character of a name,
`*` for any number of them, brackets for one of a set, and a part `**` for any number of
folders. -/

namespace WidgetRepair

/-- Why a pattern is none, with the place in it. -/
inductive PatternFault where
  | stars (position : Nat)
  | recursive (position : Nat)
  | set (position : Nat)
  deriving DecidableEq, Repr

def PatternFault.message : PatternFault → String
  | stars n =>
    "Pattern syntax error near position " ++ toString n ++
      ": wildcards are either regular `*` or recursive `**`"
  | recursive n =>
    "Pattern syntax error near position " ++ toString n ++
      ": recursive wildcards must form a single path component"
  | set n =>
    "Pattern syntax error near position " ++ toString n ++ ": invalid range pattern"

namespace Glob

/-- The characters from `first` to `last`. -/
structure Range where
  first : Char
  last : Char
  deriving DecidableEq, Repr

inductive Token where
  | char (c : Char)
  | any
  | many
  | folders
  | oneOf (ranges : List Range)
  | noneOf (ranges : List Range)
  deriving DecidableEq, Repr

/-- The ranges between brackets: single characters, or two with a dash between them. -/
def ranges : List Char → List Range
  | a :: '-' :: b :: rest => ⟨a, b⟩ :: ranges rest
  | a :: rest => ⟨a, a⟩ :: ranges rest
  | [] => []

/-- A set up to its closing bracket, which is not looked for in its first character. -/
def setContent? : List Char → Option (List Char)
  | c :: rest => if rest.contains ']' then some (c :: rest.takeWhile (· != ']')) else none
  | [] => none

/-- A set after its opening bracket, with the number of characters up to its end. -/
def set? : List Char → Option (Token × Nat)
  | '!' :: rest => (setContent? rest).map fun s => (.noneOf (ranges s), s.length + 2)
  | rest => (setContent? rest).map fun s => (.oneOf (ranges s), s.length + 1)

/-- The tokens of a pattern; `skip` characters still belong to the set just passed. -/
def tokensFrom (before : Option Char) (position : Nat) :
    (skip : Nat) → List Char → Except PatternFault (List Token)
  | _, [] => .ok []
  | skip + 1, c :: rest => tokensFrom (some c) (position + 1) skip rest
  | 0, '*' :: '*' :: '*' :: _ => .error (.stars (position + 2))
  | 0, '*' :: '*' :: rest =>
    if before.isNone || before = some '/' then
      match rest with
      | [] => .ok [.folders]
      | '/' :: more => (tokensFrom (some '/') (position + 3) 0 more).map (.folders :: ·)
      | _ => .error (.recursive (position + 2))
    else .error (.recursive (position - 1))
  | 0, '[' :: rest =>
    match set? rest with
    | some (token, size) => (tokensFrom (some '[') (position + 1) size rest).map (token :: ·)
    | none => .error (.set position)
  | 0, c :: rest =>
    let token := if c = '?' then .any else if c = '*' then .many else .char c
    (tokensFrom (some c) (position + 1) 0 rest).map (token :: ·)

def tokens (pattern : List Char) : Except PatternFault (List Token) := tokensFrom none 0 0 pattern

def inRanges (ranges : List Range) (c : Char) : Bool :=
  ranges.any fun r => r.first ≤ c && c ≤ r.last

/-- Whether a token stands for one character. -/
def Token.takes (c : Char) : Token → Bool
  | .char d => c == d
  | .any => true
  | .oneOf ranges => inRanges ranges c
  | .noneOf ranges => !inRanges ranges c
  | .many | .folders => false

/-- Whether tokens stand for a whole name. -/
def covers : List Token → List Char → Bool
  | [], name => name.isEmpty
  | .many :: rest, name => coversFrom rest name
  | token :: rest, name =>
    match name with
    | [] => false
    | c :: name => token.takes c && covers rest name
where
  /-- Whether tokens stand for some ending of a name. -/
  coversFrom (rest : List Token) : List Char → Bool
    | [] => covers rest []
    | c :: name => covers rest (c :: name) || coversFrom rest name

def Token.char? : Token → Option Char
  | .char c => some c
  | _ => none

/-- The text of a part that stands for itself. -/
def literal? (part : List Token) : Option String := (part.mapM Token.char?).map String.ofList

def isRecursive (part : List Token) : Bool := part.contains .folders

/-- A text with its special characters put in brackets. -/
def escape (text : String) : String :=
  String.ofList (text.toList.flatMap fun c =>
    if c == '?' || c == '*' || c == '[' || c == ']' then ['[', c, ']'] else [c])

/-- The names in a folder, in order. -/
def childNames (d : Disk) (folder : Path) : List String :=
  match d.locate folder with
  | .error _ => []
  | .ok l => (d.below l).filterMap fun (other, _) =>
      if other.length = l.length + 1 then other.getLast? else none

/-- Whether a path is just the folder one is in. -/
def isHere (p : Path) : Bool := p.parts == [.here]

def childOf (folder : Path) (name : String) : Path :=
  if isHere folder then ⟨name⟩ else folder / name

variable (d : Disk) (folderOnly : Bool)

/-- A path that all parts of a pattern have been used for. -/
def accept (p : Path) : List Path := if folderOnly && !d.isFolder p then [] else [p]

mutual

/-- The paths below `p`, one part further. The fuel bounds how deep folders and parts go. -/
def fill : (fuel : Nat) → Path → List (List Token) → List Path
  | 0, _, _ => []
  | _, _, [] => []
  | fuel + 1, p, part :: rest =>
    let further (q : Path) : List Path :=
      if rest.isEmpty then accept d folderOnly q else fill fuel q rest
    match literal? part with
    | some name =>
      let special := name == "." || name == ".."
      let q := childOf p name
      if (special && d.isFolder p) || (!special && d.exists? q) then further q else []
    | none =>
      if d.isFolder p then
        let specials := if part.head? = some (.char '.') then
            [".", ".."].filter fun s => covers part s.toList
          else []
        (specials.reverse.flatMap fun s => further (p / s)) ++
          (childNames d p).flatMap fun name => visit fuel (childOf p name) (part :: rest)
      else []

/-- The paths that a path found in a folder leads to. -/
def visit : (fuel : Nat) → Path → List (List Token) → List Path
  | 0, _, _ => []
  | _, _, [] => []
  | fuel + 1, p, part :: rest =>
    if isRecursive part then
      let rest := rest.dropWhile isRecursive
      let deeper := if d.isFolder p then fill fuel p (part :: rest) else []
      match rest with
      | [] => if d.isFolder p then p :: deeper else []
      | next :: rest => here fuel p next rest ++ deeper
    else here fuel p part rest

/-- What comes of matching the name of a path with one part. -/
def here : (fuel : Nat) → Path → List Token → List (List Token) → List Path
  | 0, _, _, _ => []
  | fuel + 1, p, part, rest =>
    match p.fileName? with
    | none => []
    | some name =>
      if covers part name.toList then
        if rest.isEmpty then accept d folderOnly p else fill fuel p rest
      else []

end

/-- The parts of a pattern; nothing after a last slash is no part. -/
def partTexts (pattern : List Char) : List (List Char) :=
  let parts := Text.splitWhere (· == '/') pattern
  if parts.getLast? = some [] then parts.dropLast else parts

/-- The paths that a pattern stands for. -/
def paths (pattern : String) : Except PatternFault (List Path) := do
  let chars := pattern.toList
  let _ ← tokens chars
  let (start, chars) := match chars with
    | '/' :: rest => (Path.mk "/", rest)
    | rest => (Path.mk ".", rest)
  let parts ← (partTexts chars).mapM tokens
  let folderOnly := pattern.toList.getLast? = some '/'
  return fill d folderOnly (4 * (parts.length + 1) * (d.entries.length + 2)) start parts

end Glob

end WidgetRepair
