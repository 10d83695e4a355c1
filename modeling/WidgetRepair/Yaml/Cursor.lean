/-! A place in a YAML text, with the line and column that indentation is measured by. -/

namespace WidgetRepair.Yaml

def isBreak (c : Char) : Bool :=
  c == '\n' || c == '\r' || c.toNat == 0x85 || c.toNat == 0x2028 || c.toNat == 0x2029

def isBlank (c : Char) : Bool := c == ' ' || c == '\t'

/-- Characters a YAML text may hold. -/
def allowed (c : Char) : Bool :=
  let n := c.toNat
  n == 9 || n == 10 || n == 13 || (0x20 ≤ n && n ≤ 0x7E) || n == 0x85 ||
    (0xA0 ≤ n && n ≤ 0xFFFD) || 0x10000 ≤ n

/-- Letters of names: of anchors, handles and directives. -/
def isNameChar (c : Char) : Bool := c.isAlphanum || c == '_' || c == '-'

structure Cursor where
  rest : List Char
  /-- The number of bytes up to here. -/
  index : Nat := 0
  line : Nat := 0
  column : Nat := 0

namespace Cursor

def peek (c : Cursor) (ahead : Nat) : Option Char := c.rest[ahead]?

def at? (c : Cursor) (ahead : Nat) (wanted : Char) : Bool := c.peek ahead == some wanted

def atEnd (c : Cursor) : Bool := c.rest.isEmpty

def breakAt (c : Cursor) (ahead : Nat) : Bool := ((c.peek ahead).map isBreak).getD false

def blankAt (c : Cursor) (ahead : Nat) : Bool := ((c.peek ahead).map isBlank).getD false

/-- A blank, a line break or the end of the text. -/
def spaceAt (c : Cursor) (ahead : Nat) : Bool :=
  ((c.peek ahead).map fun d => isBlank d || isBreak d).getD true

def lineEnds (c : Cursor) : Bool := ((c.peek 0).map isBreak).getD true

/-- Past one character of the line. -/
def skip (c : Cursor) : Cursor :=
  match c.rest with
  | [] => c
  | d :: rest => { c with rest := rest, index := c.index + d.utf8Size, column := c.column + 1 }

def skipMany (c : Cursor) : Nat → Cursor
  | 0 => c
  | n + 1 => c.skip.skipMany n

/-- Past a line break, which is read as a line feed; the two separators of Unicode stand for
themselves. -/
def takeBreak (c : Cursor) : List Char × Cursor :=
  match c.rest with
  | '\r' :: '\n' :: rest => (['\n'], ⟨rest, c.index + 2, c.line + 1, 0⟩)
  | d :: rest =>
    if isBreak d then
      ([if d.toNat == 0x2028 || d.toNat == 0x2029 then d else '\n'],
        ⟨rest, c.index + d.utf8Size, c.line + 1, 0⟩)
    else ([], c)
  | [] => ([], c)

def skipBreak (c : Cursor) : Cursor := c.takeBreak.2

/-- Past the characters of the line that satisfy a test. -/
def takeWhile (p : Char → Bool) (c : Cursor) : List Char × Cursor :=
  let taken := c.rest.takeWhile p
  (taken, { c with
    rest := c.rest.drop taken.length
    index := taken.foldl (fun index d => index + d.utf8Size) c.index
    column := c.column + taken.length })

def skipWhile (p : Char → Bool) (c : Cursor) : Cursor := (c.takeWhile p).2

/-- Whether one of the two marks between documents stands here at the start of a line. -/
def atDocumentMark (c : Cursor) (mark : Char) : Bool :=
  c.column == 0 && c.at? 0 mark && c.at? 1 mark && c.at? 2 mark && c.spaceAt 3

end Cursor

end WidgetRepair.Yaml
