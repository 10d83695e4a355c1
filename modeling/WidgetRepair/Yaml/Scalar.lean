import WidgetRepair.Yaml.Cursor
import WidgetRepair.Json.Scan

/-! The content of YAML scalars: plain, quoted and block. A scalar may run over several lines;
how its line breaks turn into blanks is the subject of this module. -/

namespace WidgetRepair.Yaml

/-- How a scalar is written. -/
inductive Style where
  | plain
  | singleQuoted
  | doubleQuoted
  | literal
  | folded
  deriving DecidableEq, Repr

/-- What a run of line breaks inside a scalar is read as: a single one is a blank, of several
the first is dropped. -/
def foldBreaks (first others : List Char) : List Char :=
  if first.head? == some '\n' then (if others.isEmpty then [' '] else others)
  else first ++ others

/-- Blanks and breaks between two parts of a scalar. -/
structure Gap where
  broken : Bool := false
  blanks : List Char := []
  first : List Char := []
  others : List Char := []

def Gap.content (g : Gap) : List Char :=
  if g.broken then foldBreaks g.first g.others else g.blanks

/-- The gap at a place. Blanks at the start of a line are dropped; in a plain scalar a tab may
not stand left of `margin` there. -/
def takeGap (margin : Option Int) : (fuel : Nat) → Gap → Cursor → Option (Gap × Cursor)
  | 0, gap, c => some (gap, c)
  | fuel + 1, gap, c =>
    if c.blankAt 0 then
      match margin with
      | some m =>
        if gap.broken && c.column < m && c.at? 0 '\t' then none
        else if gap.broken then takeGap margin fuel gap c.skip
        else takeGap margin fuel { gap with blanks := gap.blanks ++ c.rest.take 1 } c.skip
      | none =>
        if gap.broken then takeGap margin fuel gap c.skip
        else takeGap margin fuel { gap with blanks := gap.blanks ++ c.rest.take 1 } c.skip
    else if c.breakAt 0 then
      let (taken, next) := c.takeBreak
      if gap.broken then takeGap margin fuel { gap with others := gap.others ++ taken } next
      else takeGap margin fuel { gap with broken := true, blanks := [], first := taken } next
    else some (gap, c)

def isFlowMark (c : Char) : Bool := c == ',' || c == '[' || c == ']' || c == '\x7b' || c == '\x7d'

/-- The characters of a plain scalar up to the next gap; inside brackets a colon may not touch
a bracket or comma. -/
def plainRun (inFlow : Bool) : (fuel : Nat) → List Char → Cursor → Option (List Char × Cursor)
  | 0, done, c => some (done, c)
  | fuel + 1, done, c =>
    match c.peek 0 with
    | none => some (done, c)
    | some d =>
      if c.spaceAt 0 then some (done, c)
      else if inFlow && d == ':' && ((c.peek 1).map fun e => isFlowMark e || e == '?').getD false
      then none
      else if (d == ':' && c.spaceAt 1) || (inFlow && isFlowMark d) then some (done, c)
      else plainRun inFlow fuel (done ++ [d]) c.skip

/-- A plain scalar and whether it ended on a new line. `margin` is the least column its further
lines may start at. -/
def plainFrom (inFlow : Bool) (margin : Int) :
    (fuel : Nat) → List Char → Gap → Cursor → Option (List Char × Bool × Cursor)
  | 0, _, _, _ => none
  | fuel + 1, done, gap, c =>
    if c.atDocumentMark '-' || c.atDocumentMark '.' || c.at? 0 '#' then some (done, gap.broken, c)
    else do
      let (run, next) ← plainRun inFlow (c.rest.length + 1) [] c
      let done := if run.isEmpty then done else done ++ gap.content ++ run
      let gap := if run.isEmpty then gap else {}
      if !(next.blankAt 0 || next.breakAt 0) then some (done, gap.broken, next)
      else
        let (gap, next) ← takeGap (some margin) (next.rest.length + 1) gap next
        if !inFlow && (next.column : Int) < margin then some (done, gap.broken, next)
        else plainFrom inFlow margin fuel done gap next

def plainScalar (inFlow : Bool) (margin : Int) (c : Cursor) :
    Option (List Char × Bool × Cursor) :=
  plainFrom inFlow margin (c.rest.length + 1) [] {} c

/-- The character of an escape without digits. -/
def namedEscape? (c : Char) : Option Nat :=
  match c with
  | '0' => some 0
  | 'a' => some 7
  | 'b' => some 8
  | 't' => some 9
  | '\t' => some 9
  | 'n' => some 10
  | 'v' => some 11
  | 'f' => some 12
  | 'r' => some 13
  | 'e' => some 27
  | ' ' => some 32
  | '"' => some 34
  | '/' => some 47
  | '\\' => some 92
  | 'N' => some 0x85
  | '_' => some 0xA0
  | 'L' => some 0x2028
  | 'P' => some 0x2029
  | _ => none

/-- The number of hexadecimal digits after the letter of an escape. -/
def escapeDigits? (c : Char) : Option Nat :=
  if c == 'x' then some 2 else if c == 'u' then some 4 else if c == 'U' then some 8 else none

def hexNumber? (digits : List Char) : Option Nat :=
  digits.foldlM (fun n c => (Json.hexValue? c).map (n * 16 + ·)) 0

/-- An escape after its backslash. -/
def escape? (c : Cursor) : Option (Char × Cursor) := do
  let letter ← c.peek 0
  match namedEscape? letter with
  | some n => return (Char.ofNat n, c.skip)
  | none =>
    let size ← escapeDigits? letter
    let digits := (c.rest.drop 1).take size
    guard (digits.length = size)
    let n ← hexNumber? digits
    guard (n < 0xD800 || (0xE000 ≤ n && n < 0x110000))
    return (Char.ofNat n, c.skipMany (size + 1))

/-- The characters of a quoted scalar up to the next gap or its closing quote, and whether a
line break was escaped there. -/
def quotedRun (single : Bool) :
    (fuel : Nat) → List Char → Cursor → Option (List Char × Bool × Cursor)
  | 0, done, c => some (done, false, c)
  | fuel + 1, done, c =>
    match c.peek 0 with
    | none => some (done, false, c)
    | some d =>
      if c.spaceAt 0 then some (done, false, c)
      else if single then
        if d == '\x27' then
          if c.at? 1 '\x27' then quotedRun single fuel (done ++ [d]) (c.skipMany 2)
          else some (done, false, c)
        else quotedRun single fuel (done ++ [d]) c.skip
      else if d == '"' then some (done, false, c)
      else if d == '\\' then
        if c.breakAt 1 then some (done, true, c.skip.skipBreak)
        else do
          let (e, next) ← escape? c.skip
          quotedRun single fuel (done ++ [e]) next
      else quotedRun single fuel (done ++ [d]) c.skip

/-- A quoted scalar after its opening quote. -/
def quotedFrom (single : Bool) : (fuel : Nat) → List Char → Cursor → Option (List Char × Cursor)
  | 0, _, _ => none
  | fuel + 1, done, c =>
    if c.atDocumentMark '-' || c.atDocumentMark '.' || c.atEnd then none
    else do
      let (run, escaped, next) ← quotedRun single (c.rest.length + 1) [] c
      let done := done ++ run
      if next.at? 0 (if single then '\x27' else '"') then some (done, next.skip)
      else
        let (gap, next) ← takeGap none (next.rest.length + 1) { broken := escaped } next
        quotedFrom single fuel (done ++ gap.content) next

def quotedScalar (single : Bool) (c : Cursor) : Option (List Char × Cursor) :=
  quotedFrom single (c.rest.length + 2) [] c.skip

/-- What becomes of the line breaks at the end of a block scalar. -/
inductive Chomp where
  | strip
  | clip
  | keep
  deriving DecidableEq

def chomp? (c : Cursor) : Option Chomp :=
  if c.at? 0 '+' then some .keep else if c.at? 0 '-' then some .strip else none

def increment? (c : Cursor) : Option Nat :=
  match c.peek 0 with
  | some d => if d.isDigit then some (d.toNat - 48) else none
  | none => none

/-- The marks after the first character of a block scalar, in either order. -/
def blockHeader (c : Cursor) : Option (Chomp × Option Nat × Cursor) :=
  match chomp? c with
  | some chomp =>
    match increment? c.skip with
    | some 0 => none
    | some n => some (chomp, some n, c.skipMany 2)
    | none => some (chomp, none, c.skip)
  | none =>
    match increment? c with
    | some 0 => none
    | some n =>
      match chomp? c.skip with
      | some chomp => some (chomp, some n, c.skipMany 2)
      | none => some (.clip, some n, c.skip)
    | none => some (.clip, none, c)

/-- The empty lines before the next line with content, and the widest of them. A tab may not
stand where indentation is still due. -/
def emptyLines (indent : Option Nat) :
    (fuel : Nat) → Nat → List Char → Cursor → Option (Nat × List Char × Cursor)
  | 0, _, _, _ => none
  | fuel + 1, widest, breaks, c =>
    let limit := match indent with
      | some n => n - c.column
      | none => c.rest.length
    let spaces := ((c.rest.take limit).takeWhile (· == ' ')).length
    let c := c.skipMany spaces
    let widest := max widest c.column
    let due := match indent with
      | some n => c.column < n
      | none => true
    if due && c.at? 0 '\t' then none
    else if c.breakAt 0 then
      let (taken, next) := c.takeBreak
      emptyLines indent fuel widest (breaks ++ taken) next
    else some (widest, breaks, c)

/-- The lines of a block scalar. `first` and `others` are the breaks not yet written; `blank`
tells whether the line before began with a blank. -/
def blockLines (folded : Bool) (indent : Nat) : (fuel : Nat) → (blank : Bool) →
    (done first others : List Char) → Cursor → Option (List Char × List Char × List Char × Cursor)
  | 0, _, _, _, _, _ => none
  | fuel + 1, blank, done, first, others, c =>
    if c.column = indent && !c.atEnd then do
      let starts := c.blankAt 0
      let between :=
        if folded && first.head? == some '\n' && !blank && !starts then
          (if others.isEmpty then [' '] else []) ++ others
        else first ++ others
      let (line, c) := c.takeWhile fun d => !isBreak d
      let (first, c) := c.takeBreak
      let (_, others, c) ← emptyLines (some indent) (c.rest.length + 1) 0 [] c
      blockLines folded indent fuel starts (done ++ between ++ line) first others c
    else some (done, first, others, c)

/-- A block scalar after its first character. `parent` is the indentation around it. -/
def blockScalar (folded : Bool) (parent : Int) (c : Cursor) : Option (List Char × Cursor) := do
  let (chomp, increment, c) ← blockHeader c
  let c := c.skipWhile isBlank
  let c := if c.at? 0 '#' then c.skipWhile (fun d => !isBreak d) else c
  guard c.lineEnds
  let c := c.skipBreak
  let given := increment.map fun n => if 0 ≤ parent then parent.toNat + n else n
  let (widest, others, c) ← emptyLines given (c.rest.length + 1) 0 [] c
  let indent := given.getD (max (max widest (parent + 1).toNat) 1)
  let (done, first, others, c) ←
    blockLines folded indent (c.rest.length + 1) false [] [] others c
  let tail := match chomp with
    | .strip => []
    | .clip => first
    | .keep => first ++ others
  return (done ++ tail, c)

end WidgetRepair.Yaml
