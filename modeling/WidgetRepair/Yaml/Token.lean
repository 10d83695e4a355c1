import WidgetRepair.Yaml.Scalar
import WidgetRepair.Yaml.Tag

/-! YAML texts as tokens. Indentation becomes explicit starts and ends of blocks, and a mapping
without brackets is recognised only at the colon after its first key: the tokens that open it are
then put in front of that key. -/

namespace WidgetRepair.Yaml

inductive Token where
  | version (major minor : Nat)
  | handle (name : String) (expansion : List UInt8)
  | documentStart
  | documentEnd
  | blockSequenceStart
  | blockMappingStart
  | blockEnd
  | flowSequenceStart
  | flowSequenceEnd
  | flowMappingStart
  | flowMappingEnd
  | blockEntry
  | flowEntry
  | key
  | value
  | alias (name : String)
  | anchor (name : String)
  | tag (handle : String) (suffix : List UInt8)
  | scalar (style : Style) (content : String)
  | streamEnd
  deriving DecidableEq, Repr

/-- A place where a key without a question mark may have begun. -/
structure KeyPlace where
  possible : Bool := false
  required : Bool := false
  token : Nat := 0
  cursor : Cursor := ⟨[], 0, 0, 0⟩

structure Scanner where
  cursor : Cursor
  tokens : Array Token := #[]
  indent : Int := -1
  outer : List Int := []
  /-- The key place of each open bracket, innermost first, and last the one outside of all. -/
  keys : List KeyPlace := [{}]
  keyAllowed : Bool := true

namespace Scanner

def inFlow (s : Scanner) : Bool := s.keys.length > 1

def emit (s : Scanner) (t : Token) : Scanner := { s with tokens := s.tokens.push t }

def currentKey (s : Scanner) : KeyPlace := s.keys.headD {}

def setKey (s : Scanner) (k : KeyPlace) : Scanner := { s with keys := k :: s.keys.drop 1 }

/-- A key that has to be one may not be given up. -/
def dropKey (s : Scanner) : Option Scanner :=
  let k := s.currentKey
  if k.possible && k.required then none else some (s.setKey { k with possible := false })

/-- Notes that a key may begin here. -/
def saveKey (s : Scanner) : Option Scanner := do
  if s.keyAllowed then
    let required := !s.inFlow && s.indent == (s.cursor.column : Int)
    let s ← s.dropKey
    return s.setKey ⟨true, required, s.tokens.size, s.cursor⟩
  else return s

/-- A key takes one line, and its colon comes no more than 1024 bytes behind its start. -/
def forgetStaleKeys (s : Scanner) : Option Scanner := do
  let keys ← s.keys.mapM fun k =>
    if k.possible && (k.cursor.line < s.cursor.line || k.cursor.index + 1024 < s.cursor.index) then
      if k.required then none else some { k with possible := false }
    else some k
  return { s with keys := keys }

/-- Opens a block that is indented deeper, in front of the token at `place` if one is given. -/
def deepen (s : Scanner) (column : Nat) (place : Option Nat) (t : Token) : Scanner :=
  if s.inFlow || (column : Int) ≤ s.indent then s
  else
    let tokens := match place with
      | some n => s.tokens.insertIdxIfInBounds n t
      | none => s.tokens.push t
    { s with outer := s.indent :: s.outer, indent := column, tokens := tokens }

/-- Closes the blocks that are indented deeper than `column`. -/
def closeBlocks (column : Int) : List Int → Scanner → Scanner
  | [], s => s
  | previous :: outer, s =>
    if column < s.indent then
      closeBlocks column outer { s.emit .blockEnd with indent := previous, outer := outer }
    else s

def unindent (s : Scanner) (column : Int) : Scanner :=
  if s.inFlow then s else closeBlocks column s.outer s

/-- Past blanks, comments and line breaks. A tab may stand only where no key may begin. -/
def toNextToken : (fuel : Nat) → Scanner → Scanner
  | 0, s => s
  | fuel + 1, s =>
    let c := s.cursor
    let c := if c.index = 0 && ((c.peek 0).map (·.toNat == 0xFEFF)).getD false then c.skip else c
    let tabs := s.inFlow || !s.keyAllowed
    let c := c.skipWhile fun d => d == ' ' || (tabs && d == '\t')
    let c := if c.at? 0 '#' then c.skipWhile (fun d => !isBreak d) else c
    if c.breakAt 0 then
      toNextToken fuel
        { s with cursor := c.skipBreak, keyAllowed := s.keyAllowed || !s.inFlow }
    else { s with cursor := c }

/-- A number of at most nine digits. -/
def versionPart (c : Cursor) : Option (Nat × Cursor) :=
  let (digits, next) := c.takeWhile Char.isDigit
  if digits.isEmpty || digits.length > 9 then none
  else some (digits.foldl (fun n d => n * 10 + (d.toNat - 48)) 0, next)

def directive (c : Cursor) : Option (Token × Cursor) := do
  let (name, c) := c.skip.takeWhile isNameChar
  guard (!name.isEmpty && c.spaceAt 0)
  let c := c.skipWhile isBlank
  let (token, c) ←
    if name = "YAML".toList then do
      let (major, c) ← versionPart c
      guard (c.at? 0 '.')
      let (minor, c) ← versionPart c.skip
      pure (Token.version major minor, c)
    else if name = "TAG".toList then do
      let (handle, c) ← Tag.handle true c
      guard (c.blankAt 0)
      let (expansion, c) ← Tag.uri true [] (c.skipWhile isBlank)
      guard (c.spaceAt 0)
      pure (Token.handle (String.ofList handle) expansion, c)
    else none
  let c := c.skipWhile isBlank
  let c := if c.at? 0 '#' then c.skipWhile (fun d => !isBreak d) else c
  guard c.lineEnds
  return (token, c.skipBreak)

def anchorName (c : Cursor) : Option (String × Cursor) := do
  let (name, next) := c.skip.takeWhile isNameChar
  guard (!name.isEmpty)
  guard (next.spaceAt 0 || ((next.peek 0).map "?:,]\x7d%@`".toList.contains).getD false)
  return (String.ofList name, next)

def documentMark (s : Scanner) (t : Token) : Option Scanner := do
  let s ← (s.unindent (-1)).dropKey
  return { s.emit t with keyAllowed := false, cursor := s.cursor.skipMany 3 }

def openBracket (s : Scanner) (t : Token) : Option Scanner := do
  let s ← s.saveKey
  return { s.emit t with keys := {} :: s.keys, keyAllowed := true, cursor := s.cursor.skip }

def closeBracket (s : Scanner) (t : Token) : Option Scanner := do
  let s ← s.dropKey
  let keys := if s.inFlow then s.keys.drop 1 else s.keys
  return { s.emit t with keys := keys, keyAllowed := false, cursor := s.cursor.skip }

def entry (s : Scanner) : Option Scanner := do
  guard (s.inFlow || s.keyAllowed)
  let s := s.deepen s.cursor.column none .blockSequenceStart
  let s ← s.dropKey
  return { s.emit .blockEntry with keyAllowed := true, cursor := s.cursor.skip }

def explicitKey (s : Scanner) : Option Scanner := do
  guard (s.inFlow || s.keyAllowed)
  let s := s.deepen s.cursor.column none .blockMappingStart
  let s ← s.dropKey
  return { s.emit .key with keyAllowed := !s.inFlow, cursor := s.cursor.skip }

/-- The colon after a key. A key noted before gets its tokens now. -/
def colon (s : Scanner) : Option Scanner := do
  let k := s.currentKey
  if k.possible then
    let s := { s with tokens := s.tokens.insertIdxIfInBounds k.token .key }
    let s := s.deepen k.cursor.column (some k.token) .blockMappingStart
    let s := s.setKey { k with possible := false }
    return { s.emit .value with keyAllowed := false, cursor := s.cursor.skip }
  else
    guard (s.inFlow || s.keyAllowed)
    let s := s.deepen s.cursor.column none .blockMappingStart
    return { s.emit .value with keyAllowed := !s.inFlow, cursor := s.cursor.skip }

def named (s : Scanner) (token : String → Token) : Option Scanner := do
  let s ← s.saveKey
  let (name, next) ← anchorName s.cursor
  return { s.emit (token name) with keyAllowed := false, cursor := next }

def tagged (s : Scanner) : Option Scanner := do
  let s ← s.saveKey
  let (handle, suffix, next) ← Tag.written s.inFlow s.cursor
  return { s.emit (.tag (String.ofList handle) suffix) with keyAllowed := false, cursor := next }

def block (s : Scanner) (folded : Bool) : Option Scanner := do
  let s ← s.dropKey
  let (content, next) ← blockScalar folded s.indent s.cursor.skip
  let style := if folded then Style.folded else .literal
  return { s.emit (.scalar style (String.ofList content)) with keyAllowed := true, cursor := next }

def quoted (s : Scanner) (single : Bool) : Option Scanner := do
  let s ← s.saveKey
  let (content, next) ← quotedScalar single s.cursor
  let style := if single then Style.singleQuoted else .doubleQuoted
  return { s.emit (.scalar style (String.ofList content)) with keyAllowed := false, cursor := next }

def plain (s : Scanner) : Option Scanner := do
  let s ← s.saveKey
  let (content, newLine, next) ← plainScalar s.inFlow (s.indent + 1) s.cursor
  return { s.emit (.scalar .plain (String.ofList content)) with
    keyAllowed := newLine, cursor := next }

/-- Characters that cannot begin a plain scalar, except where the next one makes them ordinary. -/
def isIndicator (c : Char) : Bool := "-?:,[]\x7b\x7d#&*!|>'\"%@`".toList.contains c

/-- The next token of a text that has not ended, where blanks have been passed. -/
def fetch (s : Scanner) (c : Char) : Option Scanner :=
  let here := s.cursor
  if here.column = 0 && c == '%' then do
    let s ← (s.unindent (-1)).dropKey
    let (token, next) ← directive here
    return { s.emit token with keyAllowed := false, cursor := next }
  else if here.atDocumentMark '-' then s.documentMark .documentStart
  else if here.atDocumentMark '.' then s.documentMark .documentEnd
  else if c == '[' then s.openBracket .flowSequenceStart
  else if c == '\x7b' then s.openBracket .flowMappingStart
  else if c == ']' then s.closeBracket .flowSequenceEnd
  else if c == '\x7d' then s.closeBracket .flowMappingEnd
  else if c == ',' then do
    let s ← s.dropKey
    return { s.emit .flowEntry with keyAllowed := true, cursor := here.skip }
  else if c == '-' && here.spaceAt 1 then s.entry
  else if c == '?' && (s.inFlow || here.spaceAt 1) then s.explicitKey
  else if c == ':' && (s.inFlow || here.spaceAt 1) then s.colon
  else if c == '*' then s.named .alias
  else if c == '&' then s.named .anchor
  else if c == '!' then s.tagged
  else if c == '|' && !s.inFlow then s.block false
  else if c == '>' && !s.inFlow then s.block true
  else if c == '\x27' then s.quoted true
  else if c == '"' then s.quoted false
  else if !(isBlank c || isIndicator c) || (c == '-' && !here.blankAt 1) ||
      (!s.inFlow && (c == '?' || c == ':') && !here.spaceAt 1) then s.plain
  else none

/-- All tokens from here on. -/
def run : (fuel : Nat) → Scanner → Option (Array Token)
  | 0, _ => none
  | fuel + 1, s => do
    let s := s.toNextToken (s.cursor.rest.length + 1)
    let s ← s.forgetStaleKeys
    let s := s.unindent s.cursor.column
    match s.cursor.peek 0 with
    | none =>
      let s ← (s.unindent (-1)).dropKey
      return (s.emit .streamEnd).tokens
    | some c => run fuel (← s.fetch c)

end Scanner

/-- The tokens of a text. -/
def tokens? (text : String) : Option (List Token) := do
  let chars := text.toList
  guard (chars.all allowed)
  let tokens ← Scanner.run (chars.length + 2) { cursor := ⟨chars, 0, 0, 0⟩ }
  return tokens.toList

end WidgetRepair.Yaml
