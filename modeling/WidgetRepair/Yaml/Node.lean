import WidgetRepair.Yaml.Token
import WidgetRepair.Source

/-! YAML texts as trees, and the trees as sources. A plain scalar has no type of its own: it is
whatever it is asked for. An alias is followed only where something is asked of it, so a node may
hold aliases of itself. -/

namespace WidgetRepair.Yaml

inductive Node where
  | scalar (tag : Option Tag) (style : Style) (content : String)
  | sequence (tag : Option Tag) (items : List Node)
  | mapping (tag : Option Tag) (entries : List (Node × Node))
  /-- Another place for what is kept in a slot. -/
  | alias (slot : Nat)

/-- A tree with what its aliases stand for. -/
structure Document where
  root : Node
  /-- The slots that nodes were kept in, each with its node; of several the last one counts. -/
  kept : List (Nat × Node) := []

namespace Node

def empty : Node := .scalar none .plain ""

/-- What is left of the tokens, and what earlier ones brought. -/
structure Reading where
  tokens : List Token
  /-- The slot of each anchor. An anchor gets the slot whose number is that of the anchors known
  before it; one that is set again leaves that number as it was, so the next new one shares its
  slot. -/
  slots : List (String × Nat) := []
  /-- The nodes with anchors in the order in which they began, those not yet complete as empty. -/
  kept : Array (Nat × Node) := #[]
  /-- The tag handles of the document. -/
  handles : List (String × List UInt8) := []

abbrev Parse := StateT Reading Option

def peek : Parse Token := do return (← get).tokens.headD .streamEnd

def advance : Parse Unit := modify fun r => { r with tokens := r.tokens.drop 1 }

def fail {α : Type} : Parse α := fun _ => none

/-- The full form of a tag. -/
def resolveTag (handle : String) (suffix : List UInt8) : Parse Tag := do
  let known := (← get).handles ++
    [("", []), ("!", Tag.plain.bytes), ("!!", (Tag.standard "").bytes)]
  match known.find? (·.1 == handle) with
  | some (_, expansion) => return ⟨expansion ++ suffix⟩
  | none => fail

/-- The anchor and tag in front of a node, in either order. -/
def properties : Parse (Option String × Option Tag) := do
  match ← peek with
  | .anchor name =>
    advance
    match ← peek with
    | .tag handle suffix =>
      advance
      return (some name, some (← resolveTag handle suffix))
    | _ => return (some name, none)
  | .tag handle suffix =>
    advance
    match ← peek with
    | .anchor name =>
      advance
      return (some name, some (← resolveTag handle suffix))
    | _ => return (none, some (← resolveTag handle suffix))
  | _ => return (none, none)

/-- A node with an anchor, which names it from its beginning on. -/
def anchored (anchor : Option String) (content : Parse Node) : Parse Node := do
  match anchor with
  | none => content
  | some name =>
    let start ← get
    let slot := start.slots.length
    let known := (name, slot) :: start.slots.filter (·.1 != name)
    set { start with slots := known, kept := start.kept.push (slot, empty) }
    let n ← content
    modify fun r => { r with kept := r.kept.setIfInBounds start.kept.size (slot, n) }
    return n

/-- Whether the value or key that should come next is left out. -/
def blockGap : Token → Bool
  | .key | .value | .blockEnd => true
  | _ => false

def flowGap (closing : Token) (t : Token) : Bool := t == .flowEntry || t == closing

mutual

/-- A node. `inBlock` allows blocks, `loose` a sequence that is not indented further. -/
def node : (fuel : Nat) → (inBlock loose : Bool) → Parse Node
  | 0, _, _ => fail
  | fuel + 1, inBlock, loose => do
    match ← peek with
    | .alias name =>
      advance
      match (← get).slots.find? (·.1 == name) with
      | some (_, slot) => return .alias slot
      | none => fail
    | _ =>
      let (anchor, tag) ← properties
      anchored anchor (body fuel inBlock loose tag (anchor.isSome || tag.isSome))

def body : (fuel : Nat) → (inBlock loose : Bool) → Option Tag → (marked : Bool) → Parse Node
  | 0, _, _, _, _ => fail
  | fuel + 1, inBlock, loose, tag, marked => do
    match ← peek with
    | .scalar style content =>
      advance
      return .scalar (if tag = some Tag.plain then none else tag) style content
    | .flowSequenceStart =>
      advance
      return .sequence tag (← flowItems fuel true)
    | .flowMappingStart =>
      advance
      return .mapping tag (← flowEntries fuel true)
    | .blockEntry =>
      if loose then return .sequence tag (← looseItems fuel)
      else if marked then return .scalar tag .plain "" else fail
    | .blockSequenceStart =>
      if inBlock then
        advance
        return .sequence tag (← blockItems fuel)
      else if marked then return .scalar tag .plain "" else fail
    | .blockMappingStart =>
      if inBlock then
        advance
        return .mapping tag (← blockEntries fuel)
      else if marked then return .scalar tag .plain "" else fail
    | _ => if marked then return .scalar tag .plain "" else fail

def blockItems : (fuel : Nat) → Parse (List Node)
  | 0 => fail
  | fuel + 1 => do
    match ← peek with
    | .blockEntry =>
      advance
      let next ← peek
      let item ←
        if next == .blockEntry || next == .blockEnd then pure empty else node fuel true false
      return item :: (← blockItems fuel)
    | .blockEnd =>
      advance
      return []
    | _ => fail

def looseItems : (fuel : Nat) → Parse (List Node)
  | 0 => fail
  | fuel + 1 => do
    match ← peek with
    | .blockEntry =>
      advance
      let next ← peek
      let item ← if next == .blockEntry || blockGap next then pure empty else node fuel true false
      return item :: (← looseItems fuel)
    | _ => return []

def blockEntries : (fuel : Nat) → Parse (List (Node × Node))
  | 0 => fail
  | fuel + 1 => do
    match ← peek with
    | .key =>
      advance
      let k ← if blockGap (← peek) then pure empty else node fuel true true
      let v ← blockValue fuel
      return (k, v) :: (← blockEntries fuel)
    | .blockEnd =>
      advance
      return []
    | _ => fail

def blockValue : (fuel : Nat) → Parse Node
  | 0 => fail
  | fuel + 1 => do
    match ← peek with
    | .value =>
      advance
      if blockGap (← peek) then return empty else node fuel true true
    | _ => return empty

def flowItems : (fuel : Nat) → (first : Bool) → Parse (List Node)
  | 0, _ => fail
  | fuel + 1, first => do
    if (← peek) == .flowSequenceEnd then
      advance
      return []
    if !first then
      if (← peek) == .flowEntry then advance else fail
    match ← peek with
    | .flowSequenceEnd =>
      advance
      return []
    | .key =>
      advance
      let item ← singleEntry fuel
      return item :: (← flowItems fuel false)
    | _ =>
      let item ← node fuel false false
      return item :: (← flowItems fuel false)

/-- A mapping of one entry inside a sequence in brackets. -/
def singleEntry : (fuel : Nat) → Parse Node
  | 0 => fail
  | fuel + 1 => do
    let next ← peek
    let k ←
      if next == .value || flowGap .flowSequenceEnd next then do
        advance
        pure empty
      else node fuel false false
    let v ← flowValue fuel .flowSequenceEnd
    return .mapping none [(k, v)]

def flowValue : (fuel : Nat) → (closing : Token) → Parse Node
  | 0, _ => fail
  | fuel + 1, closing => do
    if (← peek) == .value then
      advance
      if flowGap closing (← peek) then return empty else node fuel false false
    else return empty

def flowEntries : (fuel : Nat) → (first : Bool) → Parse (List (Node × Node))
  | 0, _ => fail
  | fuel + 1, first => do
    if (← peek) == .flowMappingEnd then
      advance
      return []
    if !first then
      if (← peek) == .flowEntry then advance else fail
    match ← peek with
    | .flowMappingEnd =>
      advance
      return []
    | .key =>
      advance
      let next ← peek
      let k ←
        if next == .value || flowGap .flowMappingEnd next then pure empty
        else node fuel false false
      let v ← flowValue fuel .flowMappingEnd
      return (k, v) :: (← flowEntries fuel false)
    | _ =>
      let k ← node fuel false false
      return (k, empty) :: (← flowEntries fuel false)

end

/-- The directives in front of a document: one version at most, each handle once. -/
def directives : (fuel : Nat) → (versioned : Bool) → Parse Unit
  | 0, _ => fail
  | fuel + 1, versioned => do
    match ← peek with
    | .version major minor =>
      if versioned || major != 1 || !(minor == 1 || minor == 2) then fail
      advance
      directives fuel true
    | .handle name expansion =>
      if (← get).handles.any (·.1 == name) then fail
      modify fun r => { r with handles := (name, expansion) :: r.handles }
      advance
      directives fuel versioned
    | _ => pure ()

def isDirective : Token → Bool
  | .version _ _ | .handle _ _ => true
  | _ => false

/-- The content of a document that began with a mark. -/
def content (fuel : Nat) : Parse Node := do
  match ← peek with
  | .documentStart | .documentEnd | .streamEnd => return empty
  | t => if isDirective t then return empty else node fuel true false

def skipEnds (tokens : List Token) : List Token := tokens.dropWhile (· == .documentEnd)

/-- The only document of a text. -/
def document (fuel : Nat) : Parse Node := do
  let first ← peek
  let n ←
    if first == .streamEnd then fail
    else if isDirective first || first == .documentStart then do
      directives fuel false
      if (← peek) == .documentStart then advance else fail
      content fuel
    else node fuel true false
  modify fun r => { r with tokens := skipEnds r.tokens }
  if (← peek) == .streamEnd then return n else fail

end Node

/-- The document of a text that holds no other. -/
def Document.ofText? (text : String) : Option Document := do
  let tokens ← tokens? text
  let (root, r) ← Node.document (4 * tokens.length + 4) { tokens := tokens }
  return { root := root, kept := r.kept.toList }

namespace Node

def isNullWord (s : String) : Bool := s == "null" || s == "Null" || s == "NULL" || s == "~"

def isVoid : Node → Bool
  | .scalar _ Style.plain "" => true
  | _ => false

def text : Node → Except Fault String
  | .scalar _ _ s => .ok s
  | _ => .error .mismatched

def flag : Node → Except Fault Bool
  | .scalar tag style s =>
    if style == Style.plain || (style == Style.literal && tag == some (Tag.standard "bool")) then
      if s == "true" || s == "True" || s == "TRUE" then .ok true
      else if s == "false" || s == "False" || s == "FALSE" then .ok false
      else .error .mismatched
    else .error .mismatched
  | _ => .error .mismatched

def optional : Node → Except Fault (Option Node)
  | .scalar tag .plain s =>
    match tag with
    | none => .ok (if s.isEmpty || isNullWord s then none else some (.scalar tag .plain s))
    | some t =>
      if t = Tag.standard "null" then
        if isNullWord s then .ok none else .error .mismatched
      else .ok (some (.scalar tag .plain s))
  | n => .ok (some n)

def items : Node → Except Fault (List Node)
  | .sequence _ items => .ok items
  | n => if n.isVoid then .ok [] else .error .mismatched

def entries : Node → Except Fault (List (Node × Node))
  | .mapping _ entries => .ok entries
  | n => if n.isVoid then .ok [] else .error .mismatched

/-- A name is a scalar, or a tag of its own on nothing. -/
def choice {α : Type} (parse : String → Option α) (n : Node) : Except Fault α :=
  let name := match n with
    | .scalar tag style s =>
      match tag.bind Tag.ownName? with
      | some name => if style == Style.plain && (s.isEmpty || isNullWord s) then some name else none
      | none => some s
    | _ => none
  match name.bind parse with
  | some a => .ok a
  | none => .error .mismatched

mutual

/-- The size of a node: one for a scalar or an alias, and two for the bounds of anything else. -/
def size : Node → Nat
  | .scalar .. | .alias _ => 1
  | .sequence _ items => 2 + sizeOfItems items
  | .mapping _ entries => 2 + sizeOfEntries entries

def sizeOfItems : List Node → Nat
  | [] => 0
  | n :: rest => n.size + sizeOfItems rest

def sizeOfEntries : List (Node × Node) → Nat
  | [] => 0
  | (k, v) :: rest => k.size + v.size + sizeOfEntries rest

end

end Node

/-- Reading in a document, with the number of aliases that may still be followed. -/
abbrev Walk := ReaderT Document (StateT Nat (Except Fault))

namespace Walk

/-- The node that a slot was last used for. -/
def follow (slot : Nat) : Walk Node := do
  match ← get with
  | 0 => throw .mismatched
  | left + 1 =>
    set left
    match (← read).kept.reverse.find? (·.1 == slot) with
    | some (_, n) => return n
    | none => throw .malformed

/-- Asks a node, or what it is an alias of. -/
def ask {α : Type} (question : Node → Except Fault α) (n : Node) : Walk α := do
  let n ← match n with
    | .alias slot => follow slot
    | n => pure n
  MonadExcept.ofExcept (question n)

end Walk

instance : Source Node Walk where
  text := Walk.ask Node.text
  flag := Walk.ask Node.flag
  optional := Walk.ask Node.optional
  items n := do return (← Walk.ask Node.items n).map pure
  record n := do
    let entries ← Walk.ask Node.entries n
    return .named (entries.map fun (k, v) => do return (← Walk.ask Node.text k, v))
  choice parse := Walk.ask (Node.choice parse)
  skip _ := return

/-- What a document says. Aliases may be followed a hundred times its size, so that a short text
cannot stand for a very long one. -/
def Document.decode {α : Type} (d : Document) (walk : Node → Walk α) : Except Fault α :=
  ((walk d.root).run d).run' (100 * d.root.size)

end WidgetRepair.Yaml
