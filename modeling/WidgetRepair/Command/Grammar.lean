import WidgetRepair.Text.Search

/-! The grammar of command lines: commands with flags, values in fixed places, and commands below
them. A command line is read word by word, and the first thing that is wrong ends the reading. -/

namespace WidgetRepair.CommandLine

/-- The values that may stand somewhere. -/
inductive ValueKind where
  | text
  /-- A text that is not empty. -/
  | path
  /-- A whole number below a limit; a signed one may be written as minus zero. -/
  | count (limit : Nat) (signed : Bool)
  deriving DecidableEq, Repr

/-- The number that digits with an optional plus in front stand for. -/
def natural? (text : List Char) : Option Nat :=
  let digits := match text with
    | '+' :: rest => rest
    | rest => rest
  if digits.isEmpty || !digits.all Char.isDigit then none
  else some (digits.foldl (fun n c => 10 * n + (c.toNat - '0'.toNat)) 0)

/-- Whether a text is zero with a minus in front. -/
def minusZero : List Char → Bool
  | '-' :: rest => !rest.isEmpty && rest.all (· == '0')
  | _ => false

/-- The number of a text where it is one below a limit. -/
def count? (limit : Nat) (signed : Bool) (text : String) : Option Nat :=
  if signed && minusZero text.toList then some 0
  else (natural? text.toList).filter (· < limit)

def ValueKind.accepts : ValueKind → String → Bool
  | text, _ => true
  | path, s => !s.isEmpty
  | count limit signed, s => (count? limit signed s).isSome

/-- Something that is asked for by its name. -/
structure Flag where
  name : String
  short : Option Char := none
  /-- The value that has to follow; a switch has none. -/
  kind : Option ValueKind := none
  /-- Whether it may be given more than once. -/
  repeats : Bool := false
  deriving DecidableEq, Repr

/-- A command. -/
structure Grammar where
  name : String
  flags : List Flag := []
  places : List ValueKind := []
  commands : List Grammar := []

/-- Why the reading ends without a command. -/
inductive Stop where
  | usage
  | help
  | version (command : String)
  deriving DecidableEq, Repr

/-- What has been read. -/
structure Scan where
  /-- The command that is being read. -/
  grammar : Grammar
  /-- The names of the commands that lead to it. -/
  path : List String := []
  /-- The flags given since the name of the command. -/
  given : List String := []
  /-- Flags with their values; a switch has an empty one. -/
  options : List (String × String) := []
  words : List String := []
  /-- The flag whose value comes next. -/
  pending : Option Flag := none
  /-- Whether the rest are words, whatever they look like. -/
  closed : Bool := false
  /-- Whether help is asked for the command that is named. -/
  helping : Bool := false
  /-- The flags of the commands that were left. -/
  left : List (List String) := []

namespace Scan

/-- The name that the command is called by. -/
def title (s : Scan) : String := "-".intercalate s.path

def record (s : Scan) (flag : Flag) (v : String) : Except Stop Scan :=
  if !flag.repeats && s.given.contains flag.name then .error .usage
  else .ok { s with
    given := flag.name :: s.given
    options := s.options ++ [(flag.name, v)]
    pending := none }

/-- A flag with its value. -/
def take (s : Scan) (flag : Flag) (v : String) : Except Stop Scan :=
  match flag.kind with
  | some kind => if kind.accepts v then s.record flag v else .error .usage
  | none => .error .usage

/-- A flag by its name, with what stands behind the equals sign. -/
def long (s : Scan) (text : List Char) : Except Stop Scan :=
  let name := String.ofList (text.takeWhile (· != '='))
  let v := match text.dropWhile (· != '=') with
    | _ :: rest => some (String.ofList rest)
    | [] => none
  match s.grammar.flags.find? (·.name == name) with
  | some flag =>
    match flag.kind, v with
    | none, none => s.record flag ""
    | some _, none => .ok { s with pending := some flag }
    | _, some v => s.take flag v
  | none =>
    if v.isSome then .error .usage
    else if name = "help" then .error .help
    else if name = "version" then .error (.version s.title)
    else .error .usage

/-- Switches by single letters. -/
def letters (s : Scan) : List Char → Except Stop Scan
  | [] => .ok s
  | c :: rest =>
    match s.grammar.flags.find? (·.short == some c) with
    | some flag => do (← s.record flag "").letters rest
    | none =>
      if c = 'h' then .error .help
      else if c = 'V' then .error (.version s.title)
      else .error .usage

/-- The command below the current one. -/
def enter (s : Scan) (g : Grammar) : Scan :=
  { s with
    grammar := g
    path := s.path ++ [g.name]
    given := []
    left := s.given :: s.left }

/-- A word in its place. -/
def place (s : Scan) (word : String) : Except Stop Scan :=
  match s.grammar.places[s.words.length]? with
  | some kind =>
    if kind.accepts word then .ok { s with words := s.words ++ [word] } else .error .usage
  | none => .error .usage

/-- The name of a command, or a word in its place. -/
def word (s : Scan) (word : String) : Except Stop Scan :=
  if s.grammar.commands.isEmpty then s.place word
  else
    match s.grammar.commands.find? (·.name == word) with
    | some g => .ok (s.enter g)
    | none => if word = "help" then .ok { s with helping := true } else .error .usage

/-- Whether a word reads like a flag. -/
def flagLike : List Char → Bool
  | '-' :: _ :: _ => true
  | _ => false

/-- A word while help is asked for. -/
def helpWord (s : Scan) (word : String) : Except Stop Scan :=
  match s.grammar.commands.find? (·.name == word) with
  | some g => .ok { s with grammar := g }
  | none =>
    if word = "help" && !s.grammar.commands.isEmpty then
      .ok { s with grammar := ⟨word, [], [], []⟩ }
    else .error .usage

def step (s : Scan) (word : String) : Except Stop Scan :=
  if s.helping then s.helpWord word
  else
    match s.pending with
    | some flag => if flagLike word.toList then .error .usage else s.take flag word
    | none =>
      if s.closed then s.place word
      else
        match word.toList with
        | ['-', '-'] => .ok { s with closed := true }
        | '-' :: '-' :: rest => s.long rest
        | '-' :: c :: rest => s.letters (c :: rest)
        | _ => s.word word

/-- The flags given to each of the commands. -/
def levels (s : Scan) : List (List String) := s.given :: s.left

/-- Whether a command may end here. -/
def complete (s : Scan) : Bool :=
  s.pending.isNone && s.grammar.commands.isEmpty && s.words.length == s.grammar.places.length

/-- The end of a command line. -/
def finish (s : Scan) : Except Stop Scan :=
  if s.helping then .error .help
  else if s.complete then .ok s
  else .error .usage

/-- What a command line says. -/
def ofWords (g : Grammar) (words : List String) : Except Stop Scan := do
  (← words.foldlM step { grammar := g, path := [g.name] }).finish

/-- The value of a flag; of several the last one counts. -/
def value? (s : Scan) (name : String) : Option String :=
  (s.options.reverse.find? (·.1 == name)).map (·.2)

def values (s : Scan) (name : String) : List String :=
  (s.options.filter (·.1 == name)).map (·.2)

def has (s : Scan) (name : String) : Bool := s.options.any (·.1 == name)

/-- The word in a place. -/
def wordAt (s : Scan) (i : Nat) : String := s.words.getD i ""

end Scan

end WidgetRepair.CommandLine
