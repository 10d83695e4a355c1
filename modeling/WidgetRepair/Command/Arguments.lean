import WidgetRepair.Command.Grammar
import WidgetRepair.Store.Discovery

/-! The commands of the program and what can be said with them. -/

namespace WidgetRepair

open CommandLine

structure BuildArguments where
  /-- The description of the widget. -/
  file : Path
  workFolder : Option Path := none
  limit : Option Nat := none
  target : Option Path := none
  offline : Bool := false
  dry : Bool := false
  deriving DecidableEq, Repr

structure ExplainArguments where
  /-- The output of a build. -/
  file : Path
  /-- The number of patterns to show. -/
  limit : Nat := 3
  offline : Bool := false
  deriving DecidableEq, Repr

inductive PatternQuery where
  | list (provenance : Option String)
  | stats
  | shown (id : String)
  | templates (query : String)
  | api (name : String)
  | practices (category : Option String)
  deriving DecidableEq, Repr

inductive KnowledgeRequest where
  | add (title content category : String) (tags : List String) (tier : String)
  | search (query : String) (limit : Nat)
  deriving DecidableEq, Repr

inductive Command where
  | build (arguments : BuildArguments)
  | patterns (query : PatternQuery)
  | knowledge (request : KnowledgeRequest)
  | explain (arguments : ExplainArguments)
  deriving DecidableEq, Repr

namespace Command

def programName : String := "wforge"

def programVersion : String := "0.1.0"

/-- The variable that names the settings file. -/
def settingsVariable : String := "WFORGE_CONFIG"

/-- Numbers of attempts are below this. -/
def attemptLimit : Nat := Nat.pow 2 32

/-- Numbers of things to show are below this. -/
def itemLimit : Nat := Nat.pow 2 64

def attemptKind : ValueKind := .count attemptLimit true

def limitKind : ValueKind := .count itemLimit false

def settingsFlag : Flag := { name := "config", kind := some .path }

def offlineFlag : Flag := { name := "offline" }

/-- Flags that every command has. -/
def commonFlags : List Flag := [
  { name := "verbose", short := some 'v' },
  { name := "quiet", short := some 'q' },
  { name := "log-json" },
  settingsFlag]

def command (name : String) (flags : List Flag) (places : List ValueKind) : Grammar where
  name := name
  flags := flags ++ commonFlags
  places := places

def group (name : String) (commands : List Grammar) : Grammar where
  name := name
  flags := commonFlags
  commands := commands

def buildGrammar : Grammar :=
  command "build" [
    { name := "work-folder", kind := some .path },
    { name := "max-attempts", kind := some attemptKind },
    { name := "deploy-to", kind := some .path },
    offlineFlag,
    { name := "dry-run" }] [.path]

def patternsGrammar : Grammar :=
  group "patterns" [
    command "list" [{ name := "provenance", kind := some .text }] [],
    command "stats" [] [],
    command "show" [] [.text],
    command "templates" [] [.text],
    command "api" [] [.text],
    command "practices" [{ name := "category", kind := some .text }] []]

def knowledgeGrammar : Grammar :=
  group "knowledge" [
    command "add" [
      { name := "category", kind := some .text },
      { name := "tags", kind := some .text, repeats := true },
      { name := "confidence", kind := some .text }] [.text, .text],
    command "search" [{ name := "limit", kind := some limitKind }] [.text]]

def explainGrammar : Grammar :=
  command "explain" [{ name := "limit", kind := some limitKind }, offlineFlag] [.path]

def grammar : Grammar :=
  group programName [buildGrammar, patternsGrammar, knowledgeGrammar, explainGrammar]

def path? (s : Scan) (name : String) : Option Path := (s.value? name).map Path.mk

def ofBuild (s : Scan) : BuildArguments where
  file := ⟨s.wordAt 0⟩
  workFolder := path? s "work-folder"
  limit := (s.value? "max-attempts").bind (count? attemptLimit true)
  target := path? s "deploy-to"
  offline := s.has "offline"
  dry := s.has "dry-run"

/-- The limit that is asked for. -/
def limitOr (fallback : Nat) (s : Scan) : Nat :=
  ((s.value? "limit").bind (count? itemLimit false)).getD fallback

def ofExplain (s : Scan) : ExplainArguments where
  file := ⟨s.wordAt 0⟩
  limit := limitOr 3 s
  offline := s.has "offline"

/-- Texts between commas. -/
def separated (text : String) : List String :=
  (Text.splitWhere (· == ',') text.toList).map String.ofList

def ofAdd (s : Scan) : KnowledgeRequest :=
  .add (s.wordAt 0) (s.wordAt 1) ((s.value? "category").getD "general")
    ((s.values "tags").flatMap separated) ((s.value? "confidence").getD "medium")

/-- The command that was read. -/
def ofScan? (s : Scan) : Option Command :=
  match s.path.drop 1 with
  | ["build"] => some (.build (ofBuild s))
  | ["explain"] => some (.explain (ofExplain s))
  | ["patterns", "list"] => some (.patterns (.list (s.value? "provenance")))
  | ["patterns", "stats"] => some (.patterns .stats)
  | ["patterns", "show"] => some (.patterns (.shown (s.wordAt 0)))
  | ["patterns", "templates"] => some (.patterns (.templates (s.wordAt 0)))
  | ["patterns", "api"] => some (.patterns (.api (s.wordAt 0)))
  | ["patterns", "practices"] => some (.patterns (.practices (s.value? "category")))
  | ["knowledge", "add"] => some (.knowledge (ofAdd s))
  | ["knowledge", "search"] => some (.knowledge (.search (s.wordAt 0) (limitOr 5 s)))
  | _ => none

/-- Whether some command was told both to say more and to say less. -/
def contradictory (s : Scan) : Bool :=
  s.levels.any fun given => given.contains "verbose" && given.contains "quiet"

/-- Whether some command has to take the settings file from a variable that names none. -/
def unnamedSettings (env : Environment) (s : Scan) : Bool :=
  env.get? settingsVariable == some "" && s.levels.any fun given => !given.contains "config"

/-- The command of some words, and the settings file that is asked for. -/
def ofWords (env : Environment) (words : List String) : Except Stop (Command × Option Path) := do
  let s ← Scan.ofWords grammar words
  if contradictory s || unnamedSettings env s then throw .usage
  let settings := (s.value? "config").or (env.get? settingsVariable)
  match ofScan? s with
  | some c => return (c, settings.map Path.mk)
  | none => throw .usage

end Command

end WidgetRepair
