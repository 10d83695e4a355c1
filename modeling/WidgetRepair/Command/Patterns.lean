import WidgetRepair.Command.Arguments
import WidgetRepair.Command.Console

/-! Looking into the store. -/

namespace WidgetRepair

namespace PatternListing

open Text

/-- The place of a number in the order of all numbers, where minus zero comes before zero. -/
def rank (x : Float) : Int :=
  let bits := x.toBits.toNat
  let half := Nat.pow 2 63
  if bits < half then bits else (half : Int) - 1 - bits

/-- Patterns with the most confident first; equally confident ones keep their order. -/
def ordered (patterns : List FixPattern) : List FixPattern :=
  patterns.mergeSort fun p q => rank q.confidence ≤ rank p.confidence

/-- The columns of a listing; the provenance of a pattern is not brought to a width. -/
def row (id provenance confidence successes failures description : String) : String :=
  leftAligned 40 id ++ " " ++ provenance ++ " " ++ rightAligned 5 confidence ++ " " ++
    rightAligned 5 successes ++ " " ++ rightAligned 5 failures ++ "  " ++ description

def heading : String := row "ID" (leftAligned 8 "SOURCE") "CONF" "OK" "FAIL" "DESCRIPTION"

def rowOf (p : FixPattern) : String :=
  row p.id p.provenance.name (Decimal.fixed 2 p.confidence) (toString p.successes)
    (toString p.failures) p.description

/-- The patterns of one provenance, or all of them, one a line. -/
def lines (s : Store) (provenance : Option Provenance) : List String :=
  let chosen := s.patterns.filter fun p => provenance.all (p.provenance == ·)
  heading :: (ordered chosen).map rowOf ++ ["", toString chosen.length ++ " pattern(s)"]

end PatternListing

namespace PatternQuery

open Text

/-- Numbers about a store, one a line. -/
def statsLines (path : Path) (s : StoreStats) : List String :=
  ["📊 Nucleus: " ++ path.text, "   Patterns:        " ++ toString s.patterns] ++
    Provenance.all.map (fun p => "     " ++ p.name ++ " " ++ toString (s.count p)) ++
    ["   Mean confidence: " ++ Decimal.fixed 2 s.meanConfidence,
      "   Successes:       " ++ toString s.successes,
      "   Failures:        " ++ toString s.failures] ++
    (s.mostUsed.map fun id => "   Most used:       " ++ id).toList ++
    ["   Templates:       " ++ toString s.templates,
      "   SDK notes:       " ++ toString s.notes,
      "   Best practices:  " ++ toString s.practices]

def templateLine (t : WidgetTemplate) : String :=
  leftAligned 20 t.id ++ " " ++ leftAligned 12 t.category ++ " " ++ t.description

def noteLines (n : ApiNote) : List String :=
  (n.name ++ " (" ++ n.source ++ ")") :: ("   " ++ n.usage) :: n.notes.map ("   - " ++ ·)

def practiceLine (p : Practice) : String :=
  "[" ++ p.category ++ "] " ++ p.title ++ ": " ++ p.description

/-- The provenance a person means. -/
def provenanceOf (name : String) : Except Refusal Provenance :=
  let name := Text.lowered (Text.trimmed name)
  match Provenance.ofName? name with
  | some p => .ok p
  | none => .error (.unknownProvenance name)

/-- The answer to a query, line by line. -/
def answer (s : Store) (path : Path) : PatternQuery → Except Refusal (List String)
  | list name => do return PatternListing.lines s (← name.mapM provenanceOf)
  | stats => .ok (statsLines path s.stats)
  | shown id =>
    match s.get? id with
    | some p => .ok [p.toJson.pretty]
    | none => .error (.unknownPattern id)
  | templates query =>
    match s.findTemplates query with
    | [] => .ok ["No templates match '" ++ query ++ "'"]
    | found => .ok (found.map templateLine)
  | api name =>
    match s.note? name with
    | some n => .ok (noteLines n)
    | none => .error (.unknownNote name)
  | practices category => .ok ((s.practicesOf category).map practiceLine)

variable {τ : Type}

def run (s : Surroundings τ) (settings : Settings) (query : PatternQuery) : OnConsole τ Unit := do
  let store ← s.openStore settings
  let path ← OnConsole.onDisk (settings.storePath s.env s.program)
  s.say (← OnConsole.ofExcept .refused (query.answer store path))

end PatternQuery

end WidgetRepair
