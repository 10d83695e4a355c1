import WidgetRepair.Command.Arguments
import WidgetRepair.Command.Console

/-! Explaining the output of a build, with the repairs that are known for it. -/

namespace WidgetRepair

/-- What readers are told about the origin of an explanation. -/
def ExplanationSource.title : ExplanationSource → String
  | model => "model"
  | canned => "built-in"

namespace ExplainArguments

open Text

def explanationLines (e : Explanation) : List String :=
  ["💡 Explanation (" ++ e.source.title ++ ")", e.summary]

def matchLine : FixPattern × Float → String
  | (p, score) =>
    "   " ++ leftAligned 36 p.id ++ " score " ++ Decimal.fixed 2 score ++ "  conf " ++
      Decimal.fixed 2 p.confidence ++ "  " ++ p.description

def repairLines : List (FixPattern × Float) → List String
  | [] => ["", "No known fix patterns match this failure"]
  | found => "" :: "🔧 Known fixes:" :: found.map matchLine

variable {τ : Type}

/-- The output that is to be explained. -/
def diagnostic (path : Path) : OnConsole τ String := do
  let content ← OnConsole.ofExcept (fun fault => .refused (.diagnosticFile path fault))
    ((← OnConsole.disk).readText path)
  if Text.blank content then OnConsole.refuse .emptyDiagnostic else return content

def run (s : Surroundings τ) (settings : Settings) (a : ExplainArguments) :
    OnConsole τ Unit := do
  let output ← diagnostic a.file
  let explanation ← OnConsole.outside ((s.assistant settings a.offline).explain output)
  s.say (explanationLines explanation)
  let store ← s.openStore settings
  s.say (repairLines ((store.rankedMatches output).take a.limit))

end ExplainArguments

end WidgetRepair
