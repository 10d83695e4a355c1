import WidgetRepair.Assist.Advice
import WidgetRepair.Assist.Model

/-! The assistant: explains failures and plans repairs, with a language model where there is
one. -/

namespace WidgetRepair

/-- Something that answers a prompt, in a surrounding state. -/
abbrev Completion (σ : Type) := (system prompt : String) → StateM σ (Except AssistFault String)

/-- An assistant without a completion is offline. -/
structure Assistant (σ : Type) where
  completion : Option (Completion σ) := none

/-- Where an explanation came from. -/
inductive ExplanationSource where
  | model
  | canned
  deriving DecidableEq, Repr

structure Explanation where
  summary : String
  source : ExplanationSource
  deriving DecidableEq, Repr

/-- What a plan is asked for: the failure, the widget, and files by their paths. -/
structure PlanRequest where
  diagnostic : String
  config : String
  files : List (String × String) := []
  deriving DecidableEq, Repr

namespace Assistant

private def expertise : String :=
  "You are an expert in Mendix pluggable widgets, React and TypeScript. "

def explainSystem : String :=
  expertise ++ "Explain build failures briefly and concretely: the cause, then the fix."

def planSystem : String :=
  expertise ++ "You repair widget sources so that they compile. " ++
    "Reply with a single JSON object and nothing else."

/-- A text between fences. -/
def fenced (language text : String) : String := "```" ++ language ++ "\n" ++ text ++ "\n```"

def explainPrompt (diagnostic : String) : String :=
  "Explain this widget build failure:\n" ++ fenced "" (Text.trimmed diagnostic)

/-- The form that an answer has to take. -/
def answerForm : String :=
  "\nRespond with JSON of the form \x7b\"analysis\": string, \"fixes\": [\x7b\"file\": string, " ++
    "\"action\": \"replace\"|\"prepend\"|\"append\"|\"create\", \"search\"?: string, " ++
    "\"replace\"?: string, \"content\"?: string\x7d], \"description\": string\x7d. " ++
    "File paths are relative to the widget root."

def planPrompt (r : PlanRequest) : String :=
  "The widget build failed with:\n" ++ fenced "" (Text.trimmed r.diagnostic) ++
    "\n\nWidget configuration:\n" ++ fenced "json" r.config ++ "\n" ++
    String.join (r.files.map fun (path, content) =>
      "\nFile `" ++ path ++ "`:\n" ++ fenced "" content ++ "\n") ++
    answerForm

variable {σ : Type}

def online (a : Assistant σ) : Bool := a.completion.isSome

/-- How the assistant is shown to developers. -/
def shown (a : Assistant σ) : String :=
  "DiagnosisHelper \x7b online: " ++ (if a.online then "true" else "false") ++ " \x7d"

/-- What the table says about a failure. -/
def cannedExplanation (diagnostic : String) : Explanation where
  summary := (Advice.explanation? diagnostic).getD Advice.fallback
  source := .canned

/-- Explains a failure. Where the model is missing, fails or says nothing, the table answers. -/
def explain (a : Assistant σ) (diagnostic : String) : StateM σ Explanation := do
  match a.completion with
  | none => return cannedExplanation diagnostic
  | some complete =>
    match ← complete explainSystem (explainPrompt diagnostic) with
    | .ok text =>
      if Text.blank text then return cannedExplanation diagnostic
      else return ⟨Text.trimmed text, .model⟩
    | .error _ => return cannedExplanation diagnostic

/-- Asks for a plan; there is none when the assistant is offline. -/
def editPlan (a : Assistant σ) (r : PlanRequest) :
    StateM σ (Except AssistFault (Option EditPlan)) := do
  match a.completion with
  | none => return .ok none
  | some complete =>
    match ← complete planSystem (planPrompt r) with
    | .ok answer => return ((EditPlan.parse answer).mapError .plan).map some
    | .error f => return .error f

end Assistant

end WidgetRepair
