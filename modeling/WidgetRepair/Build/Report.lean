import WidgetRepair.Repair.Basic
import WidgetRepair.Text.Line

/-! What is known after a build, and what is said while it runs. -/

namespace WidgetRepair

/-- A repair that was made after an attempt. -/
structure AppliedRepair where
  attempt : Nat
  strategy : String
  description : String
  patternId : Option String := none
  deriving DecidableEq, Repr

def AppliedRepair.ofOutcome (attempt : Nat) (o : RepairOutcome) : AppliedRepair where
  attempt := attempt
  strategy := o.strategy
  description := o.description
  patternId := o.patternId

def AppliedRepair.text (r : AppliedRepair) : String := "[" ++ r.strategy ++ "] " ++ r.description

/-- One round of a build. -/
structure Attempt where
  number : Nat
  widget : Widget
  succeeded : Bool
  diagnostic : String
  repair : Option AppliedRepair := none
  deriving DecidableEq, Repr

/-- How a build ended. -/
inductive BuildOutcome where
  | succeeded (folder : Path) (artifact deployed : Option Path)
  | cancelled
  /-- All attempts failed, though each was followed by a repair. -/
  | exhausted
  /-- An attempt failed and there was no repair for it. -/
  | noRepair
  deriving DecidableEq, Repr

def BuildOutcome.text : BuildOutcome → String
  | succeeded .. => "succeeded"
  | cancelled => "cancelled"
  | exhausted => "exhausted"
  | noRepair => "failed (no fix available)"

structure Report where
  widget : String
  outcome : BuildOutcome
  attempts : List Attempt := []
  /-- The repairs in the order in which they were made. -/
  repairs : List AppliedRepair := []
  /-- What the strategies said when none of them had a repair. -/
  suggestions : Option String := none
  deriving DecidableEq, Repr

namespace Report

/-- The report of a build that has not begun. -/
def start (widget : String) : Report where
  widget := widget
  outcome := .exhausted

def withAttempt (r : Report) (a : Attempt) : Report := { r with attempts := r.attempts ++ [a] }

def withRepair (r : Report) (repair : AppliedRepair) : Report :=
  { r with repairs := r.repairs ++ [repair] }

def succeeded (r : Report) : Bool :=
  match r.outcome with
  | .succeeded .. => true
  | _ => false

def artifact? (r : Report) : Option Path :=
  match r.outcome with
  | .succeeded _ artifact _ => artifact
  | _ => none

/-- The diagnostics of the attempts that failed, the oldest first. -/
def diagnostics (r : Report) : List String :=
  (r.attempts.filter (!·.succeeded)).map (·.diagnostic)

def lastDiagnostic? (r : Report) : Option String := r.diagnostics.getLast?

/-- The most characters of a diagnostic in a summary. -/
def diagnosticLimit : Nat := 1200

/-- A diagnostic as a summary shows it, with a mark where it was cut. -/
def shortened (diagnostic : String) : List Char :=
  let (start, cut) := Text.cutTo diagnosticLimit (Text.trim diagnostic.toList)
  start ++ (if cut then "\n...".toList else [])

/-- Every line of a text, set in. -/
def indented (text : List Char) : String :=
  String.join ((Text.lines text).map fun line => "  " ++ String.ofList line ++ "\n")

/-- A part of the summary, left out where it has nothing to say. -/
def titled (title body : String) : String := "\n" ++ title ++ ":\n" ++ body

/-- The repairs, counted from one. -/
def numbered (repairs : List AppliedRepair) : String :=
  String.join (repairs.mapIdx fun i r => "  " ++ toString (i + 1) ++ ". " ++ r.text ++ "\n")

def errorPart (r : Report) : String :=
  if r.succeeded then ""
  else
    match r.lastDiagnostic? with
    | some diagnostic => titled "Last error" (indented (shortened diagnostic))
    | none => ""

def repairPart (r : Report) : String :=
  if r.repairs.isEmpty then "" else titled "Fixes applied" (numbered r.repairs)

def suggestionPart (r : Report) : String :=
  match r.suggestions with
  | some text => if text.isEmpty then "" else titled "Suggestions" (indented text.toList)
  | none => ""

/-- The report in words: outcome, last error, repairs and suggestions. -/
def summary (r : Report) : String :=
  "Build of " ++ r.widget ++ " " ++ r.outcome.text ++ " after " ++ toString r.attempts.length ++
    " attempt(s).\n" ++ r.errorPart ++ r.repairPart ++ r.suggestionPart

end Report

/-- What is said while a build runs. -/
inductive BuildEvent where
  | started (attempt limit : Nat)
  | failed (attempt : Nat) (diagnostic : String)
  | repaired (attempt : Nat) (repair : AppliedRepair)
  | noRepair (attempt : Nat)
  | succeeded (attempt : Nat) (artifact : Option Path)
  | deployed (target : Path)
  | cancelled (attempt : Nat)
  | exhausted (attempts : Nat)
  deriving DecidableEq, Repr

/-- The first line of a text that says something, without outer white space. -/
def firstLine (text : String) : String :=
  String.ofList ((((Text.lines text.toList).map Text.trim).find? (!·.isEmpty)).getD [])

def BuildEvent.message : BuildEvent → String
  | started attempt limit => "Attempt " ++ toString attempt ++ "/" ++ toString limit
  | failed attempt diagnostic =>
    "Attempt " ++ toString attempt ++ " failed: " ++ firstLine diagnostic
  | repaired _ repair => "Applied fix " ++ repair.text
  | noRepair attempt => "No fix available after attempt " ++ toString attempt
  | succeeded attempt artifact =>
    "Build succeeded on attempt " ++ toString attempt ++
      (match artifact with
        | some path => ": " ++ path.text
        | none => "")
  | deployed target => "Deployed to " ++ target.text
  | cancelled attempt => "Cancelled during attempt " ++ toString attempt
  | exhausted attempts => "Gave up after " ++ toString attempts ++ " attempts"

end WidgetRepair
