import WidgetRepair.Assist.Basic
import WidgetRepair.Edit.Planned
import WidgetRepair.Repair.Basic
import WidgetRepair.Widget.Codec

/-! Repairs that a language model plans. It is shown the failure, the widget and its sources. -/

namespace WidgetRepair.PlannedRepair

variable {τ : Type}

def name : String := "generative"

/-- The most characters of a file that are shown. -/
def charLimit : Nat := 4000

/-- The most files that are shown. -/
def fileLimit : Nat := 8

/-- The files that are shown besides the manifest. -/
def sourcePatterns : List String := ["**/*.tsx", "**/*.ts", "**/*.xml"]

/-- A text as it is shown, with a mark where it was cut. -/
def shown (content : String) : String :=
  let (start, cut) := Text.cutTo charLimit content.toList
  String.ofList start ++ (if cut then "\n...[truncated]" else "")

/-- A file with its path from the folder of the widget. Files that are no text are left out. -/
def shownFile? (d : Disk) (folder file : Path) : Option (String × String) :=
  match d.readText file with
  | .ok content =>
    let inside := (file.relativeTo? folder).getD file
    some (Text.substitute inside.text "\\" "/", shown content)
  | .error _ => none

/-- The files of a widget that a plan is made from. -/
def sources (d : Disk) (folder : Path) : List Path :=
  let found := sourcePatterns.flatMap fun pattern =>
    (Edit.matchingFiles d folder pattern).toOption.getD []
  (((folder / Manifest.fileName) :: found).filter d.isFile).take fileLimit

def request (d : Disk) (f : Failure) : PlanRequest where
  diagnostic := f.diagnostic
  config := f.widget.toJson.pretty
  files := (sources d f.folder).filterMap (shownFile? d f.folder)

/-- Carries out the edits of a plan; gives those that changed something. -/
def performAll (folder : Path) : List PlannedEdit → OnWorld τ (List PlannedEdit)
  | [] => return []
  | e :: rest => do
    match ← OnWorld.edit (Edit.performPlanned folder e) with
    | .ok true => return e :: (← performAll folder rest)
    | _ => performAll folder rest

/-- What is said about a plan that was carried out. -/
def describe (plan : EditPlan) (done : List PlannedEdit) : String :=
  if plan.summary.isEmpty then "Applied " ++ toString done.length ++ " generated edit(s)"
  else plan.summary

/-- Carries out a plan. The first edit that has the form of a repair is worth keeping. -/
def carryOut (f : Failure) (plan : EditPlan) : OnWorld τ RepairOutcome := do
  let done ← performAll f.folder plan.edits
  if done.isEmpty then return .declined name "no planned edit could be applied"
  let description := describe plan done
  let fix := done.findSome? (Edit.actionOf? (← OnWorld.disk) f.folder)
  return { RepairOutcome.done name description with
    lesson := fix.map fun fix => ⟨f.diagnostic, description, fix⟩ }

def attempt (assistant : Assistant τ) (f : Failure) : OnWorld τ RepairOutcome := do
  if !assistant.online then return .declined name "no language model configured"
  match ← OnWorld.outside (assistant.editPlan (request (← OnWorld.disk) f)) with
  | .ok (some plan) => carryOut f plan
  | .ok none => return .declined name "no edit plan produced"
  | .error fault => return .declined name ("edit plan unavailable: " ++ fault.message)

/-- The strategy of the language model. -/
def strategy (assistant : Assistant τ) : Strategy (World τ) where
  name := name
  attempt := attempt assistant

end WidgetRepair.PlannedRepair
