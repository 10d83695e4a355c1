import WidgetRepair.Edit.Action
import WidgetRepair.Repair.Basic

/-! Repairs by the patterns of the store: those that are trusted, best first. Each try is taken
down, so that a pattern which does not help loses trust. -/

namespace WidgetRepair.PatternRepair

variable {τ : Type}

def name : String := "nucleus"

/-- The patterns to try on a failure. -/
def candidates (s : Store) (diagnostic : String) : List FixPattern :=
  (s.matches? diagnostic).filter (·.trusted)

/-- Whether a repair changed anything; one that cannot be carried out did not. -/
def applied : Except EditFault Edit.Report → Bool
  | .ok report => report.applied
  | .error _ => false

/-- What is suggested after a repair that changed nothing. -/
def suggestion? (p : FixPattern) : Except EditFault Edit.Report → Option String
  | .ok report => if report.applied then none else some (p.description ++ ": " ++ report.detail)
  | .error _ => none

/-- Tries patterns one after the other until one changes something. -/
def tryEach (stamps : Stamps) (folder : Path) (suggestions : List String) :
    List FixPattern → OnWorld τ RepairOutcome
  | [] => return .declined name ("; ".intercalate suggestions)
  | p :: rest => do
    let report ← OnWorld.edit (Edit.perform folder p.fix)
    OnWorld.recordOutcome stamps p.id (applied report)
    if applied report then
      return { RepairOutcome.done name p.description with patternId := some p.id }
    tryEach stamps folder (suggestions ++ (suggestion? p report).toList) rest

def attempt (stamps : Stamps) (f : Failure) : OnWorld τ RepairOutcome := do
  match candidates (← OnWorld.store) f.diagnostic with
  | [] => return .declined name "no pattern with confidence >= 0.7"
  | found => tryEach stamps f.folder [] found

/-- The strategy of the store. -/
def strategy (stamps : Stamps) : Strategy (World τ) where
  name := name
  attempt := attempt stamps

end WidgetRepair.PatternRepair
