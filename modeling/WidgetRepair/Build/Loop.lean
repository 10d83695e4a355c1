import WidgetRepair.Build.Report
import WidgetRepair.Package.Files
import WidgetRepair.Runner.Basic

/-! The loop that builds a widget and repairs it until it builds. What surrounds the loop is left
open: it may be anything that answers, in any state. -/

namespace WidgetRepair

/-- Why an attempt could not be made. -/
inductive BuildFault where
  | invalidWidget (reason : String)
  | generation (fault : Package.PackageFault)
  | runner (fault : RunnerFault)
  | deployment (reason : String)
  deriving DecidableEq, Repr

def BuildFault.message : BuildFault → String
  | invalidWidget reason => "Invalid widget configuration: " ++ reason
  | generation fault => "Generation failed: " ++ fault.message
  | runner fault => "Package runner failed: " ++ fault.message
  | deployment reason => "Deployment failed: " ++ reason

/-- What generating and compiling a widget comes to. -/
inductive Trial where
  | built (artifact : Option Path) (diagnostic : String := "")
  | failed (diagnostic : String)
  deriving DecidableEq, Repr

/-- What the loop works with, in a surrounding state. -/
structure Workshop (σ : Type) where
  /-- Whether somebody wants the build to end. -/
  cancelled : StateM σ Bool
  /-- Makes the folder that packages are generated into. -/
  prepare : StateM σ (Except DiskFault Unit)
  /-- Generates and compiles the widget. -/
  trial : (attempt : Nat) → StateM σ (Except BuildFault Trial)
  /-- Looks for a repair. -/
  repair : Failure → StateM σ RepairOutcome
  /-- Keeps a repair that led to a successful build. -/
  keep : Lesson → StateM σ Unit
  /-- Copies what was built to where it is wanted, if it is wanted anywhere. -/
  deploy : (artifact : Path) → StateM σ (Option Path)
  announce : BuildEvent → StateM σ Unit

/-- What is to be built. -/
structure Job where
  widget : Widget
  /-- The folder that gets a folder for the package. -/
  workFolder : Path
  /-- The most attempts. -/
  limit : Nat
  deriving DecidableEq, Repr

namespace Job

/-- The attempts that a build has unless something else is said. -/
def defaultLimit : Nat := 3

/-- The folder of the package. -/
def folder (job : Job) : Path := job.workFolder / job.widget.packageName

def failure (job : Job) (diagnostic : String) : Failure := ⟨diagnostic, job.folder, job.widget⟩

def attempt (job : Job) (number : Nat) (succeeded : Bool) (diagnostic : String) : Attempt where
  number := number
  widget := job.widget
  succeeded := succeeded
  diagnostic := diagnostic

end Job

namespace Workshop

variable {σ : Type}

/-- One trial. Whatever keeps it from being made counts as its failure. -/
def tryBuild (w : Workshop σ) (job : Job) (number : Nat) : StateM σ Trial := do
  match ← w.prepare with
  | .error fault =>
    return .failed ("Cannot create work folder " ++ job.workFolder.text ++ ": " ++ fault.message)
  | .ok _ =>
    match ← w.trial number with
    | .error fault => return .failed fault.message
    | .ok trial => return trial

/-- Keeps repairs in the order in which they were made. -/
def keepAll (w : Workshop σ) : List Lesson → StateM σ Unit
  | [] => return
  | lesson :: rest => do
    w.keep lesson
    w.keepAll rest

/-- Deploys what was built, where something was. -/
def deployBuilt (w : Workshop σ) (artifact : Option Path) : StateM σ (Option Path) := do
  match artifact with
  | none => return none
  | some artifact =>
    let deployed ← w.deploy artifact
    match deployed with
    | some target => w.announce (.deployed target)
    | none => pure ()
    return deployed

/-- The end of a build that was called off. -/
def callOff (w : Workshop σ) (number : Nat) (report : Report) : StateM σ Report := do
  w.announce (.cancelled number)
  return { report with outcome := .cancelled }

/-- The end of a build that succeeded. -/
def succeed (w : Workshop σ) (job : Job) (number : Nat) (report : Report) (lessons : List Lesson)
    (artifact : Option Path) (diagnostic : String) : StateM σ Report := do
  w.keepAll lessons
  w.announce (.succeeded number artifact)
  let deployed ← w.deployBuilt artifact
  return { report.withAttempt (job.attempt number true diagnostic) with
    outcome := .succeeded job.folder artifact deployed }

/-- The end of a build that nobody can repair. -/
def giveUp (w : Workshop σ) (number : Nat) (report : Report) (suggestions : String) :
    StateM σ Report := do
  w.announce (.noRepair number)
  return { report with outcome := .noRepair, suggestions := some suggestions }

/-- Attempts from `number` on, of which `left` are left, after those in the report. Repairs worth
keeping wait for a success. -/
def rounds (w : Workshop σ) (job : Job) :
    (left number : Nat) → Report → List Lesson → StateM σ Report
  | 0, _, report, _ => do
    w.announce (.exhausted job.limit)
    return { report with outcome := .exhausted }
  | left + 1, number, report, lessons => do
    if ← w.cancelled then w.callOff number report
    else
      w.announce (.started number job.limit)
      match ← w.tryBuild job number with
      | .built artifact diagnostic => w.succeed job number report lessons artifact diagnostic
      | .failed diagnostic =>
        w.announce (.failed number diagnostic)
        let attempt := job.attempt number false diagnostic
        if ← w.cancelled then w.callOff number (report.withAttempt attempt)
        else
          let outcome ← w.repair (job.failure diagnostic)
          if outcome.applied then
            let repair := AppliedRepair.ofOutcome number outcome
            w.announce (.repaired number repair)
            w.rounds job left (number + 1)
              ((report.withRepair repair).withAttempt { attempt with repair := some repair })
              (lessons ++ outcome.lesson.toList)
          else w.giveUp number (report.withAttempt attempt) outcome.description

/-- Builds a widget that has a name left to build under. -/
def build (w : Workshop σ) (job : Job) : StateM σ (Except BuildFault Report) := do
  if !job.widget.runnable then
    return .error (.invalidWidget WidgetFault.missingName.message)
  return .ok (← w.rounds job job.limit 1 (.start job.widget.componentName) [])

end Workshop

end WidgetRepair
