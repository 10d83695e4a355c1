import WidgetRepair.Disk.Basic
import WidgetRepair.Store.Discovery

/-! Running package managers. A command that runs and fails is a result like any other; a fault
means that there was no result. -/

namespace WidgetRepair

/-- A computation on the disk and on what else there is outside. -/
abbrev OnSite (τ : Type) := StateM (Disk × τ)

namespace OnSite

variable {τ α : Type}

def disk : OnSite τ Disk := do return (← get).1

/-- A step on the disk alone. -/
def onDisk (job : OnDisk α) : OnSite τ (Except DiskFault α) := fun (d, t) =>
  let (result, d) := job.run d
  (result, d, t)

/-- A step outside of the disk. -/
def outside (job : StateM τ α) : OnSite τ α := fun (d, t) =>
  let (a, t) := job t
  (a, d, t)

end OnSite

/-- The seconds that a command may take unless something else is said. -/
def defaultTimeout : Nat := 600

/-- How commands are run. -/
structure RunConfig where
  /-- The seconds a command may take; zero stands for no limit. -/
  timeout : Nat := defaultTimeout
  /-- Whether lines are shown while a command runs. -/
  stream : Bool := false
  /-- Variables that the command finds besides those that are there. -/
  env : Environment := []
  deriving DecidableEq, Repr, Inhabited

/-- What a command did. -/
structure Execution where
  command : String
  /-- Zero for success, and -1 for a command that was killed. -/
  exitCode : Int
  output : String
  errors : String
  /-- The milliseconds from start to end. -/
  duration : Nat
  deriving DecidableEq, Repr

namespace Execution

def success (e : Execution) : Bool := e.exitCode == 0

/-- The output followed by the errors. -/
def combined (e : Execution) : String :=
  if e.output.isEmpty then e.errors
  else if e.errors.isEmpty then e.output
  else e.output ++ "\n" ++ e.errors

end Execution

/-- Why a command has no result. -/
inductive RunnerFault where
  | noManager
  | failed (reason : String)
  | timeout (seconds : Nat)
  | noProject (folder : Path)
  | disk (fault : DiskFault)
  deriving DecidableEq, Repr

def RunnerFault.message : RunnerFault → String
  | noManager => "Package manager not available: None of npm, pnpm or yarn is available"
  | failed reason => "Command execution failed: " ++ reason
  | timeout seconds => "Command timeout after " ++ toString seconds ++ " seconds"
  | noProject folder => "Project directory not found: " ++ folder.text
  | disk fault => "IO error: " ++ fault.message

/-- Something that installs packages and runs scripts in the folder of a project. -/
structure Runner (τ : Type) where
  name : String
  install : (folder : Path) → (packages : List String) → (dev : Bool) → RunConfig →
    OnSite τ (Except RunnerFault Execution)
  script : (folder : Path) → (script : String) → RunConfig →
    OnSite τ (Except RunnerFault Execution)

/-- Compiles and packs a widget. -/
def Runner.build {τ : Type} (r : Runner τ) (folder : Path) (config : RunConfig) :
    OnSite τ (Except RunnerFault Execution) :=
  r.script folder "build" config

end WidgetRepair
