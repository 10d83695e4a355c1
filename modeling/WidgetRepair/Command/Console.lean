import WidgetRepair.Assist.Basic
import WidgetRepair.Command.Complaint
import WidgetRepair.Decimal.Fixed
import WidgetRepair.Knowledge.File
import WidgetRepair.Repair.Basic
import WidgetRepair.Runner.Program
import WidgetRepair.Text.Column

/-! What commands find around them: variables, a disk, a host for programs, and somebody who reads
what they say. -/

namespace WidgetRepair

/-- The surroundings of a command. -/
structure Surroundings (τ : Type) where
  env : Environment := []
  /-- The file of the program itself. -/
  program : Option Path := none
  /-- The moments and ids of this run. -/
  stamps : Stamps
  host : Host τ
  transport : LanguageModel.Transport τ
  /-- Whether somebody wants the program to end. -/
  interrupted : StateM τ Bool

/-- A command that is running. What it did before a complaint stays done. -/
abbrev OnConsole (τ : Type) := ExceptT Complaint (OnSite τ)

namespace OnConsole

variable {τ α : Type}

def refuse (r : Refusal) : OnConsole τ α := throw (.refused r)

def ofExcept {ε : Type} (complain : ε → Complaint) : Except ε α → OnConsole τ α
  | .ok a => return a
  | .error e => throw (complain e)

/-- A step that has nothing to complain about. -/
def onSite (job : OnSite τ α) : OnConsole τ α := ExceptT.lift job

/-- A step outside of the disk. -/
def outside (job : StateM τ α) : OnConsole τ α := onSite (OnSite.outside job)

def disk : OnConsole τ Disk := onSite OnSite.disk

/-- A step on the disk that cannot fail. -/
def onDisk (job : StateM Disk α) : OnConsole τ α :=
  onSite fun (d, t) =>
    let (a, d) := job d
    (a, d, t)

end OnConsole

namespace Surroundings

variable {τ : Type}

/-- Writes lines to the output. -/
def say (s : Surroundings τ) (lines : List String) : OnConsole τ Unit :=
  OnConsole.outside (Program.echoAll s.host .output lines)

/-- Writes lines to where errors go. -/
def warn (s : Surroundings τ) (lines : List String) : OnConsole τ Unit :=
  OnConsole.outside (Program.echoAll s.host .errors lines)

/-- The moment at which the command runs. -/
def now (s : Surroundings τ) : Timestamp := (s.stamps 0).now

/-- Opens the store that the settings lead to. -/
def openStore (s : Surroundings τ) (settings : Settings) : OnConsole τ Store := do
  let path ← OnConsole.onDisk (settings.storePath s.env s.program)
  return Store.load (← OnConsole.disk) path s.now

/-- The file of the knowledge that the settings lead to. -/
def knowledgePath (s : Surroundings τ) (settings : Settings) : OnConsole τ Path :=
  OnConsole.onDisk (settings.knowledgePath s.env s.program)

def openKnowledge (s : Surroundings τ) (settings : Settings) : OnConsole τ Knowledge := do
  let path ← s.knowledgePath settings
  OnConsole.ofExcept (.knowledgeRead path) (Knowledge.load (← OnConsole.disk) path)

/-- The assistant that the settings lead to. -/
def assistant (s : Surroundings τ) (settings : Settings) (offline : Bool) : Assistant τ where
  completion :=
    if offline then none
    else (settings.languageModel? s.env).map fun model => model.complete s.transport

end Surroundings

end WidgetRepair
