import WidgetRepair.Command.Settings
import WidgetRepair.Widget.Check

/-! Why a command ends without success, what is said about it, and the exit code that tells it to
other programs. -/

namespace WidgetRepair

/-- What is wrong with what a command was given. -/
inductive Refusal where
  | settingsText (path : Path) (line : Nat)
  | limitText (text : String)
  | unknownManager (name : String)
  | unknownProvenance (name : String)
  | unknownPattern (id : String)
  | unknownNote (name : String)
  | unknownTier (name : String)
  | diagnosticFile (path : Path) (fault : DiskFault)
  | emptyDiagnostic
  | widgetFile (path : Path) (fault : WidgetFault)
  | flawed (flaws : List WidgetFlaw)
  | widget (reason : String)
  | noAttempts
  deriving DecidableEq, Repr

/-- Why a command ends without success. -/
inductive Complaint where
  | refused (refusal : Refusal)
  | settingsFile (path : Path) (fault : DiskFault)
  | knowledgeRead (path : Path) (fault : DiskFault)
  | knowledgeWrite (path : Path) (fault : DiskFault)
  | runner (fault : RunnerFault)
  | build (fault : BuildFault)
  /-- The build came to an end of another kind than success. -/
  | unbuilt (outcome : BuildOutcome)
  | cancelled
  deriving DecidableEq, Repr

namespace Refusal

def message : Refusal → String
  | settingsText path line => path.text ++ ": TOML parse error at line " ++ toString line
  | limitText text =>
    Settings.limitVariable ++ " must be a number, got '" ++ text ++ "'"
  | unknownManager name => "unknown package manager '" ++ name ++ "'"
  | unknownProvenance name => "unknown provenance '" ++ name ++ "'"
  | unknownPattern id => "unknown pattern '" ++ id ++ "'"
  | unknownNote name => "no notes for '" ++ name ++ "'"
  | unknownTier name => "unknown confidence '" ++ name ++ "'"
  | diagnosticFile path fault => path.text ++ ": " ++ fault.message
  | emptyDiagnostic => "diagnostic file is empty"
  | widgetFile path fault => path.text ++ ": " ++ fault.message
  | flawed flaws => "; ".intercalate (flaws.map (·.message))
  | widget reason => reason
  | noAttempts => "max attempts must be at least 1"

end Refusal

namespace Complaint

def ofSettings : SettingsFault → Complaint
  | .disk path fault => settingsFile path fault
  | .text path line => refused (.settingsText path line)
  | .limit text => refused (.limitText text)

/-- A complaint together with the fault of the disk behind it, which has a message of its own. -/
def withDisk (what : String) (path : Path) (fault : DiskFault) : String :=
  what ++ " " ++ path.text ++ ": IO error: " ++ fault.message ++ ": " ++ fault.message

def message : Complaint → String
  | refused refusal => "Invalid input: " ++ refusal.message
  | settingsFile path fault =>
    "Failed to read settings file " ++ path.text ++ ": " ++ fault.message
  | knowledgeRead path fault => withDisk "Failed to read knowledge cache" path fault
  | knowledgeWrite path fault => withDisk "Failed to write" path fault
  | runner fault => "No package manager available: " ++ fault.message
  | build fault => fault.message
  | unbuilt outcome => "Build " ++ outcome.text
  | cancelled => "Build cancelled"

/-- The exit code: 2 for what the user has to put right, 3 for a build that failed, 4 for one that
was called off, 1 for everything else. -/
def exitCode : Complaint → Nat
  | refused _ => 2
  | unbuilt _ => 3
  | cancelled => 4
  | settingsFile .. | knowledgeRead .. | knowledgeWrite .. | runner _ | build _ => 1

end Complaint

end WidgetRepair
