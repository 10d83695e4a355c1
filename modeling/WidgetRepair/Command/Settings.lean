import WidgetRepair.Assist.Model
import WidgetRepair.Build.Loop
import WidgetRepair.Command.Grammar
import WidgetRepair.Runner.Manager

/-! Settings of the program: a file in the folder it is started in, and variables that go before
the file. What neither of them says has a default. -/

namespace WidgetRepair

open Source

/-- What is said about the language model. -/
structure ModelChoice where
  provider : Option String := none
  name : Option String := none
  deriving DecidableEq, Repr, Inhabited

/-- What is said about a run of the program. -/
structure Settings where
  workFolder : Option Path := none
  limit : Option Nat := none
  target : Option Path := none
  store : Option Path := none
  knowledge : Option Path := none
  manager : Option String := none
  timeout : Option Nat := none
  model : Option ModelChoice := none
  deriving DecidableEq, Repr, Inhabited

/-- Why there are no settings. -/
inductive SettingsFault where
  | disk (path : Path) (fault : DiskFault)
  /-- The text of the file is wrong from a line on. -/
  | text (path : Path) (line : Nat)
  | limit (text : String)
  deriving DecidableEq, Repr

namespace Settings

/-- The file that settings are looked for in. -/
def file : Path := ⟨"wforge.toml"⟩

def workFolderOr (s : Settings) : Path := s.workFolder.getD ⟨"./widgets"⟩

def limitOr (s : Settings) : Nat := s.limit.getD Job.defaultLimit

def timeoutOr (s : Settings) : Nat := s.timeout.getD defaultTimeout

def path (v : Toml.Value) : Except Fault Path := (text v).map Path.mk

def modelFields : List (Field Toml.Value (Except Fault) ModelChoice) := [
  .of "provider" (·.provider) (fun v s => { s with provider := v }) text,
  .of "model" (·.name) (fun v s => { s with name := v }) text]

def modelChoice : Toml.Value → Except Fault ModelChoice := recordOf modelFields {} some

def fields : List (Field Toml.Value (Except Fault) Settings) := [
  .of "work_folder" (·.workFolder) (fun v s => { s with workFolder := v }) path,
  .of "max_attempts" (·.limit) (fun v s => { s with limit := v })
    (Toml.Value.bounded (Nat.pow 2 32)),
  .of "auto_deploy_target" (·.target) (fun v s => { s with target := v }) path,
  .of "nucleus_path" (·.store) (fun v s => { s with store := v }) path,
  .of "knowledge_path" (·.knowledge) (fun v s => { s with knowledge := v }) path,
  .of "package_manager" (·.manager) (fun v s => { s with manager := v }) text,
  .of "command_timeout_secs" (·.timeout) (fun v s => { s with timeout := v })
    (Toml.Value.bounded (Nat.pow 2 64)),
  .of "llm" (·.model) (fun v s => { s with model := v }) modelChoice]

/-- The settings that a text gives. -/
def ofText? (s : String) : Option Settings := do
  (recordOf fields {} some (← Toml.ofText? s)).toOption

/-- The text of the first lines. -/
def leading (count : Nat) (s : String) : String :=
  "\n".intercalate (((Text.splitWhere (· == '\n') s.toList).take count).map String.ofList)

/-- The line that a text is wrong from: the one behind the longest start that gives settings. -/
def faultyLine (s : String) : Nat :=
  let count := s.toList.count '\n' + 1
  1 + (((List.range count).reverse.find? fun n => (ofText? (leading n s)).isSome).getD 0)

def ofFile (d : Disk) (path : Path) : Except SettingsFault Settings := do
  let content ← (d.readText path).mapError (.disk path)
  match ofText? content with
  | some s => return s
  | none => throw (.text path (faultyLine content))

def workFolderVariable : String := "WFORGE_WORK_FOLDER"

def limitVariable : String := "WFORGE_MAX_ATTEMPTS"

/-- A number of attempts, with white space around it. -/
def limitOf (s : String) : Except SettingsFault Nat :=
  match CommandLine.count? (Nat.pow 2 32) false (Text.trimmed s) with
  | some n => .ok n
  | none => .error (.limit s)

/-- The settings after the variables had their say. -/
def overridden (s : Settings) (env : Environment) : Except SettingsFault Settings := do
  let said? := LanguageModel.setting? env
  let limit ← (said? limitVariable).mapM limitOf
  let choice := s.model.getD {}
  return { s with
    workFolder := ((said? workFolderVariable).map Path.mk).or s.workFolder
    limit := limit.or s.limit
    store := ((said? Discovery.storeVariable).map Path.mk).or s.store
    model := some { choice with
      name := (said? LanguageModel.modelVariable).or choice.name } }

/-- The settings of a run. A file that is asked for by name has to be there. -/
def load (d : Disk) (env : Environment) (named : Option Path) : Except SettingsFault Settings := do
  let said ← match named with
    | some path => ofFile d path
    | none => if d.isFile file then ofFile d file else .ok {}
  said.overridden env

/-- The file of the store. -/
def storePath (s : Settings) (env : Environment) (program : Option Path) : StateM Disk Path :=
  match s.store with
  | some path => return path
  | none => Discovery.locate env program

/-- The file of the knowledge. -/
def knowledgePath (s : Settings) (env : Environment) (program : Option Path) :
    StateM Disk Path := do
  match s.knowledge with
  | some path => return path
  | none => return Discovery.knowledgeBeside (← s.storePath env program)

/-- The language model, if one is chosen that there is a key for. -/
def languageModel? (s : Settings) (env : Environment) : Option LanguageModel :=
  let choice := s.model.getD {}
  match choice.provider with
  | some name =>
    (Provider.ofLooseName? name).bind fun provider =>
      (LanguageModel.ofChoice env provider choice.name).toOption
  | none => (LanguageModel.ofEnvironment env).toOption

end Settings

end WidgetRepair
