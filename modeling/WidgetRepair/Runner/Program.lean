import WidgetRepair.Runner.Basic
import WidgetRepair.Runner.Manager
import WidgetRepair.Text.ByteLine

/-! The runner that starts the programs of package managers. A lockfile in the project decides
which one, provided that it can be started. -/

namespace WidgetRepair

/-- A program to be started. -/
structure Launch where
  program : String
  args : List String
  folder : Option Path := none
  env : Environment := []
  deriving DecidableEq, Repr

/-- The disk as a program sees it. -/
def Launch.seen (job : Launch) (d : Disk) : Disk := (job.folder.map d.seenFrom).getD d

/-- What came of starting a program. -/
inductive Landing where
  | refused (reason : String)
  /-- The program was still running at the end of its time. -/
  | overdue
  /-- The program ended; without an exit code when it was killed. -/
  | ended (exitCode : Option Int) (output errors : ByteArray) (duration : Nat)

inductive Channel where
  | output
  | errors
  deriving DecidableEq, Repr

def Channel.name : Channel → String
  | output => "stdout"
  | errors => "stderr"

/-- The system that programs are started on. -/
structure Host (τ : Type) where
  launch : Launch → (limit : Option Nat) → OnSite τ Landing
  /-- Shows a line of a running program. -/
  echo : Channel → String → StateM τ Unit

namespace PackageManager

variable {τ : Type}

/-- Whether the program of a manager can tell its version. -/
def available (host : Host τ) (m : PackageManager) : OnSite τ Bool := do
  match ← host.launch { program := m.command, args := ["--version"] } none with
  | .ended (some 0) .. => return true
  | _ => return false

/-- The first of some managers that is available. -/
def firstAvailable (host : Host τ) : List PackageManager → OnSite τ (Option PackageManager)
  | [] => return none
  | m :: rest => do if ← m.available host then return some m else firstAvailable host rest

/-- An available manager, the preferred one first. -/
def detect (host : Host τ) (preferred : Option PackageManager) :
    OnSite τ (Except RunnerFault PackageManager) := do
  match ← firstAvailable host (preferred.toList ++ all) with
  | some m => return .ok m
  | none => return .error .noManager

/-- The manager for a project: the one of its lockfile if it is available, else `m`. -/
def forProject (host : Host τ) (m : PackageManager) (folder : Path) :
    OnSite τ PackageManager := do
  match ofLockfile? (← OnSite.disk) folder with
  | some chosen =>
    if chosen = m then return m
    if ← chosen.available host then return chosen else return m
  | none => return m

end PackageManager

namespace Program

variable {τ : Type}

/-- What a dry run says instead of doing it. -/
def rehearsed (command : String) : Execution where
  command := command
  exitCode := 0
  output := "[DRY-RUN] Command: " ++ command
  errors := ""
  duration := 0

/-- Lines as one text in which each has its ending. -/
def joined (lines : List String) : String := String.join (lines.map (· ++ "\n"))

def echoAll (host : Host τ) (channel : Channel) (lines : List String) : StateM τ Unit :=
  lines.forM (host.echo channel)

/-- The limit that a configuration sets. -/
def limitOf (config : RunConfig) : Option Nat :=
  if config.timeout = 0 then none else some config.timeout

/-- Starts the program of a manager and waits for it. -/
def launch (host : Host τ) (m : PackageManager) (folder : Path) (args : List String)
    (config : RunConfig) : OnSite τ (Except RunnerFault Execution) := do
  let job : Launch :=
    { program := m.command, args := args, folder := some folder, env := config.env }
  match ← host.launch job (limitOf config) with
  | .refused reason => return .error (.failed ("Failed to spawn " ++ m.command ++ ": " ++ reason))
  | .overdue => return .error (.timeout config.timeout)
  | .ended exitCode output errors duration =>
    let outputLines := Text.leadingLines output
    let errorLines := Text.leadingLines errors
    if config.stream then
      OnSite.outside (echoAll host .output outputLines)
      OnSite.outside (echoAll host .errors errorLines)
    return .ok {
      command := m.commandLine args
      exitCode := exitCode.getD (-1)
      output := joined outputLines
      errors := joined errorLines
      duration := duration }

/-- Runs a command of the manager that a project wants. -/
def execute (host : Host τ) (own : PackageManager) (dry : Bool) (folder : Path)
    (args : PackageManager → List String) (config : RunConfig) :
    OnSite τ (Except RunnerFault Execution) := do
  if !(← OnSite.disk).isFolder folder then return .error (.noProject folder)
  let m ← own.forProject host folder
  if dry then return .ok (rehearsed (m.commandLine (args m)))
  launch host m folder (args m) config

end Program

/-- The runner that starts programs; a dry one only says what it would start. -/
def Runner.ofHost {τ : Type} (host : Host τ) (m : PackageManager) (dry : Bool) : Runner τ where
  name := m.command
  install folder packages dev config :=
    Program.execute host m dry folder (fun m => m.installArgs packages dev) config
  script folder script config :=
    Program.execute host m dry folder (fun _ => PackageManager.scriptArgs script) config

end WidgetRepair
