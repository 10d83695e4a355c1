import WidgetRepair.Runner.Program
import WidgetRepair.Runner.Rehearsal
import WidgetRepair.Runner.SearchPath

/-! A system on which stand-ins take the place of programs. They do what they are told to, in a
fixed order, whatever their arguments ask for. All of them lie in one folder, and like other
programs they are found only by a search path that leads there. -/

namespace WidgetRepair

/-- What a stand-in does when it is started. -/
structure StandIn where
  /-- The exit code when it is asked for its version. -/
  versionExit : Nat := 0
  /-- Whether it never ends. -/
  hangs : Bool := false
  /-- Whether it shows its arguments, one a line. -/
  echoes : Bool := false
  /-- The variable that it shows. -/
  shows : Option String := none
  creates : List String := []
  output : ByteArray := ByteArray.empty
  errors : ByteArray := ByteArray.empty
  /-- Whether it ends itself by a signal. -/
  killed : Bool := false
  /-- Whether it interrupts the program that started it, when it runs a script. -/
  interrupts : Bool := false
  /-- The exit code of the first script. -/
  firstExit : Option Nat := none
  exit : Nat := 0

/-- A system of stand-ins, by the names of the programs. -/
structure StandInSystem where
  programs : List (String × StandIn) := []
  /-- The folder with the programs. -/
  folder : Location := []
  env : Environment := []
  /-- The programs that have run a script. -/
  used : List String := []
  interrupted : Bool := false
  /-- The lines of running programs that were shown. -/
  shown : List (Channel × String) := []

namespace StandIn

def line (text : String) : String := text ++ "\n"

/-- What an entry of an environment says about a variable. Its name ends at the first equals sign,
wherever that comes from. -/
def saidOf? (name key value : String) : Option String :=
  if key = name then some value
  else (Text.after? (name ++ "=").toList key.toList).map fun more =>
    String.ofList more ++ "=" ++ value

/-- The value of a variable. Of several entries about it the one that sorts last counts. -/
def value? (env : Environment) (name : String) : Option String :=
  let said := env.filterMap fun (key, value) => (saidOf? name key value).map fun v => (key, v)
  (said.foldl later none).map (·.2)
where
  later (best : Option (String × String)) (entry : String × String) : Option (String × String) :=
    match best with
    | some (key, v) => if key < entry.1 then some entry else some (key, v)
    | none => some entry

/-- What a stand-in writes to its output before the prepared bytes. -/
def preface (p : StandIn) (env : Environment) (args : List String) : String :=
  (if p.echoes then String.join (args.map line) else "") ++
    (match p.shows with
      | some name => line ((value? env name).getD "unset")
      | none => "")

/-- The exit code of a script, of which the system keeps the low byte. -/
def exitCode (p : StandIn) (first : Bool) : Nat :=
  (if first then p.firstExit.getD p.exit else p.exit) % 256

/-- Whether a program is asked to run a script. -/
def runsScript (job : Launch) : Bool := job.args.head? == some "run"

/-- The system after a program has run a script. -/
def afterScript (p : StandIn) (program : String) (s : StandInSystem) : StandInSystem :=
  { s with
    used := if s.used.contains program then s.used else program :: s.used
    interrupted := s.interrupted || p.interrupts }

/-- Leaves files behind; one that cannot be made is passed over. -/
def leave (folder : Path) : List String → OnSite StandInSystem Unit
  | [] => return
  | file :: rest => do
    let _ ← OnSite.onDisk (Rehearsal.createAll folder [file])
    leave folder rest

/-- The variable by which a program knows the folder that it runs in. -/
def folderVariable (d : Disk) : String × String := ("PWD", "/" ++ "/".intercalate d.origin)

/-- Starts a stand-in for something other than its version. -/
def work (p : StandIn) (job : Launch) : OnSite StandInSystem Landing := do
  let (d, s) ← get
  let env := folderVariable (job.seen d) :: job.env ++ s.env
  let output := (p.preface env job.args).toUTF8 ++ p.output
  leave (job.folder.getD ⟨"."⟩) p.creates
  if p.killed then return .ended none output p.errors 0
  let first := runsScript job && !s.used.contains job.program
  if runsScript job then OnSite.outside (modify (p.afterScript job.program))
  return .ended (some (p.exitCode first)) output p.errors 0

def start (p : StandIn) (job : Launch) (limit : Option Nat) : OnSite StandInSystem Landing :=
  if job.args.head? = some "--version" then
    return .ended (some (p.versionExit % 256)) ByteArray.empty ByteArray.empty 0
  else if p.hangs && limit.isSome then return .overdue
  else p.work job

end StandIn

namespace StandInSystem

def hasNul (s : String) : Bool := s.toList.any (·.toNat == 0)

/-- Whether a system can be given the arguments and variables of a program. -/
def acceptable (job : Launch) : Bool :=
  !job.args.any hasNul && !job.env.any fun (name, v) => hasNul name || hasNul v

/-- The stand-in at a location. -/
def at? (s : StandInSystem) (l : Location) : Option StandIn :=
  if l.dropLast = s.folder then (s.programs.find? (some ·.1 == l.getLast?)).map (·.2) else none

/-- The stand-in that a launch leads to. -/
def find (s : StandInSystem) (d : Disk) (job : Launch) : Except DiskFault StandIn :=
  let folders := (Environment.get? (job.env ++ s.env) SearchPath.key).getD SearchPath.standard
  SearchPath.find (job.seen d) s.at? .missing (SearchPath.places folders job.program)

/-- The system as a host. -/
def host : Host StandInSystem where
  launch job limit := do
    let (d, s) ← get
    if !acceptable job then return .refused "nul byte found in provided data"
    match s.find d job with
    | .ok program => program.start job limit
    | .error fault => return .refused fault.message
  echo channel text := modify fun s => { s with shown := s.shown ++ [(channel, text)] }

end StandInSystem

end WidgetRepair
