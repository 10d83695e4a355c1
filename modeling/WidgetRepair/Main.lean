import Std.Time.DateTime.Timestamp
import WidgetRepair.Command.Run
import WidgetRepair.Disk.Change
import WidgetRepair.Store.Identity

/-! The program. It brings in the files that a command may ask for, runs the command on them and
writes back what has changed. Other programs and providers of language models are out of its
reach, so a build ends where it needs the first of them. -/

namespace WidgetRepair.Main

/-- What a run says, in order. -/
abbrev Transcript := List (Channel × String)

def host : Host Transcript where
  launch _ _ := return .refused "other programs are out of reach"
  echo channel line := modify (· ++ [(channel, line)])

def transport : LanguageModel.Transport Transcript where
  send _ := return .lost "providers are out of reach"
  wait _ := return

/-- The variables that a run depends on. -/
def variableNames : List String :=
  [Command.settingsVariable, Settings.workFolderVariable, Settings.limitVariable,
    LanguageModel.modelVariable, Provider.openAI.keyVariable, Provider.anthropic.keyVariable,
    Discovery.storeVariable, "XDG_CONFIG_HOME", "APPDATA", "HOME"]

/-- The files that a run may ask for before its settings are known. -/
def firstPlaces (env : Environment) (program : Option Path) (words : List String) : List Path :=
  let stores := Discovery.candidates env program
  Settings.file :: (words ++ env.map (·.2)).map Path.mk ++ stores ++
    stores.map Discovery.knowledgeBeside

/-- The files that settings lead to. -/
def settledPlaces (s : Settings) : List Path :=
  s.store.toList ++ (s.store.map Discovery.knowledgeBeside).toList ++ s.knowledge.toList

/-- The files that the settings of a run lead to, where there are settings. -/
def laterPlaces (d : Disk) (env : Environment) (words : List String) : List Path :=
  match Command.ofWords env words with
  | .ok (_, named) => ((Settings.load d env named).toOption.map settledPlaces).getD []
  | .error _ => []

/-- What is at a path. -/
def find? (p : Path) : IO (Option Entry) := do
  try return some (.file (← IO.FS.readBinFile p.text))
  catch
    | .inappropriateType _ 21 _ => return some .folder
    | _ => return none

/-- The disk with what is at a path. -/
def bringIn (d : Disk) (p : Path) : IO Disk := do
  match ← find? p with
  | some .folder => return ((OnDisk.makeFolders p).run d).2
  | some (.file content) =>
    return ((do OnDisk.makeParent p; OnDisk.write p content : OnDisk Unit).run d).2
  | none => return d

/-- The disk with what is at some paths and around them. -/
def bringInAll (d : Disk) (places : List Path) : IO Disk :=
  (places.flatMap (·.ancestors.reverse)).foldlM bringIn d

/-- Puts a file into place; up to the last step the old one stands. -/
def putFile (path : String) (content : ByteArray) : IO Unit := do
  let draft := path ++ ".part"
  IO.FS.writeBinFile draft content
  IO.FS.rename draft path

/-- Makes a change. A folder that is no longer empty needs nothing to be done. -/
def carryOut : String × Change → IO Unit
  | (path, change) => do
    let path := "/" ++ path
    match change with
    | .removed => if !path.endsWith "/" then IO.FS.removeFile path
    | .emptyFolder => IO.FS.createDirAll path
    | .file content =>
      match (Path.mk path).parent? with
      | some around => IO.FS.createDirAll around.text
      | none => pure ()
      putFile path content

def stamps : IO Stamps := do
  let now ← Std.Time.Timestamp.now
  let seconds := now.toSecondsSinceUnixEpoch.val
  let nanos := now.toNanosecondsSinceUnixEpoch.val - seconds * 1000000000
  let seed := LearnedId.seedOf (← IO.getRandomBytes 16).toList
  return fun n => ⟨⟨seconds, nanos.toNat⟩, LearnedId.text seed n⟩

def environment : IO Environment :=
  variableNames.filterMapM fun name => return (← IO.getEnv name).map fun v => (name, v)

def speak : Channel × String → IO Unit
  | (.output, line) => do (← IO.getStdout).putStrLn line
  | (.errors, line) => do (← IO.getStderr).putStrLn line

def run (words : List String) : IO UInt32 := do
  let env ← environment
  let program := Path.mk (← IO.appPath).toString
  let folder := Path.mk (← IO.currentDir).toString
  let start := ((OnDisk.makeFolders folder).run Disk.empty).2
  let start := { start with origin := (start.locate folder).toOption.getD [] }
  let start ← bringInAll start (firstPlaces env (some program) words)
  let start ← bringInAll start (laterPlaces start env words)
  let surroundings : Surroundings Transcript :=
    { env := env
      program := some program
      stamps := ← stamps
      host := host
      transport := transport
      interrupted := return false }
  let (code, after, said) := (Command.run surroundings words).run (start, [])
  (start.changes after []).forM carryOut
  said.forM speak
  return code.toUInt32

end WidgetRepair.Main

def main (words : List String) : IO UInt32 := WidgetRepair.Main.run words
