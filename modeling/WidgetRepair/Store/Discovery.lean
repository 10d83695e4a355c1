import WidgetRepair.Disk.Basic

/-! Where the store of a project is found: in the file that the surroundings name, in the project,
in the settings of the user, or beside the program. -/

namespace WidgetRepair

/-- Variables of the environment; of several with one name the first counts. -/
abbrev Environment := List (String × String)

def Environment.get? (env : Environment) (name : String) : Option String :=
  (env.find? (·.1 == name)).map (·.2)

/-- A variable that is set to something. -/
def Environment.filled? (env : Environment) (name : String) : Option String :=
  (env.get? name).filter fun v => !v.isEmpty

namespace Discovery

def storeVariable : String := "WFORGE_NUCLEUS"

/-- The folder of a project's own data. -/
def dataFolder : Path := ⟨".wforge"⟩

def storeFile : String := "nucleus.json"

def knowledgeFile : String := "knowledge.jsonl"

def projectStore : Path := dataFolder / storeFile

/-- The folder of the user's settings. -/
def userFolder? (env : Environment) : Option Path :=
  match env.filled? "XDG_CONFIG_HOME", env.filled? "APPDATA" with
  | some folder, _ => some ⟨folder⟩
  | none, some folder => some ⟨folder⟩
  | none, none => (env.get? "HOME").map fun home => (Path.mk home) / ".config"

/-- The places of the store, the first one first. -/
def candidates (env : Environment) (program : Option Path) : List Path :=
  ((env.filled? storeVariable).map Path.mk).toList ++ [projectStore] ++
    ((userFolder? env).map fun folder => folder / "wforge" / storeFile).toList ++
    ((program.bind Path.parent?).map fun folder => folder / storeFile).toList

/-- Whether the folder of a file is there or could be made. -/
def preparable (p : Path) : StateM Disk Bool := do
  let (result, d) := (OnDisk.makeParent p).run (← get)
  set d
  return result.isOk

/-- The first place whose folder can be made. -/
def firstPreparable : List Path → StateM Disk (Option Path)
  | [] => return none
  | p :: rest => do if ← preparable p then return some p else firstPreparable rest

/-- The file of the store: the first that exists, or else the first that can be made. -/
def locate (env : Environment) (program : Option Path) : StateM Disk Path := do
  let places := candidates env program
  match places.find? (← get).isFile with
  | some p => return p
  | none => return (← firstPreparable places).getD projectStore

/-- The file of the knowledge that belongs to a store. -/
def knowledgeBeside (store : Path) : Path :=
  match store.parent? with
  | some folder => folder / knowledgeFile
  | none => ⟨knowledgeFile⟩

end Discovery

end WidgetRepair
