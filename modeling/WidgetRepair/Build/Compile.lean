import WidgetRepair.Build.Loop

/-! Generating the package of a widget and compiling it with a package manager. -/

namespace WidgetRepair.Compile

open Package

/-- The ending of a packed widget. -/
def artifactExtension : String := "mpk"

/-- The folder, below that of the package, that packed widgets are put into. -/
def artifactFolder : String := "dist"

def modulesFolder : String := "node_modules"

/-- After the first attempt, files that are there are kept, because they may carry repairs. -/
def mode (d : Disk) (folder : Path) (attempt : Nat) : Mode :=
  if attempt ≤ 1 || !d.exists? (folder / Manifest.fileName) then .fresh else .preserve

/-- The files below a path, in the order of their locations. -/
def filesBelow (d : Disk) (p : Path) : List Path :=
  match d.locate p with
  | .error _ => []
  | .ok l =>
    (d.below l).filterMap fun (other, entry) =>
      match entry with
      | .file _ => some (p / "/".intercalate (other.drop l.length))
      | .folder => none

/-- The first packed widget of a package. -/
def artifact? (d : Disk) (folder : Path) : Option Path :=
  (filesBelow d (folder / artifactFolder)).find? (·.extension? == some artifactExtension)

variable {τ : Type}

/-- A step of the package generator. -/
def onPackage {α : Type} (job : OnPackage α) : OnSite τ (Except PackageFault α) := fun (d, t) =>
  let (a, d) := (ExceptT.run job).run d
  (a, d, t)

/-- Installs what the package needs, unless something is installed; gives the run that failed. -/
def installed (runner : Runner τ) (config : RunConfig) (folder : Path) :
    OnSite τ (Except RunnerFault (Option Execution)) := do
  if (← OnSite.disk).exists? (folder / modulesFolder) then return .ok none
  match ← runner.install folder [] false config with
  | .error fault => return .error fault
  | .ok run => return .ok (if run.success then none else some run)

/-- Generates and compiles a widget. -/
def trial (runner : Runner τ) (config : RunConfig) (w : Widget) (folder : Path) (attempt : Nat) :
    OnSite τ (Except BuildFault Trial) := do
  match ← onPackage (generate w folder (mode (← OnSite.disk) folder attempt)) with
  | .error fault => return .error (.generation fault)
  | .ok _ =>
    match ← installed runner config folder with
    | .error fault => return .error (.runner fault)
    | .ok (some run) => return .ok (.failed run.combined)
    | .ok none =>
      match ← runner.build folder config with
      | .error fault => return .error (.runner fault)
      | .ok run =>
        if run.success then return .ok (.built (artifact? (← OnSite.disk) folder))
        else return .ok (.failed run.combined)

end WidgetRepair.Compile
