import WidgetRepair.Disk.Basic
import WidgetRepair.Package.Definition
import WidgetRepair.Package.Manifest
import WidgetRepair.Package.Placeholder
import WidgetRepair.Package.Templates
import WidgetRepair.Package.Typings
import WidgetRepair.Widget.Document

/-! The files of a widget's package and how they get into a folder. -/

namespace WidgetRepair.Package

/-- The values that templates can ask for, by name. -/
def values (w : Widget) : Placeholder.Values := [
  ("category", w.category),
  ("company", w.company),
  ("company_path", Text.substitute w.company "." "/"),
  ("component_name", w.componentName),
  ("description", w.description),
  ("display_name", w.displayName),
  ("package_name", w.packageName),
  ("version", Manifest.packageVersion)]

/-- Templates by the path they are rendered to. -/
def templates (w : Widget) : List (Path × String) :=
  let component := w.componentName
  [(⟨"tsconfig.json"⟩, Templates.compilerSettings),
    (⟨".gitignore"⟩, Templates.ignored),
    (⟨"src/package.xml"⟩, Templates.contents),
    (⟨"src/" ++ component ++ ".tsx"⟩, Templates.componentSource),
    (⟨"src/" ++ component ++ ".editorConfig.ts"⟩, Templates.editorConfig),
    (⟨"src/ui/" ++ component ++ ".css"⟩, Templates.styleSheet)]

/-- Every file of the package with its path from the package's folder. -/
def files (w : Widget) : List (Path × String) :=
  [(⟨Manifest.fileName⟩, Manifest.render w)] ++
    (templates w).map (fun (path, text) => (path, Placeholder.render text (values w))) ++
    [(⟨"src/" ++ w.componentName ++ ".xml"⟩, Definition.render w),
      (⟨"typings/" ++ w.componentName ++ "Props.d.ts"⟩, Typings.render w)]

/-- Why the files of a widget cannot be rendered. -/
inductive RenderFault where
  | description (fault : WidgetFault)
  /-- A template has placeholders that there is no value for. -/
  | unresolved (path : Path) (names : List String)
  deriving DecidableEq, Repr

def RenderFault.message : RenderFault → String
  | description fault => "Spec error: " ++ fault.message
  | unresolved path names =>
    "Template rendering failed: " ++ path.text ++ ": unresolved " ++ ", ".intercalate names

/-- Why a package cannot be generated. -/
inductive PackageFault where
  | notFolder (path : Path)
  | widget (fault : RenderFault)
  | disk (fault : DiskFault)
  deriving DecidableEq, Repr

def PackageFault.message : PackageFault → String
  | notFolder path => "Output path is not a directory: " ++ path.text
  | widget fault => fault.message
  | disk fault => "IO error: " ++ fault.message

/-- Refuses a template that asks for a value there is none of. -/
def checkTemplate (w : Widget) (template : Path × String) : Except PackageFault Unit :=
  let missing := Placeholder.unresolved template.2 (values w)
  if missing.isEmpty then .ok () else .error (.widget (.unresolved template.1 missing))

/-- The files of a widget that has a name left to build under, where every template can be filled. -/
def render (w : Widget) : Except PackageFault (List (Path × String)) := do
  if !w.runnable then throw (.widget (.description .missingName))
  (templates w).forM (checkTemplate w)
  return files w

/-- What becomes of files that are there already. -/
inductive Mode where
  | fresh
  | preserve
  deriving DecidableEq, Repr

structure Generated where
  folder : Path
  written : List Path := []
  preserved : List Path := []
  deriving DecidableEq, Repr

/-- A computation on the disk that can fail for reasons of the package. -/
abbrev OnPackage := ExceptT PackageFault (StateM Disk)

def onDisk {α : Type} (job : OnDisk α) : OnPackage α := ExceptT.adapt .disk job

/-- Puts one file in place, unless it is there and is to be kept. -/
def place (folder : Path) (mode : Mode) (done : Generated) (file : Path × String) :
    OnPackage Generated := do
  let (path, content) := file
  let target := folder / path.text
  if mode == .preserve && (← get).exists? target then
    return { done with preserved := done.preserved ++ [path] }
  onDisk do
    match target.parent? with
    | some around => OnDisk.makeFolders around
    | none => pure ()
    OnDisk.writeText target content
  return { done with written := done.written ++ [path] }

/-- Writes the package of a widget into a folder. -/
def generate (w : Widget) (folder : Path) (mode : Mode) : OnPackage Generated := do
  let d ← get
  if d.exists? folder && !d.isFolder folder then throw (.notFolder folder)
  onDisk (OnDisk.makeFolders folder)
  let all ← (render w : Except PackageFault _)
  all.foldlM (place folder mode) { folder := folder }

end WidgetRepair.Package
