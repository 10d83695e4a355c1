import WidgetRepair.Disk.Basic
import WidgetRepair.Text.Blank
import WidgetRepair.Text.Lower

/-! The package managers that can install and build a widget, and how each of them is called. -/

namespace WidgetRepair

inductive PackageManager where
  | npm
  | pnpm
  | yarn
  deriving DecidableEq, Repr

namespace PackageManager

def all : List PackageManager := [npm, pnpm, yarn]

/-- The program of a manager. -/
def command : PackageManager → String
  | npm => "npm"
  | pnpm => "pnpm"
  | yarn => "yarn"

/-- The file in which a manager keeps the versions that it installed. -/
def lockfile : PackageManager → String
  | npm => "package-lock.json"
  | pnpm => "pnpm-lock.yaml"
  | yarn => "yarn.lock"

/-- The manager a person means. -/
def ofLooseName? (s : String) : Option PackageManager :=
  let wanted := Text.lowered (Text.trimmed s)
  all.find? (·.command == wanted)

/-- The manager whose lockfile lies in a folder. -/
def ofLockfile? (d : Disk) (folder : Path) : Option PackageManager :=
  all.find? fun m => d.exists? (folder / m.lockfile)

/-- What is said to install single packages. -/
def addVerb : PackageManager → String
  | npm => "install"
  | pnpm | yarn => "add"

/-- What is said when packages are only needed for development. -/
def devFlag : PackageManager → String
  | npm => "--save-dev"
  | pnpm => "-D"
  | yarn => "--dev"

/-- The arguments that install packages; without packages, all that the manifest names. -/
def installArgs (m : PackageManager) (packages : List String) (dev : Bool) : List String :=
  if packages.isEmpty then ["install"]
  else [m.addVerb] ++ (if dev then [m.devFlag] else []) ++ packages

/-- The arguments that run a script of the manifest. -/
def scriptArgs (script : String) : List String := ["run", script]

/-- A call as it is shown; an argument with a space stands between quotes. -/
def commandLine (m : PackageManager) (args : List String) : String :=
  m.command ++ String.join (args.map fun arg =>
    if arg.toList.contains ' ' then " '" ++ arg ++ "'" else " " ++ arg)

end PackageManager

end WidgetRepair
