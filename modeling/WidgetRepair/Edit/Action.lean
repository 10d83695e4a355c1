import WidgetRepair.Edit.Scripts
import WidgetRepair.Pattern.Action

/-! Carrying out repairs. Only edits and scripts change anything; the rest is said to the
user. -/

namespace WidgetRepair.Edit

/-- What came of a repair. -/
structure Report where
  applied : Bool
  detail : String
  deriving DecidableEq, Repr

/-- Carries out a repair on a widget. -/
def perform (folder : Path) (action : FixAction) : OnEdit Report := do
  match action with
  | .fileEdit file search replace =>
    let changed ← editFiles folder file search replace
    if changed.isEmpty then
      return ⟨false, "no file matching " ++ file ++ " needed changes"⟩
    return ⟨true, "edited " ++ toString changed.length ++ " file(s) matching " ++ file⟩
  | .configChange scripts =>
    let added ← ensureScripts folder scripts
    if added.isEmpty then return ⟨false, "all scripts already present"⟩
    return ⟨true, "added scripts: " ++ ", ".intercalate added⟩
  | .dependencyAdd .. =>
    match action.installCommand? with
    | some command => return ⟨false, "run `" ++ command ++ "`"⟩
    | none => return ⟨false, "install the missing dependency"⟩
  | .manual instructions => return ⟨false, "manual: " ++ instructions⟩

end WidgetRepair.Edit
