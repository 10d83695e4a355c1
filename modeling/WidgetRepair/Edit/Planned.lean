import WidgetRepair.Assist.Plan
import WidgetRepair.Edit.Basic
import WidgetRepair.Pattern.Action

/-! Edits from a plan. Each names one file, which has to lie inside the widget. -/

namespace WidgetRepair.Edit

/-- The file that a plan means; it has to be named from the root of the widget downwards. -/
def inside (folder : Path) (file : String) : Except EditFault Path :=
  let escapes := (Path.mk file).parts.any fun
    | .name _ | .here => false
    | .root | .up => true
  if file.isEmpty || escapes then .error (.outside file) else .ok (folder / file)

/-- `addition` behind a text that does not hold it yet, on a line of its own. -/
def appended? (content addition : String) : Option String :=
  if Text.contains content (Text.trimmed addition) then none
  else
    let gap := if content.isEmpty || content.toList.getLast? = some '\n' then "" else "\n"
    some (content ++ gap ++ addition)

/-- What an edit makes of the content of its file. -/
def plannedContent (e : PlannedEdit) (content payload : String) :
    Except EditFault (Option String) :=
  match e.kind with
  | .replace =>
    match e.search.filter fun s => !s.isEmpty with
    | none => .error (.noSearch e.file)
    | some search =>
      if Text.contains content search then .ok (some (Text.substitute content search payload))
      else .ok none
  | .prepend => .ok (prepended? content payload)
  | .append => .ok (appended? content payload)
  | .create => .ok none

/-- Writes a whole file with its folder, unless it holds just that already. -/
def create (target : Path) (payload : String) : OnEdit Bool := do
  if ((← get).readText target).toOption = some payload then return false
  onDisk do
    match target.parent? with
    | some around => OnDisk.makeFolders around
    | none => pure ()
    OnDisk.writeText target payload
  return true

/-- Carries out an edit; tells whether its file changed. -/
def performPlanned (folder : Path) (e : PlannedEdit) : OnEdit Bool := do
  let target ← (inside folder e.file : Except EditFault _)
  match e.payload? with
  | none => fail (.noContent e.file)
  | some payload =>
    if e.kind = .create then create target payload
    else if !(← get).isFile target then return false
    else
      let content ← onDisk (OnDisk.lift (·.readText target))
      let new ← (plannedContent e content payload : Except EditFault _)
      putNew target content new

/-- The repair that does the same as an edit, where there is one. Its file is named from the
folder of the sources. -/
def actionOf? (d : Disk) (folder : Path) (e : PlannedEdit) : Option FixAction := do
  let file := if d.isFolder (folder / "src") then
      match Text.after? "src/".toList e.file.toList with
      | some rest => String.ofList rest
      | none => e.file
    else e.file
  let payload ← e.payload?
  match e.kind with
  | .replace => return .fileEdit file (← e.search) payload
  | .prepend => return .prepend file payload
  | .append | .create => none

end WidgetRepair.Edit
