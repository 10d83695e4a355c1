import WidgetRepair.Disk.Basic

/-! Where programs are looked for: in the folders of a search path, one after the other, from the
folder that the program is to run in. -/

namespace WidgetRepair.SearchPath

/-- The variable that holds the folders. -/
def key : String := "PATH"

/-- The folders where nothing is said about them. -/
def standard : String := "/bin:/usr/bin"

/-- The places of a program. A folder without a name is the one to run in. -/
def places (folders program : String) : List Path :=
  (Text.splitWhere (· == ':') folders.toList).map fun folder =>
    if folder.isEmpty then ⟨program⟩ else ⟨String.ofList folder ++ "/" ++ program⟩

/-- The program in the first place that has one. Without any, the last place tells the reason, but
something that is no program and stands in its place goes before. -/
def find {α : Type} (d : Disk) (program? : Location → Option α) (reason : DiskFault) :
    List Path → Except DiskFault α
  | [] => .error reason
  | p :: rest =>
    let further (fault : DiskFault) :=
      find d program? (if reason = .denied then reason else fault) rest
    match d.locate p with
    | .ok l =>
      match program? l with
      | some program => .ok program
      | none => further (if (d.get? l).isSome then .denied else .missing)
    | .error .missing => further .missing
    | .error .notFolder => further .notFolder
    | .error fault => .error fault

end WidgetRepair.SearchPath
