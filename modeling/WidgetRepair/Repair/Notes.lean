import WidgetRepair.Edit.Action
import WidgetRepair.Knowledge.Basic
import WidgetRepair.Repair.Basic

/-! Repairs by the notes that people left: those whose content is an edit. One that works becomes
a pattern. -/

namespace WidgetRepair.NoteRepair

variable {τ : Type}

def name : String := "knowledge"

/-- The most notes that are tried on a failure. -/
def limit : Nat := 5

/-- The edit that a note consists of. -/
def editOf? (content : String) : Option FixAction :=
  match Json.decode FixAction.read (Text.trimmed content) with
  | .ok (.fileEdit file search replace) => some (.fileEdit file search replace)
  | _ => none

/-- The titles and edits of the notes to try. Notes without an edit do not count. -/
def candidates (k : Knowledge) (diagnostic : String) : List (String × FixAction) :=
  ((k.search diagnostic k.entries.length).filterMap fun (e, _) =>
    (editOf? e.content).map fun fix => (e.title, fix)).take limit

/-- Tries edits one after the other until one changes something. -/
def tryEach (stamps : Stamps) (f : Failure) : List (String × FixAction) → OnWorld τ RepairOutcome
  | [] => return .declined name "no applicable knowledge entry"
  | (title, fix) :: rest => do
    match ← OnWorld.edit (Edit.perform f.folder fix) with
    | .ok ⟨true, _⟩ =>
      OnWorld.learn stamps ⟨f.diagnostic, title, fix⟩
      return .done name title
    | _ => tryEach stamps f rest

/-- The strategy of the notes. -/
def strategy (stamps : Stamps) (k : Knowledge) : Strategy (World τ) where
  name := name
  attempt f := tryEach stamps f (candidates k f.diagnostic)

end WidgetRepair.NoteRepair
