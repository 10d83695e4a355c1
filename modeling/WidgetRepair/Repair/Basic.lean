import WidgetRepair.Edit.Basic
import WidgetRepair.Runner.Basic
import WidgetRepair.Store.Update
import WidgetRepair.Widget.Basic

/-! Repairing a widget whose build has failed. A strategy looks at the failure and may change the
widget; it never fails itself, but says why it changed nothing. -/

namespace WidgetRepair

/-- A build that failed. -/
structure Failure where
  diagnostic : String
  /-- The folder of the widget's package. -/
  folder : Path
  widget : Widget
  deriving DecidableEq, Repr

/-- A repair that is worth keeping once the build succeeds. -/
structure Lesson where
  error : String
  description : String
  fix : FixAction
  deriving DecidableEq, Repr

/-- What came of a strategy. -/
structure RepairOutcome where
  applied : Bool
  /-- What was done, or what is suggested instead. -/
  description : String
  strategy : String
  /-- The pattern that was carried out. -/
  patternId : Option String := none
  lesson : Option Lesson := none
  deriving DecidableEq, Repr

namespace RepairOutcome

def done (strategy description : String) : RepairOutcome where
  applied := true
  description := description
  strategy := strategy

def declined (strategy description : String) : RepairOutcome where
  applied := false
  description := description
  strategy := strategy

end RepairOutcome

/-- A source of repairs, in a surrounding state. -/
structure Strategy (σ : Type) where
  name : String
  attempt : Failure → StateM σ RepairOutcome

/-- The disk, the store, and what else there is outside. -/
structure World (τ : Type) where
  disk : Disk
  store : Store
  /-- The number of ids that new patterns have been given. -/
  given : Nat := 0
  outside : τ

/-- The moments and ids to come, by the number of ids given before. -/
abbrev Stamps := Nat → Stamp

abbrev OnWorld (τ : Type) := StateM (World τ)

namespace OnWorld

variable {τ α : Type}

def disk : OnWorld τ Disk := do return (← get).disk

def store : OnWorld τ Store := do return (← get).store

/-- A step outside of disk and store. -/
def outside (job : StateM τ α) : OnWorld τ α := fun w =>
  let (a, t) := job w.outside
  (a, { w with outside := t })

/-- A step that leaves the store alone. -/
def onSite (job : OnSite τ α) : OnWorld τ α := fun w =>
  let (a, d, t) := job (w.disk, w.outside)
  (a, { w with disk := d, outside := t })

/-- An edit of a widget. -/
def edit (job : OnEdit α) : OnWorld τ (Except EditFault α) := fun w =>
  let (a, d) := (ExceptT.run job).run w.disk
  (a, { w with disk := d })

def onDisk (job : OnDisk α) : OnWorld τ (Except DiskFault α) := fun w =>
  let (a, d) := job.run w.disk
  (a, { w with disk := d })

/-- A change of the store. An id that is not used is kept for the next change. -/
def change (stamps : Stamps) (job : Stamp → OnStore α) : OnWorld τ (Except StoreFault α) :=
  fun w =>
    let (a, s, d) := (job (stamps w.given)).run w.store w.disk
    let given := if s.patterns.length = w.store.patterns.length then w.given else w.given + 1
    (a, { w with disk := d, store := s, given := given })

/-- Takes down how trying a pattern ended. A store that cannot be written keeps it in memory. -/
def recordOutcome (stamps : Stamps) (id : String) (success : Bool) : OnWorld τ Unit := do
  let _ ← change stamps fun stamp => OnStore.recordOutcome id success stamp.now

/-- Takes down a repair that worked. -/
def learn (stamps : Stamps) (lesson : Lesson) : OnWorld τ Unit := do
  let _ ← change stamps fun stamp =>
    OnStore.learn lesson.error lesson.description lesson.fix true stamp

end OnWorld

end WidgetRepair
