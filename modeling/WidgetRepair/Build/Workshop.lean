import WidgetRepair.Build.Compile
import WidgetRepair.Repair.Chain

/-! The workshop of a real build: a disk, a store, and a package manager. -/

namespace WidgetRepair

namespace Deploy

/-- Copies a file into a folder; gives its new path. A copy that cannot be made is no fault of
the build. -/
def copyInto (target artifact : Path) : OnDisk (Option Path) := do
  match artifact.fileName? with
  | none => return none
  | some name =>
    OnDisk.makeFolders target
    OnDisk.copy artifact (target / name)
    return some (target / name)

/-- Where a file went. -/
def deployed : Except DiskFault (Option Path) → Option Path
  | .ok target => target
  | .error _ => none

end Deploy

namespace Workshop

variable {τ : Type}

/-- The workshop of the world. -/
def ofWorld (stamps : Stamps) (job : Job) (target : Option Path) (runner : Runner τ)
    (config : RunConfig) (chain : Chain (World τ)) (cancelled : StateM τ Bool)
    (announce : BuildEvent → StateM τ Unit) : Workshop (World τ) where
  cancelled := OnWorld.outside cancelled
  prepare := OnWorld.onDisk (OnDisk.makeFolders job.workFolder)
  trial attempt := OnWorld.onSite (Compile.trial runner config job.widget job.folder attempt)
  repair := chain.repair
  keep := OnWorld.learn stamps
  deploy artifact := do
    match target with
    | none => return none
    | some target => return Deploy.deployed (← OnWorld.onDisk (Deploy.copyInto target artifact))
  announce event := OnWorld.outside (announce event)

end Workshop

end WidgetRepair
