import WidgetRepair.Build.Workshop
import WidgetRepair.Command.Arguments
import WidgetRepair.Command.Console

/-! Building a widget and saying how it goes. -/

namespace WidgetRepair

/-- An event with the sign that it is shown with. -/
def BuildEvent.line (e : BuildEvent) : String :=
  let sign := match e with
    | started .. => "🔨 "
    | failed .. => "   ❌ "
    | repaired .. => "   🔧 "
    | noRepair _ | exhausted _ => "   ⚠️  "
    | succeeded .. | deployed _ => "   ✅ "
    | cancelled _ => "   ⏹  "
  sign ++ e.message

/-- What is said when somebody interrupts a build. -/
def interruptionLine : String := "⏹  Cancelling after the current step..."

namespace Surroundings

variable {τ α : Type}

/-- A step; says so if it was interrupted. -/
def watching (s : Surroundings τ) (job : OnSite τ α) : OnSite τ α := do
  let before ← OnSite.outside s.interrupted
  let result ← job
  if !before && (← OnSite.outside s.interrupted) then
    OnSite.outside (s.host.echo .errors interruptionLine)
  return result

/-- A runner that says when it was interrupted. -/
def watched (s : Surroundings τ) (r : Runner τ) : Runner τ where
  name := r.name
  install folder packages dev config := s.watching (r.install folder packages dev config)
  script folder script config := s.watching (r.script folder script config)

end Surroundings

namespace BuildArguments

variable {τ : Type}

/-- The widget that is to be built; what is doubtful about it is said. -/
def widget (s : Surroundings τ) (a : BuildArguments) : OnConsole τ Widget := do
  let w ← OnConsole.ofExcept (fun fault => .refused (.widgetFile a.file fault))
    (Widget.load (← OnConsole.disk) a.file)
  let findings := w.check
  s.say (findings.doubts.map fun doubt => "⚠️  " ++ doubt.message)
  if findings.valid then return w else OnConsole.refuse (.flawed findings.flaws)

/-- What is to be done. Arguments go before settings. -/
def job (settings : Settings) (a : BuildArguments) (w : Widget) : Job where
  widget := w
  workFolder := a.workFolder.getD settings.workFolderOr
  limit := a.limit.getD settings.limitOr

/-- The package manager that the settings prefer. -/
def preferred (settings : Settings) : Except Refusal (Option PackageManager) :=
  settings.manager.mapM fun name =>
    match PackageManager.ofLooseName? name with
    | some m => .ok m
    | none => .error (.unknownManager name)

/-- The runner of a package manager that is there. -/
def runner (s : Surroundings τ) (settings : Settings) (a : BuildArguments) :
    OnConsole τ (Runner τ) := do
  let preferred ← OnConsole.ofExcept .refused (preferred settings)
  let detected ← OnConsole.onSite (PackageManager.detect s.host preferred)
  let m ← OnConsole.ofExcept .runner detected
  return s.watched (Runner.ofHost s.host m a.dry)

def runConfig (settings : Settings) : RunConfig where
  timeout := settings.timeoutOr
  stream := true

/-- A build in the world that the store makes of a site. -/
def onSite {α : Type} (store : Store) (job : OnWorld τ α) : OnSite τ α := fun (d, t) =>
  let (a, w) := job { disk := d, store := store, outside := t }
  (a, w.disk, w.outside)

def builtLines (folder : Path) (artifact deployed : Option Path) (repairs : Nat) : List String :=
  ["", "✅ Widget built in " ++ folder.text] ++
    (artifact.map fun path => "   Package: " ++ path.text).toList ++
    (deployed.map fun path => "   Deployed: " ++ path.text).toList ++
    if repairs = 0 then [] else ["   Repaired with " ++ toString repairs ++ " fix(es)"]

/-- Says how a build ended. -/
def conclude (s : Surroundings τ) (r : Report) : OnConsole τ Unit := do
  match r.outcome with
  | .succeeded folder artifact deployed =>
    s.say (builtLines folder artifact deployed r.repairs.length)
  | .cancelled => throw .cancelled
  | outcome =>
    s.warn ["", r.summary]
    throw (.unbuilt outcome)

/-- A build that could not be started. -/
def complaint : BuildFault → Complaint
  | .invalidWidget reason => .refused (.widget reason)
  | fault => .build fault

def run (s : Surroundings τ) (settings : Settings) (a : BuildArguments) : OnConsole τ Unit := do
  let job := a.job settings (← a.widget s)
  if job.limit = 0 then OnConsole.refuse .noAttempts
  let runner ← a.runner s settings
  let store ← s.openStore settings
  let knowledge ← s.openKnowledge settings
  let assistant := s.assistant settings a.offline
  if assistant.online then s.say ["🤖 Language model available for generative fixes"]
  let config := runConfig settings
  let chain := Chain.standard s.stamps knowledge (some runner) config assistant
  let workshop := Workshop.ofWorld s.stamps job (a.target.or settings.target) runner config chain
    s.interrupted fun event => s.host.echo .output event.line
  let result ← OnConsole.onSite (onSite store (workshop.build job))
  conclude s (← OnConsole.ofExcept complaint result)

end BuildArguments

end WidgetRepair
