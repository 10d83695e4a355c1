import WidgetRepair.Runner.Basic

/-! A runner that starts nothing: it plays back prepared responses and writes down what it was
asked. -/

namespace WidgetRepair

/-- The first of some prepared things, and what is left of them: the last one is never used up. -/
def nextOf {α : Type} : List α → Option α × List α
  | [] => (none, [])
  | [a] => (some a, [a])
  | a :: rest => (some a, rest)

/-- What a prepared command does. -/
structure Response where
  exitCode : Int := 0
  output : String := ""
  errors : String := ""
  duration : Nat := 25
  /-- Empty files that it leaves in the folder of the project. -/
  creates : List String := []
  deriving DecidableEq, Repr, Inhabited

inductive RunnerCall where
  | install (folder : Path) (packages : List String) (dev : Bool)
  | script (folder : Path) (script : String)
  deriving DecidableEq, Repr

def RunnerCall.folder : RunnerCall → Path
  | install folder _ _ | script folder _ => folder

structure Rehearsal where
  installs : List Response := []
  scripts : List Response := []
  /-- The reason for which every call is refused. -/
  refusal : Option String := none
  available : Bool := true
  /-- The calls so far, with how they were to be run. -/
  calls : List (RunnerCall × RunConfig) := []
  deriving Repr, Inhabited

namespace Rehearsal

/-- The package lists of the installs so far. -/
def installed (r : Rehearsal) : List (List String) :=
  r.calls.filterMap fun
    | (.install _ packages _, _) => some packages
    | (.script .., _) => none

/-- The scripts that were run so far. -/
def ran (r : Rehearsal) : List String :=
  r.calls.filterMap fun
    | (.script _ script, _) => some script
    | (.install .., _) => none

/-- The rehearsal after a call, and the response to it. -/
def respond (r : Rehearsal) (call : RunnerCall) (config : RunConfig) :
    Except RunnerFault Response × Rehearsal :=
  let r := { r with calls := r.calls ++ [(call, config)] }
  match r.refusal with
  | some reason => (.error (.failed reason), r)
  | none =>
    match call with
    | .install .. =>
      let (response, rest) := nextOf r.installs
      (.ok (response.getD {}), { r with installs := rest })
    | .script .. =>
      let (response, rest) := nextOf r.scripts
      (.ok (response.getD {}), { r with scripts := rest })

/-- Leaves empty files behind. -/
def createAll (folder : Path) : List String → OnDisk Unit
  | [] => return
  | file :: rest => do
    let target := folder / file
    match target.parent? with
    | some around => OnDisk.makeFolders around
    | none => pure ()
    OnDisk.write target ByteArray.empty
    createAll folder rest

/-- A call on a rehearsal that is part of what is outside. -/
def call {τ : Type} (view : τ → Rehearsal) (change : Rehearsal → τ → τ) (call : RunnerCall)
    (command : String) (config : RunConfig) : OnSite τ (Except RunnerFault Execution) := do
  let (_, outside) ← get
  let (answer, r) := (view outside).respond call config
  OnSite.outside (modify (change r))
  match answer with
  | .error f => return .error f
  | .ok response =>
    match ← OnSite.onDisk (createAll call.folder response.creates) with
    | .error f => return .error (.disk f)
    | .ok _ =>
      return .ok {
        command := command
        exitCode := response.exitCode
        output := response.output
        errors := response.errors
        duration := response.duration }

/-- The runner of a rehearsal that is part of what is outside. -/
def runner {τ : Type} (view : τ → Rehearsal) (change : Rehearsal → τ → τ) : Runner τ where
  name := "mock"
  install folder packages dev config :=
    call view change (.install folder packages dev)
      (" ".intercalate (["mock", "install"] ++ packages)) config
  script folder script config :=
    call view change (.script folder script) ("mock run " ++ script) config

end Rehearsal

end WidgetRepair
