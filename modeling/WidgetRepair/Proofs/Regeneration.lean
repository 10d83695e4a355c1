import WidgetRepair.Build.Workshop
import WidgetRepair.Proofs.LoopScript
import WidgetRepair.Proofs.PackageRenewal

/-! Repairs survive the next attempt. The package is generated anew before each run of the package
manager, but after the first attempt only files that are missing are written. -/

namespace WidgetRepair

open Package

section Watched

variable {τ : Type}

/-- A step that writes down the disk it begins with. -/
def OnSite.watched {α : Type} (job : OnSite τ α) : OnSite (τ × List Disk) α := fun (d, t, seen) =>
  let (a, after, u) := job (d, t)
  (a, after, u, seen ++ [d])

/-- The runner that writes down every disk it is called on. -/
def Runner.watched (r : Runner τ) : Runner (τ × List Disk) where
  name := r.name
  install folder packages dev config := OnSite.watched (r.install folder packages dev config)
  script folder script config := OnSite.watched (r.script folder script config)

/-- States that differ only in what was written down. -/
def Watches (seen : Disk × τ × List Disk) (s : Disk × τ) : Prop := seen.1 = s.1 ∧ seen.2.1 = s.2

theorem watched_relates {α : Type} (job : OnSite τ α) :
    Workshop.Relates Watches (OnSite.watched job) job := by
  rintro ⟨d, t, seen⟩ _ ⟨rfl, rfl⟩
  exact ⟨rfl, rfl, rfl⟩

namespace Compile

variable (runner : Runner τ) (config : RunConfig) (folder : Path)

/-- Packing a widget, unless installing what it needs has failed. -/
def packed : Except RunnerFault (Option Execution) → OnSite τ (Except BuildFault Trial)
  | .error fault => return .error (.runner fault)
  | .ok (some run) => return .ok (.failed run.combined)
  | .ok none => do
    match ← runner.build folder config with
    | .error fault => return .error (.runner fault)
    | .ok run =>
      if run.success then return .ok (.built (artifact? (← OnSite.disk) folder))
      else return .ok (.failed run.combined)

/-- Compiling a package that was generated. -/
def compile : OnSite τ (Except BuildFault Trial) := do packed runner config folder (← installed runner config folder)

theorem disk_relates : Workshop.Relates (Watches (τ := τ)) OnSite.disk OnSite.disk := by
  rintro ⟨d, t, seen⟩ _ ⟨rfl, rfl⟩
  exact ⟨rfl, rfl, rfl⟩

theorem installed_relates : Workshop.Relates Watches (installed runner.watched config folder)
    (installed runner config folder) := by
  apply disk_relates.bind
  intro d
  split
  · exact .pure _
  · apply (watched_relates _).bind
    intro result
    cases result <;> exact .pure _

theorem compile_relates :
    Workshop.Relates Watches (compile runner.watched config folder) (compile runner config folder) := by
  apply (installed_relates runner config folder).bind
  intro result
  match result with
  | .error fault | .ok (some run) => exact .pure _
  | .ok none =>
    apply (watched_relates _).bind
    intro result
    cases result with
    | error fault => exact .pure _
    | ok run =>
      dsimp only
      split
      · exact disk_relates.bind fun _ => .pure _
      · exact .pure _

theorem packed_met (d : Disk) (t : τ) (seen : List Disk) :
    (packed runner.watched config folder (.ok none) (d, t, seen)).2.2.2 = seen ++ [d] := by
  have built : (runner.watched.build folder config (d, t, seen)).2.2.2 = seen ++ [d] := rfl
  rw [packed, stateM_bind]
  generalize runner.watched.build folder config (d, t, seen) = ran at built ⊢
  obtain ⟨result, s⟩ := ran
  cases result with
  | error fault => exact built
  | ok run =>
    dsimp only
    split
    · exact built
    · exact built

theorem packed_failed {result : Except RunnerFault (Option Execution)} (failed : result ≠ .ok none)
    (s : Disk × τ × List Disk) : (packed runner.watched config folder result s).2 = s := by
  match result with
  | .error fault | .ok (some run) => rfl
  | .ok none => exact absurd rfl failed

theorem installed_met {d : Disk} (missing : ¬ d.exists? (folder / modulesFolder) = true) (t : τ) :
    (installed runner.watched config folder (d, t, [])).2.2.2 = [d] := by
  have ran : (runner.watched.install folder [] false config (d, t, [])).2.2.2 = [d] := rfl
  have here : OnSite.disk (d, t, ([] : List Disk)) = (d, d, t, []) := rfl
  unfold installed
  rw [stateM_bind, here]
  dsimp only
  rw [if_neg missing, stateM_bind]
  generalize runner.watched.install folder [] false config (d, t, []) = attempted at ran ⊢
  obtain ⟨result, s⟩ := attempted
  cases result <;> exact ran

/-- The disk on which a package is compiled is the first one that the runner finds. -/
theorem compile_met (d : Disk) (t : τ) :
    ∃ more, (compile runner.watched config folder (d, t, [])).2.2.2 = d :: more := by
  unfold compile
  rw [stateM_bind]
  by_cases modules : d.exists? (folder / modulesFolder) = true
  · have found : installed runner.watched config folder (d, t, []) = (.ok none, d, t, []) := by
      unfold installed
      exact congrFun (if_pos modules) _
    rw [found]
    exact ⟨[], packed_met runner config folder d t []⟩
  · have met := installed_met runner config folder modules t
    generalize installed runner.watched config folder (d, t, []) = installation at met ⊢
    obtain ⟨result, after, u, seen⟩ := installation
    obtain rfl : seen = [d] := met
    by_cases fine : result = .ok none
    · rw [fine, packed_met]
      exact ⟨[after], rfl⟩
    · rw [packed_failed runner config folder fine]
      exact ⟨[], rfl⟩

/-- A trial whose package cannot be generated calls no runner; any other one compiles the package. -/
theorem trial_cases (w : Widget) (number : Nat) (d : Disk) (t : τ) :
    let generated := (generate w folder (mode d folder number)).run d
    (∃ fault, generated.1 = .error fault ∧ trial runner config w folder number (d, t) =
      (.error (.generation fault), generated.2, t)) ∨
    ∃ g, generated.1 = .ok g ∧
      trial runner config w folder number (d, t) = compile runner config folder (generated.2, t) := by
  intro generated
  unfold trial
  rw [stateM_bind, stateM_bind]
  have ran : (onPackage (generate w folder (mode d folder number)) : OnSite τ _) (d, t) =
      (generated.1, generated.2, t) := rfl
  have looked : (OnSite.disk : OnSite τ Disk) (d, t) = (d, d, t) := rfl
  rw [looked, ran]
  dsimp only
  cases generated.1 with
  | error fault => exact .inl ⟨fault, rfl, rfl⟩
  | ok g => exact .inr ⟨g, rfl, rfl⟩

end Compile

def LoopCall.started? : LoopCall → Option Nat
  | announced (.started number _) => some number
  | _ => none

theorem announced_of_started {call : LoopCall} {number : Nat} (started : call.started? = some number) :
    ∃ limit, call = .announced (.started number limit) := by
  unfold LoopCall.started? at started
  split at started
  next limit =>
    cases started
    exact ⟨limit, rfl⟩
  next => cases started

/-- What comes after the announcement of an attempt. -/
inductive Attempted (number : Nat) : List LoopCall → Prop where
  | unprepared (fault : DiskFault) (later : List LoopCall) : Attempted number (.prepared (.error fault) :: later)
  | tried (result : Except BuildFault Trial) (later : List LoopCall) :
    Attempted number (.prepared (.ok ()) :: .tried number result :: later)

def AllAttempted : List LoopCall → Prop
  | [] => True
  | call :: rest => (∀ number, call.started? = some number → Attempted number rest) ∧ AllAttempted rest

theorem AllAttempted.behind {before later : List LoopCall} {call : LoopCall} {number : Nat}
    (all : AllAttempted (before ++ call :: later)) (started : call.started? = some number) :
    Attempted number later := by
  induction before with
  | nil => exact all.1 number started
  | cons first before ih => exact ih all.2

/-- Calls that announce no attempt. -/
theorem AllAttempted.quiet {calls rest : List LoopCall} (quiet : ∀ call ∈ calls, call.started? = none)
    (attempted : AllAttempted rest) : AllAttempted (calls ++ rest) := by
  induction calls with
  | nil => exact attempted
  | cons call calls ih =>
    obtain ⟨first, quiet⟩ := List.forall_mem_cons.mp quiet
    refine ⟨fun number started => ?_, ih quiet⟩
    rw [first] at started
    cases started

theorem AllAttempted.attempt {job : Job} {number : Nat} {trial rest : List LoopCall} {result : Trial}
    (script : TrialScript number trial result) (attempted : AllAttempted rest) :
    AllAttempted (attemptCalls job number trial ++ rest) := by
  have nothing {call : LoopCall} (quiet : call.started? = none) (later : List LoopCall) (n : Nat)
      (started : call.started? = some n) : Attempted n later := by
    rw [quiet] at started
    cases started
  cases script with
  | unprepared fault diagnostic =>
    refine ⟨nothing rfl _, fun n started => ?_, nothing rfl _, attempted⟩
    cases started
    exact .unprepared fault rest
  | faulty fault =>
    refine ⟨nothing rfl _, fun n started => ?_, nothing rfl _, nothing rfl _, attempted⟩
    cases started
    exact .tried _ rest
  | made =>
    refine ⟨nothing rfl _, fun n started => ?_, nothing rfl _, nothing rfl _, attempted⟩
    cases started
    exact .tried _ rest

theorem AllAttempted.of_quiet {calls : List LoopCall} (quiet : ∀ call ∈ calls, call.started? = none) :
    AllAttempted calls := by
  have attempted : AllAttempted (calls ++ []) := .quiet quiet trivial
  rwa [List.append_nil] at attempted

theorem DeployScript.quiet {deploys : List LoopCall} (script : DeployScript deploys) :
    ∀ call ∈ deploys, call.started? = none := by
  cases script with
  | nothing => exact List.forall_mem_nil _
  | refused => exact List.forall_mem_singleton.mpr rfl
  | deployed => exact List.forall_mem_cons.mpr ⟨rfl, List.forall_mem_singleton.mpr rfl⟩

theorem failureCalls_quiet {job : Job} {number : Nat} {diagnostic : String} {outcome : RepairOutcome}
    {event : BuildEvent} (quiet : (LoopCall.announced event).started? = none) :
    ∀ call ∈ failureCalls job number diagnostic outcome event, call.started? = none := by
  unfold failureCalls
  simp only [List.forall_mem_cons, List.not_mem_nil, false_implies, implies_true, and_true]
  exact ⟨rfl, rfl, rfl, quiet⟩

theorem Script.allAttempted {job : Job} {left number : Nat} {lessons : List Lesson} {calls : List LoopCall}
    {good : Bool} (script : Script job left number lessons calls good) : AllAttempted calls := by
  induction script with
  | usedUp => exact .of_quiet (List.forall_mem_singleton.mpr rfl)
  | calledOff => exact .of_quiet (List.forall_mem_cons.mpr ⟨rfl, List.forall_mem_singleton.mpr rfl⟩)
  | succeeded built deploying =>
    refine .attempt built (.quiet ?_ (.of_quiet (List.forall_mem_cons.mpr ⟨rfl, deploying.quiet⟩)))
    intro call member
    obtain ⟨lesson, -, rfl⟩ := List.mem_map.mp member
    rfl
  | calledOffAfter failed =>
    refine .attempt failed (.of_quiet ?_)
    exact List.forall_mem_cons.mpr ⟨rfl, List.forall_mem_cons.mpr ⟨rfl, List.forall_mem_singleton.mpr rfl⟩⟩
  | declined failed => exact .attempt failed (.of_quiet (failureCalls_quiet rfl))
  | repaired failed _ _ ih => exact .attempt failed (.quiet (failureCalls_quiet rfl) ih)

theorem BuildScript.allAttempted {job : Job} {calls : List LoopCall} {good : Bool}
    (script : BuildScript job calls good) : AllAttempted calls := by
  cases script with
  | refused => trivial
  | ran script => exact script.allAttempted

/-- A trial that begins when an attempt is announced, with the disks that the runner is called on. -/
def watchedTrial (runner : Runner τ) (config : RunConfig) (job : Job) (number : Nat) (start : World τ) :
    Except BuildFault Trial × Disk × τ × List Disk :=
  Compile.trial runner.watched config job.widget job.folder number
    (((OnDisk.makeFolders job.workFolder).run start.disk).2, start.outside, [])

/-- Files stay what they were, and files of the package that are missing are added. -/
structure SparesRepairs (job : Job) (before found : Disk) : Prop where
  spared : ∀ l content, before.file? l = some content → found.file? l = some content
  added : ∀ f ∈ files job.widget, before.exists? (job.folder / f.1.text) = false →
    found.read (job.folder / f.1.text) = .ok f.2.toUTF8

/-- How an attempt goes on once it is announced, by the first disk on which it calls the runner. -/
inductive Regenerates (runner : Runner τ) (config : RunConfig) (job : Job) (number : Nat) (start : World τ) :
    List LoopCall → Prop where
  | unprepared (fault : DiskFault) (later : List LoopCall) :
    Regenerates runner config job number start (.prepared (.error fault) :: later)
  | ungenerated (fault : PackageFault) (later : List LoopCall)
    (same : (watchedTrial runner config job number start).1 = .error (.generation fault))
    (unmet : (watchedTrial runner config job number start).2.2.2 = []) :
    Regenerates runner config job number start
      (.prepared (.ok ()) :: .tried number (.error (.generation fault)) :: later)
  | compiled {result : Except BuildFault Trial} {found : Disk} {more : List Disk} (later : List LoopCall)
    (same : (watchedTrial runner config job number start).1 = result)
    (met : (watchedTrial runner config job number start).2.2.2 = found :: more)
    (fresh : number ≤ 1 → ∀ f ∈ files job.widget, found.read (job.folder / f.1.text) = .ok f.2.toUTF8)
    (spares : 1 < number → start.disk.exists? (job.folder / Manifest.fileName) = true →
      SparesRepairs job start.disk found) :
    Regenerates runner config job number start (.prepared (.ok ()) :: .tried number result :: later)

theorem onPackage_relates {α : Type} (generation : OnPackage α) : Workshop.Relates (Watches (τ := τ))
    (Compile.onPackage generation) (Compile.onPackage generation) := by
  rintro ⟨d, t, seen⟩ _ ⟨rfl, rfl⟩
  exact ⟨rfl, rfl, rfl⟩

theorem trial_relates (runner : Runner τ) (config : RunConfig) (w : Widget) (folder : Path) (number : Nat) :
    Workshop.Relates Watches (Compile.trial runner.watched config w folder number)
      (Compile.trial runner config w folder number) := by
  apply Compile.disk_relates.bind
  intro d
  apply (onPackage_relates _).bind
  intro generated
  cases generated with
  | error fault => exact .pure _
  | ok g => exact Compile.compile_relates runner config folder

/-- A trial calls no runner, or first on a disk on which the package has been renewed. -/
theorem trial_met (runner : Runner τ) (config : RunConfig) (w : Widget) (folder : Path) (number : Nat)
    {d : Disk} (t : τ) (tree : d.IsTree)
    (opened : Compile.mode d folder number = .preserve → d.Opened folder) :
    (∃ fault u after, Compile.trial runner.watched config w folder number (d, t, []) =
      (.error (.generation fault), after, u, [])) ∨
    ∃ found more, (Compile.trial runner.watched config w folder number (d, t, [])).2.2.2 = found :: more ∧
      Renewed (Compile.mode d folder number) folder (files w) d found := by
  have ended := generate_ends w folder (Compile.mode d folder number) tree opened
  rcases Compile.trial_cases runner.watched config folder w number d (t, []) with
    ⟨fault, -, ran⟩ | ⟨g, made, ran⟩
  · exact .inl ⟨fault, t, _, ran⟩
  · obtain ⟨more, met⟩ := Compile.compile_met runner config folder
      ((generate w folder (Compile.mode d folder number)).run d).2 t
    rw [ran]
    exact .inr ⟨_, more, met, ended g made⟩

theorem manifest_named : Named ⟨Manifest.fileName⟩ ["package.json"] := by
  obtain ⟨filled, plain⟩ := fileNames_plain { name := "" } ["package.json"] List.mem_cons_self
  exact ⟨filled, plain, rfl⟩

/-- A mode that keeps files was chosen because of a manifest behind open folders. -/
theorem opened_of_preserve {d : Disk} {folder : Path} {number : Nat} (tree : d.IsTree)
    (preserve : Compile.mode d folder number = .preserve) : d.Opened folder := by
  unfold Compile.mode at preserve
  split at preserve
  next => cases preserve
  next later =>
    have found : d.exists? (folder / Manifest.fileName) = true := by
      by_contra missing
      exact later (by simp [missing])
    exact Disk.opened_of_exists manifest_named.filled manifest_named.plain tree found

theorem mode_of_present {d : Disk} {folder : Path} {number : Nat} (further : 1 < number)
    (present : d.exists? (folder / Manifest.fileName) = true) : Compile.mode d folder number = .preserve := by
  have late : ¬ number ≤ 1 := by omega
  unfold Compile.mode
  rw [if_neg (by simp [late, present])]

theorem trial_regenerates (runner : Runner τ) (config : RunConfig) (job : Job) (number : Nat)
    {start : World τ} (tree : start.disk.IsTree) (later : List LoopCall) :
    Regenerates runner config job number start
      (.prepared (.ok ()) :: .tried number (watchedTrial runner config job number start).1 :: later) := by
  have leads : job.workFolder.Leads job.folder := .div job.widget.packageName_relative job.workFolder
  have grown : Disk.GrownAlong job.folder start.disk ((OnDisk.makeFolders job.workFolder).run start.disk).2 :=
    OnDisk.makeFolders_along leads tree
  have cases_met := trial_met runner config job.widget job.folder number start.outside grown.tree
    (opened_of_preserve grown.tree)
  rw [← watchedTrial] at cases_met
  rcases cases_met with ⟨fault, u, after, ran⟩ | ⟨found, more, met, renewed⟩
  · rw [ran]
    exact .ungenerated fault later (by rw [ran]) (by rw [ran])
  · refine .compiled later (Eq.refl _) met ?_ ?_
    · intro first f member
      refine renewed.made f member fun keep => ?_
      simp [Compile.mode, first] at keep
    · intro further present
      have opened : start.disk.Opened job.folder :=
        Disk.opened_of_exists manifest_named.filled manifest_named.plain tree present
      have same := grown.get?_of_opened opened
      have still := grown.kept.exists? (fun l something => (same l).symm ▸ something) present
      rw [mode_of_present further still] at renewed
      have renewed := renewed.after_folders grown.toGrown fun _ => same
      exact ⟨renewed.spared rfl, fun f member missing => renewed.made f member fun _ => missing⟩

theorem onSite_result {α : Type} (job : OnSite τ α) (w : World τ) :
    (OnWorld.onSite job w).1 = (job (w.disk, w.outside)).1 := rfl

theorem onDisk_left {α : Type} (job : OnDisk α) (w : World τ) :
    (OnWorld.onDisk job w).2 = { w with disk := (job.run w.disk).2 } := rfl

section Attempt

variable {stamps : Stamps} {job : Job} {target : Option Path} {runner : Runner τ} {config : RunConfig}
  {chain : Chain (World τ)} {cancelled : StateM τ Bool} {announce : BuildEvent → StateM τ Unit}

theorem result_of_steps {number : Nat} {start after : World τ} {result : Except BuildFault Trial}
    {later : List LoopCall}
    (steps : Workshop.Steps (.ofWorld stamps job target runner config chain cancelled announce) start
      (.prepared (.ok ()) :: .tried number result :: later) after) :
    (watchedTrial runner config job number start).1 = result := by
  have same := trial_relates runner config job.widget job.folder number
    (((OnDisk.makeFolders job.workFolder).run start.disk).2, start.outside, [])
    (((OnDisk.makeFolders job.workFolder).run start.disk).2, start.outside) ⟨rfl, rfl⟩
  rw [watchedTrial, same.1, steps.trial_made, Workshop.ofWorld]
  dsimp only
  rw [onSite_result, onDisk_left]

/-- In every build, from every attempt's announcement on: the runner is not called, or the package has been
generated when it is called first, and repairs that were made before are still there. -/
theorem repairs_survive_regeneration (stamps : Stamps) (job : Job) (target : Option Path) (runner : Runner τ)
    (config : RunConfig) (chain : Chain (World τ)) (cancelled : StateM τ Bool)
    (announce : BuildEvent → StateM τ Unit) (start : World τ) :
    ∃ result after calls,
      (Workshop.ofWorld stamps job target runner config chain cancelled announce).build job start =
        (result, after) ∧
      (Workshop.ofWorld stamps job target runner config chain cancelled announce).observed.build job
        (start, []) = (result, after, calls) ∧
      ∀ before later number limit moment,
        calls = (before ++ [.announced (.started number limit)]) ++ later →
        Workshop.Steps (.ofWorld stamps job target runner config chain cancelled announce) start
          (before ++ [.announced (.started number limit)]) moment →
        moment.disk.IsTree → Regenerates runner config job number moment later := by
  obtain ⟨result, after, calls, built, observed, steps, script⟩ := Workshop.build_follows_script
    (.ofWorld stamps job target runner config chain cancelled announce) job start
  refine ⟨result, after, calls, built, observed, ?_⟩
  rintro before later number limit moment split begun tree
  have attempted : Attempted number later := by
    rw [split, List.append_assoc] at script
    exact script.allAttempted.behind rfl
  rw [split] at steps
  obtain ⟨between, first, rest⟩ := steps.split
  obtain rfl : between = moment := first.left.symm.trans begun.left
  cases attempted with
  | unprepared fault later => exact .unprepared fault later
  | tried result later =>
    rw [← result_of_steps rest]
    exact trial_regenerates runner config job number tree later

end Attempt

end Watched

namespace SecondAttempt

def failsOnce : Runner Nat where
  name := "npm"
  install _ _ _ _ := return .ok ⟨"npm install", 0, "", "", 0⟩
  script _ _ _ := do
    let (d, builds) ← get
    set (d, builds + 1)
    return .ok ⟨"npm run build", if builds = 0 then 1 else 0, "TS2304", "", 0⟩

def importedSource : String := "import { createElement } from 'react';"

/-- A strategy that writes the source of the component anew. -/
def rewritesSource : Strategy (World Nat) where
  name := "imports"
  attempt f := do
    let _ ← OnWorld.onDisk (OnDisk.writeText (f.folder / "src/C.tsx") importedSource)
    return .done "imports" "Added import"

def job : Job := { widget := { name := "C" }, workFolder := ⟨""⟩, limit := 2 }

def workshop : Workshop (World Nat) :=
  .ofWorld (fun n => ⟨default, toString n⟩) job none failsOnce {} { strategies := [rewritesSource] }
    (return false) fun _ => return

def start : World Nat where
  disk := .empty
  store := { document := { version := "1", updated := default } }
  outside := 0

/-- What the build calls for in a workshop. -/
def calls (w : Workshop (World Nat)) : List LoopCall := (w.observed.build job (start, [])).2.2

/-- The world in which the second attempt begins. -/
def moment (w : Workshop (World Nat)) : World Nat := ((calls w).take 10).foldl w.leave start

theorem calls_steps (w : Workshop (World Nat)) : w.Steps start (calls w) (w.build job start).2 :=
  Workshop.observed_steps w job start

theorem calls_of_observed {w : Workshop (World Nat)} {result : Except BuildFault Report} {after : World Nat}
    {told : List LoopCall} (observed : w.observed.build job (start, []) = (result, after, told)) : told = calls w := by
  rw [calls, observed]

/-- That the templates can be filled is known, so the evaluation leaves that check out. -/
theorem moment_facts : (calls workshop)[9]?.bind LoopCall.started? = some 2 ∧ (moment workshop).disk.IsTree ∧
    (moment workshop).disk.exists? (job.folder / Manifest.fileName) = true ∧
    (moment workshop).disk.readText (job.folder / "src/C.tsx") = .ok importedSource := by
  have runs : job.widget.runnable = true := rfl
  have generated (folder : Path) (mode : Mode) := generate_of_runnable runs folder mode
  unfold workshop Workshop.ofWorld Compile.trial
  simp only [generated]
  decide +kernel

theorem second_attempt_spares_import :
    (moment workshop).disk.exists? (job.folder / Manifest.fileName) = true ∧
      (moment workshop).disk.readText (job.folder / "src/C.tsx") = .ok importedSource ∧
      Regenerates failsOnce {} job 2 (moment workshop) ((calls workshop).drop 10) := by
  obtain ⟨started, tree, present, source⟩ := moment_facts
  refine ⟨present, source, ?_⟩
  obtain ⟨result, after, told, -, observed, regenerates⟩ :=
    repairs_survive_regeneration (fun n => ⟨default, toString n⟩) job none failsOnce {}
      { strategies := [rewritesSource] } (return false) (fun _ => return) start
  have same : told = calls workshop := calls_of_observed observed
  obtain ⟨call, ninth, started⟩ := Option.bind_eq_some_iff.mp started
  obtain ⟨limit, rfl⟩ := announced_of_started started
  have first : (calls workshop).take 10 = (calls workshop).take 9 ++ [.announced (.started 2 limit)] := by
    rw [List.take_add_one, ninth]
    rfl
  have split : calls workshop =
      ((calls workshop).take 9 ++ [.announced (.started 2 limit)]) ++ (calls workshop).drop 10 := by
    rw [← first, List.take_append_drop]
  have steps := calls_steps workshop
  rw [split] at steps
  obtain ⟨between, begun, -⟩ := steps.split
  have reached : between = moment workshop := by
    rw [moment, first]
    exact begun.left.symm
  rw [← reached] at tree ⊢
  exact regenerates _ _ 2 limit between (same.trans split) begun tree

end SecondAttempt

end WidgetRepair
