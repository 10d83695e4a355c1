import WidgetRepair.Proofs.EditTasks
import WidgetRepair.Proofs.StoreRuns
import WidgetRepair.Repair.Chain

/-! What strategies do that run no other program. Each has errands, which are edits to try in order; one
that declines has done all of them, and none of them told of a change. -/

namespace WidgetRepair

open Edit Disk

variable {τ : Type}

/-- A strategy that runs no other program. -/
inductive Offline (τ : Type) where
  | patterns (stamps : Stamps)
  | notes (stamps : Stamps) (k : Knowledge)
  | rules (stamps : Stamps) (config : RunConfig)
  | planned (assistant : Assistant τ)

/-- A task of a strategy, and the pattern whose failure is taken down after it. -/
structure Errand where
  task : Task
  pattern : Option (Stamps × String) := none

/-- A task that was tried, and the disk that it found. -/
structure Tryout where
  task : Task
  disk : Disk

/-- A task did not tell of a change. -/
def Tryout.Fruitless (folder : Path) (t : Tryout) : Prop :=
  ∀ after, (t.task.job folder).run t.disk ≠ (.ok true, after)

namespace Errand

def run (folder : Path) (e : Errand) : OnWorld τ Unit := do
  let _ ← OnWorld.edit (e.task.job folder)
  match e.pattern with
  | some (stamps, id) => OnWorld.recordOutcome stamps id false
  | none => return

def finish (folder : Path) : List Errand → World τ → World τ
  | [], w => w
  | e :: rest, w => finish folder rest (e.run folder w).2

def tryouts (folder : Path) : List Errand → World τ → List Tryout
  | [], _ => []
  | e :: rest, w => ⟨e.task, w.disk⟩ :: tryouts folder rest (e.run folder w).2

end Errand

/-- Errands were carried out to the end, as none of them told of a change. -/
structure Followed (folder : Path) (errands : List Errand) (w later : World τ) : Prop where
  finished : later = Errand.finish folder errands w
  fruitless : ∀ t ∈ Errand.tryouts folder errands w, t.Fruitless folder

namespace Followed

variable {folder : Path} {w later : World τ}

theorem nil (folder : Path) (w : World τ) : Followed folder [] w w := ⟨rfl, nofun⟩

theorem cons {e : Errand} {rest : List Errand} (first : Tryout.Fruitless folder ⟨e.task, w.disk⟩)
    (further : Followed folder rest (e.run folder w).2 later) : Followed folder (e :: rest) w later where
  finished := further.finished
  fruitless := by
    intro t member
    rcases List.mem_cons.mp member with rfl | member
    · exact first
    · exact further.fruitless t member

end Followed

namespace Offline

def strategy : Offline τ → Strategy (World τ)
  | patterns stamps => PatternRepair.strategy stamps
  | notes stamps k => NoteRepair.strategy stamps k
  | rules stamps config => RuleRepair.strategy stamps none config
  | planned assistant => PlannedRepair.strategy assistant

def ruleEdit? : Rule → Option FixAction
  | .importReact line => some (.prepend "**/*.tsx" line)
  | .standardScripts => some (.configChange Manifest.standardScripts)
  | .installPackage _ | .manualReview => none

def plannedEdits (assistant : Assistant τ) (f : Failure) (w : World τ) : List PlannedEdit :=
  if assistant.online then
    match (assistant.editPlan (PlannedRepair.request w.disk f) w.outside).1 with
    | .ok (some plan) => plan.edits
    | _ => []
  else []

def errands (f : Failure) (w : World τ) : Offline τ → List Errand
  | patterns stamps => (PatternRepair.candidates w.store f.diagnostic).map fun p =>
    ⟨.repair p.fix, some (stamps, p.id)⟩
  | notes _ k => (NoteRepair.candidates k f.diagnostic).map fun (_, fix) => ⟨.repair fix, none⟩
  | rules _ _ => ((RuleRepair.rule? f.diagnostic).bind ruleEdit?).toList.map fun fix =>
    ⟨.repair fix, none⟩
  | planned assistant => (plannedEdits assistant f w).map fun e => ⟨.planned e, none⟩

/-- The world in which a strategy begins its errands. -/
def begun (f : Failure) (w : World τ) : Offline τ → World τ
  | planned assistant =>
    if assistant.online then
      (OnWorld.outside (assistant.editPlan (PlannedRepair.request w.disk f)) w).2
    else w
  | _ => w

/-- What is tried by strategies that all decline. -/
def tryouts (f : Failure) : List (Offline τ) → World τ → List Tryout
  | [], _ => []
  | s :: rest, w => Errand.tryouts f.folder (s.errands f w) (s.begun f w) ++
    tryouts f rest (s.strategy.attempt f w).2

end Offline

section Declined

variable {folder : Path} {w later : World τ} {outcome : RepairOutcome} {α : Type}

theorem edit_run {job : OnEdit α} {result : Except EditFault α} {after : Disk}
    (ran : job.run w.disk = (result, after)) :
    OnWorld.edit job w = (result, { w with disk := after }) := by
  unfold OnWorld.edit
  show ((job.run w.disk).1, { w with disk := (job.run w.disk).2 }) = _
  rw [ran]

theorem repair_run {fix : FixAction} {d after : Disk} {result : Except EditFault Edit.Report}
    (ran : (perform folder fix).run d = (result, after)) :
    ((Task.repair fix).job folder).run d = (result.map (·.applied), after) := by
  cases result with
  | ok report => exact run_bind_ok ran _
  | error fault => exact run_bind_error ran _

theorem fruitless_of_declined {fix : FixAction} {d after : Disk}
    {result : Except EditFault Edit.Report} (ran : (perform folder fix).run d = (result, after))
    (declined : PatternRepair.applied result = false) : Tryout.Fruitless folder ⟨.repair fix, d⟩ := by
  intro last told
  rw [repair_run ran] at told
  cases result with
  | error fault => cases told
  | ok report =>
    have applied : report.applied = true := Except.ok.inj (congrArg Prod.fst told)
    cases applied.symm.trans declined

theorem errand_repair {fix : FixAction} {after : Disk} {result : Except EditFault Edit.Report}
    (ran : (perform folder fix).run w.disk = (result, after)) :
    (Errand.run folder ⟨.repair fix, none⟩ w).2 = { w with disk := after } := by
  simp only [Errand.run, stateM_bind, edit_run (repair_run ran)]
  rfl

theorem errand_pattern {fix : FixAction} {after : Disk} {result : Except EditFault Edit.Report}
    (stamps : Stamps) (id : String) (ran : (perform folder fix).run w.disk = (result, after)) :
    (Errand.run folder ⟨.repair fix, some (stamps, id)⟩ w).2 =
      (OnWorld.recordOutcome stamps id false { w with disk := after }).2 := by
  simp only [Errand.run, stateM_bind, edit_run (repair_run ran)]

theorem patterns_followed (stamps : Stamps) {found : List FixPattern} {suggestions : List String}
    (ended : PatternRepair.tryEach stamps folder suggestions found w = (outcome, later))
    (declined : outcome.applied = false) :
    Followed folder (found.map fun p => ⟨.repair p.fix, some (stamps, p.id)⟩) w later := by
  induction found generalizing suggestions w with
  | nil =>
    cases ended
    exact .nil folder _
  | cons p rest ih =>
    cases ran : (perform folder p.fix).run w.disk with
    | mk result after =>
      simp only [PatternRepair.tryEach, stateM_bind, edit_run ran] at ended
      split at ended
      next =>
        cases ended
        cases declined
      next quiet =>
        have quiet := eq_false_of_ne_true quiet
        rw [quiet, ← errand_pattern stamps p.id ran] at ended
        exact .cons (fruitless_of_declined ran quiet) (ih ended)

theorem notes_followed (stamps : Stamps) {f : Failure} {found : List (String × FixAction)}
    (ended : NoteRepair.tryEach stamps f found w = (outcome, later))
    (declined : outcome.applied = false) :
    Followed f.folder (found.map fun (_, fix) => ⟨.repair fix, none⟩) w later := by
  induction found generalizing w with
  | nil =>
    cases ended
    exact .nil f.folder _
  | cons note rest ih =>
    obtain ⟨title, fix⟩ := note
    cases ran : (perform f.folder fix).run w.disk with
    | mk result after =>
      have step : NoteRepair.tryEach stamps f ((title, fix) :: rest) w =
          if PatternRepair.applied result then
            (.done NoteRepair.name title,
              (OnWorld.learn stamps ⟨f.diagnostic, title, fix⟩ { w with disk := after }).2)
          else NoteRepair.tryEach stamps f rest { w with disk := after } := by
        simp only [NoteRepair.tryEach, stateM_bind, edit_run ran]
        cases result with
        | error fault => rfl
        | ok report =>
          obtain ⟨applied, detail⟩ := report
          cases applied with
          | false => rfl
          | true => simp only [stateM_bind, PatternRepair.applied, if_true, stateM_pure]
      rw [step] at ended
      split at ended
      next =>
        cases ended
        cases declined
      next quiet =>
        rw [← errand_repair ran] at ended
        exact .cons (fruitless_of_declined ran (eq_false_of_ne_true quiet)) (ih ended)

theorem rule_followed (stamps : Stamps) {f : Failure} {fix : FixAction} {description : String}
    (ended : RuleRepair.editAndLearn stamps f fix description w = (outcome, later))
    (declined : outcome.applied = false) :
    Followed f.folder [⟨.repair fix, none⟩] w later := by
  cases ran : (perform f.folder fix).run w.disk with
  | mk result after =>
    have step : RuleRepair.editAndLearn stamps f fix description w =
        if PatternRepair.applied result then
          (.done RuleRepair.name description,
            (OnWorld.learn stamps ⟨f.diagnostic, description, fix⟩ { w with disk := after }).2)
        else (.declined RuleRepair.name (match result with
          | .ok report => report.detail
          | .error fault => fault.message), { w with disk := after }) := by
      simp only [RuleRepair.editAndLearn, stateM_bind, edit_run ran]
      cases result with
      | error fault => rfl
      | ok report =>
        obtain ⟨applied, detail⟩ := report
        cases applied with
        | false => rfl
        | true => simp only [stateM_bind, PatternRepair.applied, if_true, stateM_pure]
    rw [step] at ended
    split at ended
    next =>
      cases ended
      cases declined
    next quiet =>
      cases ended
      rw [← errand_repair ran]
      exact .cons (fruitless_of_declined ran (eq_false_of_ne_true quiet)) (.nil f.folder _)

theorem planned_followed {edits : List PlannedEdit}
    (ended : PlannedRepair.performAll folder edits w = ([], later)) :
    Followed folder (edits.map fun e => ⟨.planned e, none⟩) w later := by
  induction edits generalizing w with
  | nil =>
    cases ended
    exact .nil folder _
  | cons e rest ih =>
    cases ran : (performPlanned folder e).run w.disk with
    | mk result after =>
      have step : PlannedRepair.performAll folder (e :: rest) w =
          if result.toOption = some true then
            (e :: (PlannedRepair.performAll folder rest { w with disk := after }).1,
              (PlannedRepair.performAll folder rest { w with disk := after }).2)
          else PlannedRepair.performAll folder rest { w with disk := after } := by
        simp only [PlannedRepair.performAll, stateM_bind, edit_run ran]
        cases result with
        | error fault => rfl
        | ok applied => cases applied <;> rfl
      rw [step] at ended
      split at ended
      next => cases ended
      next quiet =>
        have errand : (Errand.run folder ⟨.planned e, none⟩ w).2 = { w with disk := after } := by
          simp only [Errand.run, Task.job, stateM_bind, edit_run ran]
          rfl
        rw [← errand] at ended
        refine .cons ?_ (ih ended)
        intro last told
        cases ran.symm.trans told
        exact quiet rfl

theorem plan_followed {f : Failure} {plan : EditPlan}
    (ended : PlannedRepair.carryOut f plan w = (outcome, later)) (declined : outcome.applied = false) :
    Followed f.folder (plan.edits.map fun e => ⟨.planned e, none⟩) w later := by
  cases performed : PlannedRepair.performAll f.folder plan.edits w with
  | mk done last =>
    simp only [PlannedRepair.carryOut, stateM_bind, performed] at ended
    cases done with
    | nil =>
      cases ended
      exact planned_followed performed
    | cons e others =>
      cases ended
      cases declined

theorem patterns_declined (stamps : Stamps) {f : Failure}
    (ended : PatternRepair.attempt stamps f w = (outcome, later)) (declined : outcome.applied = false) :
    Followed f.folder ((Offline.patterns stamps).errands f w) w later := by
  have store : (OnWorld.store : OnWorld τ Store) w = (w.store, w) := rfl
  simp only [PatternRepair.attempt, stateM_bind, store] at ended
  unfold Offline.errands
  cases found : PatternRepair.candidates w.store f.diagnostic with
  | nil =>
    rw [found] at ended
    cases ended
    exact .nil f.folder _
  | cons p rest =>
    rw [found] at ended
    exact patterns_followed stamps ended declined

theorem rules_declined (stamps : Stamps) (config : RunConfig) {f : Failure}
    (ended : (RuleRepair.strategy stamps none config).attempt f w = (outcome, later))
    (declined : outcome.applied = false) :
    Followed f.folder ((Offline.rules stamps config).errands f w) w later := by
  unfold RuleRepair.strategy at ended
  unfold Offline.errands
  dsimp only at ended ⊢
  cases found : RuleRepair.rule? f.diagnostic with
  | none =>
    rw [found] at ended
    cases ended
    exact .nil f.folder _
  | some rule =>
    rw [found] at ended
    dsimp only at ended
    cases rule with
    | installPackage package =>
      cases ended
      exact .nil f.folder _
    | importReact line =>
      rw [RuleRepair.follow] at ended
      exact rule_followed stamps ended declined
    | standardScripts =>
      rw [RuleRepair.follow] at ended
      exact rule_followed stamps ended declined
    | manualReview =>
      cases ended
      exact .nil f.folder _

theorem planned_declined (assistant : Assistant τ) {f : Failure}
    (ended : PlannedRepair.attempt assistant f w = (outcome, later))
    (declined : outcome.applied = false) :
    Followed f.folder ((Offline.planned assistant).errands f w) ((Offline.planned assistant).begun f w)
      later := by
  unfold PlannedRepair.attempt at ended
  unfold Offline.errands Offline.begun Offline.plannedEdits
  dsimp only
  cases online : assistant.online with
  | false =>
    rw [online] at ended
    cases ended
    exact .nil f.folder _
  | true =>
    have disk : (OnWorld.disk : OnWorld τ Disk) w = (w.disk, w) := rfl
    have outside : OnWorld.outside (assistant.editPlan (PlannedRepair.request w.disk f)) w =
        ((assistant.editPlan (PlannedRepair.request w.disk f) w.outside).1,
          (OnWorld.outside (assistant.editPlan (PlannedRepair.request w.disk f)) w).2) := rfl
    simp only [online, Bool.not_true, Bool.false_eq_true, if_false, stateM_bind, disk] at ended
    rw [outside] at ended
    rw [if_pos rfl, if_pos rfl]
    generalize (OnWorld.outside (assistant.editPlan (PlannedRepair.request w.disk f)) w).2 = begun at ended ⊢
    cases reply : (assistant.editPlan (PlannedRepair.request w.disk f) w.outside).1 with
    | error fault =>
      rw [reply] at ended
      cases ended
      exact .nil f.folder _
    | ok plan? =>
      rw [reply] at ended
      cases plan? with
      | none =>
        cases ended
        exact .nil f.folder _
      | some plan => exact plan_followed ended declined

/-- A strategy that declines has done its errands, and none of them told of a change. -/
theorem offline_declined (s : Offline τ) {f : Failure}
    (ended : s.strategy.attempt f w = (outcome, later)) (declined : outcome.applied = false) :
    Followed f.folder (s.errands f w) (s.begun f w) later := by
  cases s with
  | patterns stamps => exact patterns_declined stamps ended declined
  | notes stamps k => exact notes_followed stamps ended declined
  | rules stamps config => exact rules_declined stamps config ended declined
  | planned assistant => exact planned_declined assistant ended declined

theorem begun_site (s : Offline τ) (f : Failure) (w : World τ) :
    (s.begun f w).disk = w.disk ∧ (s.begun f w).store = w.store := by
  cases s with
  | planned assistant =>
    unfold Offline.begun
    dsimp only
    split <;> exact ⟨rfl, rfl⟩
  | _ => exact ⟨rfl, rfl⟩

end Declined

end WidgetRepair
