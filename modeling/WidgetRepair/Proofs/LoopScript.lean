import WidgetRepair.Proofs.LoopCalls

/-! The order in which a build calls on its surroundings. Whatever they answer, the calls follow one
script, which tells at each place what may come next. -/

namespace WidgetRepair

/-- The calls of a trial, and what counts as its result. -/
inductive TrialScript (number : Nat) : List LoopCall → Trial → Prop where
  | unprepared (fault : DiskFault) (diagnostic : String) :
    TrialScript number [.prepared (.error fault)] (.failed diagnostic)
  | faulty (fault : BuildFault) :
    TrialScript number [.prepared (.ok ()), .tried number (.error fault)] (.failed fault.message)
  | made (trial : Trial) : TrialScript number [.prepared (.ok ()), .tried number (.ok trial)] trial

inductive DeployScript : List LoopCall → Prop where
  | nothing : DeployScript []
  | refused (artifact : Path) : DeployScript [.deployed artifact none]
  | deployed (artifact target : Path) :
    DeployScript [.deployed artifact (some target), .announced (.deployed target)]

/-- The calls of an attempt up to the end of its trial. -/
def attemptCalls (job : Job) (number : Nat) (trial : List LoopCall) : List LoopCall :=
  .checked false :: .announced (.started number job.limit) :: trial

/-- The calls after a trial that failed, when nothing calls the build off. -/
def failureCalls (job : Job) (number : Nat) (diagnostic : String) (outcome : RepairOutcome)
    (event : BuildEvent) : List LoopCall :=
  [.announced (.failed number diagnostic), .checked false, .asked (job.failure diagnostic) outcome,
    .announced event]

/-- The calls of a build from an attempt on, with the lessons that wait for a success, and whether it
succeeds. -/
inductive Script (job : Job) : (left number : Nat) → List Lesson → List LoopCall → Bool → Prop where
  | usedUp {number : Nat} {lessons : List Lesson} :
    Script job 0 number lessons [.announced (.exhausted job.limit)] false
  | calledOff {left number : Nat} {lessons : List Lesson} :
    Script job (left + 1) number lessons [.checked true, .announced (.cancelled number)] false
  | succeeded {left number : Nat} {lessons : List Lesson} {trial deploys : List LoopCall}
    {artifact : Option Path} {diagnostic : String}
    (built : TrialScript number trial (.built artifact diagnostic)) (deploying : DeployScript deploys) :
    Script job (left + 1) number lessons
      (attemptCalls job number trial ++ (lessons.map .kept ++
        .announced (.succeeded number artifact) :: deploys)) true
  | calledOffAfter {left number : Nat} {lessons : List Lesson} {trial : List LoopCall} {diagnostic : String}
    (failed : TrialScript number trial (.failed diagnostic)) :
    Script job (left + 1) number lessons
      (attemptCalls job number trial ++
        [.announced (.failed number diagnostic), .checked true, .announced (.cancelled number)]) false
  | declined {left number : Nat} {lessons : List Lesson} {trial : List LoopCall} {diagnostic : String}
    {outcome : RepairOutcome} (failed : TrialScript number trial (.failed diagnostic))
    (quiet : outcome.applied = false) :
    Script job (left + 1) number lessons
      (attemptCalls job number trial ++
        failureCalls job number diagnostic outcome (.noRepair number)) false
  | repaired {left number : Nat} {lessons : List Lesson} {trial rest : List LoopCall} {diagnostic : String}
    {outcome : RepairOutcome} {good : Bool} (failed : TrialScript number trial (.failed diagnostic))
    (applied : outcome.applied = true)
    (further : Script job left (number + 1) (lessons ++ outcome.lesson.toList) rest good) :
    Script job (left + 1) number lessons
      (attemptCalls job number trial ++ (failureCalls job number diagnostic outcome
        (.repaired number (.ofOutcome number outcome)) ++ rest)) good

/-- The calls of a whole build, of which there are none where the widget cannot be built. -/
inductive BuildScript (job : Job) : List LoopCall → Bool → Prop where
  | refused : BuildScript job [] false
  | ran {calls : List LoopCall} {good : Bool} (script : Script job job.limit 1 [] calls good) :
    BuildScript job calls good

namespace Workshop

variable {σ α : Type}

def endedWell : Except BuildFault Report → Bool
  | .ok report => report.succeeded
  | .error _ => false

/-- Whatever the surroundings and the calls before, the result and the calls that are added are as `post`
says. -/
def Writes (run : StateM (σ × List LoopCall) α) (post : α → List LoopCall → Prop) : Prop :=
  ∀ calls, Leaves run calls fun a after => ∃ more, after = calls ++ more ∧ post a more

theorem noted_writes (call : α → LoopCall) (job : StateM σ α) :
    Writes (noted call job) fun a more => more = [call a] :=
  fun _ _ => ⟨_, rfl, rfl⟩

theorem pure_writes (a : α) :
    Writes (pure a : StateM (σ × List LoopCall) α) fun b more => b = a ∧ more = [] :=
  fun calls _ => ⟨[], (List.append_nil calls).symm, rfl, rfl⟩

theorem Writes.mono {run : StateM (σ × List LoopCall) α} {post weaker : α → List LoopCall → Prop}
    (writes : Writes run post) (implied : ∀ a more, post a more → weaker a more) : Writes run weaker := by
  intro calls
  refine (writes calls).mono ?_
  rintro a _ ⟨more, rfl, told⟩
  exact ⟨more, rfl, implied a more told⟩

theorem Writes.bind {β : Type} {first : StateM (σ × List LoopCall) α}
    {next : α → StateM (σ × List LoopCall) β} {mid : α → List LoopCall → Prop}
    {post : β → List LoopCall → Prop} (began : Writes first mid)
    (rest : ∀ a more, mid a more → Writes (next a) fun b others => post b (more ++ others)) :
    Writes (first >>= next) post := by
  intro calls
  refine (began calls).bind ?_
  rintro a _ ⟨more, rfl, told⟩
  refine (rest a more told _).mono ?_
  rintro b _ ⟨others, rfl, ended⟩
  exact ⟨more ++ others, List.append_assoc .., ended⟩

theorem Writes.returned {post : α → List LoopCall → Prop} {a : α} (told : post a []) :
    Writes (pure a : StateM (σ × List LoopCall) α) post := by
  refine (pure_writes a).mono ?_
  rintro _ _ ⟨rfl, rfl⟩
  exact told

theorem noted_bind {β : Type} (call : α → LoopCall) (job : StateM σ α)
    {next : α → StateM (σ × List LoopCall) β} {post : β → List LoopCall → Prop}
    (rest : ∀ a, Writes (next a) fun b others => post b (call a :: others)) :
    Writes (noted call job >>= next) post := by
  refine (noted_writes call job).bind ?_
  rintro a _ rfl
  exact rest a

variable (w : Workshop σ) (job : Job)

theorem announce_bind {β : Type} (event : BuildEvent) {next : Unit → StateM (σ × List LoopCall) β}
    {post : β → List LoopCall → Prop}
    (rest : Writes (next ()) fun b others => post b (.announced event :: others)) :
    Writes (w.observed.announce event >>= next) post :=
  noted_bind (fun _ => .announced event) (w.announce event) fun _ => rest

theorem tryBuild_writes (number : Nat) :
    Writes (w.observed.tryBuild job number) fun result more => TrialScript number more result := by
  refine noted_bind .prepared w.prepare fun made => ?_
  cases made with
  | error fault => exact .returned (.unprepared fault _)
  | ok _ =>
    refine noted_bind (.tried number) (w.trial number) fun result => ?_
    cases result with
    | error fault => exact .returned (.faulty fault)
    | ok trial => exact .returned (.made trial)

theorem keepAll_writes (lessons : List Lesson) :
    Writes (w.observed.keepAll lessons) fun _ more => more = lessons.map .kept := by
  induction lessons with
  | nil => exact .returned rfl
  | cons lesson rest ih =>
    refine noted_bind (fun _ => .kept lesson) (w.keep lesson) fun _ => ih.mono ?_
    rintro _ _ rfl
    rfl

theorem deployBuilt_writes (artifact : Option Path) :
    Writes (w.observed.deployBuilt artifact) fun _ more => DeployScript more := by
  cases artifact with
  | none => exact .returned .nothing
  | some artifact =>
    refine noted_bind (.deployed artifact) (w.deploy artifact) fun deployed => ?_
    cases deployed with
    | none => exact .returned (.refused artifact)
    | some target => exact announce_bind w _ (.returned (.deployed artifact target))

/-- What a trial comes to decides how the script goes on with the attempts that are left. -/
theorem rounds_write (left number : Nat) (report : Report) (lessons : List Lesson) :
    Writes (w.observed.rounds job left number report lessons) fun result more =>
      Script job left number lessons more result.succeeded := by
  induction left generalizing number report lessons with
  | zero => exact announce_bind w _ (.returned .usedUp)
  | succ left ih =>
    refine noted_bind .checked w.cancelled fun cancelled => ?_
    cases cancelled with
    | true => exact announce_bind w _ (.returned .calledOff)
    | false =>
      refine announce_bind w _ ((tryBuild_writes w job number).bind fun result trial tried => ?_)
      cases result with
      | built artifact diagnostic =>
        refine (keepAll_writes w lessons).bind ?_
        rintro _ _ rfl
        refine announce_bind w _ ((deployBuilt_writes w artifact).bind fun deployed deploys deploying => ?_)
        apply Writes.returned
        rw [List.append_nil]
        exact .succeeded tried deploying
      | failed diagnostic =>
        refine announce_bind w _ (noted_bind .checked w.cancelled fun cancelled => ?_)
        cases cancelled with
        | true => exact announce_bind w _ (.returned (.calledOffAfter tried))
        | false =>
          refine noted_bind (.asked _) (w.repair _) fun outcome => ?_
          by_cases applied : outcome.applied = true
          · simp only [applied, if_true]
            refine announce_bind w _ ((ih _ _ _).mono fun result rest further => ?_)
            exact .repaired tried applied further
          · simp only [applied]
            exact announce_bind w _ (.returned (.declined tried (eq_false_of_ne_true applied)))

theorem build_writes : Writes (w.observed.build job) fun result more =>
    BuildScript job more (endedWell result) := by
  unfold Workshop.build
  cases job.widget.runnable with
  | false => exact .returned .refused
  | true =>
    refine (rounds_write w job job.limit 1 _ []).bind fun report more script => ?_
    apply Writes.returned
    rw [List.append_nil]
    exact .ran script

/-- The calls of every build follow the script through the states of its surroundings. -/
theorem build_follows_script (s : σ) : ∃ result after calls,
    w.build job s = (result, after) ∧ w.observed.build job (s, []) = (result, after, calls) ∧
      Steps w s calls after ∧ BuildScript job calls (endedWell result) := by
  obtain ⟨calls, observed, steps⟩ := build_observed w job s []
  obtain ⟨_, told, script⟩ := build_writes w job [] s
  rw [observed] at told script
  obtain rfl : calls = _ := told
  exact ⟨(w.build job s).1, (w.build job s).2, calls, Prod.ext rfl rfl, observed, steps, script⟩

end Workshop

end WidgetRepair
