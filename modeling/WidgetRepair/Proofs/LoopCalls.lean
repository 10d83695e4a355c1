import WidgetRepair.Build.Loop
import WidgetRepair.Proofs.Stateful

/-! What a build asks of its surroundings, written down call by call. Writing it down changes
nothing: the same report comes back, and the surroundings go through the same states. -/

namespace WidgetRepair

inductive LoopCall where
  | checked (cancelled : Bool)
  | prepared (result : Except DiskFault Unit)
  | tried (attempt : Nat) (result : Except BuildFault Trial)
  | asked (failure : Failure) (outcome : RepairOutcome)
  | kept (lesson : Lesson)
  | deployed (artifact : Path) (target : Option Path)
  | announced (event : BuildEvent)

namespace LoopCall

def check? : LoopCall → Option Bool
  | checked cancelled => some cancelled
  | _ => none

def trial? : LoopCall → Option Nat
  | tried attempt _ => some attempt
  | _ => none

def consultation? : LoopCall → Option (Failure × RepairOutcome)
  | asked failure outcome => some (failure, outcome)
  | _ => none

def failureOf (attempt : Nat) : LoopCall → Bool
  | announced (.failed number _) => number == attempt
  | _ => false

end LoopCall

def trialsIn (calls : List LoopCall) : List Nat := calls.filterMap LoopCall.trial?

def consultationsIn (calls : List LoopCall) : List (Failure × RepairOutcome) :=
  calls.filterMap LoopCall.consultation?

def sawCancellation (calls : List LoopCall) : Bool := (calls.filterMap LoopCall.check?).contains true

/-- The answer of the first check after an attempt was said to have failed. -/
def checkAfter? (attempt : Nat) (calls : List LoopCall) : Option Bool :=
  (calls.dropWhile (!·.failureOf attempt)).findSome? LoopCall.check?

namespace Workshop

variable {σ α : Type}

/-- A computation whose call is added to those before. -/
def noted (call : α → LoopCall) (job : StateM σ α) : StateM (σ × List LoopCall) α :=
  fun (s, calls) =>
    let (a, s) := job s
    (a, s, calls ++ [call a])

/-- The workshop that writes down what it is asked. -/
def observed (w : Workshop σ) : Workshop (σ × List LoopCall) where
  cancelled := noted .checked w.cancelled
  prepare := noted .prepared w.prepare
  trial attempt := noted (.tried attempt) (w.trial attempt)
  repair failure := noted (.asked failure) (w.repair failure)
  keep lesson := noted (fun _ => .kept lesson) (w.keep lesson)
  deploy artifact := noted (.deployed artifact) (w.deploy artifact)
  announce event := noted (fun _ => .announced event) (w.announce event)

section Relates

variable {τ : Type} {R : σ → τ → Prop}

/-- Two computations that answer alike from related states on, and leave related states. -/
def Relates (R : σ → τ → Prop) (first : StateM σ α) (second : StateM τ α) : Prop :=
  ∀ s t, R s t → (first s).1 = (second t).1 ∧ R (first s).2 (second t).2

theorem Relates.pure (a : α) : Relates R (pure a : StateM σ α) (pure a : StateM τ α) :=
  fun _ _ related => ⟨rfl, related⟩

theorem Relates.bind {β : Type} {first : StateM σ α} {second : StateM τ α} {next : α → StateM σ β}
    {other : α → StateM τ β} (began : Relates R first second)
    (rest : ∀ a, Relates R (next a) (other a)) : Relates R (first >>= next) (second >>= other) := by
  intro s t related
  obtain ⟨same, related⟩ := began s t related
  rw [stateM_bind, stateM_bind, same]
  exact rest _ _ _ related

/-- Two workshops that answer every call alike, as long as their states are related. -/
structure Related (R : σ → τ → Prop) (w : Workshop σ) (v : Workshop τ) : Prop where
  cancelled : Relates R w.cancelled v.cancelled
  prepare : Relates R w.prepare v.prepare
  trial : ∀ attempt, Relates R (w.trial attempt) (v.trial attempt)
  repair : ∀ failure, Relates R (w.repair failure) (v.repair failure)
  keep : ∀ lesson, Relates R (w.keep lesson) (v.keep lesson)
  deploy : ∀ artifact, Relates R (w.deploy artifact) (v.deploy artifact)
  announce : ∀ event, Relates R (w.announce event) (v.announce event)

namespace Related

variable {w : Workshop σ} {v : Workshop τ} (related : Related R w v) (job : Job)

include related

theorem tryBuild (number : Nat) : Relates R (w.tryBuild job number) (v.tryBuild job number) := by
  apply related.prepare.bind
  intro made
  cases made with
  | error fault => exact .pure _
  | ok _ =>
    apply (related.trial number).bind
    intro result
    cases result <;> exact .pure _

theorem keepAll (lessons : List Lesson) : Relates R (w.keepAll lessons) (v.keepAll lessons) := by
  induction lessons with
  | nil => exact .pure _
  | cons lesson rest ih => exact (related.keep lesson).bind fun _ => ih

theorem deployBuilt (artifact : Option Path) :
    Relates R (w.deployBuilt artifact) (v.deployBuilt artifact) := by
  cases artifact with
  | none => exact .pure _
  | some artifact =>
    apply (related.deploy artifact).bind
    intro deployed
    cases deployed with
    | none => exact .pure _
    | some target => exact (related.announce _).bind fun _ => .pure _

theorem succeed (number : Nat) (report : Report) (lessons : List Lesson) (artifact : Option Path)
    (diagnostic : String) :
    Relates R (w.succeed job number report lessons artifact diagnostic)
      (v.succeed job number report lessons artifact diagnostic) := by
  apply (related.keepAll lessons).bind
  intro _
  apply (related.announce _).bind
  intro _
  exact (related.deployBuilt artifact).bind fun _ => .pure _

theorem callOff (number : Nat) (report : Report) :
    Relates R (w.callOff number report) (v.callOff number report) :=
  (related.announce _).bind fun _ => .pure _

theorem giveUp (number : Nat) (report : Report) (suggestions : String) :
    Relates R (w.giveUp number report suggestions) (v.giveUp number report suggestions) :=
  (related.announce _).bind fun _ => .pure _

theorem rounds (left number : Nat) (report : Report) (lessons : List Lesson) :
    Relates R (w.rounds job left number report lessons) (v.rounds job left number report lessons) := by
  induction left generalizing number report lessons with
  | zero => exact (related.announce _).bind fun _ => .pure _
  | succ left ih =>
    apply related.cancelled.bind
    intro cancelled
    split
    · exact related.callOff number report
    · apply (related.announce _).bind
      intro _
      apply (related.tryBuild job number).bind
      intro result
      cases result with
      | built artifact diagnostic => exact related.succeed job number report lessons artifact diagnostic
      | failed diagnostic =>
        apply (related.announce _).bind
        intro _
        apply related.cancelled.bind
        intro cancelled
        split
        · exact related.callOff number _
        · apply (related.repair _).bind
          intro outcome
          split
          · exact (related.announce _).bind fun _ => ih _ _ _
          · exact related.giveUp number _ _

/-- A build cannot tell related workshops apart. -/
theorem build : Relates R (w.build job) (v.build job) := by
  unfold Workshop.build
  split
  · exact .pure _
  · exact (related.rounds job _ _ _ _).bind fun _ => .pure _

end Related

end Relates

/-- A call, answered by the workshop in the state it is made in. -/
inductive Step (w : Workshop σ) : σ → LoopCall → σ → Prop where
  | checked {s after : σ} {cancelled : Bool} (ran : w.cancelled s = (cancelled, after)) :
    Step w s (.checked cancelled) after
  | prepared {s after : σ} {result : Except DiskFault Unit} (ran : w.prepare s = (result, after)) :
    Step w s (.prepared result) after
  | tried {s after : σ} {attempt : Nat} {result : Except BuildFault Trial}
    (ran : w.trial attempt s = (result, after)) : Step w s (.tried attempt result) after
  | asked {s after : σ} {failure : Failure} {outcome : RepairOutcome}
    (ran : w.repair failure s = (outcome, after)) : Step w s (.asked failure outcome) after
  | kept {s after : σ} {lesson : Lesson} (ran : w.keep lesson s = ((), after)) :
    Step w s (.kept lesson) after
  | deployed {s after : σ} {artifact : Path} {target : Option Path}
    (ran : w.deploy artifact s = (target, after)) : Step w s (.deployed artifact target) after
  | announced {s after : σ} {event : BuildEvent} (ran : w.announce event s = ((), after)) :
    Step w s (.announced event) after

/-- Calls that follow each other, each made in the state that the one before left. -/
inductive Steps (w : Workshop σ) : σ → List LoopCall → σ → Prop where
  | nil (s : σ) : Steps w s [] s
  | cons {s between after : σ} {call : LoopCall} {calls : List LoopCall} (first : Step w s call between)
    (rest : Steps w between calls after) : Steps w s (call :: calls) after

def leave (w : Workshop σ) (s : σ) : LoopCall → σ
  | .checked _ => (w.cancelled s).2
  | .prepared _ => (w.prepare s).2
  | .tried attempt _ => (w.trial attempt s).2
  | .asked failure _ => (w.repair failure s).2
  | .kept lesson => (w.keep lesson s).2
  | .deployed artifact _ => (w.deploy artifact s).2
  | .announced event => (w.announce event s).2

theorem Step.left {w : Workshop σ} {s after : σ} {call : LoopCall} (step : Step w s call after) :
    w.leave s call = after := by
  cases step with
  | checked ran | prepared ran | tried ran | asked ran | kept ran | deployed ran | announced ran =>
    exact congrArg Prod.snd ran

namespace Steps

variable {w : Workshop σ} {s between after : σ} {calls more : List LoopCall}

theorem left (steps : Steps w s calls after) : calls.foldl w.leave s = after := by
  induction steps with
  | nil => rfl
  | cons step _ ih =>
    rw [List.foldl_cons, step.left]
    exact ih

theorem append (first : Steps w s calls between) (rest : Steps w between more after) :
    Steps w s (calls ++ more) after := by
  induction first with
  | nil => exact rest
  | cons step _ ih => exact .cons step (ih rest)

theorem split (steps : Steps w s (calls ++ more) after) :
    ∃ between, Steps w s calls between ∧ Steps w between more after := by
  induction calls generalizing s with
  | nil => exact ⟨s, .nil s, steps⟩
  | cons call calls ih =>
    cases steps with
    | cons first rest =>
      obtain ⟨between, begun, ended⟩ := ih rest
      exact ⟨between, .cons first begun, ended⟩

theorem trial_made {number : Nat} {result : Except BuildFault Trial}
    (steps : Steps w s (.prepared (.ok ()) :: .tried number result :: calls) after) :
    result = (w.trial number (w.prepare s).2).1 := by
  cases steps with
  | cons first rest =>
    cases rest with
    | cons second _ =>
      cases first with
      | prepared prepared =>
        cases second with
        | tried tried => rw [prepared, tried]

end Steps

/-- A workshop and itself, with its calls written down behind others: they answer alike, and the calls
lead from a state to the one they are in. -/
def Observes (w : Workshop σ) (start : σ) (before : List LoopCall) (seen : σ × List LoopCall) (s : σ) : Prop :=
  seen.1 = s ∧ ∃ more, seen.2 = before ++ more ∧ Steps w start more s

variable (w : Workshop σ) (job : Job)

theorem noted_relates (start : σ) (before : List LoopCall) {call : α → LoopCall} {job : StateM σ α}
    (step : ∀ s, Step w s (call (job s).1) (job s).2) :
    Relates (Observes w start before) (noted call job) job := by
  rintro ⟨s, _⟩ _ ⟨rfl, more, rfl, steps⟩
  refine ⟨rfl, rfl, more ++ [call (job s).1], List.append_assoc .., ?_⟩
  exact steps.append (.cons (step s) (.nil _))

theorem observed_related (start : σ) (before : List LoopCall) :
    Related (Observes w start before) w.observed w where
  cancelled := noted_relates w start before fun _ => .checked rfl
  prepare := noted_relates w start before fun _ => .prepared rfl
  trial _ := noted_relates w start before fun _ => .tried rfl
  repair _ := noted_relates w start before fun _ => .asked rfl
  keep _ := noted_relates w start before fun _ => .kept rfl
  deploy _ := noted_relates w start before fun _ => .deployed rfl
  announce _ := noted_relates w start before fun _ => .announced rfl

/-- Writing the calls down is all that an observed build does besides building, and they lead from the
state it began in to the one it leaves. -/
theorem build_observed (s : σ) (before : List LoopCall) : ∃ calls,
    w.observed.build job (s, before) = ((w.build job s).1, (w.build job s).2, before ++ calls) ∧
      Steps w s calls (w.build job s).2 := by
  have begun : Observes w s before (s, before) s := ⟨rfl, [], (List.append_nil _).symm, .nil s⟩
  obtain ⟨same, left, calls, told, steps⟩ :=
    (observed_related w s before).build job (s, before) s begun
  exact ⟨calls, Prod.ext same (Prod.ext left told), steps⟩

theorem observed_steps (s : σ) : Steps w s (w.observed.build job (s, [])).2.2 (w.build job s).2 := by
  obtain ⟨calls, observed, steps⟩ := build_observed w job s []
  rw [observed]
  exact steps

theorem build_mirrors (s : σ) (before : List LoopCall) : ∃ calls,
    w.observed.build job (s, before) = ((w.build job s).1, (w.build job s).2, before ++ calls) := by
  obtain ⟨calls, observed, -⟩ := build_observed w job s before
  exact ⟨calls, observed⟩

/-- Whatever the surroundings, the result and the calls written down are as `post` says. -/
def Leaves (run : StateM (σ × List LoopCall) α) (calls : List LoopCall)
    (post : α → List LoopCall → Prop) : Prop :=
  ∀ s, post (run (s, calls)).1 (run (s, calls)).2.2

theorem noted_leaves (call : α → LoopCall) (job : StateM σ α) (calls : List LoopCall) :
    Leaves (noted call job) calls fun a after => after = calls ++ [call a] :=
  fun _ => rfl

theorem pure_leaves (a : α) (calls : List LoopCall) :
    Leaves (pure a : StateM (σ × List LoopCall) α) calls fun b after => b = a ∧ after = calls :=
  fun _ => ⟨rfl, rfl⟩

theorem Leaves.bind {β : Type} {first : StateM (σ × List LoopCall) α}
    {next : α → StateM (σ × List LoopCall) β} {calls : List LoopCall}
    {mid : α → List LoopCall → Prop} {post : β → List LoopCall → Prop}
    (began : Leaves first calls mid) (rest : ∀ a after, mid a after → Leaves (next a) after post) :
    Leaves (first >>= next) calls post := by
  intro s
  rw [stateM_bind]
  exact rest _ _ (began s) _

theorem Leaves.mono {run : StateM (σ × List LoopCall) α} {calls : List LoopCall}
    {post weaker : α → List LoopCall → Prop} (leaves : Leaves run calls post)
    (implied : ∀ a after, post a after → weaker a after) : Leaves run calls weaker :=
  fun s => implied _ _ (leaves s)

end Workshop

end WidgetRepair
