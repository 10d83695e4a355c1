import WidgetRepair.Proofs.LoopReport

/-! What is announced during a build is decided by its report. Every attempt that was repaired is
told in three events, and what comes after them depends on the outcome alone. -/

namespace WidgetRepair

def LoopCall.event? : LoopCall → Option BuildEvent
  | announced event => some event
  | _ => none

def eventsIn (calls : List LoopCall) : List BuildEvent := calls.filterMap LoopCall.event?

/-- An attempt after which the build went on. -/
def Attempt.story (a : Attempt) (limit : Nat) : List BuildEvent :=
  match a.repair with
  | some repair =>
    [.started a.number limit, .failed a.number a.diagnostic, .repaired a.number repair]
  | none => []

namespace Report

/-- The last attempt, where it was left without a repair. -/
def unrepaired? (r : Report) : Option Attempt := r.attempts.getLast?.filter (·.repair.isNone)

/-- How a build that was called off ends: during an attempt, or before the next one. -/
def calledOff (r : Report) (limit : Nat) : List BuildEvent :=
  match r.unrepaired? with
  | some a =>
    [.started r.attempts.length limit, .failed r.attempts.length a.diagnostic,
      .cancelled r.attempts.length]
  | none => [.cancelled (r.attempts.length + 1)]

def ending (r : Report) (limit : Nat) : List BuildEvent :=
  match r.outcome with
  | .succeeded _ artifact deployed =>
    [.started r.attempts.length limit, .succeeded r.attempts.length artifact] ++
      (deployed.map .deployed).toList
  | .noRepair =>
    [.started r.attempts.length limit, .failed r.attempts.length (r.lastDiagnostic?.getD ""),
      .noRepair r.attempts.length]
  | .cancelled => r.calledOff limit
  | .exhausted => [.exhausted limit]

/-- The events of a build, as its report tells them. -/
def story (r : Report) (limit : Nat) : List BuildEvent :=
  r.attempts.flatMap (·.story limit) ++ r.ending limit

end Report

theorem eventsIn_append (calls more : List LoopCall) :
    eventsIn (calls ++ more) = eventsIn calls ++ eventsIn more := List.filterMap_append

/-- Every attempt so far was repaired, and nothing else was announced. -/
structure Told (r : Report) (limit : Nat) (events : List BuildEvent) : Prop where
  repaired : ∀ a ∈ r.attempts, a.repair.isSome
  told : events = r.attempts.flatMap (·.story limit)

namespace Told

variable {r : Report} {limit : Nat} {events : List BuildEvent} {a : Attempt}

theorem start (widget : String) (limit : Nat) : Told (.start widget) limit [] :=
  ⟨by simp [Report.start], rfl⟩

theorem next (told : Told r limit events) {repair : AppliedRepair} (made : a.repair = some repair) :
    Told ((r.withRepair repair).withAttempt a) limit
      (events ++ [.started a.number limit, .failed a.number a.diagnostic,
        .repaired a.number repair]) := by
  refine ⟨?_, ?_⟩
  · intro b member
    rcases List.mem_append.mp member with before | now
    · exact told.repaired b before
    · rw [List.mem_singleton.mp now, made]
      rfl
  · simp [told.told, Report.withAttempt, Report.withRepair, Attempt.story, made]

/-- The attempt that a build ends with is not told as one that it went on from. -/
theorem last (told : Told r limit events) (unrepaired : a.repair = none) :
    (r.withAttempt a).attempts.flatMap (·.story limit) = events := by
  simp [told.told, Report.withAttempt, Attempt.story, unrepaired]

theorem unrepaired_none (told : Told r limit events) : r.unrepaired? = none := by
  unfold Report.unrepaired?
  cases final : r.attempts.getLast? with
  | none => rfl
  | some b =>
    have repaired := told.repaired b (List.mem_of_getLast? final)
    cases kept : b.repair with
    | none => simp [kept] at repaired
    | some repair => simp [kept]

theorem used_up (told : Told r limit events) :
    events ++ [.exhausted limit] = ({ r with outcome := .exhausted } : Report).story limit := by
  rw [told.told]
  rfl

theorem called_off_before (told : Told r limit events) :
    events ++ [.cancelled (r.attempts.length + 1)] =
      ({ r with outcome := .cancelled } : Report).story limit := by
  have none_left : ({ r with outcome := .cancelled } : Report).unrepaired? = none := told.unrepaired_none
  simp only [Report.story, Report.ending, Report.calledOff, none_left]
  rw [told.told]

theorem called_off_after (told : Told r limit events) (unrepaired : a.repair = none)
    (number : a.number = r.attempts.length + 1) :
    events ++ [.started a.number limit, .failed a.number a.diagnostic, .cancelled a.number] =
      ({ r.withAttempt a with outcome := .cancelled } : Report).story limit := by
  have final : ({ r.withAttempt a with outcome := .cancelled } : Report).unrepaired? = some a := by
    simp [Report.unrepaired?, Report.withAttempt, unrepaired]
  simp only [Report.story, Report.ending, Report.calledOff, final, told.last unrepaired]
  simp [Report.withAttempt, number]

theorem given_up (told : Told r limit events) (unrepaired : a.repair = none)
    (number : a.number = r.attempts.length + 1) (failed : a.succeeded = false)
    (suggestions : Option String) :
    events ++ [.started a.number limit, .failed a.number a.diagnostic, .noRepair a.number] =
      ({ r.withAttempt a with outcome := .noRepair, suggestions := suggestions } : Report).story limit := by
  simp only [Report.story, Report.ending, told.last unrepaired]
  simp [Report.lastDiagnostic?, Report.diagnostics, Report.withAttempt, failed, number]

theorem succeeded (told : Told r limit events) (unrepaired : a.repair = none)
    (number : a.number = r.attempts.length + 1) (folder : Path) (artifact deployed : Option Path) :
    events ++ [.started a.number limit, .succeeded a.number artifact] ++ (deployed.map .deployed).toList =
      ({ r.withAttempt a with outcome := .succeeded folder artifact deployed } : Report).story limit := by
  simp only [Report.story, Report.ending, told.last unrepaired]
  simp [Report.withAttempt, number]

end Told

namespace Workshop

variable {σ α : Type}

/-- Whatever the surroundings, these events are announced. -/
def Tells (run : StateM (σ × List LoopCall) α) (events : List BuildEvent) : Prop :=
  ∀ calls, Leaves run calls fun _ after => eventsIn after = eventsIn calls ++ events

theorem noted_tells (call : α → LoopCall) (job : StateM σ α) {event : Option BuildEvent}
    (told : ∀ a, (call a).event? = event) : Tells (noted call job) event.toList := by
  intro calls
  refine (noted_leaves call job calls).mono ?_
  rintro a _ rfl
  rw [eventsIn_append]
  cases event <;> simp [eventsIn, told]

theorem pure_tells (a : α) : Tells (pure a : StateM (σ × List LoopCall) α) [] := by
  intro calls
  refine (pure_leaves a calls).mono ?_
  rintro _ _ ⟨-, rfl⟩
  exact (List.append_nil _).symm

theorem Tells.bind {β : Type} {first : StateM (σ × List LoopCall) α}
    {next : α → StateM (σ × List LoopCall) β} {before events : List BuildEvent}
    (began : Tells first before) (rest : ∀ a, Tells (next a) events) :
    Tells (first >>= next) (before ++ events) := by
  intro calls
  refine (began calls).bind ?_
  intro a after told
  refine (rest a after).mono ?_
  intro b last more
  rw [more, told, List.append_assoc]

variable (w : Workshop σ) (job : Job)

theorem announce_tells (event : BuildEvent) : Tells (w.observed.announce event) [event] :=
  noted_tells (fun _ => .announced event) (w.announce event) fun _ => rfl

theorem cancelled_tells : Tells w.observed.cancelled [] := noted_tells .checked w.cancelled fun _ => rfl

theorem repair_tells (failure : Failure) : Tells (w.observed.repair failure) [] :=
  noted_tells (.asked failure) (w.repair failure) fun _ => rfl

theorem tryBuild_tells (number : Nat) : Tells (w.observed.tryBuild job number) [] := by
  have prepares := noted_tells .prepared w.prepare fun _ => rfl
  have tries := noted_tells (.tried number) (w.trial number) fun _ => rfl
  apply prepares.bind
  intro made
  cases made with
  | error fault => exact pure_tells _
  | ok _ =>
    apply tries.bind
    intro result
    cases result <;> exact pure_tells _

theorem keepAll_tells (lessons : List Lesson) : Tells (w.observed.keepAll lessons) [] := by
  induction lessons with
  | nil => exact pure_tells _
  | cons lesson rest ih =>
    exact (noted_tells (fun _ => .kept lesson) (w.keep lesson) fun _ => rfl).bind fun _ => ih

/-- A target is announced just when something was copied to it. -/
theorem deployBuilt_leaves_events (artifact : Option Path) (calls : List LoopCall) :
    Leaves (w.observed.deployBuilt artifact) calls fun deployed after =>
      eventsIn after = eventsIn calls ++ (deployed.map .deployed).toList := by
  cases artifact with
  | none =>
    refine (pure_leaves none calls).mono ?_
    rintro _ _ ⟨rfl, rfl⟩
    exact (List.append_nil _).symm
  | some artifact =>
    refine (noted_tells (.deployed artifact) (w.deploy artifact) (fun _ => rfl) calls).bind ?_
    intro deployed after silent
    cases deployed with
    | none =>
      refine (pure_leaves none after).mono ?_
      rintro _ _ ⟨rfl, rfl⟩
      exact silent
    | some target =>
      refine (announce_tells w (.deployed target) after).bind ?_
      intro _ last said
      refine (pure_leaves (some target) last).mono ?_
      rintro _ _ ⟨rfl, rfl⟩
      rw [said, silent, Option.toList_none, List.append_nil]
      rfl

/-- A report that is returned after a last event. -/
theorem ended_leaves {event : BuildEvent} {report : Report} {calls : List LoopCall}
    (story : eventsIn calls ++ [event] = report.story job.limit) :
    Leaves (do w.observed.announce event; return report) calls fun report after =>
      eventsIn after = report.story job.limit := by
  refine (announce_tells w event calls).bind ?_
  intro _ after said
  refine (pure_leaves report after).mono ?_
  rintro _ _ ⟨rfl, rfl⟩
  rw [said, story]

theorem succeed_leaves_events {r : Report} {calls : List LoopCall} {events : List BuildEvent}
    (told : Told r job.limit events)
    (begun : eventsIn calls = events ++ [.started (r.attempts.length + 1) job.limit])
    (lessons : List Lesson) (artifact : Option Path) (diagnostic : String) :
    Leaves (w.observed.succeed job (r.attempts.length + 1) r lessons artifact diagnostic) calls
      fun report after => eventsIn after = report.story job.limit := by
  refine (keepAll_tells w lessons calls).bind ?_
  intro _ kept silent
  refine (announce_tells w (.succeeded _ artifact) kept).bind ?_
  intro _ announced said
  refine (deployBuilt_leaves_events w artifact announced).bind ?_
  intro deployed after copied
  refine (pure_leaves _ after).mono ?_
  rintro _ _ ⟨rfl, rfl⟩
  rw [copied, said, silent, begun, List.append_nil, ← told.succeeded rfl rfl, List.append_assoc events]
  rfl

/-- From rounds that all ended with a repair on, the events are told by the report. The induction is
on the attempts left. -/
theorem rounds_leave_events (left number : Nat) (r : Report) (lessons : List Lesson)
    (calls : List LoopCall) (told : Told r job.limit (eventsIn calls))
    (next : number = r.attempts.length + 1) :
    Leaves (w.observed.rounds job left number r lessons) calls fun report after =>
      eventsIn after = report.story job.limit := by
  induction left generalizing number r lessons calls with
  | zero => exact ended_leaves w job told.used_up
  | succ left ih =>
    subst next
    refine (cancelled_tells w calls).bind ?_
    intro cancelled checked silent
    rw [List.append_nil] at silent
    cases cancelled with
    | true =>
      refine ended_leaves w job ?_
      rw [silent]
      exact told.called_off_before
    | false =>
      refine (announce_tells w (.started _ job.limit) checked).bind ?_
      intro _ started begun
      refine (tryBuild_tells w job _ started).bind ?_
      intro result tried silently
      rw [begun, silent, List.append_nil] at silently
      cases result with
      | built artifact diagnostic =>
        exact succeed_leaves_events w job told silently lessons artifact diagnostic
      | failed diagnostic =>
        refine (announce_tells w (.failed _ diagnostic) tried).bind ?_
        intro _ failed said
        refine (cancelled_tells w failed).bind ?_
        intro cancelled rechecked still
        rw [said, silently, List.append_assoc, List.append_nil] at still
        cases cancelled with
        | true =>
          refine ended_leaves w job ?_
          simp only [still, List.append_assoc, List.cons_append, List.nil_append]
          exact told.called_off_after (a := job.attempt _ false diagnostic) rfl rfl
        | false =>
          refine (repair_tells w _ rechecked).bind ?_
          intro outcome asked unchanged
          rw [still, List.append_nil] at unchanged
          by_cases applied : outcome.applied = true
          · simp only [applied, if_true]
            refine (announce_tells w (.repaired _ _) asked).bind ?_
            intro _ repaired known
            refine ih _ _ _ repaired ?_ (by rw [Report.length_repaired])
            simp only [known, unchanged, List.append_assoc, List.cons_append, List.nil_append]
            exact told.next (a := { job.attempt _ false diagnostic with repair := some _ }) rfl
          · simp only [applied]
            refine ended_leaves w job ?_
            simp only [unchanged, List.append_assoc, List.cons_append, List.nil_append]
            exact told.given_up (a := job.attempt _ false diagnostic) rfl rfl rfl _

theorem build_leaves_events (runnable : job.widget.runnable = true) :
    Leaves (w.observed.build job) [] fun result calls =>
      ∃ report, result = .ok report ∧ eventsIn calls = report.story job.limit := by
  unfold Workshop.build
  rw [runnable]
  refine (rounds_leave_events w job job.limit 1 _ [] [] (.start _ job.limit) rfl).bind ?_
  intro report calls story
  refine (pure_leaves _ calls).mono ?_
  rintro _ _ ⟨rfl, rfl⟩
  exact ⟨report, rfl, story⟩

/-- The events of every build, in any surroundings, are those that its report tells, and no others. -/
theorem announced_events_story (s : σ) (runnable : job.widget.runnable = true) :
    ∃ report after calls, w.build job s = (.ok report, after) ∧
      w.observed.build job (s, []) = (.ok report, after, calls) ∧
      eventsIn calls = report.story job.limit := by
  obtain ⟨calls, mirrored⟩ := build_mirrors w job s []
  obtain ⟨report, built, story⟩ := build_leaves_events w job runnable s
  rw [mirrored] at built story
  refine ⟨report, (w.build job s).2, calls, ?_, ?_, story⟩
  · exact Prod.ext built rfl
  · rw [mirrored, built, List.nil_append]

/-- A workshop in which the second trial succeeds, after a repair, and what it built is wanted. -/
def secondTryDeployed : Workshop Unit where
  cancelled := return false
  prepare := return .ok ()
  trial attempt := return .ok (if attempt < 2 then .failed "TS2304" else .built (some ⟨"clock.mpk"⟩))
  repair _ := return .done "rules" "Added import"
  keep _ := return
  deploy _ := return some ⟨"app/clock.mpk"⟩
  announce _ := return

theorem second_try_events_story :
    let job : Job := { widget := { name := "Clock" }, workFolder := ⟨"work"⟩, limit := 3 }
    job.widget.runnable = true ∧ ∃ report after calls,
      secondTryDeployed.build job () = (.ok report, after) ∧
        eventsIn calls = report.story job.limit ∧
        report.story job.limit = [.started 1 3, .failed 1 "TS2304",
          .repaired 1 ⟨1, "rules", "Added import", none⟩, .started 2 3,
          .succeeded 2 (some ⟨"clock.mpk"⟩), .deployed ⟨"app/clock.mpk"⟩] := by
  intro job
  have runnable : job.widget.runnable = true := by decide
  obtain ⟨report, after, calls, built, -, story⟩ :=
    announced_events_story secondTryDeployed job () runnable
  refine ⟨runnable, report, after, calls, built, story, ?_⟩
  have rounds : secondTryDeployed.build job = do
      return .ok (← secondTryDeployed.rounds job 3 1 (.start job.widget.componentName) []) := by
    rw [Workshop.build, runnable]
    rfl
  rw [rounds, stateM_bind, stateM_pure] at built
  rw [← Except.ok.inj (Prod.mk.inj built).1]
  rfl

end Workshop

end WidgetRepair
