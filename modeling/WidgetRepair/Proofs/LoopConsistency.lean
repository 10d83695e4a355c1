import WidgetRepair.Proofs.LoopReport

/-! Every way out of the loop leaves a report that agrees with the calls, and every round that goes
on leaves the rounds behind as they have to be. The induction is on the attempts left. -/

namespace WidgetRepair

/-- After a failure the strategies are asked once, when the rest is quiet. -/
theorem Quiet.asked_once {more : List LoopCall} (quiet : Quiet [] more) {number : Nat}
    {diagnostic : String} {failure : Failure} {outcome : RepairOutcome} :
    consultationsIn (.announced (.failed number diagnostic) :: .checked false ::
      .asked failure outcome :: more) = [(failure, outcome)] := congrArg _ quiet.unasked

theorem Quiet.untried_failure {more : List LoopCall} (quiet : Quiet [] more) {number : Nat}
    {diagnostic : String} {failure : Failure} {outcome : RepairOutcome} :
    trialsIn (.announced (.failed number diagnostic) :: .checked false ::
      .asked failure outcome :: more) = [] := quiet.trials

namespace Course

variable {job : Job} {r : Report} {calls more : List LoopCall}

theorem accounted (course : Course job r calls r.attempts.length) (untried : trialsIn more = [])
    (unasked : consultationsIn more = []) : Accounted job r.attempts (calls ++ more) where
  triedOnce := by
    rw [trialsIn_append, untried, List.append_nil]
    exact course.triedOnce
  tried := by
    rw [trialsIn_append, untried, List.append_nil]
    exact fun number member => course.number_iff.mpr (course.tried number member)
  consultations := by
    rw [course.consulted, consultationsIn_append, unasked, List.append_nil]
    exact course.consultations

/-- With the attempt that is on, and with what was asked about it, everything is accounted for. -/
theorem accounted_with (course : Course job r calls (r.attempts.length + 1)) {a : Attempt}
    (number : a.number = r.attempts.length + 1) (untried : trialsIn more = [])
    (own : List.Forall₂ (Consultation job) ([a].filter (·.consulted (calls ++ more)))
      (consultationsIn more)) : Accounted job (r.attempts ++ [a]) (calls ++ more) where
  triedOnce := by
    rw [trialsIn_append, untried, List.append_nil]
    exact course.triedOnce
  tried := by
    rw [trialsIn_append, untried, List.append_nil]
    intro tried member
    have bound := course.tried tried member
    by_cases now : tried = r.attempts.length + 1
    · exact ⟨a, by simp, by rw [number, now]⟩
    · obtain ⟨b, before, same⟩ := course.number_iff.mpr ⟨bound.1, by omega⟩
      exact ⟨b, List.mem_append_left _ before, same⟩
  consultations := by
    rw [List.filter_append, course.consulted, consultationsIn_append]
    exact List.rel_append course.consultations own

/-- Whether the strategies are asked about a failed attempt, by the check that follows. -/
theorem consulted_failure (course : Course job r calls (r.attempts.length + 1))
    {a : Attempt} (number : a.number = r.attempts.length + 1) (failed : a.succeeded = false)
    (diagnostic : String) (answer : Bool) (more : List LoopCall) :
    a.consulted
      (calls ++ .announced (.failed (r.attempts.length + 1) diagnostic) :: .checked answer :: more) =
      !answer := by
  unfold Attempt.consulted
  rw [number, checkAfter_failure (course.unsaid _ (Nat.lt_succ_self _)), failed]
  cases answer <;> rfl

/-- No way out between two attempts, while the build is not called off, finds a repair declined. -/
theorem not_declined {last : Nat} (course : Course job r calls last)
    (unasked : consultationsIn more = []) : ¬ LastDeclined job r.attempts (calls ++ more) := by
  intro ⟨_, outcome, _, _, _, asked, declined⟩
  rw [consultationsIn_append, unasked, List.append_nil] at asked
  have applied := course.applied _ (List.mem_of_getLast? asked)
  rw [declined] at applied
  cases applied

theorem no_success {last : Nat} (course : Course job r calls last) :
    ¬ ∃ a, r.attempts.getLast? = some a ∧ a.succeeded = true := by
  intro ⟨a, final, good⟩
  have mended := course.mended a (List.mem_of_getLast? final)
  rw [mended.1] at good
  cases good

theorem recorded_with {last : Nat} (course : Course job r calls last) {a : Attempt}
    (number : a.number = r.attempts.length + 1) (unrepaired : a.repair = none) :
    Recorded (r.attempts ++ [a]) r.repairs := by
  have recorded := course.recorded.next course.mended number (by simp [unrepaired])
  rwa [unrepaired, Option.toList_none, List.append_nil] at recorded

theorem bounded_with (left : r.attempts.length < job.limit) (a : Attempt) :
    (r.attempts ++ [a]).length ≤ job.limit := by
  rw [List.length_append]
  exact left

theorem called_off_before (course : Course job r calls r.attempts.length)
    (left : r.attempts.length < job.limit) (quiet : Quiet [] more) :
    ({ r with outcome := .cancelled } : Report).Consistent job (calls ++ .checked true :: more) where
  toRecorded := course.recorded
  toAccounted := course.accounted quiet.trials quiet.unasked
  bounded := Nat.le_of_lt left
  succeeded := ⟨nofun, fun good => absurd good course.no_success⟩
  noRepair := ⟨nofun, fun last => absurd last (course.not_declined quiet.unasked)⟩
  suggestions := by simp [course.suggestions]
  exhausted := ⟨nofun, fun all => absurd all.1 (Nat.ne_of_lt left)⟩
  cancelled := by simp [sawCancellation, LoopCall.check?]

theorem used_up (course : Course job r calls r.attempts.length)
    (full : r.attempts.length = job.limit) (quiet : Quiet [] more) :
    ({ r with outcome := .exhausted } : Report).Consistent job (calls ++ more) where
  toRecorded := course.recorded
  toAccounted := course.accounted quiet.trials quiet.unasked
  bounded := Nat.le_of_eq full
  succeeded := ⟨nofun, fun good => absurd good course.no_success⟩
  noRepair := ⟨nofun, fun last => absurd last (course.not_declined quiet.unasked)⟩
  suggestions := by simp [course.suggestions]
  exhausted := ⟨fun _ => ⟨full, course.mended⟩, fun _ => rfl⟩
  cancelled := by
    rw [sawCancellation_append, course.unseen, quiet.unseen]
    exact ⟨nofun, nofun⟩

theorem succeeded (course : Course job r calls (r.attempts.length + 1))
    (left : r.attempts.length < job.limit) {a : Attempt} (number : a.number = r.attempts.length + 1)
    (good : a.succeeded = true) (unrepaired : a.repair = none) (quiet : Quiet [] more)
    (folder : Path) (artifact deployed : Option Path) :
    ({ r.withAttempt a with outcome := .succeeded folder artifact deployed } : Report).Consistent job
      (calls ++ more) where
  toRecorded := course.recorded_with number unrepaired
  toAccounted := by
    apply course.accounted_with number quiet.trials
    rw [quiet.unasked]
    simp [Attempt.consulted, good]
  bounded := bounded_with left a
  succeeded := ⟨fun _ => ⟨a, by simp [Report.withAttempt], good⟩, fun _ => rfl⟩
  noRepair := by
    refine ⟨nofun, fun ⟨b, _, final, failed, _⟩ => ?_⟩
    simp only [Report.withAttempt, List.getLast?_concat, Option.some.injEq] at final
    rw [← final, good] at failed
    cases failed
  suggestions := by simp [Report.withAttempt, course.suggestions]
  exhausted := by
    refine ⟨nofun, fun all => ?_⟩
    have mended := all.2 a (by simp [Report.withAttempt])
    rw [mended.1] at good
    cases good
  cancelled := by
    rw [sawCancellation_append, course.unseen, quiet.unseen]
    exact ⟨nofun, nofun⟩

/-- An attempt without a repair that failed is neither a success nor one of the repaired ones. -/
theorem unrepaired_last {a : Attempt} (failed : a.succeeded = false) (unrepaired : a.repair = none) :
    (¬ ∃ b, (r.withAttempt a).attempts.getLast? = some b ∧ b.succeeded = true) ∧
      ¬ ∀ b ∈ (r.withAttempt a).attempts, b.Mended := by
  constructor
  · intro ⟨b, final, good⟩
    simp only [Report.withAttempt, List.getLast?_concat, Option.some.injEq] at final
    rw [← final, failed] at good
    cases good
  · intro mended
    have repaired := (mended a (by simp [Report.withAttempt])).2
    rw [unrepaired] at repaired
    cases repaired

theorem called_off_after (course : Course job r calls (r.attempts.length + 1))
    (left : r.attempts.length < job.limit) {a : Attempt} (number : a.number = r.attempts.length + 1)
    (failed : a.succeeded = false) (unrepaired : a.repair = none) (quiet : Quiet [] more)
    (diagnostic : String) :
    ({ r.withAttempt a with outcome := .cancelled } : Report).Consistent job
      (calls ++ .announced (.failed (r.attempts.length + 1) diagnostic) :: .checked true :: more) where
  toRecorded := course.recorded_with number unrepaired
  toAccounted := by
    refine course.accounted_with number quiet.trials ?_
    rw [List.filter_cons, course.consulted_failure number failed]
    have unasked : consultationsIn (.announced (.failed (r.attempts.length + 1) diagnostic) ::
      .checked true :: more) = [] := quiet.unasked
    rw [unasked]
    exact .nil
  bounded := bounded_with left a
  succeeded := ⟨nofun, fun good => absurd good (unrepaired_last failed unrepaired).1⟩
  noRepair := by
    refine ⟨nofun, fun ⟨_, _, _, _, unseen, _⟩ => ?_⟩
    simp [sawCancellation, LoopCall.check?] at unseen
  suggestions := by simp [Report.withAttempt, course.suggestions]
  exhausted := ⟨nofun, fun all => absurd all.2 (unrepaired_last failed unrepaired).2⟩
  cancelled := by simp [sawCancellation, LoopCall.check?]

theorem declined (course : Course job r calls (r.attempts.length + 1))
    (left : r.attempts.length < job.limit) {a : Attempt} (number : a.number = r.attempts.length + 1)
    (failed : a.succeeded = false) (unrepaired : a.repair = none) {outcome : RepairOutcome}
    (unapplied : outcome.applied = false) (quiet : Quiet [] more) :
    ({ r.withAttempt a with
        outcome := .noRepair, suggestions := some outcome.description } : Report).Consistent job
      (calls ++ .announced (.failed (r.attempts.length + 1) a.diagnostic) :: .checked false ::
        .asked (job.failure a.diagnostic) outcome :: more) where
  toRecorded := course.recorded_with number unrepaired
  toAccounted := by
    refine course.accounted_with number quiet.trials ?_
    rw [List.filter_cons, course.consulted_failure number failed]
    rw [quiet.asked_once]
    exact .cons ⟨rfl, by simp [unapplied, unrepaired]⟩ .nil
  bounded := bounded_with left a
  succeeded := ⟨nofun, fun good => absurd good (unrepaired_last failed unrepaired).1⟩
  noRepair := by
    refine ⟨fun _ => ⟨a, outcome, by simp [Report.withAttempt], failed, ?_, ?_, unapplied⟩, fun _ => rfl⟩
    · rw [sawCancellation_append, course.unseen]
      exact quiet.unseen
    · rw [consultationsIn_append, quiet.asked_once, List.getLast?_concat]
  suggestions := by simp
  exhausted := ⟨nofun, fun all => absurd all.2 (unrepaired_last failed unrepaired).2⟩
  cancelled := by
    refine ⟨nofun, fun off => ?_⟩
    rw [sawCancellation_append, course.unseen] at off
    have unseen : sawCancellation more = true := off
    rw [quiet.unseen] at unseen
    cases unseen

theorem repaired (course : Course job r calls (r.attempts.length + 1)) {a : Attempt}
    (number : a.number = r.attempts.length + 1) (failed : a.succeeded = false)
    {outcome : RepairOutcome} (applied : outcome.applied = true) {repair : AppliedRepair}
    (made : repair = .ofOutcome (r.attempts.length + 1) outcome) (quiet : Quiet [] more) :
    Course job ((r.withRepair repair).withAttempt { a with repair := some repair })
      (calls ++ .announced (.failed (r.attempts.length + 1) a.diagnostic) :: .checked false ::
        .asked (job.failure a.diagnostic) outcome :: more) (r.attempts.length + 1) where
  recorded := by
    apply course.recorded.next course.mended (a := { a with repair := some repair }) number
    intro other same
    rw [← Option.some.inj same, made, number]
    rfl
  mended := by
    intro b member
    rcases List.mem_append.mp member with before | now
    · exact course.mended b before
    · rw [List.mem_singleton.mp now]
      exact ⟨failed, rfl⟩
  suggestions := course.suggestions
  unseen := by
    rw [sawCancellation_append, course.unseen]
    exact quiet.unseen
  triedOnce := by
    rw [trialsIn_append, quiet.untried_failure, List.append_nil]
    exact course.triedOnce
  tried := by
    rw [trialsIn_append, quiet.untried_failure, List.append_nil]
    exact course.tried
  answered := by
    intro b member
    rcases List.mem_append.mp member with before | now
    · exact checkAfter_append (course.answered b before) _
    · rw [List.mem_singleton.mp now]
      have said := checkAfter_failure (course.unsaid _ (Nat.lt_succ_self _)) a.diagnostic false
        (.asked (job.failure a.diagnostic) outcome :: more)
      show checkAfter? a.number _ = _
      rw [number]
      exact said
  unsaid := by
    intro attempt later c member
    rw [Report.withAttempt, List.length_append] at later
    rcases List.mem_append.mp member with before | now
    · exact course.unsaid attempt (Nat.lt_of_succ_lt later) c before
    · simp only [List.mem_cons] at now
      rcases now with rfl | rfl | rfl | inside
      · exact beq_false_of_ne (Nat.ne_of_lt later)
      · rfl
      · rfl
      · exact quiet.unsaid c inside attempt
  consultations := by
    rw [consultationsIn_append]
    refine List.rel_append course.consultations ?_
    rw [quiet.asked_once]
    exact .cons ⟨rfl, by simp [applied, made, number]⟩ .nil

end Course

namespace Workshop

variable {σ : Type} (w : Workshop σ) (job : Job)

theorem tryBuild_leaves (number : Nat) (calls : List LoopCall) :
    Leaves (w.observed.tryBuild job number) calls fun _ after =>
      ∃ more trials, after = calls ++ more ∧ Quiet trials more ∧ (trials = [] ∨ trials = [number]) := by
  refine (noted_leaves _ w.prepare calls).bind ?_
  rintro made _ rfl
  cases made with
  | error fault =>
    refine (pure_leaves _ _).mono ?_
    intro _ _ ended
    obtain ⟨-, rfl⟩ := ended
    exact ⟨_, [], rfl, .prepared _, .inl rfl⟩
  | ok _ =>
    refine (noted_leaves _ (w.trial number) _).bind ?_
    rintro result _ rfl
    have quiet := (Quiet.prepared (.ok ())).append (.tried number result)
    cases result <;>
    · refine (pure_leaves _ _).mono ?_
      intro _ _ ended
      obtain ⟨-, rfl⟩ := ended
      exact ⟨_, [number], List.append_assoc .., quiet, .inr rfl⟩

theorem keepAll_leaves (lessons : List Lesson) (calls : List LoopCall) :
    Leaves (w.observed.keepAll lessons) calls fun _ after =>
      ∃ more, after = calls ++ more ∧ Quiet [] more := by
  induction lessons generalizing calls with
  | nil =>
    refine (pure_leaves _ _).mono ?_
    intro _ _ ended
    obtain ⟨-, rfl⟩ := ended
    exact ⟨[], (List.append_nil _).symm, .nil⟩
  | cons lesson rest ih =>
    refine (noted_leaves (fun _ => .kept lesson) (w.keep lesson) calls).bind ?_
    rintro _ _ rfl
    refine (ih _).mono ?_
    intro _ _ ended
    obtain ⟨more, rfl, quiet⟩ := ended
    exact ⟨_, List.append_assoc .., (Quiet.kept lesson).append quiet⟩

theorem deployBuilt_leaves (artifact : Option Path) (calls : List LoopCall) :
    Leaves (w.observed.deployBuilt artifact) calls fun _ after =>
      ∃ more, after = calls ++ more ∧ Quiet [] more := by
  cases artifact with
  | none =>
    refine (pure_leaves _ _).mono ?_
    intro _ _ ended
    obtain ⟨-, rfl⟩ := ended
    exact ⟨[], (List.append_nil _).symm, .nil⟩
  | some artifact =>
    refine (noted_leaves _ (w.deploy artifact) calls).bind ?_
    rintro deployed _ rfl
    cases deployed with
    | none =>
      refine (pure_leaves _ _).mono ?_
      intro _ _ ended
      obtain ⟨-, rfl⟩ := ended
      exact ⟨_, rfl, .deployed artifact none⟩
    | some target =>
      refine (noted_leaves (fun _ => .announced (.deployed target)) (w.announce _) _).bind ?_
      rintro _ _ rfl
      refine (pure_leaves _ _).mono ?_
      intro _ _ ended
      obtain ⟨-, rfl⟩ := ended
      exact ⟨_, List.append_assoc .., (Quiet.deployed artifact _).append (.announced fun _ => rfl)⟩

/-- What is announced last, before a report is returned. -/
theorem announce_leaves (event : BuildEvent) (report : Report) (calls : List LoopCall)
    {post : Report → List LoopCall → Prop} (fits : post report (calls ++ [.announced event])) :
    Leaves (do w.observed.announce event; return report) calls post := by
  refine (noted_leaves (fun _ => .announced event) (w.announce event) calls).bind ?_
  rintro _ _ rfl
  refine (pure_leaves _ _).mono ?_
  intro _ _ ended
  obtain ⟨rfl, rfl⟩ := ended
  exact fits

theorem succeed_leaves {r : Report} {calls : List LoopCall}
    (course : Course job r calls (r.attempts.length + 1)) (left : r.attempts.length < job.limit)
    (lessons : List Lesson) (artifact : Option Path) (diagnostic : String) :
    Leaves (w.observed.succeed job (r.attempts.length + 1) r lessons artifact diagnostic) calls
      fun report after => report.Consistent job after := by
  refine (keepAll_leaves w lessons calls).bind ?_
  intro _ _ ended
  obtain ⟨kept, rfl, quiet⟩ := ended
  refine (noted_leaves (fun _ => .announced (.succeeded _ artifact)) (w.announce _) _).bind ?_
  rintro _ _ rfl
  refine (deployBuilt_leaves w artifact _).bind ?_
  intro deployed _ ended
  obtain ⟨more, rfl, calm⟩ := ended
  refine (pure_leaves _ _).mono ?_
  intro _ _ ended
  obtain ⟨rfl, rfl⟩ := ended
  rw [List.append_assoc, List.append_assoc]
  exact course.succeeded left rfl rfl rfl (quiet.append ((Quiet.announced fun _ => rfl).append calm)) ..

/-- Attempts after rounds that all ended with a repair. -/
theorem rounds_leave (left number : Nat) (r : Report) (lessons : List Lesson) (calls : List LoopCall)
    (course : Course job r calls r.attempts.length) (next : number = r.attempts.length + 1)
    (limit : r.attempts.length + left = job.limit) :
    Leaves (w.observed.rounds job left number r lessons) calls fun report after =>
      report.Consistent job after := by
  induction left generalizing number r lessons calls with
  | zero => exact announce_leaves w _ _ _ (course.used_up limit (.announced fun _ => rfl))
  | succ left ih =>
    have some_left : r.attempts.length < job.limit := by omega
    subst next
    refine (noted_leaves _ w.cancelled calls).bind ?_
    rintro cancelled _ rfl
    cases cancelled with
    | true =>
      refine announce_leaves w _ _ _ ?_
      rw [List.append_assoc]
      exact course.called_off_before some_left (.announced fun _ => rfl)
    | false =>
      refine (noted_leaves (fun _ => .announced (.started _ job.limit)) (w.announce _) _).bind ?_
      rintro _ _ rfl
      refine (tryBuild_leaves w job _ _).bind ?_
      intro result _ ended
      obtain ⟨more, trials, rfl, quiet, which⟩ := ended
      have begun : Course job r (calls ++ [.checked false] ++
          [.announced (.started (r.attempts.length + 1) job.limit)]) r.attempts.length :=
        (course.untried .unchecked).untried (.announced fun _ => rfl)
      have course := begun.quietly quiet (Nat.le_succ _) (by rcases which with rfl | rfl <;> simp)
        (by rcases which with rfl | rfl <;> simp)
      generalize calls ++ [.checked false] ++ _ ++ more = calls at course ⊢
      cases result with
      | built artifact diagnostic =>
        exact succeed_leaves w job course some_left lessons artifact diagnostic
      | failed diagnostic =>
        refine (noted_leaves (fun _ => .announced (.failed _ diagnostic)) (w.announce _) _).bind ?_
        rintro _ _ rfl
        refine (noted_leaves _ w.cancelled _).bind ?_
        rintro cancelled _ rfl
        cases cancelled with
        | true =>
          refine announce_leaves w _ _ _ ?_
          rw [List.append_assoc, List.append_assoc]
          exact course.called_off_after some_left rfl rfl rfl (.announced fun _ => rfl) diagnostic
        | false =>
          refine (noted_leaves _ (w.repair _) _).bind ?_
          rintro outcome _ rfl
          cases applied : outcome.applied with
          | true =>
            refine (noted_leaves (fun _ => .announced (.repaired _ _)) (w.announce _) _).bind ?_
            rintro _ _ rfl
            refine ih _ _ _ _ ?_ (by rw [Report.length_repaired]) (by rw [Report.length_repaired]; omega)
            rw [Report.length_repaired]
            simp only [List.append_assoc, List.cons_append, List.nil_append]
            exact course.repaired (a := job.attempt _ false diagnostic) rfl rfl applied rfl
              (.announced fun _ => rfl)
          | false =>
            refine announce_leaves w _ _ _ ?_
            simp only [List.append_assoc, List.cons_append, List.nil_append]
            exact course.declined (a := job.attempt _ false diagnostic) some_left rfl rfl rfl applied
              (.announced fun _ => rfl)

theorem build_leaves (runnable : job.widget.runnable = true) :
    Leaves (w.observed.build job) [] fun result calls =>
      ∃ report, result = .ok report ∧ report.Consistent job calls := by
  unfold Workshop.build
  rw [runnable]
  refine (rounds_leave w job job.limit 1 _ [] [] (.start job _) rfl (Nat.zero_add _)).bind ?_
  intro report calls consistent
  refine (pure_leaves _ _).mono ?_
  intro _ _ ended
  obtain ⟨rfl, rfl⟩ := ended
  exact ⟨report, rfl, consistent⟩

/-- The report of every build, in any surroundings, agrees with the calls that were made. -/
theorem build_report_consistent (s : σ) (runnable : job.widget.runnable = true) :
    ∃ report after calls, w.build job s = (.ok report, after) ∧
      w.observed.build job (s, []) = (.ok report, after, calls) ∧ report.Consistent job calls := by
  obtain ⟨calls, mirrored⟩ := build_mirrors w job s []
  obtain ⟨report, built, consistent⟩ := build_leaves w job runnable s
  rw [mirrored] at built consistent
  refine ⟨report, (w.build job s).2, calls, ?_, ?_, consistent⟩
  · exact Prod.ext built rfl
  · rw [mirrored, built, List.nil_append]

/-- A workshop in which the second trial succeeds, after a repair. -/
def secondTry : Workshop Unit where
  cancelled := return false
  prepare := return .ok ()
  trial attempt := return .ok (if attempt < 2 then .failed "TS2304" else .built none)
  repair _ := return .done "rules" "Added import"
  keep _ := return
  deploy _ := return none
  announce _ := return

theorem second_try_report_consistent :
    let job : Job := { widget := { name := "Clock" }, workFolder := ⟨"work"⟩, limit := 3 }
    job.widget.runnable = true ∧ ∃ report after calls,
      secondTry.build job () = (.ok report, after) ∧ report.Consistent job calls ∧
        report.attempts.length = 2 ∧ trialsIn calls = [1, 2] := by
  intro job
  have runnable : job.widget.runnable = true := by decide
  obtain ⟨report, after, calls, built, observed, consistent⟩ :=
    build_report_consistent secondTry job () runnable
  have rounds : secondTry.observed.build job = do
      return .ok (← secondTry.observed.rounds job 3 1 (.start job.widget.componentName) []) := by
    rw [Workshop.build, runnable]
    rfl
  rw [rounds, stateM_bind, stateM_pure] at observed
  obtain ⟨same, seen⟩ := Prod.mk.inj observed
  have report_same := Except.ok.inj same
  have calls_same := (Prod.mk.inj seen).2
  refine ⟨runnable, report, after, calls, built, consistent, ?_, ?_⟩
  · rw [← report_same]
    rfl
  · rw [← calls_same]
    rfl

end Workshop

end WidgetRepair
