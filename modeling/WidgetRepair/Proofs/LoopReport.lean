import Mathlib.Data.List.Forall2
import WidgetRepair.Proofs.LoopCalls

/-! The report of a build agrees with what happened. Attempts, repairs, suggestions and outcome are
set at different places of the loop, on five ways out of it; one invariant of the rounds behind
ties them to the calls that were made. -/

namespace WidgetRepair

def Attempt.Mended (a : Attempt) : Prop := a.succeeded = false ∧ a.repair.isSome

/-- Whether a failed attempt was followed by a check that let the build go on. -/
def Attempt.consulted (a : Attempt) (calls : List LoopCall) : Bool :=
  !a.succeeded && checkAfter? a.number calls == some false

/-- A consultation about an attempt: the strategies were asked about its failure, and the attempt
carries the repair they made. -/
def Consultation (job : Job) (a : Attempt) (c : Failure × RepairOutcome) : Prop :=
  c.1 = job.failure a.diagnostic ∧
    a.repair = if c.2.applied then some (.ofOutcome a.number c.2) else none

/-- The last attempt failed, nothing called the build off, and the strategies declined. -/
def LastDeclined (job : Job) (attempts : List Attempt) (calls : List LoopCall) : Prop :=
  ∃ a outcome, attempts.getLast? = some a ∧ a.succeeded = false ∧ sawCancellation calls = false ∧
    (consultationsIn calls).getLast? = some (job.failure a.diagnostic, outcome) ∧
    outcome.applied = false

/-- Attempts that are counted from one, where only the last may be without a repair, and the repairs
they carry. -/
structure Recorded (attempts : List Attempt) (repairs : List AppliedRepair) : Prop where
  numbered : attempts.map (·.number) = List.range' 1 attempts.length
  mended : ∀ a ∈ attempts.dropLast, a.Mended
  repairs : repairs = attempts.filterMap (·.repair)
  matching : ∀ a ∈ attempts, ∀ repair, a.repair = some repair → repair.attempt = a.number

/-- No attempt was tried twice, and the strategies were asked about every failed attempt after which
the build could go on, and about nothing else. -/
structure Accounted (job : Job) (attempts : List Attempt) (calls : List LoopCall) : Prop where
  triedOnce : (trialsIn calls).Nodup
  tried : ∀ number ∈ trialsIn calls, ∃ a ∈ attempts, a.number = number
  consultations : List.Forall₂ (Consultation job) (attempts.filter (·.consulted calls))
    (consultationsIn calls)

/-- What a report has to be to tell the truth about the calls of a build. -/
structure Report.Consistent (r : Report) (job : Job) (calls : List LoopCall) : Prop
    extends Recorded r.attempts r.repairs, Accounted job r.attempts calls where
  bounded : r.attempts.length ≤ job.limit
  succeeded : r.succeeded = true ↔ ∃ a, r.attempts.getLast? = some a ∧ a.succeeded = true
  noRepair : r.outcome = .noRepair ↔ LastDeclined job r.attempts calls
  suggestions : r.suggestions.isSome ↔ r.outcome = .noRepair
  exhausted : r.outcome = .exhausted ↔
    r.attempts.length = job.limit ∧ ∀ a ∈ r.attempts, a.Mended
  cancelled : r.outcome = .cancelled ↔ sawCancellation calls = true

theorem trialsIn_append (calls more : List LoopCall) :
    trialsIn (calls ++ more) = trialsIn calls ++ trialsIn more := List.filterMap_append

theorem consultationsIn_append (calls more : List LoopCall) :
    consultationsIn (calls ++ more) = consultationsIn calls ++ consultationsIn more :=
  List.filterMap_append

theorem sawCancellation_append (calls more : List LoopCall) :
    sawCancellation (calls ++ more) = (sawCancellation calls || sawCancellation more) := by
  unfold sawCancellation
  rw [List.filterMap_append, List.contains_append]

theorem checkAfter_append {attempt : Nat} {calls : List LoopCall} {answer : Bool}
    (answered : checkAfter? attempt calls = some answer) (more : List LoopCall) :
    checkAfter? attempt (calls ++ more) = some answer := by
  unfold checkAfter? at answered ⊢
  rw [List.dropWhile_append]
  split
  next empty => simp [List.isEmpty_iff.mp empty] at answered
  next => rw [List.findSome?_append, answered, Option.some_or]

/-- The first check after a failure is said is the one that belongs to it. -/
theorem checkAfter_failure {attempt : Nat} {calls : List LoopCall}
    (unsaid : ∀ c ∈ calls, c.failureOf attempt = false) (diagnostic : String) (answer : Bool)
    (more : List LoopCall) :
    checkAfter? attempt
      (calls ++ .announced (.failed attempt diagnostic) :: .checked answer :: more) =
      some answer := by
  unfold checkAfter?
  rw [List.dropWhile_append_of_pos (by simpa using unsaid)]
  simp [LoopCall.failureOf]
  rfl

/-- Calls that neither find the build called off, nor consult, nor speak of a failure, and that make
just these trials. -/
structure Quiet (trials : List Nat) (calls : List LoopCall) : Prop where
  unseen : sawCancellation calls = false
  unasked : consultationsIn calls = []
  unsaid : ∀ c ∈ calls, ∀ attempt, c.failureOf attempt = false
  trials : trialsIn calls = trials

namespace Quiet

theorem nil : Quiet [] [] := ⟨rfl, rfl, by simp, rfl⟩

theorem append {trials others : List Nat} {calls more : List LoopCall} (quiet : Quiet trials calls)
    (other : Quiet others more) : Quiet (trials ++ others) (calls ++ more) where
  unseen := by rw [sawCancellation_append, quiet.unseen, other.unseen]; rfl
  unasked := by rw [consultationsIn_append, quiet.unasked, other.unasked]; rfl
  unsaid := fun c member => (List.mem_append.mp member).elim (quiet.unsaid c) (other.unsaid c)
  trials := by rw [trialsIn_append, quiet.trials, other.trials]

theorem unchecked : Quiet [] [.checked false] := ⟨rfl, rfl, by simp [LoopCall.failureOf], rfl⟩

theorem prepared (result : Except DiskFault Unit) : Quiet [] [.prepared result] :=
  ⟨rfl, rfl, by simp [LoopCall.failureOf], rfl⟩

theorem tried (number : Nat) (result : Except BuildFault Trial) :
    Quiet [number] [.tried number result] :=
  ⟨rfl, rfl, by simp [LoopCall.failureOf], rfl⟩

theorem kept (lesson : Lesson) : Quiet [] [.kept lesson] :=
  ⟨rfl, rfl, by simp [LoopCall.failureOf], rfl⟩

theorem deployed (artifact : Path) (target : Option Path) : Quiet [] [.deployed artifact target] :=
  ⟨rfl, rfl, by simp [LoopCall.failureOf], rfl⟩

theorem announced {event : BuildEvent}
    (unsaid : ∀ attempt, (LoopCall.announced event).failureOf attempt = false) :
    Quiet [] [.announced event] :=
  ⟨rfl, rfl, by simpa using unsaid, rfl⟩

end Quiet

theorem Report.length_repaired (r : Report) (repair : AppliedRepair) (a : Attempt) :
    ((r.withRepair repair).withAttempt a).attempts.length = r.attempts.length + 1 :=
  List.length_append

theorem Recorded.next {attempts : List Attempt} {repairs : List AppliedRepair}
    (recorded : Recorded attempts repairs) (mended : ∀ a ∈ attempts, a.Mended) {a : Attempt}
    (number : a.number = attempts.length + 1)
    (matching : ∀ repair, a.repair = some repair → repair.attempt = a.number) :
    Recorded (attempts ++ [a]) (repairs ++ a.repair.toList) where
  numbered := by
    simp only [List.map_append, List.map_cons, List.map_nil, List.length_append, List.length_cons,
      List.length_nil]
    rw [recorded.numbered, number, List.range'_concat]
    simp [Nat.add_comm]
  mended := by
    rw [List.dropLast_concat]
    exact mended
  repairs := by
    rw [List.filterMap_append, recorded.repairs]
    cases repaired : a.repair <;> simp [repaired]
  matching := by
    intro b member
    rcases List.mem_append.mp member with before | now
    · exact recorded.matching b before
    · rw [List.mem_singleton.mp now]
      exact matching

/-- What holds after some rounds, each of which ended with a repair. Trials went up to `last`. -/
structure Course (job : Job) (r : Report) (calls : List LoopCall) (last : Nat) : Prop where
  recorded : Recorded r.attempts r.repairs
  mended : ∀ a ∈ r.attempts, a.Mended
  suggestions : r.suggestions = none
  unseen : sawCancellation calls = false
  triedOnce : (trialsIn calls).Nodup
  tried : ∀ number ∈ trialsIn calls, 1 ≤ number ∧ number ≤ last
  answered : ∀ a ∈ r.attempts, checkAfter? a.number calls = some false
  unsaid : ∀ attempt, r.attempts.length < attempt → ∀ c ∈ calls, c.failureOf attempt = false
  consultations : List.Forall₂ (Consultation job) r.attempts (consultationsIn calls)

namespace Course

variable {job : Job} {r : Report} {calls more : List LoopCall} {last : Nat}

theorem start (job : Job) (widget : String) : Course job (.start widget) [] 0 where
  recorded := ⟨rfl, by simp [Report.start], rfl, by simp [Report.start]⟩
  mended := by simp [Report.start]
  suggestions := rfl
  unseen := rfl
  triedOnce := List.nodup_nil
  tried := by simp [trialsIn]
  answered := by simp [Report.start]
  unsaid := by simp
  consultations := .nil

theorem quietly (course : Course job r calls last) {trials : List Nat} (quiet : Quiet trials more)
    {next : Nat} (growth : last ≤ next) (once : trials.Nodup)
    (tried : ∀ number ∈ trials, last < number ∧ number ≤ next) : Course job r (calls ++ more) next where
  recorded := course.recorded
  mended := course.mended
  suggestions := course.suggestions
  unseen := by rw [sawCancellation_append, course.unseen, quiet.unseen]; rfl
  triedOnce := by
    rw [trialsIn_append, quiet.trials]
    refine List.nodup_append.mpr ⟨course.triedOnce, once, ?_⟩
    intro number before other now same
    have bound := (course.tried number before).2
    have above := (tried other now).1
    omega
  tried := by
    rw [trialsIn_append, quiet.trials]
    intro number member
    rcases List.mem_append.mp member with before | now
    · have bound := course.tried number before
      omega
    · have bound := tried number now
      omega
  answered := fun a member => checkAfter_append (course.answered a member) more
  unsaid := fun attempt later c member =>
    (List.mem_append.mp member).elim (course.unsaid attempt later c) fun inside =>
      quiet.unsaid c inside attempt
  consultations := by
    rw [consultationsIn_append, quiet.unasked, List.append_nil]
    exact course.consultations

theorem untried (course : Course job r calls last) (quiet : Quiet [] more) :
    Course job r (calls ++ more) last :=
  course.quietly quiet (Nat.le_refl last) List.nodup_nil (by simp)

theorem number_iff (course : Course job r calls last) {number : Nat} :
    (∃ a ∈ r.attempts, a.number = number) ↔ 1 ≤ number ∧ number ≤ r.attempts.length := by
  have shown : (∃ a ∈ r.attempts, a.number = number) ↔
      number ∈ r.attempts.map (·.number) := by simp
  rw [shown, course.recorded.numbered, List.mem_range'_1]
  omega

/-- The attempts behind were all followed by a consultation, whatever is called later. -/
theorem consulted (course : Course job r calls last) (more : List LoopCall) :
    r.attempts.filter (·.consulted (calls ++ more)) = r.attempts := by
  apply List.filter_eq_self.mpr
  intro a member
  unfold Attempt.consulted
  rw [checkAfter_append (course.answered a member), (course.mended a member).1]
  rfl

theorem applied (course : Course job r calls last) :
    ∀ c ∈ consultationsIn calls, c.2.applied = true := by
  have mended := course.mended
  have consultations := course.consultations
  generalize consultationsIn calls = asked at consultations
  generalize r.attempts = attempts at mended consultations
  induction consultations with
  | nil => simp
  | cons first _ ih =>
    have repaired := (mended _ List.mem_cons_self).2
    rw [first.2] at repaired
    refine List.forall_mem_cons.mpr ⟨?_, ih fun a member => mended a (List.mem_cons_of_mem _ member)⟩
    by_contra declined
    simp [declined] at repaired

end Course

end WidgetRepair
