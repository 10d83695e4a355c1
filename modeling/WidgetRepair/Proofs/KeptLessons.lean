import Mathlib.Data.List.Forall2
import WidgetRepair.Build.Workshop
import WidgetRepair.Proofs.LoopScript
import WidgetRepair.Proofs.StoreRuns

/-! Lessons wait for a success. The store stays what it was until an attempt has succeeded; then every
lesson of a repair that was made is learned, in order, and a build that ends otherwise learns nothing. -/

namespace WidgetRepair

open StoreCall

def LoopCall.kept? : LoopCall → Option Lesson
  | kept lesson => some lesson
  | _ => none

def LoopCall.lesson? : LoopCall → Option Lesson
  | asked _ outcome => if outcome.applied then outcome.lesson else none
  | _ => none

def keptIn (calls : List LoopCall) : List Lesson := calls.filterMap LoopCall.kept?

def lessonsIn (calls : List LoopCall) : List Lesson := calls.filterMap LoopCall.lesson?

theorem keptIn_append (calls more : List LoopCall) :
    keptIn (calls ++ more) = keptIn calls ++ keptIn more := List.filterMap_append

theorem lessonsIn_append (calls more : List LoopCall) :
    lessonsIn (calls ++ more) = lessonsIn calls ++ lessonsIn more := List.filterMap_append

/-- Calls that have nothing to do with lessons. -/
structure Unlearned (calls : List LoopCall) : Prop where
  kept : keptIn calls = []
  lessons : lessonsIn calls = []

theorem TrialScript.unlearned {job : Job} {number : Nat} {trial : List LoopCall} {result : Trial}
    (script : TrialScript number trial result) : Unlearned (attemptCalls job number trial) := by
  cases script <;> exact ⟨rfl, rfl⟩

theorem DeployScript.unlearned {deploys : List LoopCall} (script : DeployScript deploys) :
    Unlearned deploys := by
  cases script <;> exact ⟨rfl, rfl⟩

theorem lessonsIn_failure {job : Job} {number : Nat} {diagnostic : String} {outcome : RepairOutcome}
    {event : BuildEvent} (applied : outcome.applied = true) :
    lessonsIn (failureCalls job number diagnostic outcome event) = outcome.lesson.toList := by
  simp only [lessonsIn, failureCalls, List.filterMap_cons, LoopCall.lesson?, applied, if_true]
  cases outcome.lesson <;> rfl

/-- The calls of a trial that built something end with it. -/
theorem TrialScript.built_last {number : Nat} {trial : List LoopCall} {artifact : Option Path}
    {diagnostic : String} (script : TrialScript number trial (.built artifact diagnostic)) :
    trial = [.prepared (.ok ()), .tried number (.ok (.built artifact diagnostic))] := by
  cases script with
  | made => rfl

namespace Script

variable {job : Job} {left number : Nat} {lessons : List Lesson} {calls : List LoopCall}

theorem withheld (script : Script job left number lessons calls false) : keptIn calls = [] := by
  generalize ended : false = good at script
  induction script with
  | usedUp | calledOff => rfl
  | succeeded => cases ended
  | calledOffAfter failed | declined failed _ =>
    rw [keptIn_append, failed.unlearned.kept]
    rfl
  | repaired failed _ _ ih =>
    rw [keptIn_append, failed.unlearned.kept, keptIn_append, ih ended]
    rfl

/-- Where a success is: behind the calls that led to it, and before those that learn from it. -/
structure Success (lessons : List Lesson) (calls past later : List LoopCall) (number : Nat)
    (trial : Trial) : Prop where
  calls : calls = past ++ .tried number (.ok trial) :: ((lessons ++ lessonsIn past).map .kept ++ later)
  past : keptIn past = []
  later : Unlearned later

/-- The lessons that wait are those of the attempts before, so a repair hands its own on to the rest. -/
theorem success (script : Script job left number lessons calls true) :
    ∃ past later number artifact diagnostic,
      Success lessons calls past later number (.built artifact diagnostic) := by
  generalize ended : true = good at script
  induction script with
  | usedUp | calledOff | calledOffAfter | declined => cases ended
  | @succeeded left number lessons trial deploys artifact diagnostic built deploying =>
    refine ⟨attemptCalls job number [.prepared (.ok ())], .announced (.succeeded number artifact) :: deploys,
      number, artifact, diagnostic, ?_, rfl, ?_⟩
    · rw [built.built_last]
      simp [attemptCalls, lessonsIn, LoopCall.lesson?]
    · exact ⟨deploying.unlearned.kept, deploying.unlearned.lessons⟩
  | @repaired left number lessons trial rest diagnostic outcome good failed applied further ih =>
    obtain ⟨past, later, last, artifact, built, success⟩ := ih ended
    have before : Unlearned (attemptCalls job number trial) := failed.unlearned
    refine ⟨attemptCalls job number trial ++ (failureCalls job number diagnostic outcome
      (.repaired number (.ofOutcome number outcome)) ++ past), later, last, artifact, built, ?_, ?_, success.later⟩
    · have learned : lessonsIn (attemptCalls job number trial ++ (failureCalls job number diagnostic outcome
          (.repaired number (.ofOutcome number outcome)) ++ past)) = outcome.lesson.toList ++ lessonsIn past := by
        rw [lessonsIn_append, before.lessons, lessonsIn_append, lessonsIn_failure applied]
        rfl
      rw [learned, success.calls]
      simp only [List.append_assoc]
    · rw [keptIn_append, before.kept, keptIn_append, success.past]
      rfl

end Script

/-- Strategies that leave the store alone. -/
def Chain.SparesStore {τ : Type} (chain : Chain (World τ)) : Prop :=
  ∀ s ∈ chain.strategies, ∀ f w, (s.attempt f w).2.store = w.store

theorem Chain.SparesStore.repair {τ : Type} {chain : Chain (World τ)} (spares : chain.SparesStore)
    (f : Failure) (w : World τ) : (chain.repair f w).2.store = w.store := by
  have asked (strategies : List (Strategy (World τ))) (notes : List String) (w : World τ)
      (spares : ∀ s ∈ strategies, ∀ f w, (s.attempt f w).2.store = w.store) :
      (Chain.askEach f notes strategies w).2.store = w.store := by
    induction strategies generalizing notes w with
    | nil => rfl
    | cons s rest ih =>
      obtain ⟨first, spares⟩ := List.forall_mem_cons.mp spares
      rw [Chain.askEach, stateM_bind]
      split
      · exact first f w
      · exact (ih _ _ spares).trans (first f w)
  exact asked chain.strategies [] w spares

/-- A lesson, and the call that learns it. -/
def Learns (lesson : Lesson) (call : StoreCall) : Prop :=
  ∃ stamp, call = .learn lesson.error lesson.description lesson.fix true stamp

namespace Workshop

variable {τ : Type}

/-- The workshop of the world, with any way to generate and compile a widget. -/
def ofExecutor (stamps : Stamps) (job : Job) (target : Option Path)
    (execute : Nat → OnSite τ (Except BuildFault Trial)) (chain : Chain (World τ))
    (cancelled : StateM τ Bool) (announce : BuildEvent → StateM τ Unit) : Workshop (World τ) where
  cancelled := OnWorld.outside cancelled
  prepare := OnWorld.onDisk (OnDisk.makeFolders job.workFolder)
  trial attempt := OnWorld.onSite (execute attempt)
  repair := chain.repair
  keep := OnWorld.learn stamps
  deploy artifact := do
    match target with
    | none => return none
    | some target => return Deploy.deployed (← OnWorld.onDisk (Deploy.copyInto target artifact))
  announce event := OnWorld.outside (announce event)

theorem ofWorld_eq (stamps : Stamps) (job : Job) (target : Option Path) (runner : Runner τ)
    (config : RunConfig) (chain : Chain (World τ)) (cancelled : StateM τ Bool)
    (announce : BuildEvent → StateM τ Unit) :
    ofWorld stamps job target runner config chain cancelled announce =
      ofExecutor stamps job target (Compile.trial runner config job.widget job.folder) chain cancelled announce :=
  rfl

section Calls

variable {stamps : Stamps} {job : Job} {target : Option Path}
  {execute : Nat → OnSite τ (Except BuildFault Trial)} {chain : Chain (World τ)}
  {cancelled : StateM τ Bool} {announce : BuildEvent → StateM τ Unit} {w after : World τ}

theorem Step.store {call : LoopCall} (spares : chain.SparesStore)
    (step : Step (ofExecutor stamps job target execute chain cancelled announce) w call after)
    (unkept : call.kept? = none) : after.store = w.store := by
  cases step with
  | checked ran | prepared ran | tried ran | announced ran =>
    cases ran
    rfl
  | asked ran =>
    obtain rfl := (Prod.ext_iff.mp ran).2
    exact spares.repair _ w
  | kept ran => cases unkept
  | deployed ran =>
    obtain rfl := (Prod.ext_iff.mp ran).2
    cases target <;> rfl

theorem Steps.store {calls : List LoopCall} (spares : chain.SparesStore)
    (steps : Steps (ofExecutor stamps job target execute chain cancelled announce) w calls after)
    (unkept : keptIn calls = []) : after.store = w.store := by
  induction steps with
  | nil => rfl
  | @cons w between after call calls first _ ih =>
    cases own : call.kept? with
    | some lesson => simp [keptIn, own] at unkept
    | none =>
      have rest : keptIn calls = [] := by simpa [keptIn, own] using unkept
      exact (ih rest).trans (first.store spares own)

theorem Step.learns {lesson : Lesson}
    (step : Step (ofExecutor stamps job target execute chain cancelled announce) w (.kept lesson) after) :
    ∃ call, Learns lesson call ∧ (call.perform.run w.store w.disk).2 = (after.store, after.disk) := by
  cases step with
  | kept ran =>
    refine ⟨_, ⟨stamps w.given, rfl⟩, ?_⟩
    have left : (OnWorld.learn stamps lesson w).2 = after := (Prod.ext_iff.mp ran).2
    rw [← left]
    exact learn_left stamps w lesson

theorem Steps.learns {lessons : List Lesson}
    (steps : Steps (ofExecutor stamps job target execute chain cancelled announce) w (lessons.map .kept) after) :
    ∃ calls, List.Forall₂ Learns lessons calls ∧
      performAll calls (w.store, w.disk) = (after.store, after.disk) := by
  induction lessons generalizing w with
  | nil =>
    cases steps
    exact ⟨[], .nil, rfl⟩
  | cons lesson rest ih =>
    cases steps with
    | cons first steps =>
      obtain ⟨call, learns, left⟩ := first.learns
      obtain ⟨calls, learned, performed⟩ := ih steps
      refine ⟨call :: calls, .cons learns learned, ?_⟩
      rw [performAll, left]
      exact performed

end Calls

/-- Calls during which the store stays what it was, at every moment. -/
def Untouched (w : Workshop (World τ)) (start : World τ) (calls : List LoopCall) : Prop :=
  ∀ past later moment, calls = past ++ later → w.Steps start past moment → moment.store = start.store

/-- What a build leaves of the store, by whether it succeeded. -/
inductive Promotes (w : Workshop (World τ)) (start after : World τ) (calls : List LoopCall) : Bool → Prop where
  | withheld (untouched : Untouched w start calls) (same : after.store = start.store) :
    Promotes w start after calls false
  /-- Up to the end of the trial that succeeded nothing has changed; then all lessons were learned. -/
  | promoted {past later : List LoopCall} {number : Nat} {artifact : Option Path} {diagnostic : String}
    {finished : World τ} {learning : List StoreCall}
    (order : calls = (past ++ [.tried number (.ok (.built artifact diagnostic))]) ++ later)
    (untouched : Untouched w start (past ++ [.tried number (.ok (.built artifact diagnostic))]))
    (ended : w.Steps start (past ++ [.tried number (.ok (.built artifact diagnostic))]) finished)
    (learned : List.Forall₂ Learns (lessonsIn calls) learning)
    (store : after.store = (performAll learning (start.store, finished.disk)).1) :
    Promotes w start after calls true

section Builds

variable {stamps : Stamps} {job : Job} {target : Option Path}
  {execute : Nat → OnSite τ (Except BuildFault Trial)} {chain : Chain (World τ)}
  {cancelled : StateM τ Bool} {announce : BuildEvent → StateM τ Unit}

theorem untouched_of_unkept (spares : chain.SparesStore) {start : World τ} {calls : List LoopCall}
    (unkept : keptIn calls = []) :
    Untouched (ofExecutor stamps job target execute chain cancelled announce) start calls := by
  rintro past later moment rfl steps
  rw [keptIn_append] at unkept
  exact steps.store spares (List.append_eq_nil_iff.mp unkept).1

theorem promotes_of_success {start after : World τ} {past later calls : List LoopCall} {number : Nat}
    {artifact : Option Path} {diagnostic : String}
    (success : Script.Success [] calls past later number (.built artifact diagnostic))
    (spares : chain.SparesStore)
    (steps : Steps (ofExecutor stamps job target execute chain cancelled announce) start calls after) :
    Promotes (ofExecutor stamps job target execute chain cancelled announce) start after calls true := by
  have order : calls = (past ++ [.tried number (.ok (.built artifact diagnostic))]) ++
      ((lessonsIn past).map .kept ++ later) := by
    rw [success.calls, List.nil_append, List.append_assoc, List.singleton_append]
  have unkept : keptIn (past ++ [.tried number (.ok (.built artifact diagnostic))]) = [] := by
    rw [keptIn_append, success.past]
    rfl
  have lessons : lessonsIn calls = lessonsIn past := by
    have quiet : lessonsIn ((lessonsIn past).map .kept) = [] := by
      generalize lessonsIn past = lessons
      induction lessons with
      | nil => rfl
      | cons lesson rest ih => exact ih
    rw [order, lessonsIn_append, lessonsIn_append, lessonsIn_append, quiet, success.later.lessons]
    exact (List.append_nil _).trans (List.append_nil _)
  rw [order] at steps
  obtain ⟨finished, tried, rest⟩ := steps.split
  obtain ⟨between, kept, ending⟩ := rest.split
  obtain ⟨learning, learned, performed⟩ := kept.learns
  refine .promoted order (untouched_of_unkept spares unkept) tried (lessons ▸ learned) ?_
  rw [← tried.store spares unkept, performed]
  exact ending.store spares success.later.kept

/-- A build that succeeds learns every lesson of the repairs that were made, in their order, and not
before the trial that succeeded has ended; any other build leaves the store as it was. -/
theorem lessons_promoted_on_success (stamps : Stamps) (job : Job) (target : Option Path)
    (execute : Nat → OnSite τ (Except BuildFault Trial)) (cancelled : StateM τ Bool)
    (announce : BuildEvent → StateM τ Unit) (spares : chain.SparesStore) (start : World τ) :
    ∃ result after calls,
      (ofExecutor stamps job target execute chain cancelled announce).build job start = (result, after) ∧
      (ofExecutor stamps job target execute chain cancelled announce).observed.build job (start, []) =
        (result, after, calls) ∧
      Promotes (ofExecutor stamps job target execute chain cancelled announce) start after calls
        (endedWell result) := by
  obtain ⟨result, after, calls, built, observed, steps, script⟩ :=
    build_follows_script (ofExecutor stamps job target execute chain cancelled announce) job start
  refine ⟨result, after, calls, built, observed, ?_⟩
  generalize endedWell result = good at script
  cases script with
  | refused =>
    cases steps
    exact .withheld (untouched_of_unkept spares rfl) rfl
  | ran script =>
    cases good with
    | false => exact .withheld (untouched_of_unkept spares script.withheld) (steps.store spares script.withheld)
    | true =>
      obtain ⟨past, later, number, artifact, diagnostic, success⟩ := script.success
      exact promotes_of_success success spares steps

end Builds

def missingImport : Lesson :=
  ⟨"TS2304: Cannot find name 'React'.", "Added import", .fileEdit "*.tsx" "" "import React from 'react';"⟩

def addsImport : Strategy (World Unit) where
  name := "imports"
  attempt _ := return { RepairOutcome.done "imports" "Added import" with lesson := some missingImport }

/-- Trials of which the second one succeeds. -/
def secondTime (attempt : Nat) : OnSite Unit (Except BuildFault Trial) := do
  return .ok (if attempt < 2 then .failed missingImport.error else .built none)

theorem import_promoted :
    let job : Job := { widget := { name := "Clock" }, workFolder := ⟨"work"⟩, limit := 3 }
    let chain : Chain (World Unit) := { strategies := [addsImport] }
    let stamps : Stamps := fun n => ⟨default, toString n⟩
    let w := ofExecutor stamps job none secondTime chain (return false) fun _ => return
    let start : World Unit :=
      { disk := .empty, store := { document := { version := "1", updated := default } }, outside := () }
    chain.SparesStore ∧ ∃ result after calls, w.build job start = (result, after) ∧
      Promotes w start after calls (endedWell result) ∧ endedWell result = true ∧
      lessonsIn calls = [missingImport] ∧ after.store.patterns.map (·.fix) = [missingImport.fix] := by
  intro job chain stamps w start
  have spares : chain.SparesStore := by
    intro s member f w
    obtain rfl := List.mem_singleton.mp member
    rfl
  obtain ⟨result, after, calls, built, observed, promotes⟩ :=
    lessons_promoted_on_success stamps job none secondTime (return false) (fun _ => return) spares start
  have result_eq : result = (w.build job start).1 := by rw [built]
  have after_eq : after = (w.build job start).2 := by rw [built]
  have calls_eq : calls = (w.observed.build job (start, [])).2.2 := by rw [observed]
  refine ⟨spares, result, after, calls, built, promotes, ?_, ?_, ?_⟩
  · rw [result_eq]
    decide +kernel
  · rw [calls_eq]
    decide +kernel
  · rw [after_eq]
    decide +kernel

end Workshop

end WidgetRepair
