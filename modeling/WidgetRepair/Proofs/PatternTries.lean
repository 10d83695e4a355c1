import WidgetRepair.Proofs.OfflineRepair
import WidgetRepair.Proofs.OutcomeCounters

/-! Repairs by the patterns of the store, try by try. Every try is taken down once, in memory even if
the store cannot be written, and nothing else is taken down. -/

namespace WidgetRepair

open StoreCall

/-- A pattern that was tried: the disk it found, what came of its repair, and the disk that left. -/
structure PatternTry where
  pattern : FixPattern
  found : Disk
  report : Except EditFault Edit.Report
  left : Disk

namespace PatternTry

def start (folder : Path) (p : FixPattern) (d : Disk) : PatternTry :=
  ⟨p, d, ((Edit.perform folder p.fix).run d).1, ((Edit.perform folder p.fix).run d).2⟩

def applied (t : PatternTry) : Bool := PatternRepair.applied t.report

/-- The call that takes a try down. -/
def record (now : Timestamp) (t : PatternTry) : StoreCall := .recordOutcome t.pattern.id t.applied now

end PatternTry

/-- A pattern after some tries, of which at most one was a try of it. -/
def FixPattern.afterTries (now : Timestamp) (tries : List PatternTry) (p : FixPattern) : FixPattern :=
  match tries.find? (·.pattern.id == p.id) with
  | some t => p.afterOutcome t.applied now
  | none => p

namespace FixPattern

variable {now : Timestamp} {tries : List PatternTry} {p : FixPattern}

theorem afterTries_cons (t : PatternTry) : p.afterTries now (t :: tries) =
    if p.id = t.pattern.id then p.afterOutcome t.applied now else p.afterTries now tries := by
  unfold afterTries
  rw [List.find?_cons]
  by_cases same : p.id = t.pattern.id
  · rw [if_pos same, beq_iff_eq.mpr same.symm]
  · rw [if_neg same, beq_eq_false_iff_ne.mpr (Ne.symm same)]

theorem afterTries_unknown (unknown : p.id ∉ tries.map (·.pattern.id)) : p.afterTries now tries = p := by
  have missing : tries.find? (·.pattern.id == p.id) = none := by
    refine List.find?_eq_none.mpr fun t member found => unknown ?_
    exact List.mem_map.mpr ⟨t, member, beq_iff_eq.mp found⟩
  unfold afterTries
  rw [missing]

theorem afterTries_of_mem {t : PatternTry} (single : (tries.map (·.pattern.id)).Nodup) (member : t ∈ tries)
    (named : p.id = t.pattern.id) : p.afterTries now tries = p.afterOutcome t.applied now := by
  induction tries with
  | nil => cases member
  | cons first rest ih =>
    rw [List.map_cons, List.nodup_cons] at single
    obtain ⟨once, single⟩ := single
    rw [afterTries_cons]
    obtain rfl | later := List.mem_cons.mp member
    · exact if_pos named
    · have other : p.id ≠ first.pattern.id := fun same =>
        once (same ▸ named ▸ List.mem_map_of_mem later)
      rw [if_neg other, ih single later]

end FixPattern

namespace PatternRepair

variable {τ : Type}

/-- The world after a try that was taken down. -/
def takenDown (stamps : Stamps) (t : PatternTry) (w : World τ) : World τ :=
  (OnWorld.recordOutcome stamps t.pattern.id t.applied { w with disk := t.left }).2

/-- The tries of some patterns, up to the first that changes something. -/
def triesOf (stamps : Stamps) (folder : Path) : List FixPattern → World τ → List PatternTry
  | [], _ => []
  | p :: rest, w =>
    let t := PatternTry.start folder p w.disk
    t :: if t.applied then [] else triesOf stamps folder rest (takenDown stamps t w)

def tries (stamps : Stamps) (f : Failure) (w : World τ) : List PatternTry :=
  triesOf stamps f.folder (candidates w.store f.diagnostic) w

/-- A disk on which nothing but the file of a store and its draft was written. -/
structure OnlySaved (s : Store) (d after : Disk) : Prop where
  elsewhere : Disk.Spares (s.Apart d) d after
  detached : s.path = none → after = d

/-- Each try finds the disk that the one before left, once that one was taken down. -/
inductive Consecutive (s : Store) (folder : Path) : Disk → List PatternTry → Disk → Prop where
  | nil (d : Disk) : Consecutive s folder d [] d
  | cons {t : PatternTry} {rest : List PatternTry} {next later : Disk}
    (ran : (Edit.perform folder t.pattern.fix).run t.found = (t.report, t.left))
    (saved : OnlySaved s t.left next) (further : Consecutive s folder next rest later) :
    Consecutive s folder t.found (t :: rest) later

/-- How tries end: with one that changed something, or with none and nothing left to try. -/
inductive Ended (rest : List FixPattern) (outcome : RepairOutcome) : List PatternTry → Prop where
  | applied (before : List PatternTry) (t : PatternTry) (fruitless : ∀ u ∈ before, u.applied = false)
    (fruitful : t.applied = true) (told : outcome.applied = true)
    (named : outcome.patternId = some t.pattern.id) : Ended rest outcome (before ++ [t])
  | declined {tries : List PatternTry} (fruitless : ∀ u ∈ tries, u.applied = false) (all : rest = [])
    (told : outcome.applied = false) : Ended rest outcome tries

/-- The tries of some candidates, their outcome, and what they leave of disk and patterns. A try counts once, as a
success or as a failure, where that counter of its pattern has room. -/
structure Bookkept (folder : Path) (found : List FixPattern) (now : Timestamp) (w : World τ)
    (tries : List PatternTry) (outcome : RepairOutcome) (later : World τ) : Prop where
  ended : ∃ rest, found = tries.map (·.pattern) ++ rest ∧ Ended rest outcome tries
  consecutive : Consecutive w.store folder w.disk tries later.disk
  patterns : later.store.patterns = w.store.patterns.map (·.afterTries now tries)
  counted : ∀ t ∈ tries, ∀ p ∈ w.store.patterns, p.id = t.pattern.id → ¬ p.Full t.applied →
    ∀ kind, (p.afterTries now tries).outcomes kind = p.outcomes kind + if t.applied = kind then 1 else 0

section Try

variable (stamps : Stamps) {folder : Path} {w : World τ}

/-- Store and disk after a try was taken down are those that the call on the store leaves. -/
theorem takenDown_left (t : PatternTry) {post : Store × Disk → Prop}
    (ends : Ends (t.record (stamps w.given).now).perform (w.store, t.left) fun _ after => post after) :
    post ((takenDown stamps t w).store, (takenDown stamps t w).disk) := by
  have left := recordOutcome_left stamps { w with disk := t.left } t.pattern.id t.applied
  unfold takenDown
  rw [← left]
  exact ends

theorem takenDown_document (t : PatternTry) : (takenDown stamps t w).store.document =
    (t.record (stamps w.given).now).documentAfter w.store.document := by
  have ends : Ends (t.record (stamps w.given).now).perform (w.store, t.left) fun _ after =>
      after.1.document = (t.record (stamps w.given).now).documentAfter w.store.document :=
    perform_document (t.record (stamps w.given).now) w.store t.left
  exact takenDown_left stamps t ends

theorem takenDown_given (t : PatternTry) : (takenDown stamps t w).given = w.given := by
  have document := takenDown_document stamps (w := w) t
  have length : (takenDown stamps t w).store.patterns.length = w.store.patterns.length := by
    unfold Store.patterns
    rw [document]
    simp only [PatternTry.record, StoreCall.documentAfter, StoreCall.verdict]
    cases Store.get? { document := w.store.document } t.pattern.id with
    | none => rfl
    | some p => exact Store.length_changeFirst w.store.patterns
  exact if_pos length

theorem takenDown_aside (t : PatternTry) (tree : t.left.IsTree) :
    Aside w.store t.left ((takenDown stamps t w).store, (takenDown stamps t w).disk) :=
  takenDown_left stamps t (perform_aside (t.record (stamps w.given).now) tree)

theorem takenDown_onlySaved (t : PatternTry) (tree : t.left.IsTree) :
    OnlySaved w.store t.left (takenDown stamps t w).disk where
  elsewhere := (takenDown_aside stamps t tree).elsewhere
  detached := by
    intro detached
    have alone := perform_detached (d := t.left) (t.record (stamps w.given).now) detached
    exact (takenDown_left stamps t alone).1

theorem perform_isTree {d : Disk} (fix : FixAction) (tree : d.IsTree) :
    ((Edit.perform folder fix).run d).2.IsTree := by
  have ends : Ends (Edit.perform folder fix) d fun _ after => after.IsTree := by
    apply Ends.of_mapped (f := (·.applied))
    exact (Edit.Task.tried (fun _ => False) folder (.repair fix) tree).mono fun _ _ tried => tried.tree
  exact ends

theorem tryEach_cons (suggestions : List String) (p : FixPattern) (rest : List FixPattern) :
    tryEach stamps folder suggestions (p :: rest) w =
      let t := PatternTry.start folder p w.disk
      if t.applied then
        ({ RepairOutcome.done name p.description with patternId := some p.id }, takenDown stamps t w)
      else
        tryEach stamps folder (suggestions ++ (suggestion? p t.report).toList) rest
          (takenDown stamps t w) := by
  simp only [tryEach, stateM_bind]
  split
  next applied => exact (if_pos applied).symm
  next quiet => exact (if_neg quiet).symm

end Try

section Tries

variable (stamps : Stamps) (folder : Path) (suggestions : List String) (found : List FixPattern)
  {w : World τ}

theorem tryEach_ended : ∃ rest,
    found = (triesOf stamps folder found w).map (·.pattern) ++ rest ∧
      Ended rest (tryEach stamps folder suggestions found w).1 (triesOf stamps folder found w) := by
  induction found generalizing w suggestions with
  | nil => exact ⟨[], rfl, .declined (List.forall_mem_nil _) rfl rfl⟩
  | cons p found ih =>
    rw [tryEach_cons, triesOf]
    dsimp only
    by_cases applied : (PatternTry.start folder p w.disk).applied = true
    · rw [if_pos applied, if_pos applied]
      exact ⟨found, rfl, .applied [] _ (List.forall_mem_nil _) applied rfl rfl⟩
    · rw [if_neg applied, if_neg applied]
      obtain ⟨rest, order, ended⟩ := ih _
      refine ⟨rest, congrArg (p :: ·) order, ?_⟩
      have quiet := eq_false_of_ne_true applied
      generalize triesOf stamps folder found _ = tries at ended
      cases ended with
      | applied before t fruitless fruitful told named =>
        rw [← List.cons_append]
        exact .applied _ t (List.forall_mem_cons.mpr ⟨quiet, fruitless⟩) fruitful told named
      | declined fruitless all told =>
        exact .declined (List.forall_mem_cons.mpr ⟨quiet, fruitless⟩) all told

theorem tryEach_document :
    (tryEach stamps folder suggestions found w).2.store.document =
      documentAfterAll ((triesOf stamps folder found w).map (·.record (stamps w.given).now))
        w.store.document := by
  induction found generalizing w suggestions with
  | nil => rfl
  | cons p found ih =>
    rw [tryEach_cons, triesOf]
    dsimp only
    split
    · exact takenDown_document stamps _
    · rw [ih, takenDown_given, takenDown_document]
      rfl

theorem Consecutive.of_attached {s other : Store} {folder : Path} {d later : Disk} {tries : List PatternTry}
    (attached : other.path = s.path) (consecutive : Consecutive other folder d tries later) :
    Consecutive s folder d tries later := by
  induction consecutive with
  | nil d => exact .nil d
  | cons ran saved _ ih =>
    refine .cons ran ⟨fun l apart => saved.elsewhere l ?_, fun detached => ?_⟩ ih
    · exact fun path held => apart path (attached ▸ held)
    · exact saved.detached (attached.trans detached)

/-- The store changes from try to try, but not the file that it has. -/
theorem tryEach_consecutive (tree : w.disk.IsTree) :
    Consecutive w.store folder w.disk (triesOf stamps folder found w)
      (tryEach stamps folder suggestions found w).2.disk := by
  induction found generalizing w suggestions with
  | nil => exact .nil w.disk
  | cons p found ih =>
    rw [tryEach_cons, triesOf]
    have left : (PatternTry.start folder p w.disk).left.IsTree := perform_isTree p.fix tree
    have aside := takenDown_aside stamps (w := w) _ left
    dsimp only
    refine .cons (t := .start folder p w.disk) rfl (takenDown_onlySaved stamps _ left) ?_
    split
    · exact .nil _
    · exact (ih _ aside.tree).of_attached aside.attached

end Tries

section Patterns

variable {now : Timestamp}

theorem record_known {t : PatternTry} {doc : StoreDocument} (known : t.pattern.id ∈ doc.patterns.map (·.id)) :
    (t.record now).documentAfter doc = doc.afterOutcome t.pattern.id t.applied now :=
  StoreCall.recordOutcome_known known t.applied

theorem record_unknown {t : PatternTry} {doc : StoreDocument}
    (unknown : t.pattern.id ∉ doc.patterns.map (·.id)) : (t.record now).documentAfter doc = doc :=
  StoreCall.recordOutcome_unknown unknown t.applied

theorem record_patterns (t : PatternTry) {doc : StoreDocument}
    (distinct : (doc.patterns.map (·.id)).Nodup) :
    ((t.record now).documentAfter doc).patterns =
      doc.patterns.map fun p => if p.id = t.pattern.id then p.afterOutcome t.applied now else p :=
  StoreCall.recordOutcome_patterns distinct t.pattern.id t.applied

/-- Tries of different patterns change each of them once. Outcomes change no id, so the other tries find the
patterns they name. -/
theorem patterns_afterTries {tries : List PatternTry} {doc : StoreDocument}
    (single : (tries.map (·.pattern.id)).Nodup) (distinct : (doc.patterns.map (·.id)).Nodup) :
    (documentAfterAll (tries.map (·.record now)) doc).patterns =
      doc.patterns.map (·.afterTries now tries) := by
  induction tries generalizing doc with
  | nil => exact (List.map_id _).symm
  | cons t rest ih =>
    rw [List.map_cons, List.nodup_cons] at single
    obtain ⟨once, single⟩ := single
    have first : ((t.record now).documentAfter doc).patterns = _ := record_patterns t distinct
    have ids : ((t.record now).documentAfter doc).patterns.map (·.id) = doc.patterns.map (·.id) := by
      rw [first, List.map_map]
      refine List.map_congr_left fun p _ => ?_
      simp only [Function.comp_apply]
      split <;> rfl
    have step : documentAfterAll ((t :: rest).map (·.record now)) doc =
      documentAfterAll (rest.map (·.record now)) ((t.record now).documentAfter doc) := rfl
    rw [step, ih single (ids ▸ distinct), first, List.map_map]
    refine List.map_congr_left fun p _ => ?_
    rw [Function.comp_apply, FixPattern.afterTries_cons]
    by_cases same : p.id = t.pattern.id
    · rw [if_pos same, if_pos same]
      exact FixPattern.afterTries_unknown (same ▸ once)
    · rw [if_neg same, if_neg same]

end Patterns

end PatternRepair

theorem Store.matches_perm (s : Store) (output : String) :
    (s.matches? output).Perm (s.patterns.filter fun p => 0.0 < p.score output) := by
  have sorted := List.mergeSort_perm
    ((s.patterns.map fun p => (p, p.score output)).filter fun scored => 0.0 < scored.2)
    fun a b => b.2 ≤ a.2
  refine (sorted.map (·.1)).trans (.of_eq ?_)
  rw [List.filter_map, List.map_map]
  exact List.map_id _

namespace PatternRepair

variable {τ : Type}

/-- The candidates are the trusted patterns of the store that fit, each once. -/
theorem candidates_perm (s : Store) (diagnostic : String) :
    (candidates s diagnostic).Perm
      ((s.patterns.filter fun p => 0.0 < p.score diagnostic).filter (·.trusted)) :=
  (s.matches_perm diagnostic).filter _

theorem candidates_distinct {s : Store} (distinct : (s.patterns.map (·.id)).Nodup)
    (diagnostic : String) : ((candidates s diagnostic).map (·.id)).Nodup := by
  apply ((candidates_perm s diagnostic).map _).nodup_iff.mpr
  exact distinct.sublist ((List.filter_sublist.trans List.filter_sublist).map _)

theorem attempt_eq (stamps : Stamps) (f : Failure) (w : World τ) :
    attempt stamps f w =
      if candidates w.store f.diagnostic = [] then
        (.declined name "no pattern with confidence >= 0.7", w)
      else tryEach stamps f.folder [] (candidates w.store f.diagnostic) w := by
  unfold attempt
  rw [stateM_bind]
  have looked : (OnWorld.store w : Store × World τ) = (w.store, w) := rfl
  rw [looked]
  dsimp only
  cases candidates w.store f.diagnostic with
  | nil => exact (if_pos rfl).symm
  | cons p rest => exact (if_neg nofun).symm

theorem tries_candidates (stamps : Stamps) (f : Failure) (w : World τ) :
    (tries stamps f w).map (·.pattern) <+: candidates w.store f.diagnostic := by
  obtain ⟨rest, order, -⟩ := tryEach_ended stamps f.folder [] (candidates w.store f.diagnostic) (w := w)
  exact ⟨rest, order.symm⟩

theorem attempt_document (stamps : Stamps) (f : Failure) (w : World τ) :
    (attempt stamps f w).2.store.document =
      documentAfterAll ((tries stamps f w).map (·.record (stamps w.given).now)) w.store.document := by
  rw [attempt_eq]
  unfold tries
  by_cases none : candidates w.store f.diagnostic = []
  · rw [if_pos none, none]
    rfl
  · rw [if_neg none]
    exact tryEach_document stamps f.folder [] _

theorem tryEach_bookkept (stamps : Stamps) (folder : Path) (suggestions : List String)
    (found : List FixPattern) {w : World τ} (tree : w.disk.IsTree) (single : (found.map (·.id)).Nodup)
    (distinct : (w.store.patterns.map (·.id)).Nodup) :
    Bookkept folder found (stamps w.given).now w (triesOf stamps folder found w)
      (tryEach stamps folder suggestions found w).1 (tryEach stamps folder suggestions found w).2 := by
  obtain ⟨rest, order, ended⟩ := tryEach_ended stamps folder suggestions found (w := w)
  have once : ((triesOf stamps folder found w).map (·.pattern.id)).Nodup := by
    rw [order, List.map_append, List.map_map] at single
    exact (List.nodup_append.mp single).1
  refine ⟨⟨rest, order, ended⟩, tryEach_consecutive stamps folder suggestions found tree, ?_, ?_⟩
  · unfold Store.patterns
    rw [tryEach_document]
    exact patterns_afterTries once distinct
  · intro t member p _ named room kind
    rw [FixPattern.afterTries_of_mem once member named, FixPattern.outcomes_of_room room]

/-- Repairing by patterns tries the trusted patterns that fit, best first and each on what the one
before left, up to the first that changes something. Then each pattern that was tried has one outcome
more, which is a success just where something was changed, unless the counter of such outcomes was full; every other
pattern is what it was. None of this depends on whether the store can be written. -/
theorem pattern_tries_bookkept {stamps : Stamps} {f : Failure} {w later : World τ}
    {outcome : RepairOutcome} (tree : w.disk.IsTree) (distinct : (w.store.patterns.map (·.id)).Nodup)
    (ran : attempt stamps f w = (outcome, later)) :
    Bookkept f.folder (candidates w.store f.diagnostic) (stamps w.given).now w (tries stamps f w)
      outcome later := by
  have single := candidates_distinct distinct f.diagnostic
  rw [attempt_eq] at ran
  unfold tries
  by_cases none : candidates w.store f.diagnostic = []
  · rw [if_pos none] at ran
    cases ran
    rw [none]
    exact ⟨⟨[], rfl, .declined (List.forall_mem_nil _) rfl rfl⟩, .nil _, (List.map_id _).symm,
      List.forall_mem_nil _⟩
  · rw [if_neg none] at ran
    have kept := tryEach_bookkept stamps f.folder [] _ tree single distinct
    rwa [ran] at kept

namespace Unwritable

def trusted : FixPattern :=
  { id := "own-1", errorPattern := "TS2304", fix := .manual "Add the import", confidence := 0.9 }

def doubtful : FixPattern :=
  { id := "own-2", errorPattern := "TS2304", fix := .manual "Rename it", confidence := 0.5 }

def store : Store where
  path := some ⟨"nucleus.json"⟩
  document := { StoreDocument.empty default with patterns := [doubtful, trusted] }

def world : World Unit where
  disk := { Disk.empty with hitches := [.refused] }
  store := store
  outside := ()

def failure : Failure := ⟨"error TS2304: Cannot find name 'React'.", ⟨"/w"⟩, { name := "w" }⟩

def stamps : Stamps := fun _ => ⟨default, "id"⟩

theorem candidates_trusted : candidates store failure.diagnostic = [trusted] := by
  have first : 0.0 < doubtful.score failure.diagnostic := by decide +kernel
  have second : 0.0 < trusted.score failure.diagnostic := by decide +kernel
  have matching : ([doubtful, trusted].filter fun p => 0.0 < p.score failure.diagnostic).filter (·.trusted) =
      [trusted] := by
    simp only [List.filter_cons, first, second, decide_true, if_true, List.filter_nil]
    rfl
  exact List.perm_singleton.mp ((candidates_perm store failure.diagnostic).trans (.of_eq matching))

end Unwritable

open Unwritable in
theorem unwritable_tries_bookkept :
    world.disk.IsTree ∧ (store.patterns.map (·.id)).Nodup ∧
      Bookkept ⟨"/w"⟩ [trusted] default world (tries stamps failure world)
        (attempt stamps failure world).1 (attempt stamps failure world).2 ∧
      (tries stamps failure world).map (·.applied) = [false] := by
  have tree : world.disk.IsTree := ⟨Disk.empty_isTree.based, Disk.empty_isTree.rooted⟩
  have distinct : (store.patterns.map (·.id)).Nodup := by decide
  have ran : attempt stamps failure world =
    ((attempt stamps failure world).1, (attempt stamps failure world).2) := rfl
  have kept := pattern_tries_bookkept tree distinct ran
  rw [show world.store = store from rfl, candidates_trusted] at kept
  have tried : tries stamps failure world = triesOf stamps failure.folder [trusted] world := by
    unfold tries
    rw [show world.store = store from rfl, candidates_trusted]
  exact ⟨tree, distinct, kept, by rw [tried]; rfl⟩

namespace Worn

/-- A pattern whose counter of failures is full. -/
def pattern : FixPattern := { Unwritable.trusted with failureCount := 4294967295 }

def store : Store where
  document := { StoreDocument.empty default with patterns := [pattern] }

def world : World Unit where
  disk := Disk.empty
  store := store
  outside := ()

theorem candidates_worn : candidates store Unwritable.failure.diagnostic = [pattern] := by
  have fits : 0.0 < pattern.score Unwritable.failure.diagnostic := by decide +kernel
  have matching : ([pattern].filter fun p => 0.0 < p.score Unwritable.failure.diagnostic).filter (·.trusted) =
      [pattern] := by
    simp only [List.filter_cons, fits, decide_true, if_true, List.filter_nil]
    rfl
  exact List.perm_singleton.mp ((candidates_perm store Unwritable.failure.diagnostic).trans (.of_eq matching))

end Worn

open Worn in
/-- The failure of a pattern whose counter of failures is full sets that counter to zero. -/
theorem worn_pattern_restarts :
    world.disk.IsTree ∧ (store.patterns.map (·.id)).Nodup ∧
      candidates store Unwritable.failure.diagnostic = [pattern] ∧
      (attempt Unwritable.stamps Unwritable.failure world).1.applied = false ∧
      store.patterns.map (·.failures) = [4294967295] ∧
      (attempt Unwritable.stamps Unwritable.failure world).2.store.patterns.map (·.failures) = [0] := by
  have ran := attempt_eq Unwritable.stamps Unwritable.failure world
  rw [show world.store = store from rfl, candidates_worn, if_neg (List.cons_ne_nil _ _)] at ran
  rw [ran]
  exact ⟨Disk.empty_isTree, by decide, candidates_worn, rfl, rfl, rfl⟩

end PatternRepair

end WidgetRepair
