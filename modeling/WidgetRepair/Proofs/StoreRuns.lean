import WidgetRepair.Proofs.StoreSaving
import WidgetRepair.Repair.Basic

/-! Runs of calls on a store with a file, whatever steps on the disk fail. Memory is always as if
every call had been written; the file is behind it only while the store is dirty. -/

namespace WidgetRepair

open Store

/-- How a call on a store with a file ends. -/
inductive Performed (path : Path) (call : StoreCall) (s : Store) (d : Disk) :
    Except StoreFault StoreAnswer → Store × Disk → Prop where
  | refused {fault : StoreFault} (verdict : call.verdict s = .refused fault) :
    Performed path call s d (.error fault) (s, d)
  | kept {answer : StoreAnswer} (verdict : call.verdict s = .kept answer) :
    Performed path call s d (.ok answer) (s, d)
  | written {answer : StoreAnswer} {doc : StoreDocument} {after : Disk}
    (verdict : call.verdict s = .changed answer doc) (saved : Saved path doc d (.ok ()) after) :
    Performed path call s d (.ok answer) ({ s with document := doc, dirty := false }, after)
  | unwritten {answer : StoreAnswer} {doc : StoreDocument} {fault : DiskFault} {after : Disk}
    (verdict : call.verdict s = .changed answer doc) (saved : Saved path doc d (.error fault) after) :
    Performed path call s d (.error (.disk fault)) ({ s with document := doc, dirty := true }, after)

theorem onDisk_ends {α : Type} {job : OnDisk α} {s : Store} {d : Disk}
    {post : Except DiskFault α → Disk → Prop} (ends : Ends job d post) :
    Ends (OnStore.onDisk job) (s, d) fun result after =>
      ∃ came, post came after.2 ∧ after.1 = s ∧ result = came.mapError .disk := by
  unfold OnStore.onDisk
  refine .looked (.replaced ?_)
  have ended : post (job d).1 (job d).2 := ends
  cases ran : job d with
  | mk came after =>
    rw [ran] at ended
    cases came with
    | ok a => exact .returned ⟨_, ended, rfl, rfl⟩
    | error f => exact .failed ⟨_, ended, rfl, rfl⟩

theorem save_ends {path : Path} {s : Store} {d : Disk} (attached : s.path = some path)
    (dirty : s.dirty = true) (tree : d.IsTree) :
    Ends OnStore.save (s, d) fun result after =>
      (result = .ok true ∧ after.1 = { s with dirty := false } ∧
        Saved path s.document d (.ok ()) after.2) ∨
      ∃ f, result = .error (.disk f) ∧ after.1 = s ∧ Saved path s.document d (.error f) after.2 := by
  simp only [OnStore.save, OnStore.store, bind_assoc, pure_bind]
  refine .looked ?_
  simp only [dirty, attached, Bool.not_true, Bool.false_eq_true, if_false]
  refine (onDisk_ends (writeDocument_ends path s.document tree)).bind ?_ ?_
  · rintro _ ⟨_, after⟩ ⟨came, saved, rfl, same⟩
    refine .modified (.returned (.inl ⟨rfl, rfl, ?_⟩))
    cases came with
    | ok _ => exact saved
    | error f => cases same
  · rintro _ ⟨_, after⟩ ⟨came, saved, rfl, same⟩
    cases came with
    | ok _ => cases same
    | error f =>
      cases same
      exact .inr ⟨f, rfl, rfl, saved⟩

theorem ends_of_follow {call : StoreCall} {s : Store} {d : Disk}
    {post : Except StoreFault StoreAnswer → Store × Disk → Prop}
    (follows : Ends ((call.verdict s).follow s) (s, d) post) : Ends call.perform (s, d) post := by
  have same : ExceptT.run call.perform (s, d) = ExceptT.run ((call.verdict s).follow s) (s, d) :=
    perform_follows s d call
  unfold Ends at follows ⊢
  rwa [same]

theorem perform_ends {path : Path} {s : Store} {d : Disk} (call : StoreCall)
    (attached : s.path = some path) (tree : d.IsTree) :
    Ends call.perform (s, d) (Performed path call s d) := by
  refine ends_of_follow ?_
  cases verdict : call.verdict s with
  | refused fault => exact .failed (.refused verdict)
  | kept answer => exact .returned (.kept verdict)
  | changed answer doc =>
    simp only [Verdict.follow, OnStore.commit, OnStore.setStore, bind_assoc, pure_bind]
    refine .modified ?_
    refine (save_ends (s := { s with document := doc, dirty := true }) attached rfl tree).bind ?_ ?_
    · rintro _ ⟨_, after⟩ (⟨-, rfl, saved⟩ | ⟨f, same, -⟩)
      · exact .returned (.written verdict saved)
      · cases same
    · rintro _ ⟨_, after⟩ (⟨same, -⟩ | ⟨f, same, rfl, saved⟩)
      · cases same
      · cases same
        exact .unwritten verdict saved

theorem perform_detached {s : Store} {d : Disk} (call : StoreCall) (detached : s.path = none) :
    Ends call.perform (s, d) fun _ after => after.2 = d ∧ after.1.path = none := by
  refine ends_of_follow ?_
  cases call.verdict s with
  | refused fault => exact .failed ⟨rfl, detached⟩
  | kept answer => exact .returned ⟨rfl, detached⟩
  | changed answer doc =>
    simp only [Verdict.follow, OnStore.commit, OnStore.setStore, OnStore.save, OnStore.store,
      bind_assoc, pure_bind]
    refine .modified (.looked ?_)
    simp only [detached, Bool.not_true, Bool.false_eq_true, if_false, bind_assoc, pure_bind]
    exact .modified (.returned ⟨rfl, rfl⟩)

theorem save_document (s : Store) (d : Disk) :
    Ends OnStore.save (s, d) fun _ after => after.1.document = s.document := by
  simp only [OnStore.save, OnStore.store, bind_assoc, pure_bind]
  refine .looked ?_
  cases dirty : s.dirty with
  | false =>
    simp only [Bool.not_false, if_true]
    exact .returned rfl
  | true =>
    simp only [Bool.not_true, Bool.false_eq_true, if_false]
    cases s.path with
    | none => exact .modified (.returned rfl)
    | some path =>
      have any : Ends (writeDocument path s.document) d fun _ _ => True := trivial
      refine (onDisk_ends any).bind ?_ ?_
      · rintro _ ⟨_, after⟩ ⟨-, -, rfl, -⟩
        exact .modified (.returned rfl)
      · rintro _ ⟨_, after⟩ ⟨-, -, rfl, -⟩
        rfl

theorem perform_document (call : StoreCall) (s : Store) (d : Disk) :
    (call.perform.run s d).2.1.document = call.documentAfter s.document := by
  rw [perform_follows, ← verdict_document]
  cases call.verdict s with
  | refused fault => rfl
  | kept answer => rfl
  | changed answer doc =>
    have saved : Ends ((Verdict.changed answer doc).follow s) (s, d) fun _ after =>
        after.1.document = doc := by
      simp only [Verdict.follow, OnStore.commit, OnStore.setStore, bind_assoc, pure_bind]
      refine .modified ((save_document _ d).bind ?_ fun _ _ same => same)
      exact fun _ _ same => .returned same
    exact saved

namespace StoreCall

variable {doc : StoreDocument} {id : String} {now : Timestamp}

theorem recordOutcome_known (known : id ∈ doc.patterns.map (·.id)) (success : Bool) :
    (recordOutcome id success now).documentAfter doc = doc.afterOutcome id success now := by
  obtain ⟨p, member, same⟩ := List.mem_map.mp known
  have found : (Store.get? { document := doc } id).isSome :=
    List.find?_isSome.mpr ⟨p, member, beq_iff_eq.mpr same⟩
  obtain ⟨q, found⟩ := Option.isSome_iff_exists.mp found
  simp only [documentAfter, verdict, found]
  rfl

theorem recordOutcome_unknown (unknown : id ∉ doc.patterns.map (·.id)) (success : Bool) :
    (recordOutcome id success now).documentAfter doc = doc := by
  have missing : Store.get? { document := doc } id = none := by
    refine List.find?_eq_none.mpr fun p member same => unknown ?_
    exact List.mem_map.mpr ⟨p, member, beq_iff_eq.mp same⟩
  simp only [documentAfter, verdict, missing]
  rfl

theorem recordOutcome_patterns (distinct : (doc.patterns.map (·.id)).Nodup) (id : String) (success : Bool) :
    ((recordOutcome id success now).documentAfter doc).patterns =
      doc.patterns.map fun p => if p.id = id then p.afterOutcome success now else p := by
  rw [← Store.changeFirst_eq_map distinct]
  by_cases known : id ∈ doc.patterns.map (·.id)
  · rw [recordOutcome_known known]
    rfl
  · rw [recordOutcome_unknown known]
    exact (Store.changeFirst_unknown known).symm

end StoreCall

namespace StoreCall

def performAll : List StoreCall → Store × Disk → Store × Disk
  | [], w => w
  | call :: rest, (s, d) => performAll rest (call.perform.run s d).2

def documentAfterAll (calls : List StoreCall) (doc : StoreDocument) : StoreDocument :=
  calls.foldl (fun doc call => call.documentAfter doc) doc

def Mutates (call : StoreCall) (doc : StoreDocument) : Prop :=
  ∃ answer new, call.verdict { document := doc } = .changed answer new

/-- Whether one of some calls changed the document it found. -/
def Mutated : List StoreCall → StoreDocument → Prop
  | [], _ => False
  | call :: rest, doc => call.Mutates doc ∨ Mutated rest (call.documentAfter doc)

end StoreCall

open StoreCall

/-- A store that is not dirty stands in its file. -/
def Current (path : Path) (s : Store) (d : Disk) : Prop :=
  s.dirty = false →
    d.file? (d.reach path) = some s.document.bytes ∧ d.read path = .ok s.document.bytes

theorem verdict_of_mutates {call : StoreCall} {s : Store} (mutates : call.Mutates s.document) :
    ∃ answer new, call.verdict s = .changed answer new := by
  obtain ⟨answer, new, verdict⟩ := mutates
  cases call with
  | save => cases verdict
  | _ => exact ⟨answer, new, verdict⟩

/-- A verdict that refuses for reasons of its own, never because of the disk, and that changes
nothing where a repair is discarded. -/
def Verdict.Proper : Verdict → Prop
  | refused fault => ∀ f, fault ≠ .disk f
  | kept _ => True
  | changed answer _ => answer ≠ .learned .discarded

theorem verdict_proper (call : StoreCall) (s : Store) : (call.verdict s).Proper := by
  cases call with
  | learn error description fix success stamp =>
    simp only [StoreCall.verdict, learnVerdict]
    split
    next => trivial
    next =>
      split
      next => rintro ⟨⟩
      next =>
        split
        next => rintro ⟨⟩
        next => trivial
  | save =>
    simp only [StoreCall.verdict]
    split
    next => rintro ⟨⟩
    next => trivial
  | recordOutcome id success now | addPattern p now =>
    simp only [StoreCall.verdict]
    split
    next => rintro f ⟨⟩
    next => rintro ⟨⟩
  | recordTemplateOutcome id success now =>
    simp only [StoreCall.verdict]
    split
    next => rintro ⟨⟩
    next => rintro f ⟨⟩

namespace Performed

variable {path : Path} {call : StoreCall} {s : Store} {d : Disk} {after : Store × Disk}
  {result : Except StoreFault StoreAnswer}

theorem attached (ended : Performed path call s d result after) : after.1.path = s.path := by
  cases ended <;> rfl

theorem tree (ended : Performed path call s d result after) (tree : d.IsTree) : after.2.IsTree := by
  cases ended with
  | refused | kept => exact tree
  | written _ saved | unwritten _ saved => exact saved.tree

theorem origin (ended : Performed path call s d result after) : after.2.origin = d.origin := by
  cases ended with
  | refused | kept => rfl
  | written _ saved | unwritten _ saved => exact saved.origin

theorem document (ended : Performed path call s d result after) :
    after.1.document = call.documentAfter s.document := by
  rw [← verdict_document]
  cases ended with
  | refused verdict | kept verdict | written verdict | unwritten verdict =>
    rw [verdict]
    rfl

theorem file (ended : Performed path call s d result after) :
    after.2.file? (d.reach path) = d.file? (d.reach path) ∨
      after.2.file? (d.reach path) = some (call.documentAfter s.document).bytes := by
  have document := ended.document
  cases ended with
  | refused | kept => exact .inl rfl
  | written _ saved | unwritten _ saved =>
    rw [← document]
    exact saved.whole

/-- A call with something to write leaves a store that is dirty or stands in its file. -/
theorem current_of_changed (ended : Performed path call s d result after) {answer : StoreAnswer}
    {new : StoreDocument} (changed : call.verdict s = .changed answer new) :
    Current path after.1 after.2 := by
  intro clean
  cases ended with
  | refused verdict | kept verdict =>
    rw [changed] at verdict
    cases verdict
  | written _ saved =>
    rw [Disk.reach_of_origin saved.origin]
    exact saved.written rfl
  | unwritten => cases clean

theorem current (ended : Performed path call s d result after) (current : Current path s d) :
    Current path after.1 after.2 := by
  cases verdict : call.verdict s with
  | changed answer new => exact ended.current_of_changed verdict
  | refused fault =>
    cases ended with
    | refused => exact current
    | kept other | written other | unwritten other =>
      rw [verdict] at other
      cases other
  | kept answer =>
    cases ended with
    | kept => exact current
    | refused other | written other | unwritten other =>
      rw [verdict] at other
      cases other

theorem clean_of_saved {answer : StoreAnswer} (ended : Performed path .save s d (.ok answer) after) :
    after.1.dirty = false := by
  cases ended with
  | kept verdict =>
    simp only [StoreCall.verdict] at verdict
    split at verdict
    next => cases verdict
    next clean => exact eq_false_of_ne_true clean
  | written => rfl

end Performed

/-- A location that is neither that of a store's file nor that of its draft. -/
def Store.Apart (s : Store) (d : Disk) (l : Location) : Prop :=
  ∀ path, s.path = some path → l ≠ d.reach path ∧ l ≠ d.reach (draftPath path)

/-- A call on a store, with a file or without, changes nothing but the file and its draft. -/
structure Aside (s : Store) (d : Disk) (after : Store × Disk) : Prop where
  tree : after.2.IsTree
  origin : after.2.origin = d.origin
  attached : after.1.path = s.path
  elsewhere : ∀ l, s.Apart d l → after.2.file? l = d.file? l

theorem perform_aside {s : Store} {d : Disk} (call : StoreCall) (tree : d.IsTree) :
    Ends call.perform (s, d) fun _ after => Aside s d after := by
  cases attached : s.path with
  | none =>
    apply (perform_detached call attached).mono
    rintro _ ⟨later, _⟩ ⟨rfl, detached⟩
    exact ⟨tree, rfl, detached.trans attached.symm, fun _ _ => rfl⟩
  | some path =>
    apply (perform_ends call attached tree).mono
    intro result after ended
    refine ⟨ended.tree tree, ended.origin, ended.attached, ?_⟩
    intro l apart
    obtain ⟨away, beside⟩ := apart path attached
    cases ended with
    | refused | kept => rfl
    | written _ saved | unwritten _ saved => exact saved.elsewhere l away beside

section InWorld

variable {τ : Type} (stamps : Stamps) (w : World τ)

/-- A change in the world leaves the store and the disk that the call on the store leaves. -/
theorem change_left {α β : Type} (job : Stamp → OnStore α) (f : α → β) :
    (OnStore.run (job (stamps w.given) >>= fun a => pure (f a)) w.store w.disk).2 =
      ((OnWorld.change stamps job w).2.store, (OnWorld.change stamps job w).2.disk) := by
  have same : (ExceptT.run (job (stamps w.given) >>= fun a => pure (f a)) (w.store, w.disk)).2 =
      (ExceptT.run (job (stamps w.given)) (w.store, w.disk)).2 := run_mapped f
  exact same

theorem learn_left (lesson : Lesson) :
    ((StoreCall.learn lesson.error lesson.description lesson.fix true (stamps w.given)).perform.run
      w.store w.disk).2 =
      ((OnWorld.learn stamps lesson w).2.store, (OnWorld.learn stamps lesson w).2.disk) := by
  have left := change_left stamps w
    (fun stamp => OnStore.learn lesson.error lesson.description lesson.fix true stamp) StoreAnswer.learned
  unfold OnWorld.learn
  rw [stateM_bind, stateM_pure, StoreCall.perform, left]

theorem recordOutcome_left (id : String) (success : Bool) :
    ((StoreCall.recordOutcome id success (stamps w.given).now).perform.run w.store w.disk).2 =
      ((OnWorld.recordOutcome stamps id success w).2.store,
        (OnWorld.recordOutcome stamps id success w).2.disk) := by
  have left := change_left stamps w
    (fun stamp => OnStore.recordOutcome id success stamp.now) StoreAnswer.confidence
  unfold OnWorld.recordOutcome
  rw [stateM_bind, stateM_pure, StoreCall.perform, left]

end InWorld

theorem performAll_document (calls : List StoreCall) (s : Store) (d : Disk) :
    (performAll calls (s, d)).1.document = documentAfterAll calls s.document := by
  induction calls generalizing s d with
  | nil => rfl
  | cons call rest ih =>
    rw [performAll, ih, perform_document]
    rfl

section Run

variable {path : Path} {s : Store} {d : Disk}

theorem performAll_attached (calls : List StoreCall) (attached : s.path = some path)
    (tree : d.IsTree) : (performAll calls (s, d)).1.path = some path ∧
      (performAll calls (s, d)).2.IsTree ∧ (performAll calls (s, d)).2.origin = d.origin := by
  induction calls generalizing s d with
  | nil => exact ⟨attached, tree, rfl⟩
  | cons call rest ih =>
    have ended := perform_ends call attached tree
    obtain ⟨kept, grown, same⟩ := ih (ended.attached.trans attached) (ended.tree tree)
    exact ⟨kept, grown, same.trans ended.origin⟩

/-- The file holds what it held, or a document as one of the calls left it. -/
theorem performAll_file (calls : List StoreCall) (attached : s.path = some path) (tree : d.IsTree) :
    (performAll calls (s, d)).2.file? (d.reach path) = d.file? (d.reach path) ∨
      ∃ n, 1 ≤ n ∧ n ≤ calls.length ∧ (performAll calls (s, d)).2.file? (d.reach path) =
        some (documentAfterAll (calls.take n) s.document).bytes := by
  induction calls generalizing s d with
  | nil => exact .inl rfl
  | cons call rest ih =>
    have ended := perform_ends call attached tree
    have further := ih (ended.attached.trans attached) (ended.tree tree)
    rw [Disk.reach_of_origin ended.origin] at further
    rcases further with same | ⟨n, some_call, bound, file⟩
    · rcases ended.file with old | new
      · exact .inl (same.trans old)
      · exact .inr ⟨1, Nat.le_refl 1, Nat.succ_le_succ (Nat.zero_le _), same.trans new⟩
    · rw [ended.document] at file
      exact .inr ⟨n + 1, Nat.succ_le_succ (Nat.zero_le n), Nat.succ_le_succ bound, file⟩

theorem performAll_current (calls : List StoreCall) (attached : s.path = some path) (tree : d.IsTree)
    (written : Current path s d ∨ Mutated calls s.document) :
    Current path (performAll calls (s, d)).1 (performAll calls (s, d)).2 := by
  induction calls generalizing s d with
  | nil => exact written.resolve_right id
  | cons call rest ih =>
    have ended := perform_ends call attached tree
    apply ih (ended.attached.trans attached) (ended.tree tree)
    rcases written with current | mutates | later
    · exact .inl (ended.current current)
    · obtain ⟨answer, new, changed⟩ := verdict_of_mutates mutates
      exact .inl (ended.current_of_changed changed)
    · exact .inr (ended.document ▸ later)

end Run

/-- A disk as it is at some moment of a run. A moment is told by the calls that were begun and by
what their steps on the disk met so far: a step that was not reached counts as refused, and a write
that was under way as cut short. -/
def SeenDuring (calls : List StoreCall) (s : Store) (d seen : Disk) : Prop :=
  ∃ begun hitches, seen = (performAll (calls.take begun) (s, { d with hitches := hitches })).2

/-- A store that can be relied on after calls, whatever steps on the disk failed. -/
structure Dependable (path : Path) (calls : List StoreCall) (s : Store) (d : Disk) : Prop where
  /-- The file holds its old content or a whole document as it was right after one of the calls. -/
  whole : ∀ seen, SeenDuring calls s d seen →
    seen.file? (d.reach path) = d.file? (d.reach path) ∨
      ∃ n, 1 ≤ n ∧ n ≤ calls.length ∧
        seen.file? (d.reach path) = some (documentAfterAll (calls.take n) s.document).bytes
  /-- Memory is as if everything had been written. -/
  document : (performAll calls (s, d)).1.document = documentAfterAll calls s.document
  current : Mutated calls s.document → Current path (performAll calls (s, d)).1 (performAll calls (s, d)).2
  /-- A fault of the disk leaves the document as a success would, and the store dirty. -/
  unwritten : ∀ (call : StoreCall) fault after,
    call.perform.run (performAll calls (s, d)).1 (performAll calls (s, d)).2 =
      (.error (.disk fault), after) →
    after.1.dirty = true ∧
      after.1.document = call.documentAfter (performAll calls (s, d)).1.document ∧
      ∀ other answer success, call.perform.run (performAll calls (s, d)).1 other = (.ok answer, success) →
        success.1.document = after.1.document
  /-- The next save that succeeds catches up. -/
  caughtUp : ∀ answer after, Mutated calls s.document →
    StoreCall.save.perform.run (performAll calls (s, d)).1 (performAll calls (s, d)).2 =
      (.ok answer, after) →
    after.2.read path = .ok (documentAfterAll calls s.document).bytes
  /-- Every other fault, and a repair that is discarded, leave everything as it was. -/
  untouched : ∀ (call : StoreCall) result after,
    call.perform.run (performAll calls (s, d)).1 (performAll calls (s, d)).2 = (result, after) →
    (∃ fault, result = .error fault ∧ ∀ f, fault ≠ .disk f) ∨ result = .ok (.learned .discarded) →
    after = performAll calls (s, d)

section Promises

variable {path : Path} {s : Store} {d : Disk} {call : StoreCall} {after : Store × Disk}

theorem performed {result : Except StoreFault StoreAnswer} (attached : s.path = some path)
    (tree : d.IsTree) (ran : call.perform.run s d = (result, after)) :
    Performed path call s d result after := by
  have ended : Performed path call s d (call.perform.run s d).1 (call.perform.run s d).2 :=
    perform_ends call attached tree
  rwa [ran] at ended

theorem unwritten_call {fault : DiskFault} (attached : s.path = some path) (tree : d.IsTree)
    (ran : call.perform.run s d = (.error (.disk fault), after)) :
    after.1.dirty = true ∧ after.1.document = call.documentAfter s.document ∧
      ∀ other answer success, call.perform.run s other = (.ok answer, success) →
        success.1.document = after.1.document := by
  have ended := performed attached tree ran
  refine ⟨?_, ended.document, fun other answer success succeeded => ?_⟩
  · cases ended with
    | unwritten => rfl
    | refused verdict =>
      have proper := verdict_proper call s
      rw [verdict] at proper
      exact absurd rfl (proper fault)
  · have same := perform_document call s other
    rw [succeeded] at same
    rw [ended.document]
    exact same

theorem untouched_call {result : Except StoreFault StoreAnswer} (attached : s.path = some path)
    (tree : d.IsTree) (ran : call.perform.run s d = (result, after))
    (which : (∃ fault, result = .error fault ∧ ∀ f, fault ≠ .disk f) ∨
      result = .ok (.learned .discarded)) : after = (s, d) := by
  have ended := performed attached tree ran
  cases ended with
  | refused | kept => rfl
  | written verdict _ =>
    have proper := verdict_proper call s
    rw [verdict] at proper
    rcases which with ⟨_, same, _⟩ | same
    · cases same
    · exact absurd (Except.ok.inj same) proper
  | unwritten _ _ =>
    rcases which with ⟨_, same, other⟩ | same
    · cases same
      exact absurd rfl (other _)
    · cases same

end Promises

/-- A store with a file can be relied on after any calls, whatever steps on the disk fail. -/
theorem store_dependable {path : Path} {s : Store} {d : Disk} (calls : List StoreCall)
    (attached : s.path = some path) (tree : d.IsTree) : Dependable path calls s d := by
  obtain ⟨kept, grown, origin⟩ := performAll_attached calls attached tree
  have document := performAll_document calls s d
  refine ⟨?_, document, ?_, ?_, ?_, ?_⟩
  · intro seen ended
    obtain ⟨begun, hitches, rfl⟩ := ended
    have hitched : ({ d with hitches := hitches } : Disk).IsTree := ⟨tree.based, tree.rooted⟩
    rcases performAll_file (calls.take begun) attached hitched with old | ⟨n, some_call, bound, file⟩
    · exact .inl old
    · rw [List.length_take] at bound
      rw [List.take_take, Nat.min_eq_left (Nat.le_trans bound (Nat.min_le_left ..))] at file
      exact .inr ⟨n, some_call, Nat.le_trans bound (Nat.min_le_right ..), file⟩
  · intro mutated
    exact performAll_current calls attached tree (.inr mutated)
  · intro call fault after ran
    exact unwritten_call kept grown ran
  · intro answer after mutated ran
    have ended := performed kept grown ran
    have current := ended.current (performAll_current calls attached tree (.inr mutated))
    have same : after.1.document = documentAfterAll calls s.document := ended.document.trans document
    rw [← same]
    exact (current ended.clean_of_saved).2
  · intro call result after ran which
    exact untouched_call kept grown ran which

theorem store_dependable_after_short_write :
    let s : Store := { path := some ⟨"nucleus.json"⟩, document := .empty default }
    let d : Disk := { Disk.empty with hitches := [.cut 10] }
    let p : FixPattern := { id := "own-1", errorPattern := "TS2304", fix := .manual "Add the import" }
    s.path = some ⟨"nucleus.json"⟩ ∧ d.IsTree ∧
      Dependable ⟨"nucleus.json"⟩ [.addPattern p default, .save] s d ∧
      Mutated [.addPattern p default, .save] s.document := by
  intro s d p
  have tree : d.IsTree := ⟨Disk.empty_isTree.based, Disk.empty_isTree.rooted⟩
  exact ⟨rfl, tree, store_dependable _ rfl tree, .inl ⟨_, _, rfl⟩⟩

end WidgetRepair
