import WidgetRepair.Proofs.DocumentReading
import WidgetRepair.Proofs.LearnedPatterns
import WidgetRepair.Proofs.SharedStore

/-! An error is learned once. The first pattern for an error stays the first one, whatever else is
done to the store and however often it is taken up again from its file. -/

namespace WidgetRepair

open StoreCall

namespace Store

/-- Whether a pattern is for the error of a summary. -/
def isFor (summary : List Char) (p : FixPattern) : Bool :=
  sameError (String.ofList (summary.take Diagnostic.signatureLimit)) (Diagnostic.keywords summary) p

/-- The id of the first pattern for the error of a summary. -/
def known? (summary : List Char) (patterns : List FixPattern) : Option String :=
  (patterns.find? (isFor summary)).map (·.id)

variable {summary : List Char} {id : String} {patterns : List FixPattern}

/-- Patterns behind the first one for an error do not come before it. -/
theorem known?_append (known : known? summary patterns = some id) (more : List FixPattern) :
    known? summary (patterns ++ more) = some id := by
  unfold known? at known ⊢
  rw [List.find?_append]
  obtain ⟨p, found, named⟩ := Option.map_eq_some_iff.mp known
  rw [found]
  exact congrArg some named

theorem known?_reread (patterns : List FixPattern) :
    known? summary (patterns.map (·.reread)) = known? summary patterns := by
  unfold known?
  rw [List.find?_map, Option.map_map]
  rfl

end Store

open Store

/-- No call puts a pattern in front of others, or changes what a pattern is for. -/
theorem known?_documentAfter {summary : List Char} {id : String} {doc : StoreDocument}
    (known : known? summary doc.patterns = some id) (call : StoreCall) :
    known? summary (call.documentAfter doc).patterns = some id := by
  have effect := documentAfter_effect call doc
  generalize call.documentAfter doc = after at effect ⊢
  cases effect with
  | kept | used => exact known
  | @tried id _ success now =>
    refine Eq.trans ?_ known
    have same (p : FixPattern) : isFor summary (p.afterOutcome success now) = isFor summary p := rfl
    exact find?_changeFirst same (fun _ => rfl) doc.patterns
  | added | learned => exact known?_append known _

theorem known?_completed {summary : List Char} {id : String} {doc : StoreDocument}
    (known : known? summary doc.patterns = some id) :
    known? summary doc.reread.completed.patterns = some id := by
  unfold StoreDocument.completed
  refine known?_append ?_ _
  exact (known?_reread doc.patterns).trans known

/-- What a call brings along can be written so that it is read back. -/
def StoreCall.Sound : StoreCall → Prop
  | recordOutcome _ _ now => now.Valid
  | learn _ _ _ _ stamp => stamp.now.Valid
  | addPattern p now => p.Sound ∧ now.Valid
  | recordTemplateOutcome _ _ now => now.Valid
  | save => True

namespace StoreDocument.Sound

variable {doc : StoreDocument}

theorem afterOutcome (sound : doc.Sound) {now : Timestamp} (valid : now.Valid) (id : String) (success : Bool) :
    (doc.afterOutcome id success now).Sound where
  updated := valid
  patterns := by
    refine forall_changeFirst (fun p good => ⟨Confidence.isFinite_after good.confidence success, ?_⟩) sound.patterns
    rintro t ⟨⟩
    exact valid
  templates := sound.templates

theorem withPattern (sound : doc.Sound) {p : FixPattern} {now : Timestamp} (own : p.Sound)
    (valid : now.Valid) : (doc.withPattern p now).Sound where
  updated := valid
  patterns := List.forall_mem_append.mpr ⟨sound.patterns, List.forall_mem_singleton.mpr own⟩
  templates := sound.templates

theorem documentAfter (sound : doc.Sound) {call : StoreCall} (own : call.Sound) :
    (call.documentAfter doc).Sound := by
  unfold StoreCall.documentAfter
  cases call with
  | recordOutcome id success now =>
    simp only [verdict]
    split
    · exact sound
    · exact sound.afterOutcome own id success
  | learn error description fix success stamp =>
    have learned : (Store.learnedPattern stamp (Diagnostic.signature error)
        (Diagnostic.keywords (Diagnostic.errorSummary error.toList)) description fix).Sound := by
      refine ⟨(by decide +kernel : Confidence.learned.isFinite = true), ?_⟩
      rintro t ⟨⟩
      exact own
    simp only [verdict, learnVerdict]
    split
    · exact sound
    · split
      · exact sound.afterOutcome own _ success
      · split
        · exact sound.withPattern learned own
        · exact sound
  | addPattern p now =>
    simp only [verdict]
    split
    · exact sound
    · exact sound.withPattern own.1 own.2
  | recordTemplateOutcome id success now =>
    simp only [verdict]
    split
    · have kept (t : WidgetTemplate) (finite : t.confidence.isFinite = true) :
          (t.afterOutcome success).confidence.isFinite = true := Confidence.isFinite_after finite success
      exact ⟨own, sound.patterns, forall_changeFirst kept sound.templates⟩
    · exact sound
  | save => exact sound

end StoreDocument.Sound

/-- What is done with a store: a call, or it is saved and taken up again from its file. -/
inductive StoreTurn where
  | call (call : StoreCall)
  | reopen (now : Timestamp)

/-- The store of the same file as it is loaded; a store without a file goes on as it is. -/
def Store.reloaded (s : Store) (d : Disk) (now : Timestamp) : Store :=
  match s.path with
  | none => s
  | some path => .load d path now

namespace StoreTurn

/-- A store is taken up again only after it could be saved. -/
def run : StoreTurn → Store × Disk → Store × Disk
  | call c, (s, d) => (c.perform.run s d).2
  | reopen now, (s, d) =>
    match StoreCall.save.perform.run s d with
    | (.ok _, saved, written) => (saved.reloaded written now, written)
    | (.error _, unsaved) => unsaved

def runAll (turns : List StoreTurn) (w : Store × Disk) : Store × Disk := turns.foldl (fun w turn => turn.run w) w

end StoreTurn

/-- A store knows an error, and so does the one that is loaded from its file, unless there are
changes to be written. -/
structure Remembers (summary : List Char) (id : String) (w : Store × Disk) : Prop where
  known : known? summary w.1.document.patterns = some id
  sound : w.1.document.Sound
  tree : w.2.IsTree
  filed : ∀ path, w.1.path = some path → w.1.dirty = false → ∃ doc : StoreDocument,
    w.2.readText path = .ok doc.toText ∧ known? summary doc.patterns = some id ∧ doc.Sound

namespace Remembers

variable {summary : List Char} {id : String} {w : Store × Disk}

theorem call (remembers : Remembers summary id w) {call : StoreCall} (own : call.Sound) :
    Remembers summary id (call.perform.run w.1 w.2).2 := by
  obtain ⟨s, d⟩ := w
  obtain ⟨known, sound, tree, filed⟩ := remembers
  have document := perform_document call s d
  have aside : Aside s d (call.perform.run s d).2 := perform_aside call tree
  have later := known?_documentAfter known call
  have readable := sound.documentAfter own
  rw [← document] at later readable
  refine ⟨later, readable, aside.tree, fun path attached clean => ?_⟩
  have held : s.path = some path := aside.attached.symm.trans attached
  have ended : Performed path call s d (call.perform.run s d).1 (call.perform.run s d).2 :=
    perform_ends call held tree
  generalize call.perform.run s d = ran at *
  obtain ⟨result, after⟩ := ran
  dsimp only at *
  cases ended with
  | refused | kept => exact filed path held clean
  | written _ saved => exact ⟨_, Disk.readText_of_read (saved.written rfl).2, later, readable⟩
  | unwritten => cases clean

/-- What is loaded from the text of a document. -/
theorem load_document {d : Disk} {path : Path} {now : Timestamp} {doc : StoreDocument}
    (read : d.readText path = .ok doc.toText) (sound : doc.Sound) :
    Store.load d path now = { path := some path, document := doc.reread.completed } := by
  unfold Store.load
  simp only [read, StoreDocument.ofText_toText sound]

/-- A store that is loaded from its file knows what the saved one knew. -/
theorem reopen (remembers : Remembers summary id w) (now : Timestamp) :
    Remembers summary id ((StoreTurn.reopen now).run w) := by
  obtain ⟨s, d⟩ := w
  have same : (StoreCall.save.perform.run s d).2.1.document = s.document := perform_document .save s d
  have remembered : Remembers summary id (StoreCall.save.perform.run s d).2 :=
    remembers.call trivial
  have aside : Aside s d (StoreCall.save.perform.run s d).2 := perform_aside .save remembers.tree
  unfold StoreTurn.run
  dsimp only at remembered ⊢
  split
  · next answer saved written ran =>
    rw [ran] at remembered aside
    unfold Store.reloaded
    cases attached : saved.path with
    | none => exact remembered
    | some path =>
      have held : s.path = some path := aside.attached.symm.trans attached
      have clean := (performed held remembers.tree ran).clean_of_saved
      obtain ⟨doc, read, known, sound⟩ := remembered.filed path attached clean
      refine ⟨?_, ?_, remembered.tree, ?_⟩
      all_goals dsimp only; rw [load_document read sound]
      · exact known?_completed known
      · exact sound.reread.completed
      · rintro _ ⟨⟩ -
        exact ⟨doc, read, known, sound⟩
  · next fault unsaved ran =>
    rw [ran] at remembered
    exact remembered

end Remembers

/-- What is needed to take a store up again as it was: whatever it holds along the way can be
written so that it is read back. -/
structure Rereadable (turns : List StoreTurn) (w : Store × Disk) : Prop where
  document : w.1.document.Sound
  calls : ∀ call, .call call ∈ turns → call.Sound

theorem Rereadable.of_call {call : StoreCall} {turns : List StoreTurn} {s : Store} {d : Disk}
    (rereadable : Rereadable (.call call :: turns) (s, d)) : Rereadable turns (call.perform.run s d).2 where
  document := by
    rw [perform_document call s d]
    exact rereadable.document.documentAfter (rereadable.calls call List.mem_cons_self)
  calls := fun c member => rereadable.calls c (List.mem_cons_of_mem _ member)

theorem remembers_runAll {summary : List Char} {id : String} {turns : List StoreTurn} {w : Store × Disk}
    (remembers : Remembers summary id w) (rereadable : Rereadable turns w) :
    Remembers summary id (StoreTurn.runAll turns w) := by
  induction turns generalizing w with
  | nil => exact remembers
  | cons turn rest ih =>
    obtain ⟨document, calls⟩ := rereadable
    have later : Remembers summary id (turn.run w) := by
      cases turn with
      | call c => exact remembers.call (calls c List.mem_cons_self)
      | reopen now => exact remembers.reopen now
    exact ih later ⟨later.sound, fun c member => calls c (List.mem_cons_of_mem _ member)⟩

/-- Calls alone keep what a store knows, whatever it holds. -/
theorem known?_runAll {summary : List Char} {id : String} {turns : List StoreTurn} {w : Store × Disk}
    (known : known? summary w.1.document.patterns = some id) (calls : ∀ now, .reopen now ∉ turns) :
    known? summary (StoreTurn.runAll turns w).1.document.patterns = some id := by
  induction turns generalizing w with
  | nil => exact known
  | cons turn rest ih =>
    cases turn with
    | reopen now => exact absurd List.mem_cons_self (calls now)
    | call c =>
      obtain ⟨s, d⟩ := w
      refine ih ?_ fun now member => calls now (List.mem_cons_of_mem _ member)
      have document : ((StoreTurn.call c).run (s, d)).1.document = c.documentAfter s.document :=
        perform_document c s d
      rw [document]
      exact known?_documentAfter known c

theorem isFor_errorSummary (error : String) : isFor (Diagnostic.errorSummary error.toList) =
    sameError (Diagnostic.signature error) (Diagnostic.keywords (Diagnostic.errorSummary error.toList)) := rfl

/-- A store without a file answers as it decided. -/
theorem perform_unfiled {s : Store} (call : StoreCall) (d : Disk) (detached : s.path = none) :
    (call.perform.run s d).1 = (call.verdict s).answer := by
  rw [perform_follows]
  obtain ⟨path, document, dirty⟩ := s
  cases detached
  cases call.verdict { path := none, document := document, dirty := dirty } <;> rfl

theorem aside_of_ran {call : StoreCall} {s : Store} {d : Disk} {result : Except StoreFault StoreAnswer}
    {after : Store × Disk} (tree : d.IsTree) (ran : call.perform.run s d = (result, after)) : Aside s d after := by
  have aside : Aside s d (call.perform.run s d).2 := perform_aside call tree
  rwa [ran] at aside

/-- What learning again comes to: a pattern is tried once more and none is added. Only the file can
keep it from an answer. -/
structure Reinforces (id : String) (s : Store) (ran : Except StoreFault LearnOutcome × Store × Disk) : Prop where
  answer : ran.1 = .ok (.reinforced id) ∨ s.path ≠ none ∧ ∃ f, ran.1 = .error (.disk f)
  length : ran.2.1.patterns.length = s.patterns.length

section Learn

variable {error description id : String} {fix : FixAction} {success : Bool} {stamp : Stamp} {s : Store} {d : Disk}

/-- A pattern is created where there is none for the error, and is then the first one for it. -/
theorem verdict_created {answer : StoreAnswer} (created : answer = .learned (.created id))
    (verdict : (StoreCall.learn error description fix success stamp).verdict s = .kept answer ∨
      ∃ doc, (StoreCall.learn error description fix success stamp).verdict s = .changed answer doc) :
    Diagnostic.signature error ≠ "" ∧ ∃ doc,
      (StoreCall.learn error description fix success stamp).verdict s = .changed answer doc ∧
        known? (Diagnostic.errorSummary error.toList) doc.patterns = some id := by
  subst created
  revert verdict
  simp only [StoreCall.verdict, learnVerdict]
  split
  · rintro (same | ⟨_, same⟩) <;> cases same
  · next filled =>
    split
    · rintro (same | ⟨_, same⟩) <;> cases same
    · next new =>
      split
      · rintro (same | ⟨_, same⟩) <;> cases same
        refine ⟨mt String.isEmpty_iff.mpr filled, _, rfl, ?_⟩
        have own : isFor (Diagnostic.errorSummary error.toList) (Store.learnedPattern stamp
            (Diagnostic.signature error) (Diagnostic.keywords (Diagnostic.errorSummary error.toList))
            description fix) = true := Bool.or_eq_true_iff.mpr (.inl (beq_self_eq_true _))
        rw [← isFor_errorSummary] at new
        simp only [StoreDocument.withPattern, known?, List.find?_append, new, Option.none_or,
          List.find?_cons, own]
        rfl
      · rintro (same | ⟨_, same⟩) <;> cases same

/-- What learning leaves when it creates a pattern. -/
theorem learned_known {after : Store × Disk}
    (ran : (OnStore.learn error description fix success stamp).run s d = (.ok (.created id), after)) :
    Diagnostic.signature error ≠ "" ∧
      known? (Diagnostic.errorSummary error.toList) after.1.document.patterns = some id := by
  have document := perform_document (.learn error description fix success stamp) s d
  obtain ⟨filled, doc, verdict, known⟩ := verdict_created rfl (answer_of_verdict (run_learn ran))
  rw [run_learn ran, ← verdict_document, verdict] at document
  refine ⟨filled, ?_⟩
  rw [document]
  exact known

theorem perform_learn : (StoreCall.learn error description fix success stamp).perform.run s d =
    (((OnStore.learn error description fix success stamp).run s d).1.map .learned,
      ((OnStore.learn error description fix success stamp).run s d).2) := by
  cases ran : (OnStore.learn error description fix success stamp).run s d with
  | mk result after =>
    cases result with
    | ok outcome => exact run_learn ran
    | error fault =>
      have plain : ExceptT.run (OnStore.learn error description fix success stamp) (s, d) =
        (.error fault, after) := ran
      exact run_bind_error plain fun outcome => (pure (.learned outcome) : OnStore StoreAnswer)

/-- A known error is reinforced, with whatever it comes. -/
theorem verdict_known (description : String) (fix : FixAction) (success : Bool) (stamp : Stamp)
    {p : FixPattern} (filled : Diagnostic.signature error ≠ "")
    (found : s.document.patterns.find? (isFor (Diagnostic.errorSummary error.toList)) = some p) :
    (StoreCall.learn error description fix success stamp).verdict s =
      .changed (.learned (.reinforced p.id)) (s.document.afterOutcome p.id success stamp.now) := by
  rw [isFor_errorSummary] at found
  simp only [StoreCall.verdict, learnVerdict, found]
  rw [if_neg (mt String.isEmpty_iff.mp filled)]

theorem length_afterOutcome (doc : StoreDocument) (id : String) (success : Bool) (now : Timestamp) :
    (doc.afterOutcome id success now).patterns.length = doc.patterns.length :=
  length_changeFirst doc.patterns

theorem learn_known (filled : Diagnostic.signature error ≠ "")
    (known : known? (Diagnostic.errorSummary error.toList) s.document.patterns = some id) :
    Reinforces id s ((OnStore.learn error description fix success stamp).run s d) := by
  obtain ⟨p, found, rfl⟩ := Option.map_eq_some_iff.mp known
  have verdict := verdict_known description fix success stamp filled found
  have result := perform_result (.learn error description fix success stamp) s d
  have unfiled := perform_unfiled (s := s) (.learn error description fix success stamp) d
  have document := perform_document (.learn error description fix success stamp) s d
  rw [← verdict_document] at document
  rw [verdict, perform_learn] at result unfiled document
  generalize (OnStore.learn error description fix success stamp).run s d = ran at *
  obtain ⟨came, after, disk⟩ := ran
  simp only [Verdict.answer, Verdict.document] at result unfiled document
  refine ⟨?_, ?_⟩
  · cases came with
    | ok outcome =>
      left
      simpa [Except.map] using result
    | error fault =>
      right
      simpa [Except.map] using And.intro unfiled result
  · unfold Store.patterns
    rw [document]
    exact length_afterOutcome s.document p.id success stamp.now

theorem remembers_learned {after : Store × Disk} (tree : d.IsTree)
    (ran : (OnStore.learn error description fix success stamp).run s d = (.ok (.created id), after))
    (sound : after.1.document.Sound) :
    Remembers (Diagnostic.errorSummary error.toList) id after := by
  have known := (learned_known ran).2
  have aside := aside_of_ran tree (run_learn ran)
  refine ⟨known, sound, aside.tree, fun path attached clean => ?_⟩
  have ended := performed (aside.attached.symm.trans attached) tree (run_learn ran)
  obtain ⟨-, doc, changed, -⟩ := verdict_created rfl (answer_of_verdict (run_learn ran))
  exact ⟨_, Disk.readText_of_read (ended.current_of_changed changed clean).2, known, sound⟩

end Learn

/-- An error that made a pattern once is known from then on. Whatever is done to the store, and however
often it is taken up again from its file, learning from any text with the same summary reinforces that
pattern. -/
theorem learned_once {error description id : String} {fix : FixAction} {stamp : Stamp} {s : Store} {d : Disk}
    {after : Store × Disk} {turns : List StoreTurn} (tree : d.IsTree)
    (ran : (OnStore.learn error description fix true stamp).run s d = (.ok (.created id), after))
    (reopened : (∃ now, .reopen now ∈ turns) →
      Rereadable (.call (.learn error description fix true stamp) :: turns) (s, d))
    {again : String} (same : Diagnostic.errorSummary again.toList = Diagnostic.errorSummary error.toList)
    (description' : String) (fix' : FixAction) (success : Bool) (stamp' : Stamp) :
    Reinforces id (StoreTurn.runAll turns after).1
      ((OnStore.learn again description' fix' success stamp').run (StoreTurn.runAll turns after).1
        (StoreTurn.runAll turns after).2) := by
  obtain ⟨filled, known⟩ := learned_known ran
  have signature : Diagnostic.signature again = Diagnostic.signature error := by
    unfold Diagnostic.signature
    rw [same]
  have later : known? (Diagnostic.errorSummary error.toList)
      (StoreTurn.runAll turns after).1.document.patterns = some id := by
    by_cases again : ∃ now, .reopen now ∈ turns
    · have rereadable := (reopened again).of_call
      rw [run_learn ran] at rereadable
      have remembers := remembers_learned tree ran rereadable.document
      exact (remembers_runAll remembers rereadable).known
    · exact known?_runAll known fun now member => again ⟨now, member⟩
  exact learn_known (signature ▸ filled) (same ▸ later)

theorem exists_of_answer {α : Type} [BEq α] [LawfulBEq α] {ran : Except StoreFault α × Store × Disk} {a : α}
    (answer : (ran.1.toOption == some a) = true) : ∃ after, ran = (.ok a, after) := by
  obtain ⟨result, after⟩ := ran
  cases result with
  | ok other =>
    cases Option.some.inj (beq_iff_eq.mp answer)
    exact ⟨after, rfl⟩
  | error fault => cases answer

/-- A store that is loaded from no file learns an error, and knows it after it was taken up again. -/
theorem learned_once_after_reopening :
    let error := "src/App.tsx(3,7): error TS9041: Flux capacitor overload."
    let fix := FixAction.manual "Restart the capacitor"
    let stamp : Stamp := ⟨default, "learned-1"⟩
    let s := Store.load Disk.empty ⟨"nucleus.json"⟩ default
    Disk.empty.IsTree ∧
      Rereadable [.call (.learn error "Seen once" fix true stamp), .reopen default] (s, Disk.empty) ∧
      ∃ after, (OnStore.learn error "Seen once" fix true stamp).run s Disk.empty =
          (.ok (.created "learned-1"), after) ∧
        ∀ description fix success stamp, Reinforces "learned-1" (StoreTurn.runAll [.reopen default] after).1
          ((OnStore.learn "error TS9041: Flux capacitor overload.\n" description fix success stamp).run
            (StoreTurn.runAll [.reopen default] after).1 (StoreTurn.runAll [.reopen default] after).2) := by
  intro error fix stamp s
  have answer : (((OnStore.learn error "Seen once" fix true stamp).run s Disk.empty).1.toOption ==
      some (.created "learned-1")) = true := by decide +kernel
  obtain ⟨after, ran⟩ := exists_of_answer answer
  have valid : (default : Timestamp).Valid := ⟨by decide, by decide, by decide⟩
  have rereadable : Rereadable [.call (.learn error "Seen once" fix true stamp), .reopen default]
      (s, Disk.empty) := by
    refine ⟨Store.sound_load Disk.empty ⟨"nucleus.json"⟩ valid, fun call member => ?_⟩
    have same : call = .learn error "Seen once" fix true stamp := by simpa using member
    exact same ▸ valid
  have same : Diagnostic.errorSummary "error TS9041: Flux capacitor overload.\n".toList =
      Diagnostic.errorSummary error.toList := by decide +kernel
  exact ⟨Disk.empty_isTree, rereadable, after, ran, learned_once Disk.empty_isTree ran (fun _ => rereadable) same⟩

end WidgetRepair
