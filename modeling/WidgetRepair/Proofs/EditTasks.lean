import WidgetRepair.Proofs.EditSteps

/-! The edits that strategies ask for. One that changed nothing has spared every file unless it broke
off: then it ended in a fault after it had written other bytes. -/

namespace WidgetRepair.Edit

open Disk

variable {watched : Location → Prop} {folder : Path} {d : Disk}

/-- Adding scripts touches the manifest, and that is watched. -/
def ScriptMarks (watched : Location → Prop) (folder : Path) (wanted : Scripts) (d : Disk) : Prop :=
  ∃ text manifest, d.readText (folder / Manifest.fileName) = .ok text ∧
    readManifest text = .ok manifest ∧ missingScripts manifest wanted ≠ [] ∧
    Marks watched (folder / Manifest.fileName)
      (Manifest.fileText (.record (withScripts manifest (missingScripts manifest wanted)))).toUTF8 d

theorem scriptMarks_iff {wanted : Scripts} {text : String} {manifest : List (String × Json.Value)}
    (read : d.readText (folder / Manifest.fileName) = .ok text)
    (known : readManifest text = .ok manifest) :
    (missingScripts manifest wanted ≠ [] ∧ Marks watched (folder / Manifest.fileName)
      (Manifest.fileText (.record (withScripts manifest (missingScripts manifest wanted)))).toUTF8 d) ↔
      ScriptMarks watched folder wanted d := by
  constructor
  · intro ⟨lacking, marks⟩
    exact ⟨text, manifest, read, known, lacking, marks⟩
  · intro found
    obtain ⟨_, _, read', known', lacking, marks⟩ := found
    cases read.symm.trans read'
    cases known.symm.trans known'
    exact ⟨lacking, marks⟩

theorem ensureScripts_ends (watched : Location → Prop) (folder : Path) (wanted : Scripts)
    (tree : d.IsTree) :
    Ends (ensureScripts folder wanted) d fun result after =>
      Edited watched (ScriptMarks watched folder wanted d) d (result.map (!·.isEmpty)) after := by
  unfold ensureScripts
  refine .looked ?_
  dsimp only
  split
  next missing =>
    refine .broken (.same tree ?_)
    intro found
    obtain ⟨text, _, read, _⟩ := found
    simp [isFile_of_readText read] at missing
  next =>
    refine (read_ends _ d).bind ?_ ?_
    · intro text d ended
      obtain ⟨rfl, ⟨_, ⟨⟩, read⟩ | ⟨_, ⟨⟩, _⟩⟩ := ended
      refine .granted ?_ ?_
      · intro manifest known
        have iff := @scriptMarks_iff watched folder d wanted text manifest read known
        generalize added : missingScripts manifest wanted = scripts at iff
        cases scripts with
        | nil => exact .returned (.same tree fun marks => (iff.mpr marks).1 rfl)
        | cons first others =>
          have wrote := OnDisk.write_leaves watched (folder / Manifest.fileName)
            (Manifest.fileText (.record (withScripts manifest (first :: others)))).toUTF8 tree
          have marks := (and_iff_right (List.cons_ne_nil first others)).symm.trans iff
          refine (onDisk_leaves (wrote.mono fun _ _ leaves => leaves.of_iff marks)).bind ?_ ?_
          · intro _ after leaves
            exact .returned ⟨leaves, nofun⟩
          · intro _ after leaves
            exact ⟨leaves, nofun⟩
      · intro fault unknown
        refine .same tree ?_
        intro found
        obtain ⟨_, _, read', known, _⟩ := found
        cases read.symm.trans read'
        cases unknown.symm.trans known
    · intro _ d ended
      obtain ⟨rfl, ⟨_, ⟨⟩, _⟩ | ⟨f, ⟨⟩, unread⟩⟩ := ended
      refine .same tree ?_
      intro found
      obtain ⟨_, _, read, _⟩ := found
      cases unread.symm.trans read

def makeAround (target : Path) : OnDisk Unit :=
  match target.parent? with
  | some around => OnDisk.makeFolders around
  | none => pure ()

theorem makeAround_ends (target : Path) (tree : d.IsTree) :
    Ends (makeAround target) d fun _ after => Grown d after :=
  (OnDisk.makeAround_along target tree).mono fun _ _ grown => grown.toGrown

/-- Creating a file touches a watched location once the folders around it are made. -/
def CreateMarks (watched : Location → Prop) (target : Path) (payload : String) (d : Disk) : Prop :=
  (d.readText target).toOption ≠ some payload ∧
    ∃ made, (makeAround target).run d = (.ok (), made) ∧ Marks watched target payload.toUTF8 made

theorem create_eq (target : Path) (payload : String) : create target payload = (do
    if ((← get).readText target).toOption = some payload then return false
    onDisk (makeAround target >>= fun _ => OnDisk.writeText target payload)
    return true) := by
  unfold create makeAround
  cases target.parent? <;> rfl

theorem create_ends (watched : Location → Prop) (target : Path) (payload : String)
    (tree : d.IsTree) :
    Ends (create target payload) d (Edited watched (CreateMarks watched target payload d) d) := by
  rw [create_eq]
  refine .looked ?_
  split
  next equal => exact .returned (.same tree fun marks => marks.1 equal)
  next differs =>
    refine wrote_ends ((makeAround_ends target tree).ran.bind ?_ ?_)
    · intro _ made ⟨ran, grown⟩
      apply (OnDisk.write_leaves watched target payload.toUTF8 grown.tree).mono
      intro _ _ leaves
      refine (leaves.after_grown grown).of_iff ?_
      constructor
      · intro marks
        exact ⟨differs, made, ran, marks⟩
      · intro ⟨_, _, ran', marks⟩
        cases ran.symm.trans ran'
        exact marks
    · intro _ made ⟨ran, grown⟩
      refine .grown grown ?_
      intro ⟨_, _, ran', _⟩
      cases ran.symm.trans ran'

/-- Carrying out an edit of a plan touches a watched location. -/
inductive PlannedMarks (watched : Location → Prop) (folder : Path) (e : PlannedEdit)
    (d : Disk) : Prop where
  | created {target : Path} {payload : String} (aim : inside folder e.file = .ok target)
    (content : e.payload? = some payload) (kind : e.kind = .create)
    (marks : CreateMarks watched target payload d)
  | changed {target : Path} {payload old : String} {new : Option String}
    (aim : inside folder e.file = .ok target) (content : e.payload? = some payload)
    (kind : e.kind ≠ .create) (read : d.readText target = .ok old)
    (planned : plannedContent e old payload = .ok new) (marks : PutMarks watched target old new d)

theorem plannedMarks_created {e : PlannedEdit} {target : Path} {payload : String}
    (aim : inside folder e.file = .ok target) (content : e.payload? = some payload)
    (kind : e.kind = .create) :
    CreateMarks watched target payload d ↔ PlannedMarks watched folder e d := by
  constructor
  · exact .created aim content kind
  · intro marks
    cases marks with
    | created aim' content' _ marks =>
      cases aim.symm.trans aim'
      cases content.symm.trans content'
      exact marks
    | changed _ _ other => exact absurd kind other

theorem plannedMarks_changed {e : PlannedEdit} {target : Path} {payload old : String}
    {new : Option String} (aim : inside folder e.file = .ok target)
    (content : e.payload? = some payload) (kind : e.kind ≠ .create)
    (read : d.readText target = .ok old) (planned : plannedContent e old payload = .ok new) :
    PutMarks watched target old new d ↔ PlannedMarks watched folder e d := by
  constructor
  · exact .changed aim content kind read planned
  · intro marks
    cases marks with
    | created _ _ other => exact absurd other kind
    | changed aim' content' _ read' planned' marks =>
      cases aim.symm.trans aim'
      cases content.symm.trans content'
      cases read.symm.trans read'
      cases planned.symm.trans planned'
      exact marks

theorem performPlanned_ends (watched : Location → Prop) (folder : Path) (e : PlannedEdit)
    (tree : d.IsTree) :
    Ends (performPlanned folder e) d (Edited watched (PlannedMarks watched folder e d) d) := by
  unfold performPlanned
  refine .granted ?_ ?_
  · intro target aim
    cases content : e.payload? with
    | none =>
      refine .failed (.same tree fun marks => ?_)
      cases marks with
      | created _ content' | changed _ content' => cases content.symm.trans content'
    | some payload =>
      dsimp only
      split
      next kind =>
        refine (create_ends watched target payload tree).mono ?_
        intro _ _ edited
        exact edited.of_iff (plannedMarks_created aim content kind)
      next kind =>
        refine .looked ?_
        split
        next missing =>
          refine .returned (.same tree fun marks => ?_)
          cases marks with
          | created _ _ other => exact kind other
          | changed aim' _ _ read =>
            cases aim.symm.trans aim'
            simp [isFile_of_readText read] at missing
        next =>
          refine (read_ends target d).bind ?_ ?_
          · intro old d ended
            obtain ⟨rfl, ⟨_, ⟨⟩, read⟩ | ⟨_, ⟨⟩, _⟩⟩ := ended
            refine .granted ?_ ?_
            · intro new planned
              apply (putNew_ends watched target old new tree).mono
              intro _ _ edited
              exact edited.of_iff (plannedMarks_changed aim content kind read planned)
            · intro fault unplanned
              refine .same tree ?_
              intro marks
              cases marks with
              | created _ _ other => exact kind other
              | changed aim' content' _ read' planned =>
                cases aim.symm.trans aim'
                cases content.symm.trans content'
                cases read.symm.trans read'
                cases unplanned.symm.trans planned
          · intro _ d ended
            obtain ⟨rfl, ⟨_, ⟨⟩, _⟩ | ⟨f, ⟨⟩, unread⟩⟩ := ended
            refine .same tree ?_
            intro marks
            cases marks with
            | created _ _ other => exact kind other
            | changed aim' _ _ read =>
              cases aim.symm.trans aim'
              cases unread.symm.trans read
  · intro fault escapes
    refine .same tree ?_
    intro marks
    cases marks with
    | created aim | changed aim => cases escapes.symm.trans aim

/-- An edit that a strategy asks for. -/
inductive Task where
  | repair (fix : FixAction)
  | planned (e : PlannedEdit)

namespace Task

/-- Carries out a task; tells whether it changed anything. -/
def job (folder : Path) : Task → OnEdit Bool
  | repair fix => do return (← perform folder fix).applied
  | planned e => performPlanned folder e

/-- A disk as a task leaves it, or as it is after some of the files of an edit. -/
inductive Seen (folder : Path) (d : Disk) : Task → Disk → Prop where
  | ended {task : Task} {result : Except EditFault Bool} {after : Disk}
    (ran : (task.job folder).run d = (result, after)) : Seen folder d task after
  | midway {pattern search replace : String} {files : List Path}
    (matching : matchingFiles d folder pattern = .ok files) (n : Nat) :
    Seen folder d (.repair (.fileEdit pattern search replace))
      ((editEach search replace (files.take n)).run d).2

/-- Carrying out a task touches a watched location. -/
def Marks (watched : Location → Prop) (folder : Path) (d : Disk) : Task → Prop
  | repair (.fileEdit pattern search replace) =>
    ∃ files, matchingFiles d folder pattern = .ok files ∧ EachMarks watched search replace files d
  | repair (.configChange scripts) => ScriptMarks watched folder scripts d
  | repair (.dependencyAdd ..) | repair (.manual _) => False
  | planned e => PlannedMarks watched folder e d

/-- A task ended in a fault after it had touched a watched location. -/
def BrokeOff (watched : Location → Prop) (folder : Path) (d : Disk) (task : Task) : Prop :=
  task.Marks watched folder d ∧ ∃ fault after, (task.job folder).run d = (.error fault, after)

structure Tried (watched : Location → Prop) (folder : Path) (d : Disk) (task : Task)
    (result : Except EditFault Bool) (after : Disk) : Prop where
  tree : after.IsTree
  origin : after.origin = d.origin
  spared : (∀ seen, Seen folder d task seen → Spares watched d seen) ↔ ¬ task.Marks watched folder d
  idle : result = .ok false → ¬ task.Marks watched folder d

/-- A task that writes at most once is seen only when it has ended. -/
theorem tried_of_edited {task : Task} (single : ∀ seen, Seen folder d task seen →
      ∃ result, (task.job folder).run d = (result, seen))
    (edits : Ends (task.job folder) d (Edited watched (task.Marks watched folder d) d)) :
    Ends (task.job folder) d (Tried watched folder d task) := by
  refine edits.ran.mono ?_
  intro result after ⟨ran, edited⟩
  refine ⟨edited.leaves.tree, edited.leaves.origin, ?_, edited.idle⟩
  rw [← edited.leaves.spared]
  constructor
  · intro spares
    exact spares _ (.ended ran)
  · intro spares seen moment
    obtain ⟨_, ran'⟩ := single seen moment
    cases ran.symm.trans ran'
    exact spares

section FileEdit

variable {pattern search replace : String} {files : List Path}

theorem editFiles_error {fault : PatternFault} (matching : matchingFiles d folder pattern = .error fault) :
    Ends (editFiles folder pattern search replace) d fun result after =>
      result = .error (.pattern fault) ∧ after = d := by
  refine .looked ?_
  rw [matching]
  exact .failed ⟨rfl, rfl⟩

theorem editFiles_run (matching : matchingFiles d folder pattern = .ok files) :
    (editFiles folder pattern search replace).run d = (editEach search replace files).run d := by
  unfold editFiles
  rw [run_looked, matching]

/-- What is said about an edit of files does not change what they hold. -/
theorem fileEdit_ends {mid : Except EditFault (List Path) → Disk → Prop}
    (edits : Ends (editFiles folder pattern search replace) d mid) :
    Ends (job folder (.repair (.fileEdit pattern search replace))) d fun result after =>
      ∃ came, mid came after ∧ result = came.map (!·.isEmpty) := by
  have performed : Ends (perform folder (.fileEdit pattern search replace)) d fun result after =>
      ∃ came, mid came after ∧ result.map (·.applied) = came.map (!·.isEmpty) := by
    refine edits.bind ?_ ?_
    · intro changed after fits
      cases changed with
      | nil => exact .returned ⟨_, fits, rfl⟩
      | cons file others => exact .returned ⟨_, fits, rfl⟩
    · intro _ after fits
      exact ⟨_, fits, rfl⟩
  refine performed.bind ?_ ?_
  · intro report after ended
    obtain ⟨came, fits, same⟩ := ended
    exact .returned ⟨came, fits, same⟩
  · intro _ after ended
    obtain ⟨came, fits, same⟩ := ended
    exact ⟨came, fits, same⟩

theorem fileMarks_iff {watched : Location → Prop} (matching : matchingFiles d folder pattern = .ok files) :
    EachMarks watched search replace files d ↔
      (Task.repair (.fileEdit pattern search replace)).Marks watched folder d := by
  constructor
  · intro marks
    exact ⟨files, matching, marks⟩
  · intro ⟨_, matching', marks⟩
    cases matching.symm.trans matching'
    exact marks

theorem fileEdit_unmatched (watched : Location → Prop) (tree : d.IsTree) {fault : PatternFault}
    (matching : matchingFiles d folder pattern = .error fault) :
    Ends (job folder (.repair (.fileEdit pattern search replace))) d
      (Tried watched folder d (.repair (.fileEdit pattern search replace))) := by
  refine tried_of_edited ?_ ((fileEdit_ends (editFiles_error matching)).mono ?_)
  · intro seen moment
    cases moment with
    | ended ran => exact ⟨_, ran⟩
    | midway matching' => cases matching.symm.trans matching'
  · intro _ d ended
    obtain ⟨_, ⟨_, rfl⟩, _⟩ := ended
    refine .same tree ?_
    intro ⟨_, matching', _⟩
    cases matching.symm.trans matching'

theorem fileEdit_tried (watched : Location → Prop) (tree : d.IsTree) :
    Ends (job folder (.repair (.fileEdit pattern search replace))) d
      (Tried watched folder d (.repair (.fileEdit pattern search replace))) := by
  cases matching : matchingFiles d folder pattern with
  | error fault => exact fileEdit_unmatched watched tree matching
  | ok files =>
    apply (fileEdit_ends .same).ran.mono
    intro result after ended
    obtain ⟨ran, came, each, rfl⟩ := ended
    rw [editFiles_run matching] at each
    have edited := editEach_ends watched search replace files tree
    unfold Ends at edited
    rw [each] at edited
    obtain ⟨tree', origin, idle⟩ := edited
    refine ⟨tree', origin, ?_, fun quiet => ?_⟩
    · rw [← not_congr (fileMarks_iff matching), ← editEach_spares watched search replace files tree]
      constructor
      · intro spares n
        exact spares _ (.midway matching n)
      · intro spares seen moment
        cases moment with
        | ended ran' =>
          cases ran.symm.trans ran'
          have whole := spares files.length
          rwa [List.take_length, each] at whole
        | midway matching' n =>
          cases matching.symm.trans matching'
          exact spares n
    · rw [← fileMarks_iff matching]
      apply idle
      cases came with
      | error fault => cases quiet
      | ok changed =>
        cases changed with
        | nil => rfl
        | cons => cases quiet

end FileEdit

/-- Saying what was added, or why nothing was, changes nothing. -/
theorem configChange_ends {scripts : Scripts} {mid : Except EditFault Bool → Disk → Prop}
    (adds : Ends (ensureScripts folder scripts) d fun result after =>
      mid (result.map (!·.isEmpty)) after) :
    Ends (job folder (.repair (.configChange scripts))) d mid := by
  have performed : Ends (perform folder (.configChange scripts)) d fun result after =>
      mid (result.map (·.applied)) after := by
    refine adds.bind ?_ fun _ _ fits => fits
    intro added after fits
    cases added with
    | nil => exact .returned fits
    | cons name others => exact .returned fits
  exact performed.bind (fun _ _ fits => .returned fits) fun _ _ fits => fits

theorem tried (watched : Location → Prop) (folder : Path) (task : Task) (tree : d.IsTree) :
    Ends (task.job folder) d (Tried watched folder d task) := by
  cases task with
  | planned e =>
    refine tried_of_edited ?_ (performPlanned_ends watched folder e tree)
    rintro seen ⟨ran⟩
    exact ⟨_, ran⟩
  | repair fix =>
    cases fix with
    | fileEdit pattern search replace => exact fileEdit_tried watched tree
    | configChange scripts =>
      refine tried_of_edited ?_ (configChange_ends (ensureScripts_ends watched folder scripts tree))
      rintro seen ⟨ran⟩
      exact ⟨_, ran⟩
    | dependencyAdd packages dev =>
      refine tried_of_edited ?_ ?_
      · rintro seen ⟨ran⟩
        exact ⟨_, ran⟩
      · cases packages <;> exact .returned (.same tree id)
    | manual instructions =>
      refine tried_of_edited ?_ (.returned (.same tree id))
      rintro seen ⟨ran⟩
      exact ⟨_, ran⟩

end Task

end WidgetRepair.Edit
