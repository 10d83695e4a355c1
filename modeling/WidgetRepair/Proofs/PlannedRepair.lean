import WidgetRepair.Proofs.EditRank
import WidgetRepair.Proofs.EditTasks
import WidgetRepair.Proofs.LiteralPaths
import WidgetRepair.Proofs.TextParts

/-! An edit of a plan and the repair that is learned from it. The edit means one file; the repair has
a pattern, and does the same just if that finds the file and else only files that it leaves alone. -/

namespace WidgetRepair

open Disk

namespace Disk

variable {d later : Disk} {p : Path} {content : String}

theorem file?_eq_some {l : Location} {bytes : ByteArray} :
    d.file? l = some bytes ↔ d.get? l = some (.file bytes) := by
  unfold file?
  split
  next found => simp [found]
  next none =>
    simp only [reduceCtorEq, false_iff]
    exact none bytes

theorem readText_iff :
    d.readText p = .ok content ↔ ∃ l, d.locate p = .ok l ∧ d.file? l = some content.toUTF8 := by
  constructor
  · intro read
    unfold readText at read
    cases bytes : d.read p with
    | error f => simp [bytes, bind, Except.bind] at read
    | ok held =>
      obtain ⟨l, located, file⟩ := read_ok bytes
      refine ⟨l, located, file?_eq_some.mpr ?_⟩
      simp only [bytes, bind, Except.bind] at read
      split at read
      next text whole =>
        cases read
        unfold String.fromUTF8? at whole
        split at whole
        next valid =>
          cases whole
          exact file
        next => cases whole
      next => cases read
  · intro found
    obtain ⟨l, located, file⟩ := found
    exact readText_of_read (read_file located (file?_eq_some.mp file))

/-- What was written to a file is read from it. -/
theorem readText_put {l : Location} (writable : Writable d p l) (text : String) :
    (d.spent.put l (.file text.toUTF8)).readText p = .ok text := by
  refine readText_iff.mpr ⟨l, (writable.put_kept _).locate writable.located, ?_⟩
  rw [file?_put _ writable.inner, if_pos rfl]

theorem readText_congr {q : Path} (same : d.locate q = d.locate p) : d.readText q = d.readText p := by
  simp only [readText, read, same]

end Disk

namespace Edit

variable {folder file target : Path} {search replace content : String} {d after last : Disk}

theorem write_put (file : Path) (text : String) (tree : d.IsTree) :
    Ends (onDisk (OnDisk.writeText file text)) d fun result after =>
      (result = .ok () ∧ ∃ l, Writable d file l ∧ d.hitch = .none ∧
        after = d.spent.put l (.file text.toUTF8)) ∨
      (∃ fault, result = .error fault) ∧ ∀ l, Writable d file l → d.hitch ≠ .none := by
  refine .adapted (OnDisk.write_ends file text.toUTF8 tree) ?_
  intro result after written
  cases written with
  | refused f _ barred =>
    refine .inr ⟨⟨_, rfl⟩, ?_⟩
    intro l writable free
    cases (barred l writable).symm.trans free
  | whole writable free => exact .inl ⟨rfl, _, writable, free, rfl⟩
  | cut _ short =>
    refine .inr ⟨⟨_, rfl⟩, ?_⟩
    intro l _ free
    cases short.symm.trans free

/-- An edit has nothing to change in a file. -/
def Keeps (search replace : String) (d : Disk) (file : Path) : Prop :=
  ∃ content, d.readText file = .ok content ∧
    ∀ new, edited? content search replace = some new → new = content

/-- How putting a new text for a file ends. -/
inductive Put (file : Path) (content : String) (new : Option String) (d : Disk) :
    Except EditFault Bool → Disk → Prop where
  | kept (same : ∀ text, new = some text → text = content) : Put file content new d (.ok false) d
  | changed {l : Location} {text : String} (writable : Writable d file l) (free : d.hitch = .none)
    (put : new = some text) (differs : text ≠ content) :
    Put file content new d (.ok true) (d.spent.put l (.file text.toUTF8))
  | broke {fault : EditFault} {after : Disk} (differs : ¬ ∀ text, new = some text → text = content)
    (barred : ∀ l, Writable d file l → d.hitch ≠ .none) : Put file content new d (.error fault) after

theorem putNew_put (file : Path) (content : String) (new : Option String) (tree : d.IsTree) :
    Ends (putNew file content new) d (Put file content new d) := by
  cases new with
  | none => exact .returned (.kept nofun)
  | some text =>
    simp only [putNew]
    split
    next equal =>
      refine .returned (.kept ?_)
      rintro _ ⟨⟩
      exact equal
    next differs =>
      refine (write_put file text tree).bind ?_ ?_
      · rintro _ _ (⟨-, l, writable, free, rfl⟩ | ⟨⟨_, ⟨⟩⟩, -⟩)
        exact .returned (.changed writable free rfl differs)
      · rintro _ _ (⟨⟨⟩, -⟩ | ⟨-, barred⟩)
        exact .broke (fun same => differs (same text rfl)) barred

/-- How editing a file ends. -/
inductive Came (search replace : String) (file : Path) (d : Disk) :
    Except EditFault Bool → Disk → Prop where
  | kept (keeps : Keeps search replace d file) : Came search replace file d (.ok false) d
  | changed {l : Location} {content new : String} (writable : Writable d file l) (free : d.hitch = .none)
    (read : d.readText file = .ok content) (edit : edited? content search replace = some new)
    (differs : new ≠ content) :
    Came search replace file d (.ok true) (d.spent.put l (.file new.toUTF8))
  | broke {fault : EditFault} {after : Disk} (changes : ¬ Keeps search replace d file)
    (barred : ∀ content l, d.readText file = .ok content → Writable d file l → d.hitch ≠ .none) :
    Came search replace file d (.error fault) after

theorem editOne_came (search replace : String) (file : Path) (tree : d.IsTree) :
    Ends (editOne search replace file) d (Came search replace file d) := by
  refine (read_ends file d).bind ?_ ?_
  · rintro content _ ⟨rfl, ⟨_, ⟨⟩, read⟩ | ⟨_, ⟨⟩, _⟩⟩
    refine (putNew_put file content _ tree).mono ?_
    rintro _ _ (same | ⟨writable, free, edit, differs⟩ | ⟨differs, barred⟩)
    · exact .kept ⟨content, read, same⟩
    · exact .changed writable free read edit differs
    · refine .broke ?_ fun _ l _ => barred l
      rintro ⟨_, read', same⟩
      cases read.symm.trans read'
      exact differs same
  · rintro _ _ ⟨rfl, ⟨_, ⟨⟩, _⟩ | ⟨f, ⟨⟩, unread⟩⟩
    refine .broke ?_ ?_
    · rintro ⟨_, read, _⟩
      cases unread.symm.trans read
    · intro _ _ read
      cases unread.symm.trans read

theorem came_of_ran {result : Except EditFault Bool} (tree : d.IsTree)
    (ran : (editOne search replace file).run d = (result, after)) :
    Came search replace file d result after := by
  have came := editOne_came search replace file tree
  unfold Ends at came
  rwa [ran] at came

theorem editOne_kept (tree : d.IsTree) (keeps : Keeps search replace d file) :
    (editOne search replace file).run d = (.ok false, d) := by
  have came := editOne_came search replace file tree
  cases ran : (editOne search replace file).run d with
  | mk result after =>
    unfold Ends at came
    rw [ran] at came
    cases came with
    | kept => rfl
    | changed _ _ read edit differs =>
      obtain ⟨_, read', same⟩ := keeps
      cases read.symm.trans read'
      exact absurd (same _ edit) differs
    | broke changes => exact absurd keeps changes

theorem editOne_changed {l : Location} {new : String} (tree : d.IsTree) (writable : Writable d file l)
    (free : d.hitch = .none) (read : d.readText file = .ok content)
    (edit : edited? content search replace = some new) (differs : new ≠ content) :
    (editOne search replace file).run d = (.ok true, d.spent.put l (.file new.toUTF8)) := by
  have came := editOne_came search replace file tree
  cases ran : (editOne search replace file).run d with
  | mk result after =>
    unfold Ends at came
    rw [ran] at came
    cases came with
    | kept keeps =>
      obtain ⟨_, read', same⟩ := keeps
      cases read.symm.trans read'
      exact absurd (same _ edit) differs
    | changed writable' _ read' edit' =>
      cases read.symm.trans read'
      cases edit.symm.trans edit'
      cases writable.located.symm.trans writable'.located
      rfl
    | broke _ barred => exact absurd free (barred _ _ read writable)

theorem Came.tree {changed : Bool} (tree : d.IsTree)
    (came : Came search replace file d (.ok changed) after) : after.IsTree := by
  cases came with
  | kept => exact tree
  | changed writable => exact writable.put_isTree tree _

theorem text_inj {l : Location} {a b : String} (first : d.file? l = some a.toUTF8)
    (second : d.file? l = some b.toUTF8) : a = b :=
  String.toByteArray_inj.mp (Option.some.inj (first.symm.trans second))

/-- Every text of a disk was led onward by edits, or is still there. -/
def Onward (search replace : String) (d later : Disk) : Prop :=
  ∀ l content, d.file? l = some content.toUTF8 →
    ∃ new, later.file? l = some new.toUTF8 ∧ Drifts search replace content new

namespace Onward

theorem refl (d : Disk) : Onward search replace d d := fun _ content here => ⟨content, here, .refl _⟩

theorem trans (first : Onward search replace d after) (second : Onward search replace after last) :
    Onward search replace d last := by
  intro l content here
  obtain ⟨mid, there, drifts⟩ := first l content here
  obtain ⟨new, found, further⟩ := second l mid there
  exact ⟨new, found, drifts.trans further⟩

theorem of_came {changed : Bool} (came : Came search replace file d (.ok changed) after) :
    Onward search replace d after := by
  cases came with
  | kept => exact .refl d
  | changed writable _ read edit =>
    intro m old here
    rw [file?_put _ writable.inner]
    split
    next same =>
      subst same
      obtain ⟨l, located, held⟩ := readText_iff.mp read
      cases writable.located.symm.trans located
      cases text_inj here held
      exact ⟨_, rfl, edited?_drifts edit⟩
    next => exact ⟨old, here, .refl _⟩

/-- What an edit changed does not come to hold its old text again. -/
theorem no_return {l : Location} {new : String} (onward : Onward search replace d last)
    (held : d.file? l = some new.toUTF8) (edit : edited? content search replace = some new)
    (differs : new ≠ content) : last.file? l ≠ some content.toUTF8 := by
  intro back
  obtain ⟨final, there, drifts⟩ := onward l new held
  cases text_inj back there
  exact differs (drifts.antisymm (edited?_drifts edit))

end Onward

variable {files rest : List Path} {names : List Path}

theorem editEach_ok (tree : d.IsTree)
    (ran : (editEach search replace (file :: rest)).run d = (.ok names, last)) :
    ∃ changed mid others, Came search replace file d (.ok changed) mid ∧ mid.IsTree ∧
      (editEach search replace rest).run mid = (.ok others, last) ∧
      names = if changed then file :: others else others := by
  cases first : (editOne search replace file).run d with
  | mk result mid =>
    cases result with
    | error fault => cases (run_editEach_error first rest).symm.trans ran
    | ok changed =>
      rw [run_editEach_ok first] at ran
      have came := came_of_ran tree first
      cases further : (editEach search replace rest).run mid with
      | mk result final =>
        cases result with
        | error fault => cases (run_bind_error further _).symm.trans ran
        | ok others =>
          rw [run_bind_ok further] at ran
          cases ran
          exact ⟨changed, mid, others, came, came.tree tree, further, rfl⟩

theorem editEach_onward (tree : d.IsTree) (ran : (editEach search replace files).run d = (.ok names, last)) :
    Onward search replace d last := by
  induction files generalizing d names with
  | nil =>
    cases ran
    exact .refl _
  | cons file rest ih =>
    obtain ⟨_, mid, _, came, treeMid, further, -⟩ := editEach_ok tree ran
    exact (Onward.of_came came).trans (ih treeMid further)

/-- Where a file was changed, the files that come after it do not bring it back. -/
theorem changed_remains {l : Location} {new : String} (tree : d.IsTree) (writable : Writable d file l)
    (read : d.readText file = .ok content) (edit : edited? content search replace = some new)
    (differs : new ≠ content)
    (ran : (editEach search replace rest).run (d.spent.put l (.file new.toUTF8)) = (.ok names, last)) :
    last.file? l ≠ d.file? l := by
  obtain ⟨_, located, held⟩ := readText_iff.mp read
  cases writable.located.symm.trans located
  rw [held]
  refine (editEach_onward (writable.put_isTree tree _) ran).no_return ?_ edit differs
  rw [file?_put _ writable.inner, if_pos rfl]

/-- Edits that come back to the files they began with had nothing to change. -/
theorem editEach_still (tree : d.IsTree) (ran : (editEach search replace files).run d = (.ok names, last))
    (same : ∀ l, last.file? l = d.file? l) : ∀ file ∈ files, Keeps search replace d file := by
  induction files generalizing names with
  | nil => nofun
  | cons file rest ih =>
    obtain ⟨_, mid, _, came, treeMid, further, -⟩ := editEach_ok tree ran
    cases came with
    | kept keeps => exact List.forall_mem_cons.mpr ⟨keeps, ih further⟩
    | changed writable _ read edit differs =>
      exact absurd (same _) (changed_remains tree writable read edit differs further)

theorem editEach_kept (tree : d.IsTree) (keep : ∀ file ∈ files, Keeps search replace d file)
    (more : List Path) :
    (editEach search replace (files ++ more)).run d = (editEach search replace more).run d := by
  induction files with
  | nil => rfl
  | cons file rest ih =>
    obtain ⟨first, others⟩ := List.forall_mem_cons.mp keep
    rw [List.cons_append, run_editEach_ok (editOne_kept tree first)]
    simp only [Bool.false_eq_true, if_false, bind_pure]
    exact ih others

/-- Of several files an edit changes one, which stands where `target` does, and nothing in the
others. -/
def Singles (search replace : String) (target : Path) (d after : Disk) (files : List Path) : Prop :=
  ∃ before file behind, files = before ++ file :: behind ∧ d.locate file = d.locate target ∧
    (∀ other ∈ before, Keeps search replace d other) ∧
    ∀ other ∈ behind, Keeps search replace after other

theorem singles_of_same (tree : d.IsTree) (came : Came search replace target d (.ok true) after)
    (ran : (editEach search replace files).run d = (.ok names, last)) (changes : names ≠ [])
    (same : ∀ l, last.file? l = after.file? l) : Singles search replace target d after files := by
  induction files generalizing names with
  | nil =>
    cases ran
    exact absurd rfl changes
  | cons file rest ih =>
    obtain ⟨_, mid, others, first, treeMid, further, named⟩ := editEach_ok tree ran
    cases first with
    | kept keeps =>
      have more : others ≠ [] := by simpa [named] using changes
      obtain ⟨before, single, behind, rfl, stands, idle, still⟩ := ih further more
      exact ⟨file :: before, single, behind, rfl, stands, List.forall_mem_cons.mpr ⟨keeps, idle⟩, still⟩
    | @changed m content new writable _ read edit differs =>
      have remains := changed_remains tree writable read edit differs further
      cases came with
      | @changed l _ _ aim _ seen planned _ =>
        by_cases here : l = m
        · subst here
          have stands : d.locate file = d.locate target := writable.located.trans aim.located.symm
          cases (readText_congr stands).symm.trans read |>.symm.trans seen
          cases edit.symm.trans planned
          exact ⟨[], file, rest, rfl, stands, nofun, editEach_still treeMid further same⟩
        · rw [same m, file?_put _ aim.inner, if_neg here] at remains
          exact absurd rfl remains

theorem same_of_singles (tree : d.IsTree) (came : Came search replace target d (.ok true) after)
    (single : Singles search replace target d after files) :
    ∃ file, (editEach search replace files).run d = (.ok [file], after) := by
  obtain ⟨before, file, behind, rfl, stands, idle, still⟩ := single
  have treeAfter := came.tree tree
  cases came with
  | changed writable free read edit differs =>
    have aim : Writable d file _ :=
      ⟨stands.trans writable.located, writable.noFolder, writable.around, writable.unfixed⟩
    have seen := (readText_congr stands).trans read
    have first := editOne_changed tree aim free seen edit differs
    have quiet := editEach_kept treeAfter still []
    rw [List.append_nil] at quiet
    refine ⟨file, ?_⟩
    rw [editEach_kept tree idle, run_editEach_ok first, run_bind_ok quiet]
    rfl

/-- A repair is applied and comes to the files that a disk holds. -/
def Does (folder : Path) (action : FixAction) (d after : Disk) : Prop :=
  ∃ report last, (perform folder action).run d = (.ok report, last) ∧ report.applied = true ∧
    ∀ l, last.file? l = after.file? l

theorem performed {pattern : String} (edited : (editFiles folder pattern search replace).run d =
    (.ok names, last)) : ∃ detail, (perform folder (.fileEdit pattern search replace)).run d =
      (.ok ⟨!names.isEmpty, detail⟩, last) := by
  have step := run_bind_ok edited fun changed => (if changed.isEmpty then
    pure ⟨false, "no file matching " ++ pattern ++ " needed changes"⟩ else
    pure ⟨true, "edited " ++ toString changed.length ++ " file(s) matching " ++ pattern⟩ : OnEdit Report)
  cases names with
  | nil => exact ⟨_, step⟩
  | cons file others => exact ⟨_, step⟩

theorem editFiles_iff {pattern : String} :
    (editFiles folder pattern search replace).run d = (.ok names, after) ↔ ∃ files,
      matchingFiles d folder pattern = .ok files ∧
      (editEach search replace files).run d = (.ok names, after) := by
  unfold editFiles
  rw [run_looked]
  cases matchingFiles d folder pattern with
  | error fault =>
    refine iff_of_false ?_ (by simp)
    rintro ⟨⟩
  | ok files => simp

theorem does_fileEdit_iff {pattern : String} :
    Does folder (.fileEdit pattern search replace) d after ↔ ∃ files names last,
      matchingFiles d folder pattern = .ok files ∧
      (editEach search replace files).run d = (.ok names, last) ∧ names ≠ [] ∧
      ∀ l, last.file? l = after.file? l := by
  constructor
  · rintro ⟨report, last, ran, applied, same⟩
    cases edited : (editFiles folder pattern search replace).run d with
    | mk result mid =>
      cases result with
      | error fault => cases (run_bind_error edited _).symm.trans ran
      | ok names =>
        obtain ⟨detail, told⟩ := performed edited
        cases told.symm.trans ran
        obtain ⟨files, matching, each⟩ := editFiles_iff.mp edited
        exact ⟨files, names, _, matching, each, by simpa using applied, same⟩
  · rintro ⟨files, names, last, matching, ran, changes, same⟩
    obtain ⟨detail, told⟩ := performed (editFiles_iff.mpr ⟨files, matching, ran⟩)
    exact ⟨_, last, told, by simpa using changes, same⟩

/-- The pattern that is learned for a file of a widget. -/
def patternOf (d : Disk) (folder : Path) (file : String) : String :=
  if d.isFolder (folder / "src") then
    match Text.after? "src/".toList file.toList with
    | some rest => String.ofList rest
    | none => file
  else file

theorem edited_of_planned {e : PlannedEdit} {payload new : String}
    (kind : e.kind = .replace ∨ e.kind = .prepend) (payloads : e.payload? = some payload)
    (planned : plannedContent e content payload = .ok (some new)) :
    ∃ search, actionOf? d folder e = some (.fileEdit (patternOf d folder e.file) search payload) ∧
      edited? content search payload = some new := by
  unfold plannedContent at planned
  obtain replaces | prepends := kind
  · simp only [replaces] at planned
    split at planned
    next => cases planned
    next search given =>
      obtain ⟨wanted, filled⟩ := Option.filter_eq_some_iff.mp given
      have some_char : search.isEmpty = false := by simpa using filled
      refine ⟨search, by simp only [actionOf?, payloads, replaces, wanted]; rfl, ?_⟩
      unfold edited?
      split at planned
      next found =>
        cases planned
        simp [some_char, found]
      next => cases planned
  · simp only [prepends] at planned
    refine ⟨"", by simp only [actionOf?, payloads, prepends]; rfl, ?_⟩
    exact Except.ok.inj planned

/-- What the edit of a plan makes of its file, an edit of files makes of it. -/
theorem planned_came {e : PlannedEdit} (tree : d.IsTree) (kind : e.kind = .replace ∨ e.kind = .prepend)
    (done : (performPlanned folder e).run d = (.ok true, after)) :
    inside folder e.file = .ok (folder / e.file) ∧ ∃ search replace,
      actionOf? d folder e = some (.fileEdit (patternOf d folder e.file) search replace) ∧
      Came search replace (folder / e.file) d (.ok true) after := by
  have ended : Ends (performPlanned folder e) d fun result after => result = .ok true →
      inside folder e.file = .ok (folder / e.file) ∧ ∃ search replace,
        actionOf? d folder e = some (.fileEdit (patternOf d folder e.file) search replace) ∧
        Came search replace (folder / e.file) d (.ok true) after := by
    unfold performPlanned
    refine .granted ?_ nofun
    intro target aim
    have named : target = folder / e.file := by
      unfold inside at aim
      dsimp only at aim
      split at aim
      next => cases aim
      next => exact (Except.ok.inj aim).symm
    subst named
    split
    next => exact .failed nofun
    next payload payloads =>
      have change : e.kind ≠ .create := by
        obtain replaces | prepends := kind <;> simp [*]
      rw [if_neg change]
      refine .looked ?_
      split
      next => exact .returned nofun
      next =>
        refine (read_ends _ d).bind ?_ nofun
        rintro content _ ⟨rfl, ⟨_, ⟨⟩, read⟩ | ⟨_, ⟨⟩, _⟩⟩
        refine .granted ?_ nofun
        intro new planned
        refine (putNew_put _ content new tree).mono ?_
        rintro _ _ put ⟨⟩
        cases put with
        | changed writable free put differs =>
          subst put
          obtain ⟨search, action, edit⟩ := edited_of_planned kind payloads planned
          exact ⟨aim, search, payload, action, .changed writable free read edit differs⟩
  unfold Ends at ended
  rw [done] at ended
  exact ended rfl

/-- A file of a widget that is named with nothing but names which a pattern takes as they are and does
not pass over, and that lies where patterns start. -/
structure Ordinary (d : Disk) (folder : Path) (file : String) (rooted : Bool)
    (names inner : List String) : Prop where
  around : folder = Path.along rooted names
  named : file = (Path.along false inner).text
  filled : names ≠ [] ∧ inner ≠ []
  literal : ∀ name ∈ names ++ inner, Glob.Literal name
  used : "node_modules" ∉ names ++ inner
  source : d.isFolder (folder / "src") = true → ∃ rest, rest ≠ [] ∧ inner = "src" :: rest

theorem matching_ordinary {name : String} {rooted : Bool} {names inner : List String}
    (ordinary : Ordinary d folder name rooted names inner) (file : d.isFile (folder / name) = true) :
    matchingFiles d folder (patternOf d folder name) = .ok [folder / name] := by
  obtain ⟨rfl, rfl, ⟨some_name, filled⟩, literal, used, source⟩ := ordinary
  have plain : ∀ name ∈ names ++ inner, Path.Plain name := fun name member => (literal name member).plain
  have whole := Path.along_div rooted plain filled
  rw [whole] at file ⊢
  have below : (Path.along false ["src"]).text = "src" := by decide +kernel
  by_cases sources : d.isFolder (Path.along rooted names / "src") = true
  · obtain ⟨rest, more, rfl⟩ := source sources
    have split : names ++ "src" :: rest = (names ++ ["src"]) ++ rest := by simp
    have start : root d (Path.along rooted names) = Path.along rooted (names ++ ["src"]) := by
      have outer : ∀ name ∈ names ++ ["src"], Path.Plain name := by
        intro name member
        apply plain
        rw [split]
        exact List.mem_append_left rest member
      have joined : Path.along rooted names / (Path.along false ["src"]).text =
          Path.along rooted (names ++ ["src"]) := Path.along_div rooted outer nofun
      unfold root
      rw [if_pos sources, ← joined, below]
    have pattern : patternOf d (Path.along rooted names) (Path.along false ("src" :: rest)).text =
        (Path.along false rest).text := by
      have text : (Path.along false (["src"] ++ rest)).text = "src/" ++ (Path.along false rest).text := by
        rw [Path.text_along false (List.cons_ne_nil "src" []) more, below]
        rfl
      unfold patternOf
      rw [if_pos sources, show "src" :: rest = ["src"] ++ rest from rfl, text, String.toList_append,
        Text.after?_eq_some_iff.mpr rfl]
      exact String.ofList_toList
    rw [pattern, split]
    rw [split] at literal used file
    exact matchingFiles_along (by simp) more literal used start file
  · have start : root d (Path.along rooted names) = Path.along rooted names := by
      unfold root
      rw [if_neg sources]
    have pattern : patternOf d (Path.along rooted names) (Path.along false inner).text =
        (Path.along false inner).text := by
      unfold patternOf
      rw [if_neg sources]
    rw [pattern]
    exact matchingFiles_along some_name filled literal used start file

/-- Where the edit of a plan changed its file, there is a repair for it. That does the same just if its
pattern stands for the file and else only for files in which it has nothing to change, as it does
for ordinary files. -/
theorem planned_repair_same_iff {e : PlannedEdit} (tree : d.IsTree)
    (kind : e.kind = .replace ∨ e.kind = .prepend)
    (done : (performPlanned folder e).run d = (.ok true, after)) :
    ∃ pattern search replace, actionOf? d folder e = some (.fileEdit pattern search replace) ∧
      (Does folder (.fileEdit pattern search replace) d after ↔
        ∃ files, matchingFiles d folder pattern = .ok files ∧
          Singles search replace (folder / e.file) d after files) ∧
      ∀ rooted names inner, Ordinary d folder e.file rooted names inner →
        Does folder (.fileEdit pattern search replace) d after := by
  obtain ⟨-, search, replace, action, came⟩ := planned_came tree kind done
  have iff : Does folder (.fileEdit (patternOf d folder e.file) search replace) d after ↔
      ∃ files, matchingFiles d folder (patternOf d folder e.file) = .ok files ∧
        Singles search replace (folder / e.file) d after files := by
    refine does_fileEdit_iff.trans ?_
    constructor
    · rintro ⟨files, names, last, matching, ran, changes, same⟩
      exact ⟨files, matching, singles_of_same tree came ran changes same⟩
    · rintro ⟨files, matching, single⟩
      obtain ⟨file, ran⟩ := same_of_singles tree came single
      exact ⟨files, [file], after, matching, ran, List.cons_ne_nil _ _, fun _ => rfl⟩
  refine ⟨_, search, replace, action, iff, ?_⟩
  intro rooted names inner ordinary
  have file : d.isFile (folder / e.file) = true := by
    cases came with
    | changed _ _ read => exact isFile_of_readText read
  have matching := matching_ordinary ordinary file
  exact iff.mpr ⟨_, matching, [], _, [], rfl, rfl, nofun, nofun⟩

namespace BesideSources

/-- A widget with a source and a file beside the folder of the sources. -/
def disk : Disk :=
  (((Disk.empty.put ["w"] .folder).put ["w", "App.tsx"] (.file "let a;".toUTF8)).put ["w", "src"]
    .folder).put ["w", "src", "Badge.tsx"] (.file "let a;".toUTF8)

theorem disk_isTree : disk.IsTree := by
  have folder : (Disk.empty.put ["w"] .folder).IsTree := empty_isTree.put (by decide) rfl nofun
  have file : ((Disk.empty.put ["w"] .folder).put ["w", "App.tsx"] (.file "let a;".toUTF8)).IsTree :=
    folder.put (by decide) rfl nofun
  have sources := IsTree.put (l := ["w", "src"]) (e := .folder) file (by decide) rfl nofun
  exact sources.put (by decide) rfl nofun

/-- The edit that writes `b` for `a` in a file. -/
def edit (file : String) : PlannedEdit where
  file := file
  kind := .replace
  search := some "a"
  replacement := some "b"

def edited (l : Location) : Disk := disk.spent.put l (.file "let b;".toUTF8)

theorem edits_file : (performPlanned ⟨"/w"⟩ (edit "App.tsx")).run disk =
    (.ok true, edited ["w", "App.tsx"]) := rfl

theorem edits_source : (performPlanned ⟨"/w"⟩ (edit "src/Badge.tsx")).run disk =
    (.ok true, edited ["w", "src", "Badge.tsx"]) := rfl

theorem matching : matchingFiles disk ⟨"/w"⟩ "App.tsx" = .ok [] := by
  have pattern : Glob.escape (root disk ⟨"/w"⟩).text ++ "/" ++
      String.ofList (withoutHere "App.tsx".toList) = "/w/src/App.tsx" := by decide +kernel
  have none : Glob.paths disk "/w/src/App.tsx" = .ok [] := by decide +kernel
  unfold matchingFiles
  dsimp only
  rw [pattern, none]
  exact congrArg Except.ok (List.mergeSort_nil ..)

theorem ordinary : Ordinary disk ⟨"/w"⟩ "src/Badge.tsx" true ["w"] ["src", "Badge.tsx"] where
  around := by decide +kernel
  named := by decide +kernel
  filled := by decide
  literal := by
    intro name member
    simp only [List.singleton_append, List.mem_cons, List.not_mem_nil, or_false] at member
    obtain rfl | rfl | rfl := member <;> exact ⟨⟨rfl, by simp⟩, by simp⟩
  used := by decide
  source _ := ⟨["Badge.tsx"], by decide, rfl⟩

end BesideSources

open BesideSources in
/-- The repair that is learned from the edit of a file beside the folder of the sources does not find
that file. -/
theorem planned_repair_misses :
    (edit "App.tsx").kind = .replace ∧
      (performPlanned ⟨"/w"⟩ (edit "App.tsx")).run disk = (.ok true, edited ["w", "App.tsx"]) ∧
      ¬ ∃ action, actionOf? disk ⟨"/w"⟩ (edit "App.tsx") = some action ∧
        Does ⟨"/w"⟩ action disk (edited ["w", "App.tsx"]) := by
  refine ⟨rfl, edits_file, ?_⟩
  rintro ⟨action, learned, does⟩
  have file : actionOf? disk ⟨"/w"⟩ (edit "App.tsx") = some (.fileEdit "App.tsx" "a" "b") := by
    decide +kernel
  cases file.symm.trans learned
  obtain ⟨files, names, last, found, ran, changes, -⟩ := does_fileEdit_iff.mp does
  cases matching.symm.trans found
  cases ran
  exact changes rfl

open BesideSources in
theorem planned_repair_of_source :
    disk.IsTree ∧ (edit "src/Badge.tsx").kind = .replace ∧
      (performPlanned ⟨"/w"⟩ (edit "src/Badge.tsx")).run disk =
        (.ok true, edited ["w", "src", "Badge.tsx"]) ∧
      ∃ action, actionOf? disk ⟨"/w"⟩ (edit "src/Badge.tsx") = some action ∧
        Does ⟨"/w"⟩ action disk (edited ["w", "src", "Badge.tsx"]) := by
  refine ⟨disk_isTree, rfl, edits_source, ?_⟩
  obtain ⟨_, _, _, action, -, does⟩ := planned_repair_same_iff disk_isTree (.inl rfl) edits_source
  exact ⟨_, action, does true ["w"] ["src", "Badge.tsx"] ordinary⟩

end Edit

end WidgetRepair
