import WidgetRepair.Edit.Action
import WidgetRepair.Edit.Planned
import WidgetRepair.Proofs.DiskSteps

/-! What an edit leaves of the files that it finds. Some locations are watched: an edit spares them
unless it comes to write other bytes there, and one that tells of no change has not. -/

namespace WidgetRepair

namespace Disk

def Spares (watched : Location → Prop) (d later : Disk) : Prop :=
  ∀ l, watched l → later.file? l = d.file? l

/-- Writing a content to a path gives a watched location other bytes, be it in whole or in part. -/
def Marks (watched : Location → Prop) (p : Path) (content : ByteArray) (d : Disk) : Prop :=
  ∃ l left, Writable d p l ∧ watched l ∧ d.hitch.leaves content = some left ∧ d.file? l ≠ some left

/-- What a step leaves that touches the watched files just if `marks` holds. -/
structure Leaves (watched : Location → Prop) (marks : Prop) (d after : Disk) : Prop where
  tree : after.IsTree
  origin : after.origin = d.origin
  spared : Spares watched d after ↔ ¬ marks

variable {watched : Location → Prop} {marks : Prop} {d later last after : Disk}

namespace Spares

theorem refl (d : Disk) : Spares watched d d := fun _ _ => rfl

theorem trans (first : Spares watched d later) (second : Spares watched later last) :
    Spares watched d last :=
  fun l inside => (second l inside).trans (first l inside)

theorem symm (spares : Spares watched d later) : Spares watched later d :=
  fun l inside => (spares l inside).symm

end Spares

namespace Leaves

/-- What only adds folders touches no file. -/
theorem grown (grown : Grown d after) (idle : ¬ marks) : Leaves watched marks d after :=
  ⟨grown.tree, grown.origin, fun _ => idle, fun _ l _ => grown.file? l⟩

theorem same (tree : d.IsTree) (idle : ¬ marks) : Leaves watched marks d d := grown (.refl tree) idle

/-- Folders that were made before a step do not count. -/
theorem after_grown (made : Grown d later) (leaves : Leaves watched marks later after) :
    Leaves watched marks d after where
  tree := leaves.tree
  origin := leaves.origin.trans made.origin
  spared := by
    have same : Spares watched d later := fun l _ => made.file? l
    exact ⟨fun spares => leaves.spared.mp (same.symm.trans spares),
      fun idle => same.trans (leaves.spared.mpr idle)⟩

theorem of_iff {other : Prop} (leaves : Leaves watched marks d after) (iff : marks ↔ other) :
    Leaves watched other d after :=
  ⟨leaves.tree, leaves.origin, leaves.spared.trans (not_congr iff)⟩

/-- What was written to a location touches the watched files just if it is one of them. -/
theorem written {p : Path} {l : Location} {content left : ByteArray} (writable : Writable d p l)
    (tree : d.IsTree) (leaves : d.hitch.leaves content = some left) :
    Leaves watched (Marks watched p content d) d (d.spent.put l (.file left)) where
  tree := writable.put_isTree tree left
  origin := rfl
  spared := by
    constructor
    · intro spares ⟨m, other, writable', inside, leaves', differs⟩
      cases writable.located.symm.trans writable'.located
      cases leaves.symm.trans leaves'
      have kept := spares l inside
      rw [file?_put _ writable.inner, if_pos rfl] at kept
      exact differs kept.symm
    · intro idle m inside
      rw [file?_put _ writable.inner]
      split
      next here =>
        by_contra differs
        exact idle ⟨l, left, writable, here ▸ inside, leaves, fun same => differs (here ▸ same.symm)⟩
      next => rfl

end Leaves

end Disk

open Disk

variable {watched : Location → Prop} {d : Disk}

theorem OnDisk.write_leaves (watched : Location → Prop) (p : Path) (content : ByteArray)
    (tree : d.IsTree) :
    Ends (OnDisk.write p content) d fun _ after =>
      Leaves watched (Marks watched p content d) d after := by
  refine (OnDisk.write_ends p content tree).mono ?_
  intro result after written
  cases written with
  | refused f alike barred =>
    have idle : ¬ Marks watched p content d := by
      intro ⟨l, left, writable, _, leaves, _⟩
      rw [barred l writable] at leaves
      cases leaves
    exact ⟨alike.isTree tree, alike.origin, fun _ => idle, fun _ l _ => alike.file? l⟩
  | whole writable free => exact .written writable tree (by rw [free]; rfl)
  | cut writable short => exact .written writable tree (by rw [short]; rfl)

namespace Edit

/-- How an edit ends that touches the watched files just if `marks` holds. One that tells of no
change has touched none. -/
structure Edited {ε : Type} (watched : Location → Prop) (marks : Prop) (d : Disk)
    (result : Except ε Bool) (after : Disk) : Prop where
  leaves : Leaves watched marks d after
  idle : result = .ok false → ¬ marks

namespace Edited

variable {ε : Type} {marks : Prop} {result : Except ε Bool}

theorem same (tree : d.IsTree) (idle : ¬ marks) : Edited watched marks d result d :=
  ⟨.same tree idle, fun _ => idle⟩

theorem of_iff {other : Prop} {after : Disk} (edited : Edited watched marks d result after)
    (iff : marks ↔ other) : Edited watched other d result after :=
  ⟨edited.leaves.of_iff iff, fun quiet => mt iff.mpr (edited.idle quiet)⟩

end Edited

theorem onDisk_leaves {marks : Prop} {job : OnDisk Unit}
    (wrote : Ends job d fun _ after => Leaves watched marks d after) :
    Ends (onDisk job) d fun _ after => Leaves watched marks d after :=
  .adapted wrote fun _ _ leaves => leaves

/-- An edit that writes and then tells of a change. -/
theorem wrote_ends {marks : Prop} {job : OnDisk Unit}
    (wrote : Ends job d fun _ after => Leaves watched marks d after) :
    Ends (onDisk job >>= fun _ => pure true) d (Edited watched marks d) := by
  refine (onDisk_leaves wrote).bind ?_ ?_
  · intro _ after leaves
    exact .returned ⟨leaves, nofun⟩
  · intro _ after leaves
    exact ⟨leaves, nofun⟩

theorem read_ends (p : Path) (d : Disk) :
    Ends (onDisk (OnDisk.lift (·.readText p))) d fun result after => after = d ∧
      ((∃ content, result = .ok content ∧ d.readText p = .ok content) ∨
        ∃ f, result = .error (.disk f) ∧ d.readText p = .error f) := by
  refine .adapted (OnDisk.lift_ends _ d) ?_
  intro _ _ ended
  obtain ⟨rfl, same⟩ := ended
  refine ⟨same, ?_⟩
  cases d.readText p with
  | ok content => exact .inl ⟨content, rfl, rfl⟩
  | error f => exact .inr ⟨f, rfl, rfl⟩

theorem isFile_of_readText {p : Path} {content : String} (read : d.readText p = .ok content) :
    d.isFile p = true := by
  cases bytes : d.read p with
  | error f =>
    unfold Disk.readText at read
    rw [bytes] at read
    cases read
  | ok held =>
    obtain ⟨l, located, file⟩ := read_ok bytes
    unfold Disk.isFile Disk.find?
    rw [located]
    simp only [file]

/-- Putting a new text for a file touches a watched one. -/
def PutMarks (watched : Location → Prop) (file : Path) (content : String) (new : Option String)
    (d : Disk) : Prop :=
  ∃ text, new = some text ∧ text ≠ content ∧ Marks watched file text.toUTF8 d

theorem putNew_ends (watched : Location → Prop) (file : Path) (content : String)
    (new : Option String) (tree : d.IsTree) :
    Ends (putNew file content new) d (Edited watched (PutMarks watched file content new d) d) := by
  cases new with
  | none =>
    refine .returned (.same tree ?_)
    intro marks
    obtain ⟨_, ⟨⟩, _⟩ := marks
  | some text =>
    simp only [putNew]
    split
    next equal =>
      refine .returned (.same tree ?_)
      intro marks
      obtain ⟨_, ⟨⟩, differs, _⟩ := marks
      exact differs equal
    next differs =>
      have iff : Marks watched file text.toUTF8 d ↔ PutMarks watched file content (some text) d := by
        constructor
        · intro marks
          exact ⟨text, rfl, differs, marks⟩
        · intro found
          obtain ⟨_, ⟨⟩, _, marks⟩ := found
          exact marks
      refine wrote_ends ((OnDisk.write_leaves watched file text.toUTF8 tree).mono ?_)
      exact fun _ _ leaves => leaves.of_iff iff

def FileMarks (watched : Location → Prop) (search replace : String) (file : Path) (d : Disk) : Prop :=
  ∃ content, d.readText file = .ok content ∧
    PutMarks watched file content (edited? content search replace) d

/-- Edits one file; tells whether it changed. -/
def editOne (search replace : String) (file : Path) : OnEdit Bool := do
  let content ← onDisk (OnDisk.lift (·.readText file))
  putNew file content (edited? content search replace)

theorem editEach_cons (search replace : String) (file : Path) (rest : List Path) :
    editEach search replace (file :: rest) = (do
      let changed ← editOne search replace file
      let others ← editEach search replace rest
      return if changed then file :: others else others) := by
  simp only [editEach, editOne, bind_assoc]

theorem editOne_ends (watched : Location → Prop) (search replace : String) (file : Path)
    (tree : d.IsTree) :
    Ends (editOne search replace file) d
      (Edited watched (FileMarks watched search replace file d) d) := by
  refine (read_ends file d).bind ?_ ?_
  · intro content d ended
    obtain ⟨rfl, ⟨_, ⟨⟩, read⟩ | ⟨_, ⟨⟩, _⟩⟩ := ended
    refine (putNew_ends watched file content _ tree).mono fun _ _ edited => edited.of_iff ?_
    constructor
    · intro marks
      exact ⟨content, read, marks⟩
    · intro found
      obtain ⟨_, read', marks⟩ := found
      cases read.symm.trans read'
      exact marks
  · intro _ d ended
    obtain ⟨rfl, ⟨_, ⟨⟩, _⟩ | ⟨f, ⟨⟩, unread⟩⟩ := ended
    refine .same tree ?_
    intro found
    obtain ⟨content, read, _⟩ := found
    cases unread.symm.trans read

section Several

variable {search replace : String} {file : Path} {rest : List Path} {changed : Bool} {after : Disk}

/-- Replacing `search` in files touches a watched one, after the files before it were edited. -/
def EachMarks (watched : Location → Prop) (search replace : String) (files : List Path)
    (d : Disk) : Prop :=
  ∃ done file rest changed before, files = done ++ file :: rest ∧
    (editEach search replace done).run d = (.ok changed, before) ∧
    FileMarks watched search replace file before

theorem run_editEach_error {fault : EditFault}
    (broke : (editOne search replace file).run d = (.error fault, after)) (rest : List Path) :
    (editEach search replace (file :: rest)).run d = (.error fault, after) := by
  rw [editEach_cons, run_bind_error broke]

theorem run_editEach_ok (went : (editOne search replace file).run d = (.ok changed, after))
    (rest : List Path) :
    (editEach search replace (file :: rest)).run d = (do
      let others ← editEach search replace rest
      return if changed then file :: others else others : OnEdit _).run after := by
  rw [editEach_cons, run_bind_ok went]

theorem editEach_after (went : (editOne search replace file).run d = (.ok changed, after))
    (rest : List Path) :
    ((editEach search replace (file :: rest)).run d).2 =
      ((editEach search replace rest).run after).2 := by
  rw [run_editEach_ok went]
  cases further : (editEach search replace rest).run after with
  | mk result last =>
    cases result with
    | ok others =>
      rw [run_bind_ok further]
      rfl
    | error fault => rw [run_bind_error further]

theorem eachMarks_error {fault : EditFault}
    (broke : (editOne search replace file).run d = (.error fault, after)) :
    EachMarks watched search replace (file :: rest) d ↔ FileMarks watched search replace file d := by
  constructor
  · intro found
    obtain ⟨done, last, others, changed, before, split, ran, marks⟩ := found
    cases done with
    | nil =>
      cases split
      cases ran
      exact marks
    | cons first done =>
      cases split
      rw [run_editEach_error broke] at ran
      cases ran
  · intro marks
    exact ⟨[], file, rest, [], d, rfl, rfl, marks⟩

theorem eachMarks_ok (went : (editOne search replace file).run d = (.ok changed, after)) :
    EachMarks watched search replace (file :: rest) d ↔
      FileMarks watched search replace file d ∨ EachMarks watched search replace rest after := by
  constructor
  · intro found
    obtain ⟨done, last, others, names, before, split, ran, marks⟩ := found
    cases done with
    | nil =>
      cases split
      cases ran
      exact .inl marks
    | cons first done =>
      cases split
      rw [run_editEach_ok went] at ran
      cases further : (editEach search replace done).run after with
      | mk result last =>
        cases result with
        | ok others =>
          rw [run_bind_ok further] at ran
          cases ran
          exact .inr ⟨done, _, _, others, _, rfl, further, marks⟩
        | error fault =>
          rw [run_bind_error further] at ran
          cases ran
  · intro found
    obtain marks | ⟨done, last, others, names, before, rfl, ran, marks⟩ := found
    · exact ⟨[], file, rest, [], d, rfl, rfl, marks⟩
    · let all := if changed then file :: names else names
      refine ⟨file :: done, last, others, all, before, rfl, ?_, marks⟩
      rw [run_editEach_ok went, run_bind_ok ran]
      rfl

end Several

/-- Files are spared all the while that others are edited just if none of them is touched. The disk
is looked at after each file, as a later one may undo what an earlier one did. -/
theorem editEach_spares (watched : Location → Prop) (search replace : String) (files : List Path)
    (tree : d.IsTree) :
    (∀ n, Spares watched d ((editEach search replace (files.take n)).run d).2) ↔
      ¬ EachMarks watched search replace files d := by
  induction files generalizing d with
  | nil =>
    constructor
    · intro _ ended
      obtain ⟨done, file, rest, _, _, split, _⟩ := ended
      exact absurd split.symm (by simp)
    · intro _ n
      rw [List.take_nil]
      exact .refl d
  | cons file rest ih =>
    have edited := (editOne_ends watched search replace file tree).ran
    cases went : (editOne search replace file).run d with
    | mk result after =>
      unfold Ends at edited
      rw [went] at edited
      have leaves := edited.2.leaves
      cases result with
      | error fault =>
        rw [eachMarks_error went, ← leaves.spared]
        constructor
        · intro spares
          have first := spares 1
          rwa [List.take_succ_cons, run_editEach_error went] at first
        · intro spares n
          cases n with
          | zero => exact .refl d
          | succ n =>
            rw [List.take_succ_cons, run_editEach_error went]
            exact spares
      | ok changed =>
        rw [eachMarks_ok went, not_or, ← leaves.spared, ← ih leaves.tree]
        constructor
        · intro spares
          have first : Spares watched d after := by
            have first := spares 1
            rwa [List.take_succ_cons, editEach_after went] at first
          refine ⟨first, ?_⟩
          intro n
          apply first.symm.trans
          rw [← editEach_after went, ← List.take_succ_cons]
          exact spares (n + 1)
        · intro spares n
          obtain ⟨first, further⟩ := spares
          cases n with
          | zero => exact .refl d
          | succ n =>
            rw [List.take_succ_cons, editEach_after went]
            exact first.trans (further n)

theorem editEach_ends (watched : Location → Prop) (search replace : String) (files : List Path)
    (tree : d.IsTree) :
    Ends (editEach search replace files) d fun result after => after.IsTree ∧
      after.origin = d.origin ∧ (result = .ok [] → ¬ EachMarks watched search replace files d) := by
  induction files generalizing d with
  | nil =>
    refine .returned ⟨tree, rfl, ?_⟩
    intro _ marks
    obtain ⟨done, file, rest, _, _, split, _⟩ := marks
    exact absurd split.symm (by simp)
  | cons file rest ih =>
    rw [editEach_cons]
    refine (editOne_ends watched search replace file tree).ran.bind ?_ ?_
    · intro changed after ⟨went, edited⟩
      refine (ih edited.leaves.tree).bind ?_ ?_
      · intro others last ⟨tree, origin, idle⟩
        refine .returned ⟨tree, origin.trans edited.leaves.origin, ?_⟩
        intro none
        rw [eachMarks_ok went, not_or]
        cases changed with
        | true => cases none
        | false => exact ⟨edited.idle rfl, idle none⟩
      · intro _ last ⟨tree, origin, _⟩
        exact ⟨tree, origin.trans edited.leaves.origin, nofun⟩
    · intro _ after ⟨_, edited⟩
      exact ⟨edited.leaves.tree, edited.leaves.origin, nofun⟩

end Edit

end WidgetRepair
