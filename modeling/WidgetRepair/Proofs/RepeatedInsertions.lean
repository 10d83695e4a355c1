import WidgetRepair.Proofs.FilePlaces
import WidgetRepair.Proofs.ManifestReading
import WidgetRepair.Proofs.PackageRenewal
import WidgetRepair.Proofs.PlannedBounds
import WidgetRepair.Proofs.TextParts

/-! Edits that put a text in. Each looks for what it puts in before it does so, and finds it the next time. What a
file held stays in it, behind or in front of the new text. -/

namespace WidgetRepair

open Disk

namespace Edit

variable {folder file target : Path} {addition content new replace : String} {d made after last : Disk}

theorem contains_trimmed {text : String} (within : addition.toList <:+: text.toList) :
    Text.contains text (Text.trimmed addition) = true := by
  rw [Text.contains_iff, Text.trimmed, String.toList_ofList]
  exact (Text.trim_part addition.toList).trans within

/-- A text that was put in front is found there. -/
theorem prepended?_again (put : prepended? content addition = some new) : prepended? new addition = none := by
  unfold prepended? at put ⊢
  split at put
  next => cases put
  next =>
    cases put
    refine if_pos (Bool.or_eq_true_iff.mpr (.inr (contains_trimmed ?_)))
    rw [String.toList_append, String.toList_append]
    exact ((List.prefix_append _ _).trans (List.prefix_append _ _)).isInfix

theorem prepended?_behind (put : prepended? content addition = some new) : ∃ front, new = front ++ content := by
  unfold prepended? at put
  split at put
  next => cases put
  next =>
    cases put
    exact ⟨_, rfl⟩

/-- A text that was put at the end is found there. -/
theorem appended?_again (put : appended? content addition = some new) : appended? new addition = none := by
  unfold appended? at put ⊢
  split at put
  next => cases put
  next =>
    cases put
    refine if_pos (contains_trimmed ?_)
    rw [String.toList_append]
    exact (List.suffix_append _ _).isInfix

theorem appended?_ahead (put : appended? content addition = some new) : ∃ back, new = content ++ back := by
  unfold appended? at put
  split at put
  next => cases put
  next =>
    cases put
    exact ⟨_, String.append_assoc⟩

/-- Each file holds its former content behind what was put in front of it. -/
def Prefixed (d later : Disk) : Prop := ∀ l, ∃ front, later.file? l = (d.file? l).map (front ++ ·)

/-- Each file holds its former content in front of what was put at its end. -/
def Suffixed (d later : Disk) : Prop := ∀ l, ∃ back, later.file? l = (d.file? l).map (· ++ back)

theorem Prefixed.refl (d : Disk) : Prefixed d d := by
  intro l
  refine ⟨ByteArray.empty, ?_⟩
  cases d.file? l <;> simp

theorem Suffixed.refl (d : Disk) : Suffixed d d := by
  intro l
  refine ⟨ByteArray.empty, ?_⟩
  cases d.file? l <;> simp

theorem Prefixed.trans (first : Prefixed d made) (second : Prefixed made last) : Prefixed d last := by
  intro l
  obtain ⟨front, held⟩ := first l
  obtain ⟨ahead, holds⟩ := second l
  refine ⟨ahead ++ front, ?_⟩
  rw [holds, held, Option.map_map]
  simp only [Function.comp_def, ByteArray.append_assoc]

section Put

variable {l : Location} (writable : Writable d file l) (read : d.readText file = .ok content)

include writable read

theorem file?_of_readText : d.file? l = some content.toUTF8 := by
  obtain ⟨_, located, held⟩ := readText_iff.mp read
  cases writable.located.symm.trans located
  exact held

theorem put_samePlaces (new : ByteArray) : SamePlaces d (d.spent.put l (.file new)) :=
  .put (file?_eq_some.mp (file?_of_readText writable read)) new

theorem put_prefixed (front : String) : Prefixed d (d.spent.put l (.file (front ++ content).toUTF8)) := by
  intro m
  rw [file?_put _ writable.inner]
  split
  next here =>
    refine ⟨front.toUTF8, ?_⟩
    rw [← here, file?_of_readText writable read]
    exact congrArg some (String.toByteArray_append ..)
  next => exact Prefixed.refl d m

theorem put_suffixed (back : String) : Suffixed d (d.spent.put l (.file (content ++ back).toUTF8)) := by
  intro m
  rw [file?_put _ writable.inner]
  split
  next here =>
    refine ⟨back.toUTF8, ?_⟩
    rw [← here, file?_of_readText writable read]
    exact congrArg some (String.toByteArray_append ..)
  next => exact Suffixed.refl d m

end Put

section Repairs

variable {pattern search : String} {names : List Path} {wanted : Scripts} {changed : Bool}

/-- A repair tells of a change where something is named that it changed. -/
theorem ran_applied_iff {α : Type} {job : OnEdit (List α)} {repair : OnEdit Report}
    (told : ∀ names last, job.run d = (.ok names, last) →
      ∃ detail, repair.run d = (.ok ⟨!names.isEmpty, detail⟩, last))
    (broke : ∀ fault last, job.run d = (.error fault, last) → repair.run d = (.error fault, last)) :
    (do return (← repair).applied : OnEdit Bool).run d = (.ok changed, after) ↔
      ∃ names, job.run d = (.ok names, after) ∧ changed = !names.isEmpty := by
  constructor
  · intro ran
    cases ended : job.run d with
    | mk result last =>
      cases result with
      | error fault => cases (run_bind_error (broke fault last ended) _).symm.trans ran
      | ok names =>
        obtain ⟨detail, report⟩ := told names last ended
        cases (run_bind_ok report _).symm.trans ran
        exact ⟨names, rfl, rfl⟩
  · rintro ⟨names, ran, rfl⟩
    obtain ⟨detail, report⟩ := told names after ran
    exact run_bind_ok report _

theorem ran_fileEdit_iff :
    (Task.job folder (.repair (.fileEdit pattern search replace))).run d = (.ok changed, after) ↔
      ∃ names, (editFiles folder pattern search replace).run d = (.ok names, after) ∧ changed = !names.isEmpty :=
  ran_applied_iff (fun _ _ => performed) fun _ _ broke => run_bind_error broke _

theorem ran_configChange_iff :
    (Task.job folder (.repair (.configChange wanted))).run d = (.ok changed, after) ↔
      ∃ names, (ensureScripts folder wanted).run d = (.ok names, after) ∧ changed = !names.isEmpty := by
  refine ran_applied_iff ?_ fun _ _ broke => run_bind_error broke _
  intro names last ran
  have step := run_bind_ok ran fun added => (if added.isEmpty then pure ⟨false, "all scripts already present"⟩ else
    pure ⟨true, "added scripts: " ++ ", ".intercalate added⟩ : OnEdit Report)
  cases names with
  | nil => exact ⟨_, step⟩
  | cons name others => exact ⟨_, step⟩

/-- Scripts are added once. -/
theorem configChange_again (tree : d.IsTree)
    (ran : (Task.job folder (.repair (.configChange wanted))).run d = (.ok changed, after)) :
    (Task.job folder (.repair (.configChange wanted))).run after = (.ok false, after) := by
  obtain ⟨names, added, -⟩ := ran_configChange_iff.mp ran
  have again := ensureScripts_again folder wanted tree
  unfold Ends at again
  rw [added] at again
  exact ran_configChange_iff.mpr ⟨[], again names rfl, rfl⟩

end Repairs

section Several

variable {search : String} {files names : List Path} {changed : Bool}

/-- A file in which there is nothing to change stays one while others are edited. -/
theorem Keeps.of_came {other : Path} (keeps : Keeps search replace d other)
    (came : Came search replace file d (.ok changed) after) : Keeps search replace after other := by
  cases came with
  | kept => exact keeps
  | @changed l old new writable _ read edit differs =>
    obtain ⟨content, held, same⟩ := keeps
    obtain ⟨m, located, holds⟩ := readText_iff.mp held
    refine ⟨content, readText_iff.mpr ⟨m, (writable.put_kept _).locate located, ?_⟩, same⟩
    rw [file?_put _ writable.inner, if_neg]
    · exact holds
    · rintro rfl
      cases text_inj holds (file?_of_readText writable read)
      exact differs (same new edit)

/-- What one file comes to when a text is put in front of it. -/
theorem came_prepended (came : Came "" replace file d (.ok changed) after) :
    Keeps "" replace after file ∧ SamePlaces d after ∧ Prefixed d after := by
  cases came with
  | kept keeps => exact ⟨keeps, .refl d, .refl d⟩
  | @changed l content new writable _ read edit _ =>
    have none := prepended?_again edit
    obtain ⟨front, rfl⟩ := prepended?_behind edit
    refine ⟨⟨_, readText_put writable _, ?_⟩, put_samePlaces writable read _, put_prefixed writable read front⟩
    intro new edit
    cases none.symm.trans edit

theorem editEach_prepended (tree : d.IsTree) (ran : (editEach "" replace files).run d = (.ok names, after)) :
    (∀ file ∈ files, Keeps "" replace after file) ∧
      (∀ other, Keeps "" replace d other → Keeps "" replace after other) ∧
      after.IsTree ∧ SamePlaces d after ∧ Prefixed d after := by
  induction files generalizing d names with
  | nil =>
    cases ran
    exact ⟨nofun, fun _ => id, tree, .refl _, .refl _⟩
  | cons file rest ih =>
    obtain ⟨_, mid, _, came, treeMid, further, -⟩ := editEach_ok tree ran
    obtain ⟨settled, places, ahead⟩ := came_prepended came
    obtain ⟨others, kept, treeAfter, placesAfter, aheadAfter⟩ := ih treeMid further
    refine ⟨List.forall_mem_cons.mpr ⟨kept file settled, others⟩, ?_, treeAfter, places.trans placesAfter,
      ahead.trans aheadAfter⟩
    intro other keeps
    exact kept other (keeps.of_came came)

/-- Files that have a text in front are left alone by the edit that put it there. -/
theorem fileEdit_again {pattern : String} (tree : d.IsTree)
    (ran : (Task.job folder (.repair (.fileEdit pattern "" replace))).run d = (.ok changed, after)) :
    (Task.job folder (.repair (.fileEdit pattern "" replace))).run after = (.ok false, after) ∧
      Prefixed d after := by
  obtain ⟨names, edited, -⟩ := ran_fileEdit_iff.mp ran
  obtain ⟨files, matching, each⟩ := editFiles_iff.mp edited
  obtain ⟨settled, -, treeAfter, places, ahead⟩ := editEach_prepended tree each
  have quiet := editEach_kept treeAfter settled []
  rw [List.append_nil] at quiet
  have still := editFiles_iff.mpr ⟨files, (matchingFiles_congr places folder pattern).trans matching, quiet⟩
  exact ⟨ran_fileEdit_iff.mpr ⟨[], still, rfl⟩, ahead⟩

end Several

section Planned

variable {e : PlannedEdit} {payload : String} {changed : Bool}

theorem performPlanned_eq (stays : ¬ Escapes e.file) (content : e.payload? = some payload) :
    performPlanned folder e = if e.kind = .create then create (folder / e.file) payload else (do
      if !(← get).isFile (folder / e.file) then return false
      let content ← onDisk (OnDisk.lift (·.readText (folder / e.file)))
      let new ← (plannedContent e content payload : Except EditFault _)
      putNew (folder / e.file) content new) := by
  unfold performPlanned
  rw [inside_eq, if_neg stays, content]
  rfl

/-- What an edit of a plan has done that did not fail. -/
inductive Done (folder : Path) (e : PlannedEdit) (d : Disk) : Bool → Disk → Prop where
  | nothing : Done folder e d false d
  | changed {payload content new : String} {l : Location} (stays : ¬ Escapes e.file)
    (carries : e.payload? = some payload) (kind : e.kind ≠ .create) (read : d.readText (folder / e.file) = .ok content)
    (planned : plannedContent e content payload = .ok (some new)) (writable : Writable d (folder / e.file) l) :
    Done folder e d true (d.spent.put l (.file new.toUTF8))
  | created {payload : String} {made : Disk} {l : Location} (stays : ¬ Escapes e.file)
    (carries : e.payload? = some payload) (kind : e.kind = .create) (writable : Writable made (folder / e.file) l) :
    Done folder e d true (made.spent.put l (.file payload.toUTF8))

theorem onDisk_ok {job : OnDisk Unit} {post : Disk → Prop}
    (ends : Ends job d fun result after => result = .ok () → post after) :
    Ends (onDisk job) d fun result after => result = .ok () → post after := by
  refine .adapted ends ?_
  rintro (_ | _) _ ended ⟨⟩
  exact ended rfl

theorem performPlanned_done (folder : Path) (e : PlannedEdit) (tree : d.IsTree) :
    Ends (performPlanned folder e) d fun result after =>
      ∀ changed, result = .ok changed → Done folder e d changed after := by
  by_cases escapes : Escapes e.file
  · unfold performPlanned
    rw [inside_eq, if_pos escapes]
    exact .broken nofun
  cases carries : e.payload? with
  | none =>
    unfold performPlanned
    rw [inside_eq, if_neg escapes, carries]
    exact .failed nofun
  | some payload =>
    rw [performPlanned_eq escapes carries]
    split
    next kind =>
      refine .looked ?_
      split
      next =>
        refine .returned ?_
        rintro _ ⟨⟩
        exact .nothing
      next =>
        refine (onDisk_ok (Package.writeAround_ends (folder / e.file) payload tree)).bind ?_ nofun
        intro _ _ wrote
        obtain ⟨made, l, -, writable, rfl⟩ := wrote rfl
        refine .returned ?_
        rintro _ ⟨⟩
        exact .created escapes carries kind writable
    next kind =>
      refine .looked ?_
      split
      next =>
        refine .returned ?_
        rintro _ ⟨⟩
        exact .nothing
      next =>
        refine (read_ends _ d).bind ?_ nofun
        rintro content _ ⟨rfl, ⟨_, ⟨⟩, read⟩ | ⟨_, ⟨⟩, _⟩⟩
        refine .granted ?_ nofun
        intro new planned
        refine (putNew_put _ content new tree).mono ?_
        rintro _ _ put _ ⟨⟩
        cases put with
        | kept => exact .nothing
        | changed writable _ put =>
          subst put
          exact .changed escapes carries kind read planned writable

/-- What an insertion made of a text has nothing to insert, and the text stands in it. -/
theorem plannedContent_again {content new : String} (kind : e.kind ≠ .replace)
    (planned : plannedContent e content payload = .ok (some new)) :
    plannedContent e new payload = .ok none ∧ (e.kind = .prepend → ∃ front, new = front ++ content) ∧
      (e.kind = .append → ∃ back, new = content ++ back) := by
  unfold plannedContent at planned ⊢
  cases named : e.kind with
  | replace => exact absurd named kind
  | prepend =>
    rw [named] at planned
    have put := Except.ok.inj planned
    exact ⟨congrArg Except.ok (prepended?_again put), fun _ => prepended?_behind put, nofun⟩
  | append =>
    rw [named] at planned
    have put := Except.ok.inj planned
    exact ⟨congrArg Except.ok (appended?_again put), nofun, fun _ => appended?_ahead put⟩
  | create =>
    rw [named] at planned
    cases planned

theorem performPlanned_idle {content : String} (stays : ¬ Escapes e.file) (carries : e.payload? = some payload)
    (kind : e.kind ≠ .create) (read : d.readText (folder / e.file) = .ok content)
    (planned : plannedContent e content payload = .ok none) : (performPlanned folder e).run d = (.ok false, d) := by
  have ended : Ends (performPlanned folder e) d fun result after => result = .ok false ∧ after = d := by
    rw [performPlanned_eq stays carries, if_neg kind]
    refine .looked ?_
    split
    next missing => simp [isFile_of_readText read] at missing
    next =>
      refine (read_ends _ d).bind ?_ ?_
      · rintro _ _ ⟨rfl, ⟨_, ⟨⟩, read'⟩ | ⟨_, ⟨⟩, _⟩⟩
        cases read.symm.trans read'
        rw [planned]
        exact .returned ⟨rfl, rfl⟩
      · rintro _ _ ⟨rfl, ⟨_, ⟨⟩, _⟩ | ⟨_, ⟨⟩, unread⟩⟩
        cases unread.symm.trans read
  exact Prod.ext ended.1 ended.2

theorem create_idle {target : Path} (read : d.readText target = .ok payload) :
    (create target payload).run d = (.ok false, d) := by
  unfold create
  rw [run_looked, read]
  exact congrArg (fun job : OnEdit Bool => job.run d) (if_pos rfl)

theorem planned_again (tree : d.IsTree) (kind : e.kind ≠ .replace)
    (ran : (performPlanned folder e).run d = (.ok changed, after)) :
    (performPlanned folder e).run after = (.ok false, after) ∧ (e.kind = .prepend → Prefixed d after) ∧
      (e.kind = .append → Suffixed d after) := by
  have done := performPlanned_done folder e tree
  unfold Ends at done
  rw [ran] at done
  cases done changed rfl with
  | nothing => exact ⟨ran, fun _ => .refl _, fun _ => .refl _⟩
  | changed stays carries other read planned writable =>
    obtain ⟨again, behind, ahead⟩ := plannedContent_again kind planned
    refine ⟨performPlanned_idle stays carries other (readText_put writable _) again, ?_, ?_⟩
    · intro prepends
      obtain ⟨front, rfl⟩ := behind prepends
      exact put_prefixed writable read front
    · intro appends
      obtain ⟨back, rfl⟩ := ahead appends
      exact put_suffixed writable read back
  | created stays carries creates writable =>
    refine ⟨?_, fun prepends => ?_, fun appends => ?_⟩
    · rw [performPlanned_eq stays carries, if_pos creates]
      exact create_idle (readText_put writable _)
    · cases creates.symm.trans prepends
    · cases creates.symm.trans appends

end Planned

namespace Task

/-- An edit that puts a text or scripts in, or creates a file. -/
inductive Inserts : Task → Prop where
  | front (pattern replace : String) : Inserts (.repair (.fileEdit pattern "" replace))
  | scripts (wanted : Scripts) : Inserts (.repair (.configChange wanted))
  | planned {e : PlannedEdit} (kind : e.kind ≠ .replace) : Inserts (.planned e)

/-- An edit that puts a text in front of what files hold. -/
inductive Prepends : Task → Prop where
  | front (pattern replace : String) : Prepends (.repair (.fileEdit pattern "" replace))
  | planned {e : PlannedEdit} (kind : e.kind = .prepend) : Prepends (.planned e)

/-- An edit that puts a text at the end of what a file holds. -/
inductive Appends : Task → Prop where
  | planned {e : PlannedEdit} (kind : e.kind = .append) : Appends (.planned e)

end Task

theorem some_of_differs {held later : Option ByteArray} {f : ByteArray → ByteArray} (same : later = held.map f)
    (differs : later ≠ held) : ∃ old, held = some old ∧ later = some (f old) := by
  cases held with
  | none => exact absurd same differs
  | some old => exact ⟨old, rfl, same⟩

namespace BesideSources

/-- The edit that puts `let c;` in front of a file. -/
def front : PlannedEdit where
  file := "App.tsx"
  kind := .prepend
  content := some "let c;"

def fronted : Disk := disk.spent.put ["w", "App.tsx"] (.file "let c;\nlet a;".toUTF8)

end BesideSources

end Edit

end WidgetRepair
