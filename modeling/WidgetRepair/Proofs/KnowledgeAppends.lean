import WidgetRepair.Proofs.DiskSteps
import WidgetRepair.Proofs.KnowledgeLines

/-! Entries that are added to the knowledge. Each one is put behind the bytes that the file has, so the
first one goes on with an unfinished line, and both are lost. -/

namespace WidgetRepair

open Disk

/-- The bytes of the file at the place of a path; there are none where there is no file. -/
def Disk.held (d : Disk) (path : Path) : ByteArray := (d.file? (d.reach path)).getD .empty

/-- A later disk on which the file of a path can be read and has some more bytes at its end. -/
structure Disk.Extended (path : Path) (more : List UInt8) (d later : Disk) : Prop where
  tree : later.IsTree
  origin : later.origin = d.origin
  read : later.read path = .ok (later.held path)
  bytes : (later.held path).toList = (d.held path).toList ++ more

theorem Disk.Extended.trans {path : Path} {more further : List UInt8} {d later last : Disk}
    (first : Extended path more d later) (second : Extended path further later last) :
    Extended path (more ++ further) d last where
  tree := second.tree
  origin := second.origin.trans first.origin
  read := second.read
  bytes := by rw [second.bytes, first.bytes, List.append_assoc]

theorem Disk.Grown.held {d later : Disk} (grown : Grown d later) (path : Path) : later.held path = d.held path := by
  unfold Disk.held
  rw [grown.file?, reach_of_origin grown.origin]

theorem Disk.Extended.grown {path : Path} {more : List UInt8} {d between later : Disk} (grown : Grown d between)
    (extended : Extended path more between later) : Extended path more d later where
  tree := extended.tree
  origin := extended.origin.trans grown.origin
  read := extended.read
  bytes := by rw [extended.bytes, grown.held]

/-- A file that is written anew with its bytes and some more. -/
theorem Disk.Writable.extended {d : Disk} {path : Path} {l : Location} (writable : Writable d path l)
    (tree : d.IsTree) (content : ByteArray) :
    Extended path content.toList d (d.spent.put l (.file (d.held path ++ content))) := by
  have kept := writable.put_kept (d.held path ++ content)
  have reached : (d.spent.put l (.file (d.held path ++ content))).reach path = l :=
    (reach_of_origin kept.origin path).trans (locate_reach tree writable.located).symm
  have file : (d.spent.put l (.file (d.held path ++ content))).get? l = some (.file (d.held path ++ content)) := by
    rw [get?_put _ writable.inner, if_pos rfl]
  have held : (d.spent.put l (.file (d.held path ++ content))).held path = d.held path ++ content := by
    rw [Disk.held, reached, Disk.file?, file]
    rfl
  refine ⟨writable.put_isTree tree _, rfl, ?_, ?_⟩
  · rw [held]
    exact read_file (kept.locate writable.located) file
  · rw [held, Text.toList_append]

namespace OnDisk

variable {d : Disk}

theorem append_ends (path : Path) (content : ByteArray) (tree : d.IsTree) :
    Ends (append path content) d fun result after =>
      result = .ok () → Extended path content.toList d after := by
  refine (fileToWrite_ends path tree).bind ?_ ?_
  · intro l d ended
    obtain ⟨rfl, ⟨_, same, writable⟩ | ⟨⟨_, same⟩, _⟩⟩ := ended
    · cases same
      refine .looked ?_
      refine (nextHitch_ends _).bind ?_ ?_
      · intro hitch _ ended
        obtain ⟨-, rfl⟩ := ended
        cases hitch with
        | none =>
          refine (put_ends l _ _).mono ?_
          rintro _ _ ⟨-, rfl⟩ -
          have extended := writable.extended tree content
          rw [Disk.held, ← locate_reach tree writable.located, Disk.file?] at extended
          cases entry : d.get? l with
          | none => simpa only [entry, Option.getD_none] using extended
          | some e => cases e <;> simpa only [entry, Option.getD_some, Option.getD_none] using extended
        | refused => exact .failed fun fine => by cases fine
        | cut size =>
          refine (put_ends l _ _).bind ?_ ?_
          · intro _ _ _
            exact .failed fun fine => by cases fine
          · intro _ _ ended
            cases ended.1
      · intro _ _ ended
        obtain ⟨same, -⟩ := ended
        cases same
    · cases same
  · intro f _ _ same
    cases same

end OnDisk

namespace Knowledge

open Text

variable {d d' : Disk} {path : Path} {k k' : Knowledge} {e : KnowledgeEntry} {es : List KnowledgeEntry}

/-- The bytes that entries are written as. -/
def bytesOf (es : List KnowledgeEntry) : List UInt8 := es.flatMap fun e => (lineOf e).toUTF8.toList

theorem bytesOf_cons (e : KnowledgeEntry) (rest : List KnowledgeEntry) :
    bytesOf (e :: rest) = e.toJson.render.toUTF8.toList ++ 10 :: bytesOf rest := by
  rw [bytesOf, List.flatMap_cons, e.lineOf_bytes, List.append_assoc]
  rfl

theorem append_ends (k : Knowledge) (place : k.path = some path) (e : KnowledgeEntry) (tree : d.IsTree) :
    Ends (append k e) d fun result after => ∀ k', result = .ok k' →
      k' = ⟨some path, k.entries ++ [e]⟩ ∧ Extended path (lineOf e).toUTF8.toList d after := by
  unfold append
  rw [place]
  refine (OnDisk.makeParent_ends path tree).bind ?_ ?_
  · intro _ between grown
    refine (OnDisk.append_ends path _ grown.tree).bind ?_ ?_
    · intro _ after extended
      refine .returned ?_
      rintro k' ⟨⟩
      exact ⟨rfl, (extended rfl).grown grown⟩
    · intro _ _ _ k' fine
      cases fine
  · intro _ _ _ k' fine
    cases fine

theorem append_run (place : k.path = some path) (tree : d.IsTree) (ran : (append k e).run d = (.ok k', d')) :
    k' = ⟨some path, k.entries ++ [e]⟩ ∧ Extended path (lineOf e).toUTF8.toList d d' := by
  have ended := append_ends k place e tree
  change ExceptT.run (append k e) d = _ at ran
  rw [Ends, ran] at ended
  exact ended k' rfl

/-- Adds entries one after the other. -/
def appendAll (k : Knowledge) (es : List KnowledgeEntry) : OnDisk Knowledge := es.foldlM append k

theorem appendAll_cons_run {rest : List KnowledgeEntry} (ran : (appendAll k (e :: rest)).run d = (.ok k', d')) :
    ∃ next between, (append k e).run d = (.ok next, between) ∧
      (appendAll next rest).run between = (.ok k', d') := by
  have split : appendAll k (e :: rest) = append k e >>= fun next => appendAll next rest := List.foldlM_cons
  change ExceptT.run (appendAll k (e :: rest)) d = _ at ran
  rw [split] at ran
  cases began : ExceptT.run (append k e) d with
  | mk result between =>
    cases result with
    | ok next => exact ⟨next, between, began, (run_bind_ok began _).symm.trans ran⟩
    | error f =>
      rw [run_bind_error began] at ran
      cases ran

/-- Further entries stand behind those that were added. -/
theorem appendAll_extends {more : List UInt8} {between : Disk} (extended : Extended path more d between)
    (place : k.path = some path) (ran : (appendAll k es).run between = (.ok k', d')) :
    k' = ⟨some path, k.entries ++ es⟩ ∧ Extended path (more ++ bytesOf es) d d' := by
  induction es generalizing k more between with
  | nil =>
    cases ran
    rw [bytesOf, List.flatMap_nil, List.append_nil, List.append_nil]
    exact ⟨by rw [← place], extended⟩
  | cons e rest ih =>
    obtain ⟨next, after, began, later⟩ := appendAll_cons_run ran
    obtain ⟨rfl, further⟩ := append_run place extended.tree began
    obtain ⟨rfl, whole⟩ := ih (extended.trans further) rfl later
    have bytes : bytesOf (e :: rest) = (lineOf e).toUTF8.toList ++ bytesOf rest := List.flatMap_cons
    rw [bytes, ← List.append_assoc]
    exact ⟨by simp, whole⟩

/-- Entries that were all added are the last ones of the knowledge, and their lines are the last ones of the
file. -/
theorem appendAll_run {rest : List KnowledgeEntry} (place : k.path = some path) (tree : d.IsTree)
    (ran : (appendAll k (e :: rest)).run d = (.ok k', d')) :
    k' = ⟨some path, k.entries ++ e :: rest⟩ ∧ Extended path (bytesOf (e :: rest)) d d' := by
  obtain ⟨next, between, began, later⟩ := appendAll_cons_run ran
  obtain ⟨rfl, first⟩ := append_run place tree began
  obtain ⟨rfl, whole⟩ := appendAll_extends first rfl later
  exact ⟨by simp, whole⟩

/-- The lines of written entries. -/
theorem fileLines_bytesOf (es : List KnowledgeEntry) :
    fileLines (bytesOf es).toByteArray = es.map (·.toJson.render.toUTF8) ++ [ByteArray.empty] := by
  induction es with
  | nil => exact fileLines_empty
  | cons e rest ih =>
    have whole : (bytesOf (e :: rest)).toByteArray.toList =
        ByteArray.empty.toList ++ e.toJson.render.toUTF8.toList ++ 10 :: (bytesOf rest).toByteArray.toList := by
      rw [toList_toByteArray, toList_toByteArray, toList_empty, bytesOf_cons, List.nil_append]
    rw [fileLines_append e.render_one_line whole, ih, closedLines_empty, unfinished_empty, e.endedLine_render]
    exact congrArg (· :: _) ByteArray.empty_append

/-- What a file with some bytes and the lines of added entries consists of. -/
theorem fileLines_extended {content whole : ByteArray} {rest : List KnowledgeEntry}
    (bytes : whole.toList = content.toList ++ bytesOf (e :: rest)) : fileLines whole =
      closedLines content ++ ((unfinished content).toByteArray ++ e.toJson.render.toUTF8) ::
        (rest.map (·.toJson.render.toUTF8) ++ [ByteArray.empty]) := by
  have parted : whole.toList =
      content.toList ++ e.toJson.render.toUTF8.toList ++ 10 :: (bytesOf rest).toByteArray.toList := by
    rw [bytes, bytesOf_cons, toList_toByteArray, List.append_assoc]
  rw [fileLines_append e.render_one_line parted, e.endedLine_render, fileLines_bytesOf]

theorem entriesIn_render (moments : ∀ e ∈ es, e.timestamp.Valid) :
    entriesIn (es.map (·.toJson.render.toUTF8) ++ [ByteArray.empty]) = es := by
  induction es with
  | nil => simp [entriesIn, entryIn?_empty]
  | cons e rest ih =>
    have first := entryIn?_render (moments e List.mem_cons_self)
    have later := ih fun other member => moments other (List.mem_cons_of_mem _ member)
    rw [List.map_cons, List.cons_append, entriesIn, List.filterMap_cons_some first]
    exact congrArg _ later

theorem text_render (es : List KnowledgeEntry) :
    (es.map (·.toJson.render.toUTF8) ++ [ByteArray.empty]).all isText = true := by
  induction es with
  | nil => rw [List.map_nil, List.nil_append, List.all_cons, isText_empty, List.all_nil, Bool.and_self]
  | cons e rest ih => rw [List.map_cons, List.cons_append, List.all_cons, isText_toUTF8, ih, Bool.and_self]

theorem isText_append {front back : ByteArray} (first : isText front = true) (second : isText back = true) :
    isText (front ++ back) = true := by
  have valid {line : ByteArray} : isText line = true ↔ line.IsValidUTF8 := by
    unfold isText String.fromUTF8?
    split <;> simp_all
  exact valid.mpr ((valid.mp first).append (valid.mp second))

theorem held_read (tree : d.IsTree) {content : ByteArray} (read : d.read path = .ok content) :
    d.held path = content := by
  obtain ⟨l, located, file⟩ := read_ok read
  rw [Disk.held, ← locate_reach tree located, Disk.file?, file]
  rfl

/-- A knowledge that was loaded holds what the file holds, unless the file was out of sight. -/
theorem loaded_held (tree : d.IsTree) (loaded : load d path = .ok k)
    (seen : d.exists? path = true ∨ d.get? (d.reach path) = none) :
    (fileLines (d.held path)).all isText = true ∧ k = ⟨some path, entriesIn (fileLines (d.held path))⟩ := by
  cases there : d.exists? path with
  | true =>
    cases read : d.read path with
    | ok content =>
      rw [held_read tree read]
      exact ofLines_ok.mp ((load_lines read).symm.trans loaded)
    | error f =>
      unfold load at loaded
      rw [there, read] at loaded
      cases loaded
  | false =>
    have none : d.held path = ByteArray.empty := by
      rw [Disk.held, Disk.file?, seen.resolve_left (by simp [there])]
      rfl
    unfold load at loaded
    rw [there] at loaded
    cases loaded
    rw [none, fileLines_empty]
    exact ⟨by simp [isText_empty], by simp [entriesIn, entryIn?_empty]⟩

/-- The file after entries were added. The first one goes on with the line that was unfinished. -/
theorem load_extended {rest : List KnowledgeEntry} (text : (fileLines (d.held path)).all isText = true)
    (moments : ∀ e ∈ rest, e.timestamp.Valid) (extended : Extended path (bytesOf (e :: rest)) d d') :
    load d' path = .ok ⟨some path, entriesIn (closedLines (d.held path)) ++
      (entryIn? ((unfinished (d.held path)).toByteArray ++ e.toJson.render.toUTF8)).toList ++ rest⟩ := by
  rw [fileLines_eq, List.all_append, Bool.and_eq_true, List.all_cons, List.all_nil, Bool.and_true] at text
  have glued := isText_append text.2 (isText_toUTF8 e.toJson.render)
  rw [load_lines extended.read, fileLines_extended extended.bytes, ofLines_ok]
  refine ⟨by rw [List.all_append, text.1, List.all_cons, glued, text_render]; rfl, ?_⟩
  congr 1
  have entries := entriesIn_render moments
  unfold entriesIn at entries ⊢
  rw [List.filterMap_append, List.filterMap_cons, entries]
  cases entryIn? ((unfinished (d.held path)).toByteArray ++ e.toJson.render.toUTF8) <;> simp

theorem entriesIn_fileLines (content : ByteArray) : entriesIn (fileLines content) =
    entriesIn (closedLines content) ++ (entryIn? (unfinished content).toByteArray).toList := by
  rw [fileLines_eq, entriesIn, List.filterMap_append]
  cases last : entryIn? (unfinished content).toByteArray with
  | none => rw [List.filterMap_cons_none last]; rfl
  | some e => rw [List.filterMap_cons_some last]; rfl

/-- Nothing is lost between the lines before and those behind just if the line between them, which held
nothing, holds the first new entry. -/
theorem joined_iff {front rest : List KnowledgeEntry} {before after : Option KnowledgeEntry} :
    front ++ after.toList ++ rest = front ++ before.toList ++ e :: rest ↔ before = none ∧ after = some e := by
  rw [List.append_assoc, List.append_assoc, List.append_cancel_left_eq]
  have sizes (same : after.toList ++ rest = before.toList ++ e :: rest) :
      after.toList.length = before.toList.length + 1 := by
    have all := congrArg List.length same
    simp only [List.length_append, List.length_cons] at all
    omega
  constructor
  · intro same
    have longer := sizes same
    cases before with
    | none =>
      cases after with
      | none => cases longer
      | some other => exact ⟨rfl, congrArg some (List.cons.inj same).1⟩
    | some _ => cases after <;> cases longer
  · rintro ⟨rfl, rfl⟩
    rfl

/-- Entries that were added are read again, behind those that were there, just if the unfinished line of the
file holds no entry and the first new entry can be read in its line, as where the file ends with a line feed
or is new. -/
theorem added_entries_reload (tree : d.IsTree) (loaded : load d path = .ok k)
    (seen : d.exists? path = true ∨ d.get? (d.reach path) = none) (moments : ∀ e ∈ es, e.timestamp.Valid)
    (ran : (appendAll k es).run d = (.ok k', d')) :
    k'.entries = k.entries ++ es ∧
      (load d' path = .ok k' ↔ ∀ e ∈ es.head?, entryIn? (unfinished (d.held path)).toByteArray = none ∧
        entryIn? ((unfinished (d.held path)).toByteArray ++ e.toJson.render.toUTF8) = some e) ∧
      ((∀ b ∈ (d.held path).toList.getLast?, b = 10) → load d' path = .ok k') := by
  obtain ⟨text, held⟩ := loaded_held tree loaded seen
  cases es with
  | nil =>
    cases ran
    exact ⟨(List.append_nil _).symm, ⟨fun _ => nofun, fun _ => loaded⟩, fun _ => loaded⟩
  | cons e rest =>
    obtain ⟨rfl, extended⟩ := appendAll_run (by rw [held]) tree ran
    have later := load_extended text (fun other member => moments other (List.mem_cons_of_mem _ member)) extended
    have whole : load d' path = .ok ⟨some path, k.entries ++ e :: rest⟩ ↔
        entryIn? (unfinished (d.held path)).toByteArray = none ∧
          entryIn? ((unfinished (d.held path)).toByteArray ++ e.toJson.render.toUTF8) = some e := by
      rw [later, held, entriesIn_fileLines, Except.ok.injEq, Knowledge.mk.injEq, joined_iff]
      exact and_iff_right rfl
    refine ⟨rfl, by simpa using whole, fun closed => whole.mpr ?_⟩
    rw [unfinished_of_closed closed, List.toByteArray_nil, ByteArray.empty_append]
    exact ⟨entryIn?_empty, entryIn?_render (moments e List.mem_cons_self)⟩

namespace Journal

def place : Path := ⟨"k"⟩

def first : KnowledgeEntry where
  title := "Badge"
  content := "Import React."
  timestamp := default

def second : KnowledgeEntry := { first with title := "Table" }

def disk (content : ByteArray) : Disk where
  entries := [(["k"], .file content)]
  inOrder := List.pairwise_singleton ..

def one : Knowledge := ⟨some place, [first]⟩

def both : Knowledge := ⟨some place, [first, second]⟩

def after (content : ByteArray) : Disk := ((appendAll one [second]).run (disk content)).2

theorem valid : first.timestamp.Valid := ⟨by decide, by decide, .inl (by decide)⟩

theorem tree (content : ByteArray) : (disk content).IsTree := isTree_iff.mpr ⟨rfl, by simp [disk, Disk.get?]⟩

theorem loaded {content : ByteArray} (lines : List ByteArray) (same : fileLines content = lines)
    (text : lines.all isText = true) (entries : entriesIn lines = [first]) :
    load (disk content) place = .ok one := by
  have read : (disk content).read place = .ok content := rfl
  rw [load_lines read, same, ofLines, text, entries]
  rfl

theorem added (content : ByteArray) : (appendAll one [second]).run (disk content) = (.ok both, after content) := rfl

/-- A file that ends with a line feed, and one that does not. -/
def closed : ByteArray := (bytesOf [first]).toByteArray
def unclosed : ByteArray := first.toJson.render.toUTF8

theorem loaded_closed : load (disk closed) place = .ok one :=
  loaded _ (fileLines_bytesOf [first]) (text_render [first]) (entriesIn_render fun _ member => by
    rw [List.mem_singleton.mp member]
    exact valid)

theorem loaded_unclosed : load (disk unclosed) place = .ok one := by
  have lines : fileLines unclosed = [unclosed] := by
    rw [fileLines, unclosed, List.splitOn_eq_singleton first.render_one_line, linesOf, toByteArray_toList]
  refine loaded _ lines ?_ ?_
  · rw [List.all_cons, unclosed, isText_toUTF8]
    rfl
  · rw [entriesIn, unclosed, List.filterMap_cons_some (entryIn?_render valid)]
    rfl

theorem closed_ends : ∀ b ∈ ((disk closed).held place).toList.getLast?, b = 10 := by
  have held : (disk closed).held place = closed := rfl
  rw [held, closed, toList_toByteArray, bytesOf_cons, bytesOf, List.flatMap_nil, List.getLast?_concat]
  simp

end Journal

open Journal in
theorem second_entry_reloads :
    (disk closed).IsTree ∧ load (disk closed) place = .ok one ∧ (disk closed).exists? place = true ∧
      second.timestamp.Valid ∧ (appendAll one [second]).run (disk closed) = (.ok both, after closed) ∧
      load (after closed) place = .ok both := by
  have seen : (disk closed).exists? place = true := rfl
  have moments : ∀ e ∈ [second], e.timestamp.Valid := fun e member => List.mem_singleton.mp member ▸ valid
  have reloads := (added_entries_reload (tree closed) loaded_closed (.inl seen) moments (added closed)).2.2
  exact ⟨tree closed, loaded_closed, seen, valid, added closed, reloads closed_ends⟩

open Journal in
/-- Both entries are lost where the file does not end with a line feed. -/
theorem second_entry_glued :
    load (disk unclosed) place = .ok one ∧
      (appendAll one [second]).run (disk unclosed) = (.ok both, after unclosed) ∧
      load (after unclosed) place ≠ .ok both := by
  refine ⟨loaded_unclosed, added unclosed, ?_⟩
  obtain ⟨text, -⟩ := loaded_held (tree unclosed) loaded_unclosed (.inl rfl)
  have extended := (appendAll_run rfl (tree unclosed) (added unclosed)).2
  have held : (disk unclosed).held place = unclosed := rfl
  have none_closed : closedLines unclosed = [] := by
    rw [closedLines, unclosed, List.splitOn_eq_singleton first.render_one_line]
    rfl
  have later := load_extended text (List.forall_mem_nil _) extended
  rw [held, none_closed] at later
  rw [later]
  intro same
  have entries := congrArg (·.entries.length) (Except.ok.inj same)
  generalize entryIn? _ = glued at entries
  cases glued <;> cases entries

end Knowledge

end WidgetRepair
