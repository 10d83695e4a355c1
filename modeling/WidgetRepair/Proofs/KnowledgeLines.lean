import WidgetRepair.Proofs.DiskTree
import WidgetRepair.Proofs.NoteText

/-! Damaged lines of the knowledge. A line that is no entry is passed over; a line that is no text keeps
the whole file from being read. -/

namespace WidgetRepair.Knowledge

open Json Text

/-- Whether bytes are a text. -/
def isText (line : ByteArray) : Bool := (String.fromUTF8? line).isSome

/-- The entry that a line of bytes holds. -/
def entryIn? (line : ByteArray) : Option KnowledgeEntry :=
  (String.fromUTF8? line).bind fun text => (decode KnowledgeEntry.read text).toOption

/-- The entries of lines, one line after the other. -/
def entriesIn (lines : List ByteArray) : List KnowledgeEntry := lines.filterMap entryIn?

theorem isText_toUTF8 (s : String) : isText s.toUTF8 = true := by rw [isText, fromUTF8?_toUTF8]; rfl

theorem entryIn?_render {e : KnowledgeEntry} (moment : e.timestamp.Valid) :
    entryIn? e.toJson.render.toUTF8 = some e := by
  rw [entryIn?, fromUTF8?_toUTF8, Option.bind_some, KnowledgeEntry.decode_line moment]
  rfl

theorem isText_empty : isText ByteArray.empty = true := by decide +kernel

theorem entryIn?_empty : entryIn? ByteArray.empty = none := by decide +kernel

theorem other_of_blank {c : Char} (blank : isBlank c = true) :
    c ∉ ['"', '[', '\x7b', 'n', 't', 'f', '-'] ∧ Json.isDigit c = false := by
  constructor
  · intro member
    simp only [List.mem_cons, List.not_mem_nil, or_false] at member
    rcases member with rfl | rfl | rfl | rfl | rfl | rfl | rfl <;> cases blank
  · unfold isBlank at blank
    simp only [Bool.or_eq_true, Bool.and_eq_true, decide_eq_true_eq, beq_iff_eq] at blank
    simp only [Json.isDigit, Bool.and_eq_false_iff, decide_eq_false_iff_not]
    omega

/-- No value starts with white space that does not belong to the syntax. -/
theorem read_blank {text : List Char} (blank : text.all isBlank = true) (fuel : Nat) :
    ∃ reading skipping choosing rest, Draft.read fuel text = (.broken reading skipping choosing, rest) := by
  cases fuel with
  | zero => exact ⟨_, _, _, _, rfl⟩
  | succ fuel =>
    rw [Draft.read]
    cases ahead : skipSpace text with
    | nil => exact ⟨_, _, _, _, rfl⟩
    | cons c rest =>
      have inside : c ∈ text := (List.dropWhile_suffix _).subset (ahead ▸ List.mem_cons_self)
      obtain ⟨other, noDigit⟩ := other_of_blank (List.all_eq_true.mp blank c inside)
      simp only [List.mem_cons, List.not_mem_nil, not_or, or_false] at other
      obtain ⟨quote, bracket, brace, n, t, f, minus⟩ := other
      simp only [quote, bracket, brace, n, t, f, minus, noDigit, if_false, decide_false, Bool.or_self,
        Bool.false_eq_true]
      exact ⟨_, _, _, _, rfl⟩

theorem decode_blank {text : String} (blank : Text.blank text = true) :
    (decode KnowledgeEntry.read text).toOption = none := by
  obtain ⟨_, _, _, _, broken⟩ := read_blank blank (3 * text.toList.length + 3)
  unfold decode Draft.ofText
  rw [broken]
  rfl

theorem lineEntry?_eq (text : String) : lineEntry? text = (decode KnowledgeEntry.read text).toOption := by
  unfold lineEntry?
  split
  case isTrue blank => exact (decode_blank blank).symm
  case isFalse => rfl

/-- The text of one line. -/
def lineText (line : ByteArray) : Except DiskFault String :=
  match String.fromUTF8? line with
  | some s => .ok s
  | none => .error .notText

/-- The first line that is no text ends the reading. -/
theorem texts_of_lines (lines : List ByteArray) : lines.mapM lineText =
    if lines.all isText then .ok (lines.filterMap String.fromUTF8?) else .error .notText := by
  induction lines with
  | nil => rfl
  | cons line rest ih =>
    rw [List.mapM_cons, ih, List.all_cons, isText, lineText]
    cases text : String.fromUTF8? line with
    | none => rfl
    | some s =>
      rw [List.filterMap_cons_some text]
      cases rest.all isText <;> rfl

theorem entriesOf_lines (content : ByteArray) : entriesOf content =
    if (byteLines content).all isText then .ok (entriesIn (byteLines content)) else .error .notText := by
  have entries (lines : List ByteArray) :
      (lines.filterMap String.fromUTF8?).filterMap lineEntry? = entriesIn lines := by
    rw [List.filterMap_filterMap, funext lineEntry?_eq]
    rfl
  have read : entriesOf content =
      ((byteLines content).mapM lineText >>= fun lines => .ok (lines.filterMap lineEntry?)) := rfl
  rw [read, texts_of_lines, ← entries]
  split <;> rfl

theorem entriesOf_eq (content : ByteArray) : entriesOf content =
    if (fileLines content).all isText then .ok (entriesIn (fileLines content)) else .error .notText := by
  rw [entriesOf_lines]
  rcases fileLines_cases content with same | unfinished
  · rw [same]
  · simp [unfinished, entriesIn, isText_empty, entryIn?_empty]

/-- What comes of a file with these lines: the entries, where every line is a text. -/
def ofLines (path : Path) (lines : List ByteArray) : Except DiskFault Knowledge :=
  if lines.all isText then .ok { path := some path, entries := entriesIn lines } else .error .notText

theorem ofLines_ok {path : Path} {lines : List ByteArray} {k : Knowledge} :
    ofLines path lines = .ok k ↔ lines.all isText = true ∧ k = ⟨some path, entriesIn lines⟩ := by
  unfold ofLines
  split
  next all => simp [all, eq_comm]
  next some_other => simp [some_other]

theorem load_lines {d : Disk} {path : Path} {content : ByteArray} (held : d.read path = .ok content) :
    load d path = ofLines path (fileLines content) := by
  obtain ⟨l, located, file⟩ := Disk.read_ok held
  have there : d.exists? path = true := Disk.exists?_iff.mpr ⟨l, located, by simp [file]⟩
  have opened : load d path = (entriesOf content).map fun entries => { path := some path, entries := entries } := by
    unfold load
    simp only [there, held, Bool.not_true, Bool.false_eq_true, if_false]
    change (entriesOf content >>= _) = _
    cases entriesOf content <;> rfl
  rw [opened, entriesOf_eq, ofLines]
  split <;> rfl

/-- Lines with another one in the place of one of them. -/
theorem ofLines_set (path : Path) {lines : List ByteArray} {n : Nat} (inside : n < lines.length)
    (line : ByteArray) (others : (lines.eraseIdx n).all isText = true) :
    ofLines path (lines.set n line) = if isText line then
      .ok ⟨some path, entriesIn (lines.take n) ++ (entryIn? line).toList ++ entriesIn (lines.drop (n + 1))⟩
    else .error .notText := by
  rw [List.eraseIdx_eq_take_drop_succ, List.all_append, Bool.and_eq_true] at others
  rw [List.set_eq_take_append_cons_drop, if_pos inside, ofLines, List.all_append, List.all_cons, others.1, others.2,
    Bool.true_and, Bool.and_true]
  congr 3
  simp only [entriesIn, List.filterMap_append, List.filterMap_cons, List.append_assoc]
  cases entryIn? line <;> rfl

/-- A file that can be read gives the entries of its lines, in order and without the lines that hold none,
just if all lines are texts. So a line may be damaged in any way that leaves it a text, and the entries of
the other lines are still there. -/
theorem text_lines_load {d : Disk} {path : Path} {content : ByteArray} (held : d.read path = .ok content) :
    load d path = ofLines path (fileLines content) ∧
      ∀ {later : Disk} {n : Nat} {part : List UInt8}, n < (fileLines content).length → 10 ∉ part →
        later.read path = .ok (withPart n part content) → ((fileLines content).eraseIdx n).all isText = true →
        ∃ line, (line = part.toByteArray ∨ line = endedLine part) ∧
          load later path = if isText line then .ok ⟨some path, entriesIn ((fileLines content).take n) ++
            (entryIn? line).toList ++ entriesIn ((fileLines content).drop (n + 1))⟩ else .error .notText := by
  refine ⟨load_lines held, fun {later n part} inside one damaged others =>
    ⟨lineBefore ((fileLines content).length - (n + 1)) part, ?_, ?_⟩⟩
  · unfold lineBefore
    split
    · exact .inl rfl
    · exact .inr rfl
  · rw [load_lines damaged, fileLines_withPart n one, ofLines_set path inside _ others]

namespace Damaged

def place : Path := ⟨"/k"⟩

def note : KnowledgeEntry where
  title := "Badge"
  content := "Import React."
  timestamp := default

/-- An opening brace, and a byte that starts no character. -/
def cut : List UInt8 := [123]
def noText : List UInt8 := [255]

/-- Two lines, of which the second one holds the note. -/
def content (first : List UInt8) : ByteArray := (first ++ [10]).toByteArray ++ (lineOf note).toUTF8

def disk (first : List UInt8) : Disk where
  entries := [(["k"], .file (content first))]
  inOrder := List.pairwise_singleton ..

theorem held (first : List UInt8) : (disk first).read place = .ok (content first) := rfl

theorem whole (first : List UInt8) :
    (content first).toList = first ++ 10 :: (lineOf note).toUTF8.toList := by
  rw [content, toList_append, toList_toByteArray, List.append_assoc]
  rfl

theorem lines_eq {first : List UInt8} (one : 10 ∉ first) : fileLines (content first) =
    [endedLine first, note.toJson.render.toUTF8, ByteArray.empty] := by
  have ended : endedLine note.toJson.render.toUTF8.toList = note.toJson.render.toUTF8 :=
    (note.endedLine_render []).trans ByteArray.empty_append
  rw [fileLines, whole, note.lineOf_bytes, List.splitOn_append_cons_self_of_not_mem one,
    List.splitOn_append_cons_self_of_not_mem note.render_one_line, linesOf_cons _ (List.cons_ne_nil _ _),
    linesOf_cons _ (List.splitOn_ne_nil _ _), ended]
  rfl

theorem note_entry : entryIn? note.toJson.render.toUTF8 = some note :=
  entryIn?_render ⟨by decide, by decide, .inl (by decide)⟩

theorem note_kept {first : List UInt8} (one : 10 ∉ first) (lost : entryIn? (endedLine first) = none) :
    entriesIn (fileLines (content first)) = [note] := by
  rw [lines_eq one, entriesIn, List.filterMap_cons_none lost, List.filterMap_cons_some note_entry,
    List.filterMap_cons_none entryIn?_empty]
  rfl

theorem noText_put : withPart 0 noText (content cut) = content noText := by
  rw [withPart_first (by decide) (whole cut), ← whole noText, toByteArray_toList]

theorem noText_no_text : isText (endedLine noText) = false := by decide +kernel

end Damaged

open Damaged in
/-- The note behind a line that breaks off is read. It is lost when that line is no text. -/
theorem note_behind_cut :
    (disk cut).read place = .ok (content cut) ∧ 0 < (fileLines (content cut)).length ∧ 10 ∉ noText ∧
      (disk noText).read place = .ok (withPart 0 noText (content cut)) ∧
      ((fileLines (content cut)).eraseIdx 0).all isText = true ∧
      load (disk cut) place = .ok ⟨some place, [note]⟩ ∧ load (disk noText) place = .error .notText := by
  have lines := lines_eq (show 10 ∉ cut by decide)
  have inside : 0 < (fileLines (content cut)).length := by simp [lines]
  have one : 10 ∉ noText := by decide
  have damaged : (disk noText).read place = .ok (withPart 0 noText (content cut)) := noText_put ▸ held noText
  have others : ((fileLines (content cut)).eraseIdx 0).all isText = true := by
    rw [lines]
    simp only [List.eraseIdx_cons_zero, List.all_cons, List.all_nil, isText_toUTF8, isText_empty, Bool.and_self]
  obtain ⟨loaded, apart⟩ := text_lines_load (held cut)
  refine ⟨held cut, inside, one, damaged, others, ?_, ?_⟩
  · have text : isText (endedLine cut) = true := by decide +kernel
    have kept := note_kept (show 10 ∉ cut by decide) (by decide +kernel)
    rw [loaded, ofLines, kept, lines]
    simp only [List.all_cons, List.all_nil, text, isText_toUTF8, isText_empty, Bool.and_self, if_true]
  · obtain ⟨line, which, lost⟩ := apart inside one damaged others
    have broken : isText line = false := by rcases which with rfl | rfl <;> exact noText_no_text
    rw [lost, broken]
    rfl

open Damaged in
/-- The second line holds a note, and yet the file is not read. -/
theorem note_lost_to_damage :
    (disk noText).read place = .ok (content noText) ∧ entriesIn (fileLines (content noText)) = [note] ∧
      load (disk noText) place ≠ .ok ⟨some place, entriesIn (fileLines (content noText))⟩ := by
  have one : 10 ∉ noText := by decide
  have failed : load (disk noText) place = .error .notText := by
    rw [load_lines (held noText), ofLines, lines_eq one, List.all_cons, noText_no_text]
    rfl
  refine ⟨held noText, note_kept one (by decide +kernel), ?_⟩
  rw [failed]
  nofun

end WidgetRepair.Knowledge
