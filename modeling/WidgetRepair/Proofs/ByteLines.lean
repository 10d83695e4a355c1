import WidgetRepair.Text.ByteLine

/-! The lines of bytes, as their line feeds part them. One more part than there are line feeds: the last
part is the unfinished line, which may be empty. -/

namespace WidgetRepair.Text

/-- A text is read back from its bytes. -/
theorem fromUTF8?_toUTF8 (s : String) : String.fromUTF8? s.toUTF8 = some s := by
  have valid : s.toUTF8.IsValidUTF8 := s.isValidUTF8
  simp only [String.fromUTF8?, valid, dite_true]
  rfl

theorem toList_loop (bytes : ByteArray) (i : Nat) (taken : List UInt8) :
    ByteArray.toList.loop bytes i taken = taken.reverse ++ bytes.data.toList.drop i := by
  fun_induction ByteArray.toList.loop bytes i taken with
  | case1 i taken inside ih =>
    have short : i < bytes.data.toList.length := by simpa using inside
    rw [ih, List.drop_eq_getElem_cons short]
    simp [ByteArray.get!, inside]
  | case2 i taken outside =>
    rw [List.drop_eq_nil_of_le (by simpa using Nat.le_of_not_lt outside), List.append_nil]

theorem toList_eq (bytes : ByteArray) : bytes.toList = bytes.data.toList := by
  simp [ByteArray.toList, toList_loop]

@[simp] theorem toList_toByteArray (bytes : List UInt8) : bytes.toByteArray.toList = bytes := by
  rw [toList_eq, List.toList_data_toByteArray]

@[simp] theorem toList_empty : ByteArray.empty.toList = [] := toList_eq _

theorem toByteArray_toList (bytes : ByteArray) : bytes.toList.toByteArray = bytes :=
  ByteArray.ext (by rw [List.data_toByteArray, toList_eq, Array.toArray_toList])

theorem toList_append (front back : ByteArray) : (front ++ back).toList = front.toList ++ back.toList := by
  simp only [toList_eq, ByteArray.data_append, Array.toList_append]

/-- The part in front of a line feed without the carriage return that belongs to the line's ending. -/
def endedLine (part : List UInt8) : ByteArray :=
  (if part.getLast? = some 13 then part.dropLast else part).toByteArray

/-- The lines of the parts between line feeds. No line feed follows the last one. -/
def linesOf : List (List UInt8) → List ByteArray
  | [] => []
  | [last] => [last.toByteArray]
  | part :: rest => endedLine part :: linesOf rest

/-- The lines of some bytes; the last one is unfinished and may be empty. -/
def fileLines (content : ByteArray) : List ByteArray := linesOf (content.toList.splitOn 10)

theorem linesOf_cons (part : List UInt8) {rest : List (List UInt8)} (more : rest ≠ []) :
    linesOf (part :: rest) = endedLine part :: linesOf rest := by
  cases rest with
  | nil => exact absurd rfl more
  | cons _ _ => rfl

@[simp] theorem length_linesOf (parts : List (List UInt8)) : (linesOf parts).length = parts.length := by
  fun_induction linesOf parts with
  | case1 => rfl
  | case2 => rfl
  | case3 part rest _ ih => simp [ih]

namespace ByteLine

/-- The parts with their marks. An unfinished line of no bytes is no line. -/
def marked : List (List UInt8) → List (List UInt8 × Bool)
  | [] => []
  | [last] => if last = [] then [] else [(last, false)]
  | line :: rest => (line, true) :: marked rest

theorem marked_cons (line : List UInt8) {rest : List (List UInt8)} (more : rest ≠ []) :
    marked (line :: rest) = (line, true) :: marked rest := by
  cases rest with
  | nil => exact absurd rfl more
  | cons _ _ => rfl

theorem pieces_eq (content : List UInt8) : pieces content = marked (content.splitOn 10) := by
  induction content with
  | nil => rfl
  | cons b rest ih =>
    rw [pieces, List.splitOn_cons_eq_if_modifyHead, ih]
    by_cases ends : b = 10
    · rw [if_pos ends, if_pos (by simp [ends]), marked_cons [] (List.splitOn_ne_nil _ _)]
    · rw [if_neg ends, if_neg (by simp [ends])]
      cases parts : rest.splitOn 10 with
      | nil => exact absurd parts (List.splitOn_ne_nil _ _)
      | cons first others =>
        cases others with
        | nil => cases first <;> rfl
        | cons _ _ => rfl

theorem withoutReturn_ended (part : List UInt8) : (withoutReturn (part, true)).toByteArray = endedLine part := by
  simp [withoutReturn, endedLine]

theorem marked_lines (parts : List (List UInt8)) :
    linesOf parts = (marked parts).map (fun line => (withoutReturn line).toByteArray) ∨
      linesOf parts = (marked parts).map (fun line => (withoutReturn line).toByteArray) ++ [ByteArray.empty] := by
  fun_induction marked parts with
  | case1 => exact .inl rfl
  | case2 => exact .inr rfl
  | case3 last _ => exact .inl rfl
  | case4 part rest more ih =>
    have more : rest ≠ [] := fun none => more none
    rw [linesOf_cons part more, List.map_cons, withoutReturn_ended]
    exact ih.imp (congrArg _) (congrArg _)

end ByteLine

/-- The lines that are read are all lines of the file, but for an unfinished one of no bytes. -/
theorem fileLines_cases (content : ByteArray) : fileLines content = byteLines content ∨
    fileLines content = byteLines content ++ [ByteArray.empty] := by
  have line (part : List UInt8 × Bool) :
      (⟨(ByteLine.withoutReturn part).toArray⟩ : ByteArray) = (ByteLine.withoutReturn part).toByteArray :=
    ByteArray.ext List.data_toByteArray.symm
  have same : byteLines content =
      (ByteLine.marked (content.toList.splitOn 10)).map fun part => (ByteLine.withoutReturn part).toByteArray := by
    simp only [byteLines, line, ByteLine.pieces_eq]
  rw [same]
  exact ByteLine.marked_lines _

/-- Some bytes with other ones in place of a part. -/
def withPart (n : Nat) (part : List UInt8) (content : ByteArray) : ByteArray :=
  ([10].intercalate ((content.toList.splitOn 10).set n part)).toByteArray

theorem mem_splitOn {content part : List UInt8} (member : part ∈ content.splitOn 10) : 10 ∉ part := by
  induction content generalizing part with
  | nil =>
    rw [List.splitOn_nil, List.mem_singleton] at member
    exact member ▸ List.not_mem_nil
  | cons b rest ih =>
    rw [List.splitOn_cons_eq_if_modifyHead] at member
    split at member
    case isTrue => exact (List.mem_cons.mp member).elim (fun none => none ▸ List.not_mem_nil) ih
    case isFalse other =>
      cases parts : rest.splitOn 10 with
      | nil => exact absurd parts (List.splitOn_ne_nil _ _)
      | cons first others =>
        rw [parts] at member ih
        rcases List.mem_cons.mp member with same | later
        · rw [same, List.mem_cons, not_or]
          exact ⟨fun here => other (by simp [here]), ih List.mem_cons_self⟩
        · exact ih (List.mem_cons_of_mem _ later)

theorem splitOn_withPart (n : Nat) {part : List UInt8} (one : 10 ∉ part) (content : ByteArray) :
    (withPart n part content).toList.splitOn 10 = (content.toList.splitOn 10).set n part := by
  rw [withPart, toList_toByteArray, List.splitOn_intercalate]
  · intro other member
    rcases List.mem_or_eq_of_mem_set member with old | rfl
    · exact mem_splitOn old
    · exact one
  · simp

theorem withPart_first {content : ByteArray} {old rest : List UInt8} (one : 10 ∉ old)
    (whole : content.toList = old ++ 10 :: rest) (part : List UInt8) :
    withPart 0 part content = (part ++ 10 :: rest).toByteArray := by
  rw [withPart, whole, List.splitOn_append_cons_self_of_not_mem one, List.set_cons_zero,
    List.intercalate_cons_of_ne_nil (List.splitOn_ne_nil _ _), List.intercalate_splitOn, List.append_assoc]
  rfl

/-- The line of a part with so many parts behind it. -/
def lineBefore (behind : Nat) (part : List UInt8) : ByteArray :=
  if behind = 0 then part.toByteArray else endedLine part

theorem linesOf_set (n : Nat) (part : List UInt8) (parts : List (List UInt8)) :
    linesOf (parts.set n part) = (linesOf parts).set n (lineBefore (parts.length - (n + 1)) part) := by
  induction parts generalizing n with
  | nil => rfl
  | cons first rest ih =>
    cases n with
    | zero => cases rest <;> rfl
    | succ n =>
      cases rest with
      | nil => rfl
      | cons second more =>
        have behind : (first :: second :: more).length - (n + 1 + 1) = (second :: more).length - (n + 1) :=
          Nat.add_sub_add_right ..
        rw [List.set_cons_succ, linesOf_cons first (by simp), linesOf_cons first (by simp), ih,
          List.set_cons_succ, behind]

theorem fileLines_withPart (n : Nat) {part : List UInt8} (one : 10 ∉ part) (content : ByteArray) :
    fileLines (withPart n part content) = (fileLines content).set n
      (lineBefore ((fileLines content).length - (n + 1)) part) := by
  rw [fileLines, fileLines, splitOn_withPart n one, linesOf_set, length_linesOf]

/-- The bytes behind the last line feed. -/
def unfinished (content : ByteArray) : List UInt8 := (content.toList.splitOn 10).getLastD []

/-- The lines that a line feed ends. -/
def closedLines (content : ByteArray) : List ByteArray := (content.toList.splitOn 10).dropLast.map endedLine

@[simp] theorem unfinished_empty : unfinished .empty = [] := by
  rw [unfinished, toList_empty]
  rfl

@[simp] theorem closedLines_empty : closedLines .empty = [] := by
  rw [closedLines, toList_empty]
  rfl

theorem linesOf_append (parts : List (List UInt8)) {more : List (List UInt8)} (filled : more ≠ []) :
    linesOf (parts ++ more) = parts.map endedLine ++ linesOf more := by
  induction parts with
  | nil => rfl
  | cons part rest ih => rw [List.cons_append, linesOf_cons part (by simp [filled]), ih]; rfl

theorem fileLines_eq (content : ByteArray) :
    fileLines content = closedLines content ++ [(unfinished content).toByteArray] := by
  have whole := List.dropLast_concat_getLast (List.splitOn_ne_nil 10 content.toList)
  rw [fileLines, ← whole, linesOf_append _ (List.cons_ne_nil _ _), closedLines, unfinished,
    List.getLastD_eq_getLast?, List.getLast?_eq_some_getLast (List.splitOn_ne_nil 10 content.toList)]
  rfl

theorem fileLines_empty : fileLines .empty = [ByteArray.empty] := by
  rw [fileLines_eq, unfinished_empty, closedLines_empty]
  rfl

/-- No bytes, and bytes that end with a line feed, have no unfinished line. -/
theorem unfinished_of_closed {content : ByteArray} (closed : ∀ b ∈ content.toList.getLast?, b = 10) :
    unfinished content = [] := by
  unfold unfinished
  rcases List.eq_nil_or_concat content.toList with none | ⟨front, last, whole⟩
  · rw [none]
    rfl
  · rw [List.concat_eq_append] at whole
    have ends := closed last (by rw [whole, List.getLast?_concat]; rfl)
    rw [whole, ends, List.splitOn_append_cons_self, List.getLastD_eq_getLast?, List.splitOn_nil,
      List.getLast?_concat]
    rfl

theorem splitOn_append {line : List UInt8} (one : 10 ∉ line) (content : List UInt8) :
    (content ++ line).splitOn 10 = (content.splitOn 10).dropLast ++ [(content.splitOn 10).getLastD [] ++ line] := by
  induction content with
  | nil => rw [List.nil_append, List.splitOn_eq_singleton one]; rfl
  | cons b rest ih =>
    rw [List.cons_append, List.splitOn_cons_eq_if_modifyHead, List.splitOn_cons_eq_if_modifyHead, ih]
    cases parts : rest.splitOn 10 with
    | nil => exact absurd parts (List.splitOn_ne_nil _ _)
    | cons first others => split <;> cases others <;> rfl

/-- A line that is put behind some bytes goes on with their unfinished line. -/
theorem fileLines_append {content more whole : ByteArray} {line : List UInt8} (one : 10 ∉ line)
    (same : whole.toList = content.toList ++ line ++ 10 :: more.toList) : fileLines whole =
      closedLines content ++ endedLine (unfinished content ++ line) :: fileLines more := by
  rw [fileLines, same, List.splitOn_append_cons_self, splitOn_append one,
    linesOf_append _ (List.splitOn_ne_nil _ _), List.map_append, List.append_assoc]
  rfl

end WidgetRepair.Text
