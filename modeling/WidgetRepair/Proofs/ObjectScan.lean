import WidgetRepair.Assist.Plan
import WidgetRepair.Proofs.JsonGrammar

/-! The search for the first object of a text. It passes over texts whose braces pair up outside of
quotes, so it ends where a well-formed object ends, whatever its texts hold. -/

namespace WidgetRepair

open Json

/-- What stands between the quotes of a text: every quote and backslash in it is escaped. -/
inductive Quotable : List Char → Prop where
  | nil : Quotable []
  | plain {c : Char} {rest : List Char} (quote : c ≠ '"') (backslash : c ≠ '\\') (later : Quotable rest) :
    Quotable (c :: rest)
  | escape {c : Char} {rest : List Char} (later : Quotable rest) : Quotable ('\\' :: c :: rest)

/-- A text in which braces pair up outside of quotes. -/
inductive Balanced : List Char → Prop where
  | nil : Balanced []
  | plain {c : Char} {rest : List Char} (quote : c ≠ '"') (opens : c ≠ '\x7b') (closes : c ≠ '\x7d')
    (later : Balanced rest) : Balanced (c :: rest)
  | quoted {content rest : List Char} (quotable : Quotable content) (later : Balanced rest) :
    Balanced ('"' :: (content ++ '"' :: rest))
  | object {inside rest : List Char} (balanced : Balanced inside) (later : Balanced rest) :
    Balanced ('\x7b' :: (inside ++ '\x7d' :: rest))

namespace Balanced

variable {first second : List Char}

theorem append (balanced : Balanced first) (later : Balanced second) : Balanced (first ++ second) := by
  induction balanced with
  | nil => exact later
  | plain quote opens closes _ ih => exact .plain quote opens closes ih
  | quoted quotable _ ih =>
    rw [List.cons_append, List.append_assoc]
    exact .quoted quotable ih
  | object inside _ _ ih =>
    rw [List.cons_append, List.append_assoc]
    exact .object inside ih

def isPlain (c : Char) : Bool := c != '"' && c != '\x7b' && c != '\x7d'

theorem of_plain {text : List Char} (plain : ∀ c ∈ text, isPlain c = true) : Balanced text := by
  induction text with
  | nil => exact .nil
  | cons c rest ih =>
    have own : c ≠ '"' ∧ c ≠ '\x7b' ∧ c ≠ '\x7d' := by
      simpa [isPlain, and_assoc] using plain c List.mem_cons_self
    exact .plain own.1 own.2.1 own.2.2 (ih fun d member => plain d (List.mem_cons_of_mem c member))

theorem of_word (text : List Char) (plain : text.all isPlain = true) : Balanced text :=
  of_plain (List.all_eq_true.mp plain)

end Balanced

/-- Inside a text the scan goes on to the quote that ends it. -/
theorem closeObject_quotable {content : List Char} (quotable : Quotable content) (depth : Nat) (rest : List Char) :
    closeObject depth .inText (content ++ '"' :: rest) =
      (closeObject depth .outside rest).map (content ++ '"' :: ·) := by
  induction quotable with
  | nil => simp [closeObject]
  | plain quote backslash _ ih => simp [closeObject, quote, backslash, ih, Function.comp_def]
  | escape _ ih => simp [closeObject, ih, Function.comp_def]

/-- What is balanced is passed over, and as many braces are open behind it as before. -/
theorem closeObject_balanced {text : List Char} (balanced : Balanced text) {depth : Nat} (inside : 1 ≤ depth)
    (rest : List Char) :
    closeObject depth .outside (text ++ rest) = (closeObject depth .outside rest).map (text ++ ·) := by
  induction balanced generalizing depth rest with
  | nil => simp
  | plain quote opens closes _ ih =>
    simp [closeObject, quote, opens, closes, ih inside, Function.comp_def]
  | quoted quotable _ ih =>
    simp [closeObject, closeObject_quotable quotable, ih inside, Function.comp_def]
  | object _ _ within behind =>
    have deeper : ¬depth + 1 ≤ 1 := by omega
    simp [closeObject, within (Nat.le_add_left 1 depth), deeper, behind inside, Function.comp_def]

/-- What stands in front of the first opening brace is left out. -/
theorem dropWhile_opened {before : List Char} (unopened : '\x7b' ∉ before) (rest : List Char) :
    (before ++ '\x7b' :: rest).dropWhile (· != '\x7b') = '\x7b' :: rest := by
  rw [List.dropWhile_append_of_pos]
  · simp
  · intro c member
    simpa using ne_of_mem_of_not_mem member unopened

theorem firstObject?_opened {before : List Char} (unopened : '\x7b' ∉ before) (rest : List Char) :
    firstObject? (before ++ '\x7b' :: rest) = (closeObject 1 .outside rest).map ('\x7b' :: ·) := by
  rw [firstObject?, dropWhile_opened unopened]

/-- The first object of a text is found, whatever stands behind it, and in front of it anything
without an opening brace. -/
theorem firstObject?_balanced {before inside : List Char} (unopened : '\x7b' ∉ before)
    (balanced : Balanced inside) (after : List Char) :
    firstObject? (before ++ ('\x7b' :: (inside ++ ['\x7d']) ++ after)) =
      some ('\x7b' :: (inside ++ ['\x7d'])) := by
  have closed := closeObject_balanced balanced (Nat.le_refl 1) ('\x7d' :: after)
  rw [List.cons_append, firstObject?_opened unopened, List.append_assoc, List.singleton_append, closed]
  simp [closeObject]

theorem hexValue?_quotable {c : Char} (digit : (hexValue? c).isSome) : c ≠ '"' ∧ c ≠ '\\' := by
  constructor <;>
    · rintro rfl
      revert digit
      decide

theorem Json.TextContent.quotable {content : List Char} (well : TextContent content) : Quotable content := by
  induction well with
  | nil => exact .nil
  | plain quote backslash _ _ ih => exact .plain quote backslash ih
  | letter _ _ ih => exact .escape ih
  | code digits _ ih =>
    simp only [List.forall_mem_cons] at digits
    obtain ⟨first, second, third, fourth, -⟩ := digits
    have digit {c : Char} {rest : List Char} (hex : (hexValue? c).isSome) (later : Quotable rest) :
        Quotable (c :: rest) := .plain (hexValue?_quotable hex).1 (hexValue?_quotable hex).2 later
    exact .escape (digit first (digit second (digit third (digit fourth ih))))

namespace Balanced

theorem isPlain_digit {c : Char} (digit : isDigit c = true) : isPlain c = true := by
  have other (d : Char) (letter : isDigit d = false) : c ≠ d := by
    rintro rfl
    rw [digit] at letter
    cases letter
  simp [isPlain, other '"' rfl, other '\x7b' rfl, other '\x7d' rfl]

theorem digits {text : List Char} (all : Digits text) : Balanced text :=
  of_plain fun c member => isPlain_digit (all.2 c member)

theorem blank {text : List Char} (spaces : Blank text) : Balanced text := by
  refine of_plain fun c member => ?_
  have space := spaces c member
  simp only [isSpace, Bool.or_eq_true, beq_iff_eq] at space
  obtain ((rfl | rfl) | rfl) | rfl := space <;> rfl

/-- A number is made of digits, signs, a point and the letter of an exponent. -/
theorem number {text : List Char} (number : IsNumber text) : Balanced text := by
  obtain ⟨sign, signs, whole, fraction, exponent, ⟨wholeDigits, -⟩, fractional, exponential, rfl⟩ := number
  have signed : Balanced sign := by
    obtain rfl | rfl : sign = [] ∨ sign = ['-'] := by simpa using signs
    · exact .nil
    · exact .of_word _ rfl
  refine signed.append ((digits wholeDigits).append (.append ?_ ?_))
  · obtain rfl | ⟨later, all, rfl⟩ := fractional
    · exact .nil
    · exact .plain (by decide) (by decide) (by decide) (digits all)
  · obtain rfl | ⟨mark, marks, power, powers, later, all, rfl⟩ := exponential
    · exact .nil
    have front : (mark :: power).all isPlain = true := by
      obtain rfl | rfl : mark = 'e' ∨ mark = 'E' := by simpa using marks
      all_goals
        obtain rfl | rfl | rfl : power = [] ∨ power = ['+'] ∨ power = ['-'] := by simpa using powers
        all_goals rfl
    exact (of_word _ front).append (digits all)

/-- Braces pair up in every part of a well-formed text. -/
theorem wellFormed {part : Part} {text : List Char} (well : WellFormed part text) : Balanced text := by
  have mark {c : Char} {rest : List Char} (plain : isPlain c = true) (later : Balanced rest) : Balanced (c :: rest) :=
    append (of_word [c] (by simpa using plain)) later
  induction well with
  | word word =>
    obtain rfl | rfl | rfl : _ = "null".toList ∨ _ = "true".toList ∨ _ = "false".toList := by simpa using word
    all_goals exact of_word _ rfl
  | number is => exact number is
  | quoted quotable => exact .quoted quotable.quotable .nil
  | object _ ih | list _ ih | lastField _ ih | lastItem _ ih => exact ih
  | emptyObject spaces => exact .object (blank spaces) .nil
  | fields _ ih => exact .object ih .nil
  | moreFields _ _ first later | moreItems _ _ first later => exact first.append (mark rfl later)
  | field before name between after _ behind ih =>
    refine (blank before).append (.quoted name.quotable ((blank between).append (mark rfl ?_)))
    exact (blank after).append (ih.append (blank behind))
  | emptyList spaces => exact mark rfl ((blank spaces).append (mark rfl .nil))
  | items _ ih => exact mark rfl (ih.append (mark rfl .nil))
  | item before _ behind ih => exact (blank before).append (ih.append (blank behind))

end Balanced

/-- A well-formed object is found as the first one of a text that opens no brace in front of it. -/
theorem firstObject?_wellFormed {object : List Char} (well : WellFormed .object object) {before : List Char}
    (unopened : '\x7b' ∉ before) (after : List Char) : firstObject? (before ++ (object ++ after)) = some object := by
  cases well with
  | emptyObject spaces => exact firstObject?_balanced unopened (.blank spaces) after
  | fields fields => exact firstObject?_balanced unopened (.wellFormed fields) after

/-- The text of a record is what a search for the first object finds in any text around it. -/
theorem firstObject?_laid {o : Layout} {fields : List (String × Value)} (legible : (Value.record fields).Legible)
    (level : Nat) {before : List Char} (unopened : '\x7b' ∉ before) (after : List Char) :
    firstObject? (before ++ ((Value.record fields).laid o level ++ after)) =
      some ((Value.record fields).laid o level) := by
  simp only [Value.Legible, legibleFields_iff] at legible
  exact firstObject?_wellFormed (wellFormed_record level fun field member =>
    wellFormed_laid (legible field member) (level + 1)) unopened after

end WidgetRepair
