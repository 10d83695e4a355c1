import WidgetRepair.Proofs.PathSteps
import WidgetRepair.Text.Blank
import WidgetRepair.Text.Line
import WidgetRepair.Text.Lower
import WidgetRepair.Text.Search

/-! Parts of a text: what a search finds, and which steps of reading a text leave a part of it. -/

namespace WidgetRepair.Text

/-- A search finds exactly the parts of a text. -/
theorem occurs_iff {needle text : List Char} : occurs needle text = true ↔ needle <:+: text := by
  induction text with
  | nil => rw [occurs, List.isEmpty_iff, List.infix_nil]
  | cons c rest ih =>
    rw [occurs, Bool.or_eq_true, ih, List.isPrefixOf_iff_prefix, List.infix_cons_iff]

theorem contains_iff {text needle : String} :
    contains text needle = true ↔ needle.toList <:+: text.toList := occurs_iff

theorem replaceAll_char (a b : Char) (text : List Char) :
    replaceAll [a] [b] text = text.map fun c => if a = c then b else c := by
  have from_start : replaceFrom [a] [b] 0 text = text.map fun c => if a = c then b else c := by
    induction text with
    | nil => rfl
    | cons c rest ih =>
      by_cases same : a = c
      · subst same
        simp [replaceFrom, ih]
      · simp [replaceFrom, same, ih]
  exact from_start

theorem trimStart_part (text : List Char) : trimStart text <:+: text :=
  (List.dropWhile_suffix isBlank).isInfix

theorem trimEnd_part (text : List Char) : trimEnd text <:+: text := by
  have back := (List.dropWhile_suffix isBlank (l := text.reverse)).isInfix
  rw [← List.reverse_infix, List.reverse_reverse] at back
  exact back

theorem trim_part (text : List Char) : trim text <:+: text :=
  (trimEnd_part _).trans (trimStart_part text)

theorem lines_parts (text : List Char) :
    (∀ line ∈ lines text, line <:+: text) ∧ ∀ first ∈ (lines text).head?, first <+: text := by
  fun_induction lines text with
  | case1 => simp
  | case2 rest ih =>
    refine ⟨List.forall_mem_cons.mpr ⟨List.nil_infix, fun line member => ?_⟩, by simp⟩
    exact List.infix_cons (List.infix_cons (ih.1 line member))
  | case3 rest ih =>
    refine ⟨List.forall_mem_cons.mpr ⟨List.nil_infix, fun line member => ?_⟩, by simp⟩
    exact List.infix_cons (ih.1 line member)
  | case4 c rest _ _ none ih =>
    have start : [c] <+: c :: rest := ⟨rest, rfl⟩
    simp [start, start.isInfix]
  | case5 c rest _ _ first others some ih =>
    rw [some] at ih
    have start : c :: first <+: c :: rest := List.cons_prefix_cons.mpr ⟨rfl, ih.2 first rfl⟩
    refine ⟨List.forall_mem_cons.mpr ⟨start.isInfix, fun line member => ?_⟩, by simp [start]⟩
    exact List.infix_cons (ih.1 line (List.mem_cons_of_mem first member))

theorem lines_part {text line : List Char} (member : line ∈ lines text) : line <:+: text :=
  (lines_parts text).1 line member

theorem after?_eq_some_iff {needle text rest : List Char} :
    after? needle text = some rest ↔ text = needle ++ rest := by
  induction needle generalizing text with
  | nil => simp [after?]
  | cons n needle ih =>
    cases text with
    | nil => simp [after?]
    | cons c text =>
      rw [after?]
      split
      next same => simp [ih, same]
      next other =>
        refine iff_of_false nofun fun split => other ?_
        exact (List.cons.inj split).1.symm

theorem after?_suffix {needle text rest : List Char} (found : after? needle text = some rest) : rest <:+ text :=
  ⟨needle, (after?_eq_some_iff.mp found).symm⟩

theorem mem_splitWhere {cut : Char → Bool} {text piece : List Char}
    (member : piece ∈ splitWhere cut text) :
    piece <:+: text ∧ ∀ c ∈ piece, cut c = false := by
  obtain ⟨before, after, split⟩ := List.append_of_mem member
  obtain ⟨front, back, whole, uncut, _⟩ := splitWhere_at split
  exact ⟨⟨front, back, whole.symm⟩, uncut⟩

/-- A text without characters beyond ASCII. -/
def Plain (text : List Char) : Prop := ∀ c ∈ text, c.toNat < 0x80

theorem ascii_of_isAlphanum {c : Char} (is : c.isAlphanum = true) : c.toNat < 0x80 := by
  delta Char.isAlphanum Char.isAlpha Char.isUpper Char.isLower Char.isDigit at is
  simp only [Bool.or_eq_true, Bool.and_eq_true, decide_eq_true_eq, UInt32.le_iff_toNat_le, ge_iff_le] at is
  have value : c.toNat = c.val.toNat := rfl
  have last : 'z'.val.toNat = 122 ∧ 'Z'.val.toNat = 90 ∧ '9'.val.toNat = 57 := ⟨rfl, rfl, rfl⟩
  omega

/-- What holds of every ASCII character by its number. -/
theorem of_ascii {P : Char → Prop} (all : ∀ n < 0x80, P (Char.ofNat n)) {c : Char} (ascii : c.toNat < 0x80) : P c := by
  have here := all c.toNat ascii
  rwa [Char.ofNat_toNat] at here

theorem toLower_plain {c : Char} (ascii : c.toNat < 0x80) :
    c.toLower.toNat < 0x80 ∧ c.toLower.toLower = c.toLower :=
  of_ascii (P := fun c => c.toLower.toNat < 0x80 ∧ c.toLower.toLower = c.toLower) (by decide +kernel) ascii

theorem plain_toLower {text : List Char} (plain : Plain text) : Plain (text.map Char.toLower) := by
  intro c member
  obtain ⟨d, among, rfl⟩ := List.mem_map.mp member
  exact (toLower_plain (plain d among)).1

theorem lowerFrom_append (before front rest : List Char) :
    ∃ lead passed, lowerFrom before (front ++ rest) = lead ++ lowerFrom passed rest := by
  induction front generalizing before with
  | nil => exact ⟨[], before, rfl⟩
  | cons c front ih =>
    obtain ⟨lead, passed, split⟩ := ih (c :: before)
    rw [List.cons_append, lowerFrom, split]
    exact ⟨_, passed, (List.append_assoc ..).symm⟩

theorem lowerFrom_plain {text : List Char} (plain : Plain text) (before rest : List Char) :
    lowerFrom before (text ++ rest) =
      text.map Char.toLower ++ lowerFrom (text.reverse ++ before) rest := by
  induction text generalizing before with
  | nil => rfl
  | cons c text ih =>
    obtain ⟨ascii, plain⟩ := List.forall_mem_cons.mp plain
    have dotted : (c.toNat == 0x130) = false := by
      rw [beq_eq_false_iff_ne]
      omega
    have sigma : (c.toNat == 0x3A3) = false := by
      rw [beq_eq_false_iff_ne]
      omega
    rw [List.cons_append, lowerFrom, ih plain]
    simp [dotted, sigma, lowerChar, ascii]

theorem lower_plain {text : List Char} (plain : Plain text) : lower text = text.map Char.toLower := by
  have whole := lowerFrom_plain plain [] []
  simpa [lower, lowerFrom] using whole

/-- A plain part of a text is found in lower case in the text in lower case. -/
theorem lower_part {part text : List Char} (plain : Plain part) (within : part <:+: text) :
    part.map Char.toLower <:+: lower text := by
  obtain ⟨front, back, rfl⟩ := within
  obtain ⟨lead, passed, split⟩ := lowerFrom_append [] front (part ++ back)
  rw [List.append_assoc, lower, split, lowerFrom_plain plain]
  exact List.infix_append' lead _ _

end WidgetRepair.Text
