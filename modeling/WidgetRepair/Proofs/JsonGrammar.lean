import WidgetRepair.Proofs.JsonDrafts

/-! The grammar of JSON texts, said without a reader. Whatever is printed is in it, in every layout. -/

namespace WidgetRepair.Json

def Blank (text : List Char) : Prop := ∀ c ∈ text, isSpace c = true

/-- What stands between the quotes of a text. -/
inductive TextContent : List Char → Prop where
  | nil : TextContent []
  | plain {c : Char} {rest : List Char} (quote : c ≠ '"') (backslash : c ≠ '\\') (printable : 32 ≤ c.toNat)
    (later : TextContent rest) : TextContent (c :: rest)
  | letter {c : Char} {rest : List Char} (letter : c ∈ ['"', '\\', '/', 'b', 'f', 'n', 'r', 't'])
    (later : TextContent rest) : TextContent ('\\' :: c :: rest)
  | code {a b c d : Char} {rest : List Char} (digits : ∀ e ∈ [a, b, c, d], (hexValue? e).isSome)
    (later : TextContent rest) : TextContent ('\\' :: 'u' :: a :: b :: c :: d :: rest)

/-- Digits, and a zero in front of no others. -/
def IsWhole (text : List Char) : Prop := Digits text ∧ (text.head? = some '0' → text.length ≤ 1)

def IsFraction (text : List Char) : Prop := text = [] ∨ ∃ digits, Digits digits ∧ text = '.' :: digits

def IsExponent (text : List Char) : Prop :=
  text = [] ∨ ∃ mark ∈ ['e', 'E'], ∃ sign ∈ [[], ['+'], ['-']], ∃ digits,
    Digits digits ∧ text = mark :: (sign ++ digits)

def IsNumber (text : List Char) : Prop :=
  ∃ sign ∈ [[], ['-']], ∃ whole fraction exponent, IsWhole whole ∧ IsFraction fraction ∧ IsExponent exponent ∧
    text = sign ++ (whole ++ (fraction ++ exponent))

inductive Part where
  | value
  | object
  | fields
  | field
  | list
  | items
  | item

/-- The texts of each part of the grammar. Blanks stand around the values of lists and the names and values of
objects. -/
inductive WellFormed : Part → List Char → Prop where
  | word {text : List Char} (word : text ∈ ["null".toList, "true".toList, "false".toList]) : WellFormed .value text
  | number {text : List Char} (number : IsNumber text) : WellFormed .value text
  | quoted {content : List Char} (quotable : TextContent content) : WellFormed .value ('"' :: (content ++ ['"']))
  | object {text : List Char} (object : WellFormed .object text) : WellFormed .value text
  | list {text : List Char} (list : WellFormed .list text) : WellFormed .value text
  | emptyObject {blank : List Char} (spaces : Blank blank) : WellFormed .object ('\x7b' :: (blank ++ ['\x7d']))
  | fields {text : List Char} (fields : WellFormed .fields text) : WellFormed .object ('\x7b' :: (text ++ ['\x7d']))
  | lastField {text : List Char} (field : WellFormed .field text) : WellFormed .fields text
  | moreFields {text rest : List Char} (field : WellFormed .field text) (fields : WellFormed .fields rest) :
    WellFormed .fields (text ++ ',' :: rest)
  | field {before name between after value behind : List Char} (spaces : Blank before) (quotable : TextContent name)
    (spaces' : Blank between) (spaces'' : Blank after) (well : WellFormed .value value) (ending : Blank behind) :
    WellFormed .field (before ++ '"' :: (name ++ '"' :: (between ++ ':' :: (after ++ (value ++ behind)))))
  | emptyList {blank : List Char} (spaces : Blank blank) : WellFormed .list ('[' :: (blank ++ [']']))
  | items {text : List Char} (items : WellFormed .items text) : WellFormed .list ('[' :: (text ++ [']']))
  | lastItem {text : List Char} (item : WellFormed .item text) : WellFormed .items text
  | moreItems {text rest : List Char} (item : WellFormed .item text) (items : WellFormed .items rest) :
    WellFormed .items (text ++ ',' :: rest)
  | item {before value behind : List Char} (spaces : Blank before) (well : WellFormed .value value)
    (ending : Blank behind) : WellFormed .item (before ++ (value ++ behind))

theorem Blank.nil : Blank [] := fun _ member => absurd member List.not_mem_nil

theorem TextContent.append {first second : List Char} (content : TextContent first) (later : TextContent second) :
    TextContent (first ++ second) := by
  induction content with
  | nil => exact later
  | plain quote backslash printable _ ih => exact .plain quote backslash printable ih
  | letter letter _ ih => exact .letter letter ih
  | code digits _ ih => exact .code digits ih

theorem shortEscape?_letter {c d : Char} (stands : shortEscape? c = some d) :
    c ∈ ['"', '\\', '/', 'b', 'f', 'n', 'r', 't'] := by
  by_contra other
  simp only [List.mem_cons, List.not_mem_nil, or_false, not_or] at other
  simp [shortEscape?, other] at stands

theorem textContent_escapeChar (c : Char) : TextContent (escapeChar c) := by
  have escaped := escapeChar_escaped c
  generalize escapeChar c = text at escaped
  cases escaped with
  | short _ stands => exact .letter (shortEscape?_letter stands) .nil
  | plain quote backslash printable => exact .plain quote backslash printable .nil
  | hex _ stands =>
    simp only [hex4?, Option.bind_eq_bind, Option.bind_eq_some_iff] at stands
    obtain ⟨_, zero, _, _, _, first, _, second, _⟩ := stands
    refine .code ?_ .nil
    simp [zero, first, second]

theorem textContent_escapes (text : List Char) : TextContent (text.flatMap escapeChar) := by
  induction text with
  | nil => exact .nil
  | cons c rest ih => exact (textContent_escapeChar c).append ih

theorem Numeral.isNumber {n : Numeral} (proper : n.Proper) : IsNumber n.text := by
  obtain ⟨negative, whole, fraction, exponent⟩ := n
  refine ⟨_, ?_, whole, fractionText fraction, exponentText exponent, ⟨proper.whole, proper.led⟩, ?_, ?_, rfl⟩
  · cases negative <;> simp
  · cases fraction with
    | none => exact .inl rfl
    | some digits => exact .inr ⟨digits, proper.fraction digits rfl, rfl⟩
  · cases exponent with
    | none => exact .inl rfl
    | some part =>
      obtain ⟨downward, digits⟩ := part
      refine .inr ⟨'e', by simp, [if downward then '-' else '+'], ?_, digits, proper.exponent _ rfl, rfl⟩
      cases downward <;> simp

theorem Number.isNumber {n : Number} (legible : n.Legible) : IsNumber n.text := by
  obtain ⟨k, proper, same, -⟩ := legible
  exact same ▸ k.isNumber proper

section Laid

variable {o : Layout}

/-- What is laid out behind an item completes the items of a list. -/
theorem wellFormed_laidItems {items : List Value} (level : Nat)
    (each : ∀ v ∈ items, WellFormed .value (v.laid o (level + 1))) :
    ∃ behind, Value.laidItems o level items = behind ++ [']'] ∧ ∀ before text, Blank before →
      WellFormed .value text → WellFormed .items (before ++ (text ++ behind)) := by
  induction items with
  | nil =>
    refine ⟨o.gap level, by rw [Value.laidItems], fun before text spaces well => ?_⟩
    exact .lastItem (.item spaces well (o.gap_blank level))
  | cons v rest ih =>
    have first := each v List.mem_cons_self
    obtain ⟨behind, text, later⟩ := ih fun w member => each w (List.mem_cons_of_mem v member)
    refine ⟨',' :: (o.gap (level + 1) ++ (v.laid o (level + 1) ++ behind)), ?_, fun before value spaces well => ?_⟩
    · rw [Value.laidItems, text]
      simp
    · have items := WellFormed.moreItems (.item spaces well Blank.nil) (later _ _ (o.gap_blank (level + 1)) first)
      simpa using items

/-- What is laid out behind a field completes the fields of a record. -/
theorem wellFormed_laidFields {fields : List (String × Value)} (level : Nat)
    (each : ∀ field ∈ fields, WellFormed .value (field.2.laid o (level + 1))) :
    ∃ behind, Value.laidFields o level fields = behind ++ ['\x7d'] ∧ ∀ before (name : String) text, Blank before →
      WellFormed .value text →
      WellFormed .fields (before ++ (quoted name ++ ':' :: (o.colon ++ (text ++ behind)))) := by
  have field {before text behind : List Char} (name : String) (spaces : Blank before)
      (well : WellFormed .value text) (ending : Blank behind) :
      WellFormed .field (before ++ (quoted name ++ ':' :: (o.colon ++ (text ++ behind)))) := by
    have field := WellFormed.field spaces (textContent_escapes name.toList) Blank.nil o.colon_blank well ending
    simpa [quoted] using field
  induction fields with
  | nil =>
    refine ⟨o.gap level, by rw [Value.laidFields], fun before name text spaces well => ?_⟩
    exact .lastField (field name spaces well (o.gap_blank level))
  | cons f rest ih =>
    obtain ⟨other, v⟩ := f
    have first : WellFormed .value (v.laid o (level + 1)) := each (other, v) List.mem_cons_self
    obtain ⟨behind, text, later⟩ := ih fun w member => each w (List.mem_cons_of_mem _ member)
    refine ⟨',' :: (o.gap (level + 1) ++ (quoted other ++ ':' :: (o.colon ++ (v.laid o (level + 1) ++ behind)))),
      ?_, fun before name value spaces well => ?_⟩
    · rw [Value.laidFields, text]
      simp
    · have fields := WellFormed.moreFields (field name spaces well Blank.nil)
        (later _ other _ (o.gap_blank (level + 1)) first)
      simpa using fields

theorem wellFormed_record {fields : List (String × Value)} (level : Nat)
    (each : ∀ field ∈ fields, WellFormed .value (field.2.laid o (level + 1))) :
    WellFormed .object ((Value.record fields).laid o level) := by
  cases fields with
  | nil =>
    rw [Value.laid]
    exact .emptyObject Blank.nil
  | cons field rest =>
    obtain ⟨name, v⟩ := field
    obtain ⟨behind, text, later⟩ := wellFormed_laidFields level fun w member =>
      each w (List.mem_cons_of_mem (name, v) member)
    have fields := later _ name _ (o.gap_blank (level + 1)) (each (name, v) List.mem_cons_self)
    rw [Value.laid, text]
    simpa using WellFormed.fields fields

/-- A printed value is well-formed in every layout. -/
theorem wellFormed_laid {v : Value} (legible : v.Legible) (level : Nat) : WellFormed .value (v.laid o level) := by
  induction v using Value.contents generalizing level with
  | null =>
    rw [Value.laid]
    exact .word (by simp)
  | flag b =>
    rw [Value.laid]
    cases b <;> exact .word (by simp [flagText])
  | number n =>
    simp only [Value.Legible] at legible
    rw [Value.laid]
    exact .number (Number.isNumber legible)
  | text s =>
    rw [Value.laid]
    exact .quoted (textContent_escapes s.toList)
  | list items each =>
    simp only [Value.Legible, legibleItems_iff] at legible
    cases items with
    | nil =>
      rw [Value.laid]
      exact .list (.emptyList Blank.nil)
    | cons v rest =>
      obtain ⟨behind, text, later⟩ := wellFormed_laidItems (o := o) level fun w member =>
        each w (List.mem_cons_of_mem v member) (legible w (List.mem_cons_of_mem v member)) (level + 1)
      have first := each v List.mem_cons_self (legible v List.mem_cons_self) (level + 1)
      have items := later _ _ (o.gap_blank (level + 1)) first
      rw [Value.laid, text]
      refine .list ?_
      simpa using WellFormed.items items
  | record fields each =>
    simp only [Value.Legible, legibleFields_iff] at legible
    exact .object (wellFormed_record level fun field member => each field member (legible field member) (level + 1))

end Laid

end WidgetRepair.Json
