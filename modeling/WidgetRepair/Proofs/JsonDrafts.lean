import WidgetRepair.Json.Decode
import WidgetRepair.Proofs.JsonTokens

/-! Printed values are read back. However a value is laid out, the draft of its text is that of the
value itself, so decoding the text is reading the value. -/

namespace WidgetRepair.Json

/-- The blanks of a printed text: in front of what stands on a level, and after a colon. -/
structure Layout where
  gap : Nat → List Char
  colon : List Char
  gap_blank : ∀ level, ∀ c ∈ gap level, isSpace c = true
  colon_blank : ∀ c ∈ colon, isSpace c = true

def Layout.compact : Layout := ⟨fun _ => [], [], nofun, nofun⟩

def Layout.pretty : Layout where
  gap := newline
  colon := [' ']
  gap_blank := by
    intro level c member
    obtain rfl | member := List.mem_cons.mp member
    · rfl
    · rw [List.eq_of_mem_replicate member]
      rfl
  colon_blank := by simp [isSpace]

mutual

/-- The text of a value in a layout. -/
def Value.laid (o : Layout) (level : Nat) : Value → List Char
  | .null => "null".toList
  | .flag b => flagText b
  | .number n => n.text
  | .text s => quoted s
  | .list [] => ['[', ']']
  | .list (v :: rest) =>
    '[' :: (o.gap (level + 1) ++ (v.laid o (level + 1) ++ Value.laidItems o level rest))
  | .record [] => ['\x7b', '\x7d']
  | .record ((name, v) :: rest) =>
    '\x7b' :: (o.gap (level + 1) ++ (quoted name ++ ':' :: (o.colon ++
      (v.laid o (level + 1) ++ Value.laidFields o level rest))))

/-- What follows an item of a list. -/
def Value.laidItems (o : Layout) (level : Nat) : List Value → List Char
  | [] => o.gap level ++ [']']
  | v :: rest =>
    ',' :: (o.gap (level + 1) ++ (v.laid o (level + 1) ++ Value.laidItems o level rest))

/-- What follows a field of a record. -/
def Value.laidFields (o : Layout) (level : Nat) : List (String × Value) → List Char
  | [] => o.gap level ++ ['\x7d']
  | (name, v) :: rest =>
    ',' :: (o.gap (level + 1) ++ (quoted name ++ ':' :: (o.colon ++
      (v.laid o (level + 1) ++ Value.laidFields o level rest))))

end

/-- Induction over what a value holds. -/
theorem Value.contents {motive : Value → Prop} (null : motive .null) (flag : ∀ b, motive (.flag b))
    (number : ∀ n, motive (.number n)) (text : ∀ s, motive (.text s))
    (list : ∀ items, (∀ v ∈ items, motive v) → motive (.list items))
    (record : ∀ fields, (∀ field ∈ fields, motive field.2) → motive (.record fields)) :
    ∀ v, motive v
  | .null => null
  | .flag b => flag b
  | .number n => number n
  | .text s => text s
  | .list items => list items fun v _ => Value.contents null flag number text list record v
  | .record fields =>
    record fields fun field _ => Value.contents null flag number text list record field.2
termination_by v => sizeOf v
decreasing_by
  · have := List.sizeOf_lt_of_mem ‹v ∈ items›
    simp only [Value.list.sizeOf_spec]
    omega
  · have := List.sizeOf_lt_of_mem ‹field ∈ fields›
    obtain ⟨name, v⟩ := field
    simp only [Value.record.sizeOf_spec, Prod.mk.sizeOf_spec] at this ⊢
    omega

theorem indentedItems_eq {v : Value} {rest : List Value} (level : Nat)
    (same : ∀ w ∈ v :: rest, w.indented (level + 1) = w.laid .pretty (level + 1)) :
    Value.indentedItems (level + 1) (v :: rest) ++ (newline level ++ [']']) =
      v.laid .pretty (level + 1) ++ Value.laidItems .pretty level rest := by
  have first := same v List.mem_cons_self
  induction rest generalizing v with
  | nil => simp [Value.indentedItems, Value.laidItems, first, Layout.pretty]
  | cons w rest ih =>
    have later := ih (fun x member => same x (List.mem_cons_of_mem v member)) (same w (by simp))
    simp [Value.indentedItems, Value.laidItems, first, later]
    simp [Layout.pretty]

theorem indentedFields_eq {name : String} {v : Value} {rest : List (String × Value)} (level : Nat)
    (same : ∀ field ∈ (name, v) :: rest, field.2.indented (level + 1) = field.2.laid .pretty (level + 1)) :
    Value.indentedFields (level + 1) ((name, v) :: rest) ++ (newline level ++ ['\x7d']) =
      quoted name ++ ':' :: ' ' :: (v.laid .pretty (level + 1) ++ Value.laidFields .pretty level rest) := by
  have first := same (name, v) List.mem_cons_self
  induction rest generalizing name v with
  | nil => simp [Value.indentedFields, Value.laidFields, first, Layout.pretty]
  | cons field rest ih =>
    obtain ⟨other, w⟩ := field
    have later := ih (fun x member => same x (List.mem_cons_of_mem _ member)) (same (other, w) (by simp))
    simp [Value.indentedFields, Value.laidFields, first, later]
    simp [Layout.pretty]

theorem indented_eq (v : Value) (level : Nat) : v.indented level = v.laid .pretty level := by
  induction v using Value.contents generalizing level with
  | null | flag b | number n | text s => simp [Value.indented, Value.laid]
  | list items same =>
    cases items with
    | nil => simp [Value.indented, Value.laid]
    | cons v rest =>
      have later := indentedItems_eq level fun w member => same w member (level + 1)
      simp [Value.indented, Value.laid, later]
      simp [Layout.pretty]
  | record fields same =>
    cases fields with
    | nil => simp [Value.indented, Value.laid]
    | cons field rest =>
      obtain ⟨name, v⟩ := field
      have later := indentedFields_eq level fun x member => same x member (level + 1)
      simp [Value.indented, Value.laid, later]
      simp [Layout.pretty]

theorem compactItems_eq {v : Value} {rest : List Value} (level : Nat)
    (same : ∀ w ∈ v :: rest, w.compact = w.laid .compact (level + 1)) :
    Value.compactItems (v :: rest) =
      v.laid .compact (level + 1) ++ Value.laidItems .compact level rest := by
  have first := same v List.mem_cons_self
  induction rest generalizing v with
  | nil => simp [Value.compactItems, Value.laidItems, first, Layout.compact]
  | cons w rest ih =>
    have later := ih (fun x member => same x (List.mem_cons_of_mem v member)) (same w (by simp))
    simp [Value.compactItems, Value.laidItems, first, later]
    simp [Layout.compact]

theorem compactFields_eq {name : String} {v : Value} {rest : List (String × Value)} (level : Nat)
    (same : ∀ field ∈ (name, v) :: rest, field.2.compact = field.2.laid .compact (level + 1)) :
    Value.compactFields ((name, v) :: rest) =
      quoted name ++ ':' :: (v.laid .compact (level + 1) ++ Value.laidFields .compact level rest) := by
  have first := same (name, v) List.mem_cons_self
  induction rest generalizing name v with
  | nil => simp [Value.compactFields, Value.laidFields, first, Layout.compact]
  | cons field rest ih =>
    obtain ⟨other, w⟩ := field
    have later := ih (fun x member => same x (List.mem_cons_of_mem _ member)) (same (other, w) (by simp))
    simp [Value.compactFields, Value.laidFields, first, later]
    simp [Layout.compact]

theorem compact_eq (v : Value) (level : Nat) : v.compact = v.laid .compact level := by
  induction v using Value.contents generalizing level with
  | null | flag b | number n | text s => simp [Value.compact, Value.laid]
  | list items same =>
    cases items with
    | nil => simp [Value.compact, Value.compactItems, Value.laid]
    | cons v rest =>
      have later := compactItems_eq level fun w member => same w member (level + 1)
      simp [Value.compact, Value.laid, later]
      simp [Layout.compact]
  | record fields same =>
    cases fields with
    | nil => simp [Value.compact, Value.compactFields, Value.laid]
    | cons field rest =>
      obtain ⟨name, v⟩ := field
      have later := compactFields_eq level fun x member => same x member (level + 1)
      simp [Value.compact, Value.laid, later]
      simp [Layout.compact]

mutual

/-- The draft of a printed value. Numbers are as they are read back. -/
def Value.draft : Value → Draft
  | .null => .null
  | .flag b => .flag b
  | .number n => .number (.ok n.reread)
  | .text s => .text (.ok s)
  | .list items => .list (Value.draftItems items) none
  | .record fields => .record (Value.draftFields fields) none

def Value.draftItems : List Value → List Draft
  | [] => []
  | v :: rest => v.draft :: Value.draftItems rest

def Value.draftFields : List (String × Value) → List (Except Fault String × Draft)
  | [] => []
  | (name, v) :: rest => (.ok name, v.draft) :: Value.draftFields rest

end

mutual

/-- A value whose numbers all have a text to read back. -/
def Value.Legible : Value → Prop
  | .number n => n.Legible
  | .list items => Value.LegibleItems items
  | .record fields => Value.LegibleFields fields
  | _ => True

def Value.LegibleItems : List Value → Prop
  | [] => True
  | v :: rest => v.Legible ∧ Value.LegibleItems rest

def Value.LegibleFields : List (String × Value) → Prop
  | [] => True
  | (_, v) :: rest => v.Legible ∧ Value.LegibleFields rest

end

@[simp] theorem draftItems_eq (items : List Value) : Value.draftItems items = items.map Value.draft := by
  induction items with
  | nil => rfl
  | cons v rest ih => rw [Value.draftItems, ih, List.map_cons]

@[simp] theorem draftFields_eq (fields : List (String × Value)) :
    Value.draftFields fields = fields.map fun field => (.ok field.1, field.2.draft) := by
  induction fields with
  | nil => rfl
  | cons field rest ih => rw [Value.draftFields, ih, List.map_cons]

@[simp] theorem legibleItems_iff (items : List Value) :
    Value.LegibleItems items ↔ ∀ v ∈ items, v.Legible := by
  induction items with
  | nil => simp [Value.LegibleItems]
  | cons v rest ih => simp [Value.LegibleItems, ih]

@[simp] theorem legibleFields_iff (fields : List (String × Value)) :
    Value.LegibleFields fields ↔ ∀ field ∈ fields, field.2.Legible := by
  induction fields with
  | nil => simp [Value.LegibleFields]
  | cons field rest ih => simp [Value.LegibleFields, ih]

theorem skipSpace_blank {blank text : List Char} (all : ∀ c ∈ blank, isSpace c = true) :
    skipSpace (blank ++ text) = skipSpace text := by
  unfold skipSpace
  exact List.dropWhile_append_of_pos all

theorem skipSpace_cons {c : Char} {rest : List Char} (filled : isSpace c = false) :
    skipSpace (c :: rest) = c :: rest := by
  simp [skipSpace, filled]

theorem digit_facts {c : Char} (first : c = '-' ∨ isDigit c = true) :
    isSpace c = false ∧ c ≠ ']' ∧ c ≠ '"' ∧ c ≠ '[' ∧ c ≠ '\x7b' ∧ c ≠ 'n' ∧ c ≠ 't' ∧ c ≠ 'f' := by
  obtain rfl | digit := first
  · decide
  · have apart (d : Char) (other : isDigit d = false) : c ≠ d := by
      rintro rfl
      rw [digit] at other
      cases other
    refine ⟨?_, apart _ rfl, apart _ rfl, apart _ rfl, apart _ rfl, apart _ rfl, apart _ rfl, apart _ rfl⟩
    simp [isSpace, apart ' ' rfl, apart '\n' rfl, apart '\t' rfl, apart '\r' rfl]

theorem Value.laid_head (o : Layout) (level : Nat) {v : Value} (legible : v.Legible) :
    ∃ c more, v.laid o level = c :: more ∧ isSpace c = false ∧ c ≠ ']' := by
  cases v with
  | null => exact ⟨'n', _, rfl, by decide⟩
  | flag b =>
    cases b with
    | true => exact ⟨'t', _, rfl, by decide⟩
    | false => exact ⟨'f', _, rfl, by decide⟩
  | text s => exact ⟨'"', _, rfl, by decide⟩
  | number n =>
    obtain ⟨c, more, text, first⟩ := Number.text_head (by simpa [Value.Legible] using legible)
    obtain ⟨filled, other, -⟩ := digit_facts first
    exact ⟨c, more, by simpa [Value.laid] using text, filled, other⟩
  | list items => cases items <;> exact ⟨'[', _, by rw [Value.laid], by decide⟩
  | record fields => cases fields <;> exact ⟨'\x7b', _, by rw [Value.laid], by decide⟩

theorem noNumeral_space {b : Char} (space : isSpace b = true) (rest : List Char) : NoNumeral (b :: rest) := by
  rintro d ⟨⟩
  simp only [isSpace, Bool.or_eq_true, beq_iff_eq] at space
  obtain ((rfl | rfl) | rfl) | rfl := space <;> decide

theorem noNumeral_blank (blank : List Char) {rest : List Char} {c : Char}
    (all : ∀ b ∈ blank, isSpace b = true) (closes : c = ',' ∨ c = ']' ∨ c = '\x7d') :
    NoNumeral (blank ++ c :: rest) := by
  cases blank with
  | nil =>
    rintro d ⟨⟩
    obtain rfl | rfl | rfl := closes <;> decide
  | cons b blank => exact noNumeral_space (all b List.mem_cons_self) _

section Reading

variable {o : Layout} {level : Nat} {rest : List Char}

theorem noNumeral_laidItems (o : Layout) (level : Nat) (rest : List Char) (items : List Value) :
    NoNumeral (Value.laidItems o level items ++ rest) := by
  cases items with
  | nil =>
    rw [Value.laidItems, List.append_assoc]
    exact noNumeral_blank _ (o.gap_blank level) (by decide)
  | cons v items =>
    rw [Value.laidItems]
    exact noNumeral_blank [] nofun (by decide)

theorem noNumeral_laidFields (o : Layout) (level : Nat) (rest : List Char)
    (fields : List (String × Value)) :
    NoNumeral (Value.laidFields o level fields ++ rest) := by
  cases fields with
  | nil =>
    rw [Value.laidFields, List.append_assoc]
    exact noNumeral_blank _ (o.gap_blank level) (by decide)
  | cons field fields =>
    rw [Value.laidFields]
    exact noNumeral_blank [] nofun (by decide)

theorem read_number {n : Number} {fuel : Nat} (legible : n.Legible) (ends : NoNumeral rest) :
    Draft.read (fuel + 1) (n.text ++ rest) = (.number (.ok n.reread), some rest) := by
  obtain ⟨c, more, text, first⟩ := Number.text_head legible
  have numeral := Number.numeral_text legible ends
  obtain ⟨filled, -, quote, bracket, brace, null, yes, no⟩ := digit_facts first
  rw [text, List.cons_append] at numeral ⊢
  simp [Draft.read, skipSpace_cons filled, quote, bracket, brace, null, yes, no, first, numeral]

theorem read_blank {blank text : List Char} (fuel : Nat) (all : ∀ c ∈ blank, isSpace c = true) :
    Draft.read fuel (blank ++ text) = Draft.read fuel text := by
  cases fuel with
  | zero => simp [Draft.read]
  | succ fuel => simp only [Draft.read, skipSpace_blank all]

theorem read_quoted (s : String) (fuel : Nat) :
    Draft.read (fuel + 1) (quoted s ++ rest) = (.text (.ok s), some rest) := by
  have quote : isSpace '"' = false := by decide
  simp [Draft.read, quoted, skipSpace_cons quote, quotedText_escapes]

section Steps

variable {fuel : Nat} {v : Draft} {text more : List Char}

/-- An item is read where one is due, the first or a later one. -/
theorem readItems_step {items : List Draft} {blank : List Char} (first : Bool)
    (all : ∀ b ∈ blank, isSpace b = true)
    (begins : ∃ c tail, text = c :: tail ∧ isSpace c = false ∧ c ≠ ']')
    (value : Draft.read fuel (text ++ more) = (v, some more))
    (later : Draft.readItems fuel false more = (items, none, some rest)) :
    Draft.readItems (fuel + 2) first ((if first then [] else [',']) ++ (blank ++ (text ++ more))) =
      (v :: items, none, some rest) := by
  have item : Draft.readItem (fuel + 1) (text ++ more) = (v :: items, none, some rest) := by
    simp [Draft.readItem, value, later]
  have comma : isSpace ',' = false := by decide
  obtain ⟨c, tail, rfl, filled, other⟩ := begins
  rw [← item]
  cases first <;>
    simp [Draft.readItems, skipSpace_blank all, skipSpace_cons filled, skipSpace_cons comma, other]

theorem readFields_step {fields : List (Except Fault String × Draft)} {blank colon : List Char}
    (name : String) (first : Bool) (all : ∀ b ∈ blank, isSpace b = true)
    (blanks : ∀ c ∈ colon, isSpace c = true)
    (value : Draft.read fuel (text ++ more) = (v, some more))
    (later : Draft.readFields fuel false more = (fields, none, some rest)) :
    Draft.readFields (fuel + 2) first ((if first then [] else [',']) ++
        (blank ++ (quoted name ++ ':' :: (colon ++ (text ++ more))))) =
      ((.ok name, v) :: fields, none, some rest) := by
  have field : Draft.readField (fuel + 1)
      (name.toList.flatMap escapeChar ++ '"' :: ':' :: (colon ++ (text ++ more))) =
        ((.ok name, v) :: fields, none, some rest) := by
    have separator : isSpace ':' = false := by decide
    simp [Draft.readField, quotedText_escapes, skipSpace_cons separator, read_blank fuel blanks, value, later]
  have comma : isSpace ',' = false := by decide
  have quote : isSpace '"' = false := by decide
  rw [← field]
  cases first <;>
    simp [Draft.readFields, quoted, skipSpace_blank all, skipSpace_cons quote, skipSpace_cons comma]

end Steps

/-- The text of a value is read as its draft, whatever follows. -/
def ReadBack (o : Layout) (v : Value) : Prop :=
  v.Legible → ∀ level fuel rest, NoNumeral rest → 3 * (v.laid o level).length ≤ fuel →
    Draft.read fuel (v.laid o level ++ rest) = (v.draft, some rest)

theorem readItems_laid {items : List Value} (back : ∀ v ∈ items, ReadBack o v)
    (legible : Value.LegibleItems items) (level fuel : Nat) (rest : List Char)
    (enough : 3 * (Value.laidItems o level items).length ≤ fuel) :
    Draft.readItems fuel false (Value.laidItems o level items ++ rest) =
      (Value.draftItems items, none, some rest) := by
  induction items generalizing fuel with
  | nil =>
    have bracket : isSpace ']' = false := by decide
    simp only [Value.laidItems, List.length_append, List.length_singleton] at enough
    obtain ⟨fuel, rfl⟩ : ∃ k, fuel = k + 1 := ⟨fuel - 1, by omega⟩
    simp [Value.laidItems, Value.draftItems, Draft.readItems, skipSpace_blank (o.gap_blank level),
      skipSpace_cons bracket]
  | cons v items ih =>
    simp only [Value.LegibleItems] at legible
    simp only [Value.laidItems, List.length_cons, List.length_append] at enough
    obtain ⟨fuel, rfl⟩ : ∃ k, fuel = k + 2 := ⟨fuel - 2, by omega⟩
    have value := back v List.mem_cons_self legible.1 (level + 1) fuel _
      (noNumeral_laidItems o level rest items) (by omega)
    have later := ih (fun w member => back w (List.mem_cons_of_mem v member)) legible.2 fuel (by omega)
    have step := readItems_step false (o.gap_blank (level + 1)) (Value.laid_head o (level + 1) legible.1)
      value later
    simpa [Value.laidItems, Value.draftItems] using step

theorem readFields_laid {fields : List (String × Value)} (back : ∀ field ∈ fields, ReadBack o field.2)
    (legible : Value.LegibleFields fields) (level fuel : Nat) (rest : List Char)
    (enough : 3 * (Value.laidFields o level fields).length ≤ fuel) :
    Draft.readFields fuel false (Value.laidFields o level fields ++ rest) =
      (Value.draftFields fields, none, some rest) := by
  induction fields generalizing fuel with
  | nil =>
    have brace : isSpace '\x7d' = false := by decide
    simp only [Value.laidFields, List.length_append, List.length_singleton] at enough
    obtain ⟨fuel, rfl⟩ : ∃ k, fuel = k + 1 := ⟨fuel - 1, by omega⟩
    simp [Value.laidFields, Value.draftFields, Draft.readFields, skipSpace_blank (o.gap_blank level),
      skipSpace_cons brace]
  | cons field fields ih =>
    obtain ⟨name, v⟩ := field
    simp only [Value.LegibleFields] at legible
    simp only [Value.laidFields, quoted, List.length_cons, List.length_append] at enough
    obtain ⟨fuel, rfl⟩ : ∃ k, fuel = k + 2 := ⟨fuel - 2, by omega⟩
    have value := back (name, v) List.mem_cons_self legible.1 (level + 1) fuel _
      (noNumeral_laidFields o level rest fields) (by dsimp only; omega)
    have later := ih (fun w member => back w (List.mem_cons_of_mem _ member)) legible.2 fuel (by omega)
    have step := readFields_step name false (o.gap_blank (level + 1)) o.colon_blank value later
    simpa [Value.laidFields, Value.draftFields] using step

theorem readBack (o : Layout) (v : Value) : ReadBack o v := by
  induction v using Value.contents with
  | null =>
    intro _ level fuel rest _ enough
    obtain ⟨fuel, rfl⟩ : ∃ k, fuel = k + 1 := ⟨fuel - 1, by simp [Value.laid] at enough; omega⟩
    simp [Value.laid, Value.draft, Draft.read, skipSpace_cons, Draft.word, isSpace]
  | flag b =>
    intro _ level fuel rest _ enough
    obtain ⟨fuel, rfl⟩ : ∃ k, fuel = k + 1 :=
      ⟨fuel - 1, by cases b <;> simp [Value.laid, flagText] at enough <;> omega⟩
    cases b <;> simp [Value.laid, Value.draft, flagText, Draft.read, skipSpace_cons, Draft.word, isSpace]
  | text s =>
    intro _ level fuel rest _ enough
    obtain ⟨fuel, rfl⟩ : ∃ k, fuel = k + 1 := ⟨fuel - 1, by simp [Value.laid, quoted] at enough; omega⟩
    simpa [Value.laid, Value.draft] using read_quoted s fuel
  | number n =>
    intro legible level fuel rest ends enough
    simp only [Value.Legible] at legible
    obtain ⟨c, more, first, -⟩ := Number.text_head legible
    obtain ⟨fuel, rfl⟩ : ∃ k, fuel = k + 1 := ⟨fuel - 1, by simp [Value.laid, first] at enough; omega⟩
    simpa [Value.laid, Value.draft] using read_number legible ends
  | list items back =>
    intro legible level fuel rest ends enough
    cases items with
    | nil =>
      obtain ⟨fuel, rfl⟩ : ∃ k, fuel = k + 2 := ⟨fuel - 2, by simp [Value.laid] at enough; omega⟩
      simp [Value.laid, Value.draft, Value.draftItems, Draft.read, Draft.readItems, skipSpace_cons, isSpace]
    | cons v items =>
      simp only [Value.Legible, Value.LegibleItems] at legible
      simp only [Value.laid, List.length_cons, List.length_append] at enough
      obtain ⟨fuel, rfl⟩ : ∃ k, fuel = k + 3 := ⟨fuel - 3, by omega⟩
      have value := back v List.mem_cons_self legible.1 (level + 1) fuel _
        (noNumeral_laidItems o level rest items) (by omega)
      have later := readItems_laid (fun w member => back w (List.mem_cons_of_mem v member)) legible.2 level
        fuel rest (by omega)
      have step := readItems_step true (o.gap_blank (level + 1)) (Value.laid_head o (level + 1) legible.1)
        value later
      have bracket : isSpace '[' = false := by decide
      simp at step
      simp [Value.laid, Value.draft, Value.draftItems, Draft.read, skipSpace_cons bracket, step]
  | record fields back =>
    intro legible level fuel rest ends enough
    cases fields with
    | nil =>
      obtain ⟨fuel, rfl⟩ : ∃ k, fuel = k + 2 := ⟨fuel - 2, by simp [Value.laid] at enough; omega⟩
      simp [Value.laid, Value.draft, Value.draftFields, Draft.read, Draft.readFields, skipSpace_cons, isSpace]
    | cons field fields =>
      obtain ⟨name, v⟩ := field
      simp only [Value.Legible, Value.LegibleFields] at legible
      simp only [Value.laid, quoted, List.length_cons, List.length_append] at enough
      obtain ⟨fuel, rfl⟩ : ∃ k, fuel = k + 3 := ⟨fuel - 3, by omega⟩
      have value := back (name, v) List.mem_cons_self legible.1 (level + 1) fuel _
        (noNumeral_laidFields o level rest fields) (by dsimp only; omega)
      have later := readFields_laid (fun w member => back w (List.mem_cons_of_mem _ member)) legible.2 level
        fuel rest (by omega)
      have step := readFields_step name true (o.gap_blank (level + 1)) o.colon_blank value later
      have brace : isSpace '\x7b' = false := by decide
      simp at step
      simp [Value.laid, Value.draft, Value.draftFields, Draft.read, skipSpace_cons brace, step]

end Reading

/-- Blanks behind a printed value do not matter. -/
theorem decode_laid_blank {α : Type} {v : Value} (read : Place → Except Fault α) (o : Layout) (level : Nat)
    (legible : v.Legible) {blank : List Char} (all : ∀ c ∈ blank, isSpace c = true) :
    decode read (String.ofList (v.laid o level ++ blank)) = read ⟨128, v.draft⟩ := by
  have ends : NoNumeral blank := by
    cases blank with
    | nil => exact nofun
    | cons b blank => exact noNumeral_space (all b List.mem_cons_self) blank
  have drafted : Draft.ofText (v.laid o level ++ blank) = (v.draft, some blank) :=
    readBack o v legible level _ blank ends (by rw [List.length_append]; omega)
  simp only [decode, String.toList_ofList, drafted, List.all_eq_true.mpr all, if_true]
  cases read ⟨128, v.draft⟩ <;> rfl

theorem decode_laid {α : Type} {v : Value} (read : Place → Except Fault α) (o : Layout) (level : Nat)
    (legible : v.Legible) : decode read (String.ofList (v.laid o level)) = read ⟨128, v.draft⟩ := by
  have blankless := decode_laid_blank read o level legible (List.forall_mem_nil _)
  rwa [List.append_nil] at blankless

/-- Decoding an indented text is reading the value that was printed. -/
theorem decode_pretty {α : Type} {v : Value} (read : Place → Except Fault α) (legible : v.Legible) :
    decode read v.pretty = read ⟨128, v.draft⟩ := by
  rw [Value.pretty, indented_eq]
  exact decode_laid read .pretty 0 legible

/-- Decoding a text of one line is reading the value that was printed. -/
theorem decode_render {α : Type} {v : Value} (read : Place → Except Fault α) (legible : v.Legible) :
    decode read v.render = read ⟨128, v.draft⟩ := by
  rw [Value.render, compact_eq v 0]
  exact decode_laid read .compact 0 legible

/-- Nothing is wrong with a printed value that is passed over. -/
theorem Draft.skip_draft (v : Value) : v.draft.skip = .ok () := by
  induction v using Value.contents with
  | null | flag b | number n | text s =>
    unfold Value.draft Draft.skip
    rfl
  | list items each =>
    have all : Draft.skipItems (items.map Value.draft) = .ok () := by
      induction items with
      | nil => rw [List.map_nil, Draft.skipItems]
      | cons v rest ih =>
        obtain ⟨first, later⟩ := List.forall_mem_cons.mp each
        rw [List.map_cons, Draft.skipItems, first]
        exact ih later
    rw [Value.draft, draftItems_eq, Draft.skip, all]
    rfl
  | record fields each =>
    have all : Draft.skipFields (fields.map fun field => (.ok field.1, field.2.draft)) = .ok () := by
      induction fields with
      | nil => rw [List.map_nil, Draft.skipFields]
      | cons field rest ih =>
        obtain ⟨first, later⟩ := List.forall_mem_cons.mp each
        rw [List.map_cons, Draft.skipFields, first]
        exact ih later
    rw [Value.draft, draftFields_eq, Draft.skip, all]
    rfl

section Answers

open Source

variable {room : Nat}

@[simp] theorem text_draft (s : String) : text (⟨room, (Value.text s).draft⟩ : Place) = .ok s := by
  simp [Value.draft, text, Place.text]

@[simp] theorem flag_draft (b : Bool) : flag (⟨room, (Value.flag b).draft⟩ : Place) = .ok b := by
  simp [Value.draft, flag, Place.flag]

/-- The real that the text of a real is read as. -/
def rereadReal (x : Float) : Float := (Number.real x).reread.toFloat

@[simp] theorem real_draft (x : Float) : Place.real ⟨room, (Value.ofFloat x).draft⟩ = .ok (rereadReal x) := by
  simp [Value.ofFloat, Value.draft, Place.real, Except.map, rereadReal]

theorem below_draft (room : Nat) {n limit : Nat} (less : n < limit) (fits : limit ≤ naturalLimit) :
    Place.below limit ⟨room, (Value.ofNat n).draft⟩ = .ok n := by
  simp [Value.ofNat, Value.draft, Number.reread_natural (Nat.lt_of_lt_of_le less fits), Place.below, less]

theorem parsed_draft {α : Type} (room : Nat) {parse : String → Option α} {s : String} {a : α}
    (stands : parse s = some a) : parsed parse (⟨room, (Value.text s).draft⟩ : Place) = .ok a := by
  simp [parsed, bind, Except.bind, stands]
  rfl

theorem option_draft {α : Type} {item : Place → Except Fault α} {s : String} {a : α}
    (read : item ⟨room, (Value.text s).draft⟩ = .ok a) :
    option item (⟨room, (Value.text s).draft⟩ : Place) = .ok (some a) := by
  rw [Value.draft] at read ⊢
  simp [option, Source.optional, bind, Except.bind, read]
  rfl

theorem option_text_draft (s : String) : option text (⟨room, (Value.text s).draft⟩ : Place) = .ok (some s) :=
  option_draft (text_draft s)

theorem choice_draft {α : Type} {parse : String → Option α} {s : String} {a : α}
    (stands : parse s = some a) : choice parse (⟨room, (Value.text s).draft⟩ : Place) = .ok a := by
  simp [Value.draft, choice, Place.choice, bind, Except.bind, stands]

theorem mapM_ok {α β γ : Type} {read : β → Except Fault γ} (items : List α) (f : α → β) (g : α → γ)
    (each : ∀ a ∈ items, read (f a) = .ok (g a)) : (items.map f).mapM read = .ok (items.map g) := by
  induction items with
  | nil => rfl
  | cons a rest ih =>
    have first := each a List.mem_cons_self
    have later := ih fun b member => each b (List.mem_cons_of_mem a member)
    rw [List.map_cons, List.mapM_cons, first, later]
    rfl

theorem items_draft (inside : 1 < room) (values : List Value) :
    Source.items (⟨room, (Value.list values).draft⟩ : Place) = .ok (values.map fun v => .ok ⟨room - 1, v.draft⟩) := by
  have deep : ¬room ≤ 1 := Nat.not_le.mpr inside
  simp [Value.draft, Source.items, Place.items, enter, deep, withEnding, bind, Except.bind]
  rfl

theorem listOf_draft {α β : Type} {item : Place → Except Fault β} (inside : 1 < room) (items : List α)
    (f : α → Value) (g : α → β) (each : ∀ a ∈ items, item ⟨room - 1, (f a).draft⟩ = .ok (g a)) :
    listOf item (⟨room, (Value.list (items.map f)).draft⟩ : Place) = .ok (items.map g) := by
  simp only [listOf, items_draft inside, List.map_map, bind, Except.bind]
  exact mapM_ok items _ g each

theorem texts_draft {room : Nat} (inside : 1 < room) (texts : List String) :
    listOf text (⟨room, (Value.ofTexts texts).draft⟩ : Place) = .ok texts := by
  have each := listOf_draft inside texts Value.text id fun s _ => text_draft s
  rwa [List.map_id] at each

theorem record_draft (inside : 1 < room) (entries : List (String × Value)) :
    Source.record (⟨room, (Value.record entries).draft⟩ : Place) =
      .ok (.named (entries.map fun field => .ok (field.1, ⟨room - 1, field.2.draft⟩))) := by
  have deep : ¬room ≤ 1 := Nat.not_le.mpr inside
  simp [Value.draft, Source.record, Place.record, enter, deep, withEnding, bind, Except.bind]
  rfl

/-- A list is asked for the fields of a record in their order. -/
theorem ordered_draft (inside : 1 < room) (values : List Value) :
    Source.record (⟨room, (Value.list values).draft⟩ : Place) =
      .ok (.ordered (values.map fun v => .ok ⟨room - 1, v.draft⟩) (some .malformed)) := by
  have deep : ¬room ≤ 1 := Nat.not_le.mpr inside
  simp [Value.draft, Source.record, Place.record, enter, deep, withEnding, bind, Except.bind]
  rfl

/-- The answer of a record that is complete. -/
theorem recordOf_draft {σ α : Type} {fields : List (Field Place (Except Fault) σ)} {start : σ}
    {finish : σ → Option α} {a : α} {entries : List (String × Value)} (inside : 1 < room) (filled : σ)
    (read : namedFields fields (entries.map fun field => .ok (field.1, ⟨room - 1, field.2.draft⟩)) start =
      .ok filled)
    (complete : finish filled = some a) :
    recordOf fields start finish (⟨room, (Value.record entries).draft⟩ : Place) = .ok a := by
  simp only [recordOf, record_draft inside, bind, Except.bind, read, complete]
  rfl

end Answers

end WidgetRepair.Json
