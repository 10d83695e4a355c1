import WidgetRepair.Proofs.ObjectScan

/-! How many braces are open while the first object of a text is searched for. They are counted as an integer here,
which nothing keeps above zero but the search itself: it ends where the count comes back to zero. -/

namespace WidgetRepair

open Json

/-- Where a scan has come to, and how many more braces were opened than closed. -/
structure ScanPoint where
  state : ScanState
  depth : Int

namespace ScanPoint

def start : ScanPoint := ⟨.outside, 0⟩

def next (p : ScanPoint) (c : Char) : ScanPoint :=
  match p.state with
  | .escaped => { p with state := .inText }
  | .inText => { p with state := if c == '\\' then .escaped else if c == '"' then .outside else .inText }
  | .outside =>
    if c == '"' then { p with state := .inText }
    else if c == '\x7b' then { p with depth := p.depth + 1 }
    else if c == '\x7d' then { p with depth := p.depth - 1 }
    else p

def after (p : ScanPoint) (text : List Char) : ScanPoint := text.foldl next p

end ScanPoint

/-- What the search reads: the object that it finds, or else all from the first opening brace on. -/
def scanned (text : List Char) : List Char := (firstObject? text).getD (text.dropWhile (· != '\x7b'))

/-- How the search for the closing brace ends in a text. Before its end some brace is open all the time. -/
inductive Closing (p : ScanPoint) (text : List Char) : Option (List Char) → Prop where
  | found {taken : List Char} (front : taken <+: text) (last : taken.getLast? = some '\x7d')
    (closed : (p.after taken).depth = 0) (inside : ∀ seen, seen <+: taken → seen ≠ taken → 0 < (p.after seen).depth) :
    Closing p text (some taken)
  | unclosed (inside : ∀ seen, seen <+: text → 0 < (p.after seen).depth) : Closing p text none

section Search

variable {p : ScanPoint} {c : Char} {rest : List Char} {taken : Option (List Char)}

/-- The count of a search in what it reads: zero only at its end. -/
theorem Closing.depth (closing : Closing p rest taken) {seen : List Char} (front : seen <+: taken.getD rest) :
    0 ≤ (p.after seen).depth ∧ ((p.after seen).depth = 0 ↔ taken = some seen) := by
  cases closing with
  | @found taken _ last closed inside =>
    by_cases ended : seen = taken
    · rw [ended, closed]
      simp
    · have opened := inside seen front ended
      exact ⟨le_of_lt opened, fun zero => absurd zero (ne_of_gt opened),
        fun same => absurd (Option.some.inj same).symm ended⟩
  | unclosed inside =>
    have opened := inside seen front
    exact ⟨le_of_lt opened, fun zero => absurd zero (ne_of_gt opened), nofun⟩

theorem Closing.cons (opened : 0 < p.depth) (closing : Closing (p.next c) rest taken) :
    Closing p (c :: rest) (taken.map (c :: ·)) := by
  cases closing with
  | @found taken front last closed inside =>
    refine .found (List.cons_prefix_cons.mpr ⟨rfl, front⟩) ?_ closed fun seen before unended => ?_
    · rw [List.getLast?_cons, last]
      rfl
    · obtain rfl | ⟨more, rfl, shorter⟩ := List.prefix_cons_iff.mp before
      · exact opened
      · exact inside more shorter fun same => unended (same ▸ rfl)
  | unclosed inside =>
    refine .unclosed fun seen before => ?_
    obtain rfl | ⟨more, rfl, shorter⟩ := List.prefix_cons_iff.mp before
    · exact opened
    · exact inside more shorter

/-- One character further the search is at its end, or as many braces are open as are counted, and at least one. -/
theorem closeObject_cons {depth : Nat} (inside : 0 < depth) (state : ScanState) (c : Char) (rest : List Char) :
    (closeObject depth state (c :: rest) = some [c] ∧ c = '\x7d' ∧ (ScanPoint.next ⟨state, depth⟩ c).depth = 0) ∨
      ∃ depth' state', 0 < depth' ∧ ScanPoint.next ⟨state, depth⟩ c = ⟨state', (depth' : Nat)⟩ ∧
        closeObject depth state (c :: rest) = (closeObject depth' state' rest).map (c :: ·) := by
  cases state with
  | escaped => exact .inr ⟨depth, .inText, inside, rfl, by rw [closeObject]⟩
  | inText => exact .inr ⟨depth, _, inside, rfl, by rw [closeObject]⟩
  | outside =>
    rw [closeObject]
    simp only [ScanPoint.next]
    split
    next => exact .inr ⟨depth, .inText, inside, rfl, rfl⟩
    next =>
      split
      next => exact .inr ⟨depth + 1, .outside, Nat.succ_pos depth, by simp, rfl⟩
      next =>
        split
        next brace =>
          split
          next last =>
            have one : depth = 1 := by omega
            exact .inl ⟨rfl, beq_iff_eq.mp brace, by simp [one]⟩
          next deeper =>
            refine .inr ⟨depth - 1, .outside, by omega, ?_, rfl⟩
            rw [ScanPoint.mk.injEq]
            exact ⟨rfl, by omega⟩
        next => exact .inr ⟨depth, .outside, inside, rfl, rfl⟩

/-- The text is taken character by character, while at least one brace is open. -/
theorem closeObject_closing {depth : Nat} (inside : 0 < depth) (state : ScanState) (text : List Char) :
    Closing ⟨state, depth⟩ text (closeObject depth state text) := by
  have opened {depth : Nat} (inside : 0 < depth) : (0 : Int) < depth := Int.natCast_pos.mpr inside
  induction text generalizing depth state with
  | nil =>
    rw [closeObject]
    refine .unclosed fun seen before => ?_
    rw [List.prefix_nil.mp before]
    exact opened inside
  | cons c rest ih =>
    obtain ⟨ended, rfl, closed⟩ | ⟨depth', state', inside', next, goesOn⟩ := closeObject_cons inside state c rest
    · rw [ended]
      refine .found (List.prefix_append _ rest) rfl closed fun seen before unended => ?_
      obtain rfl | ⟨more, rfl, shorter⟩ := List.prefix_cons_iff.mp before
      · exact opened inside
      · rw [List.prefix_nil.mp shorter] at unended
        exact absurd rfl unended
    · rw [goesOn]
      exact .cons (opened inside) (next ▸ ih inside' state')

end Search

/-- What a search for the first object does in any text. -/
structure ScansSoundly (text : List Char) : Prop where
  /-- Never are more braces closed than were opened. -/
  counted : ∀ seen, seen <+: scanned text → 0 ≤ (ScanPoint.start.after seen).depth
  /-- The count is back at zero just at the end of the object. -/
  closed : ∀ seen, seen <+: scanned text →
    ((ScanPoint.start.after seen).depth = 0 ↔ seen = [] ∨ firstObject? text = some seen)
  slice : ∀ object, firstObject? text = some object → ∃ before after, text = before ++ (object ++ after) ∧
    '\x7b' ∉ before ∧ object.head? = some '\x7b' ∧ object.getLast? = some '\x7d'

theorem dropWhile_unopened {text : List Char} (unopened : '\x7b' ∉ text) :
    text.dropWhile (· != '\x7b') = [] := by
  rw [List.dropWhile_eq_nil_iff]
  intro c member
  simpa using ne_of_mem_of_not_mem member unopened

/-- In a text without an opening brace there is nothing to search. -/
theorem scansSoundly_unopened {text : List Char} (unopened : '\x7b' ∉ text) : ScansSoundly text := by
  have missing : firstObject? text = none := by rw [firstObject?, dropWhile_unopened unopened]
  have nothing : scanned text = [] := by rw [scanned, missing, dropWhile_unopened unopened, Option.getD_none]
  constructor
  · rw [nothing]
    intro seen front
    rw [List.prefix_nil.mp front]
    rfl
  · rw [nothing]
    intro seen front
    rw [List.prefix_nil.mp front]
    exact ⟨fun _ => .inl rfl, fun _ => rfl⟩
  · intro object found
    rw [missing] at found
    cases found

theorem scansSoundly_opened {before : List Char} (unopened : '\x7b' ∉ before) (rest : List Char) :
    ScansSoundly (before ++ '\x7b' :: rest) := by
  have found := firstObject?_opened unopened rest
  have closing : Closing ⟨.outside, 1⟩ rest (closeObject 1 .outside rest) :=
    closeObject_closing Nat.one_pos .outside rest
  have read : scanned (before ++ '\x7b' :: rest) = '\x7b' :: (closeObject 1 .outside rest).getD rest := by
    rw [scanned, found, dropWhile_opened unopened]
    cases closeObject 1 .outside rest <;> rfl
  constructor
  · rw [read]
    intro seen front
    obtain rfl | ⟨more, rfl, within⟩ := List.prefix_cons_iff.mp front
    · rfl
    · exact (closing.depth within).1
  · rw [read, found]
    intro seen front
    obtain rfl | ⟨more, rfl, within⟩ := List.prefix_cons_iff.mp front
    · exact ⟨fun _ => .inl rfl, fun _ => rfl⟩
    · have zero : (ScanPoint.start.after ('\x7b' :: more)).depth = 0 ↔ closeObject 1 .outside rest = some more :=
        (closing.depth within).2
      simpa using zero
  · rw [found]
    intro object same
    obtain ⟨taken, ended, rfl⟩ := Option.map_eq_some_iff.mp same
    rw [ended] at closing
    cases closing with
    | found front last =>
      obtain ⟨after, rfl⟩ := front
      refine ⟨before, after, rfl, unopened, rfl, ?_⟩
      rw [List.getLast?_cons, last]
      rfl

theorem scansSoundly (text : List Char) : ScansSoundly text := by
  by_cases opened : '\x7b' ∈ text
  case pos =>
    obtain ⟨before, rest, rfl, unopened⟩ := List.eq_append_cons_of_mem opened
    exact scansSoundly_opened unopened rest
  case neg => exact scansSoundly_unopened opened

/-- A well-formed object is found as it stands, and in every text, well-formed or not, braces are counted soundly. -/
theorem first_object_exact :
    (∀ before object after : List Char, '\x7b' ∉ before → WellFormed .object object →
      firstObject? (before ++ (object ++ after)) = some object) ∧ ∀ text : List Char, ScansSoundly text :=
  ⟨fun _ _ after unopened well => firstObject?_wellFormed well unopened after, scansSoundly⟩

/-- An object within an object, with a closing brace, an escaped quote and a backslash in its text. -/
theorem first_object_exact_in_prose :
    WellFormed .object "\x7b\"a\": \x7b\"b\":\"\x7d\\\"\\\\\"\x7d \x7d".toList ∧
      firstObject? "Plan\x7d: \x7b\"a\": \x7b\"b\":\"\x7d\\\"\\\\\"\x7d \x7d\x7d, \x7b\x7d".toList =
        some "\x7b\"a\": \x7b\"b\":\"\x7d\\\"\\\\\"\x7d \x7d".toList ∧
      ScansSoundly "\x7d\x7b\"\x7d".toList := by
  have name {c : Char} (quote : c ≠ '"') (backslash : c ≠ '\\') (printable : 32 ≤ c.toNat) : TextContent [c] :=
    .plain quote backslash printable .nil
  have content : TextContent ['\x7d', '\\', '"', '\\', '\\'] :=
    .plain (by decide) (by decide) (by decide) (.letter (by decide) (.letter (by decide) .nil))
  have space : Blank [' '] := by simp [Blank, isSpace]
  have inner : WellFormed .object "\x7b\"b\":\"\x7d\\\"\\\\\"\x7d".toList :=
    .fields (.lastField (.field Blank.nil (name (by decide) (by decide) (by decide)) Blank.nil Blank.nil
      (.quoted content) Blank.nil))
  have well : WellFormed .object "\x7b\"a\": \x7b\"b\":\"\x7d\\\"\\\\\"\x7d \x7d".toList :=
    .fields (.lastField (.field Blank.nil (name (by decide) (by decide) (by decide)) Blank.nil space
      (.object inner) space))
  exact ⟨well, first_object_exact.1 "Plan\x7d: ".toList _ "\x7d, \x7b\x7d".toList (by decide) well,
    first_object_exact.2 "\x7d\x7b\"\x7d".toList⟩

end WidgetRepair
