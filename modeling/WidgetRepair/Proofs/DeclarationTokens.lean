import Mathlib
import WidgetRepair.Text.Blank

/-! Texts of declarations taken apart into words, quoted texts and single marks. Blanks and comments stand
for nothing. -/

namespace WidgetRepair.Typings

inductive Token where
  | word (s : String)
  | quoted (s : String)
  | mark (c : Char)
  deriving DecidableEq, Repr

/-- Whether a character can stand in an identifier. -/
def inWord (c : Char) : Bool := c.isAlphanum || c == '_' || c == '$'

/-- The word read so far. -/
def finished (word : List Char) : List Token := if word = [] then [] else [.word (String.ofList word)]

mutual

/-- The tokens of a text behind the beginning of a word. -/
def lexPlain (word : List Char) : List Char → Option (List Token)
  | [] => some (finished word)
  | c :: rest =>
    if inWord c then lexPlain (word ++ [c]) rest
    else (finished word ++ ·) <$>
      if c = '"' then lexQuoted [] rest
      else if c = '/' then lexSlash rest
      else if Text.isBlank c then lexPlain [] rest
      else (.mark c :: ·) <$> lexPlain [] rest

/-- The tokens behind the beginning of a quoted text. It ends on its line and holds no escapes. -/
def lexQuoted (text : List Char) : List Char → Option (List Token)
  | [] => none
  | c :: rest =>
    if c = '"' then (.quoted (String.ofList text) :: ·) <$> lexPlain [] rest
    else if c = '\\' ∨ c = '\n' then none
    else lexQuoted (text ++ [c]) rest

/-- The tokens behind a slash, which has to begin a comment. -/
def lexSlash : List Char → Option (List Token)
  | [] => none
  | c :: rest => if c = '*' then lexComment false rest else none

/-- The tokens behind the beginning of a comment; `star` tells whether the character before is one. -/
def lexComment (star : Bool) : List Char → Option (List Token)
  | [] => none
  | c :: rest => if star ∧ c = '/' then lexPlain [] rest else lexComment (c == '*') rest

end

/-- What can stand as an identifier. -/
structure IsWord (s : String) : Prop where
  filled : s ≠ ""
  legal : ∀ c ∈ s.toList, inWord c = true

theorem isWord_iff {s : String} : IsWord s ↔ s ≠ "" ∧ ∀ c ∈ s.toList, inWord c = true :=
  ⟨fun named => ⟨named.filled, named.legal⟩, fun named => ⟨named.1, named.2⟩⟩

/-- A text that ends with its quotes. -/
def Unquoted (s : String) : Prop := ∀ c ∈ s.toList, c ≠ '"' ∧ c ≠ '\\' ∧ c ≠ '\n'

/-- Whether a character stands for itself. -/
def isMark (c : Char) : Bool := !inWord c && c != '"' && c != '/' && !Text.isBlank c

/-- What ends a word. -/
def EndsWord (rest : List Char) : Prop := ∀ c ∈ rest.head?, inWord c = false

/-- A text is taken apart into tokens. -/
def Lexes (text : List Char) (tokens : List Token) : Prop := lexPlain [] text = some tokens

theorem lexPlain_word {word : List Char} (legal : ∀ c ∈ word, inWord c = true) (begun rest : List Char) :
    lexPlain begun (word ++ rest) = lexPlain (begun ++ word) rest := by
  induction word generalizing begun with
  | nil => simp
  | cons c word ih =>
    obtain ⟨own, others⟩ := List.forall_mem_cons.mp legal
    rw [List.cons_append, lexPlain, if_pos own, ih others, List.append_assoc, List.singleton_append]

theorem lexPlain_ends (word : List Char) {rest : List Char} (ends : EndsWord rest) :
    lexPlain word rest = (finished word ++ ·) <$> lexPlain [] rest := by
  cases rest with
  | nil => simp [lexPlain, finished]
  | cons c rest =>
    have other : ¬ inWord c = true := by simp [ends c rfl]
    simp [lexPlain, other, finished]

theorem lexQuoted_unquoted {text : List Char} (harmless : ∀ c ∈ text, c ≠ '"' ∧ c ≠ '\\' ∧ c ≠ '\n')
    (begun rest : List Char) : lexQuoted begun (text ++ rest) = lexQuoted (begun ++ text) rest := by
  induction text generalizing begun with
  | nil => simp
  | cons c text ih =>
    obtain ⟨⟨quote, slash, line⟩, others⟩ := List.forall_mem_cons.mp harmless
    rw [List.cons_append, lexQuoted, if_neg quote, if_neg (by simp [slash, line]), ih others, List.append_assoc,
      List.singleton_append]

theorem lexComment_starless {text : List Char} (starless : ∀ c ∈ text, c ≠ '*') (rest : List Char) :
    lexComment false (text ++ rest) = lexComment false rest := by
  induction text with
  | nil => rfl
  | cons c text ih =>
    obtain ⟨own, others⟩ := List.forall_mem_cons.mp starless
    have plain : (c == '*') = false := by simpa using own
    rw [List.cons_append, lexComment, plain, ih others]
    simp

namespace Lexes

variable {rest : List Char} {tokens : List Token}

theorem nil : Lexes [] [] := rfl

theorem blank (later : Lexes rest tokens) {c : Char} (space : c = ' ' ∨ c = '\n') : Lexes (c :: rest) tokens := by
  unfold Lexes at later ⊢
  obtain rfl | rfl := space <;> simp [lexPlain, inWord, Text.isBlank, finished, later]

theorem blanks (later : Lexes rest tokens) (count : Nat) : Lexes (List.replicate count ' ' ++ rest) tokens := by
  induction count with
  | zero => exact later
  | succ count ih => exact ih.blank (.inl rfl)

theorem mark (later : Lexes rest tokens) {c : Char} (alone : isMark c = true) :
    Lexes (c :: rest) (.mark c :: tokens) := by
  unfold Lexes at later ⊢
  simp only [isMark, Bool.and_eq_true, Bool.not_eq_true', bne_iff_ne] at alone
  obtain ⟨⟨⟨other, quote⟩, slash⟩, space⟩ := alone
  simp [lexPlain, other, quote, slash, space, finished, later]

theorem word (later : Lexes rest tokens) {s : String} (named : IsWord s) (ends : EndsWord rest) :
    Lexes (s.toList ++ rest) (.word s :: tokens) := by
  unfold Lexes at later ⊢
  have filled : s.toList ≠ [] := mt String.toList_eq_nil_iff.mp named.filled
  rw [lexPlain_word named.legal, List.nil_append, lexPlain_ends _ ends, later]
  simp [finished, named.filled]

theorem quoted (later : Lexes rest tokens) {s : String} (harmless : Unquoted s) :
    Lexes ('"' :: (s.toList ++ '"' :: rest)) (.quoted s :: tokens) := by
  unfold Lexes at later ⊢
  simp [lexPlain, inWord, lexQuoted_unquoted harmless, lexQuoted, later, finished]

/-- Items with the same characters between them, when these stand for a mark and end a word. -/
theorem separated {α : Type} {text : α → List Char} {print : α → List Token} {between : List Char} {sep : Char}
    (later : Lexes rest tokens) (ends : EndsWord rest)
    (mid : ∀ {rest tokens}, Lexes rest tokens → Lexes (between ++ rest) (.mark sep :: tokens))
    (apart : ∀ {rest}, EndsWord (between ++ rest)) {items : List α}
    (each : ∀ a ∈ items, ∀ {rest tokens}, Lexes rest tokens → EndsWord rest →
      Lexes (text a ++ rest) (print a ++ tokens)) :
    Lexes (between.intercalate (items.map text) ++ rest)
      ([.mark sep].intercalate (items.map print) ++ tokens) := by
  induction items with
  | nil => exact later
  | cons a items ih =>
    obtain ⟨own, others⟩ := List.forall_mem_cons.mp each
    cases items with
    | nil => simpa using own later ends
    | cons b items =>
      have first := own (mid (ih others)) apart
      simpa [List.intercalate_cons_cons] using first

end Lexes

theorem endsWord_cons {c : Char} {rest : List Char} (other : inWord c = false) : EndsWord (c :: rest) := by
  rintro d ⟨⟩
  exact other

end WidgetRepair.Typings
