import Mathlib.Data.List.DropRight
import Mathlib.Logic.Relation
import WidgetRepair.Diagnostic.Keyword
import WidgetRepair.Diagnostic.Signature
import WidgetRepair.Proofs.TextParts
import WidgetRepair.Store.Update

/-! What a build prints around an error, and the place in the source that the error is reported for, do not make it
another error: the same text is taken from the output, and the same is learned from it. -/

namespace WidgetRepair

open Text

variable {line front back rest : List Char}

namespace Text

theorem lines_eq_nil {text : List Char} : lines text = [] ↔ text = [] := by
  constructor
  · fun_cases lines text <;> simp
  · rintro rfl
    rfl

/-- Where a line boundary cuts a text, it cuts its lines. -/
theorem lines_append {front : List Char} (back : List Char) (boundary : ∀ c ∈ front.getLast?, c = '\n') :
    lines (front ++ back) = lines front ++ lines back := by
  have behind {c : Char} {rest : List Char} (boundary : ∀ d ∈ (c :: rest).getLast?, d = '\n') :
      ∀ d ∈ rest.getLast?, d = '\n' := by
    cases rest with
    | nil => simp
    | cons d more => simpa using boundary
  fun_induction lines front with
  | case1 => rfl
  | case2 rest ih => simpa [lines] using ih (behind (behind boundary))
  | case3 rest ih => simpa [lines] using ih (behind boundary)
  | case4 c rest _ plain none ih =>
    rw [lines_eq_nil.mp none] at boundary
    exact absurd (boundary c rfl) plain
  | case5 c rest noReturn plain first others some ih =>
    have filled : rest ≠ [] := fun none => by simp [none, lines] at some
    obtain ⟨d, more, rfl⟩ := List.exists_cons_of_ne_nil filled
    have joined := ih (behind boundary)
    rw [some] at joined
    rw [List.cons_append, lines, joined]
    · rfl
    · rintro back rfl start
      exact noReturn more rfl (by cases start; rfl)
    · exact plain

theorem trimEnd_append (filled : ∃ c ∈ back, isBlank c = false) (front : List Char) :
    trimEnd (front ++ back) = front ++ trimEnd back := by
  have kept : (back.reverse.dropWhile isBlank).isEmpty = false := by
    rw [List.isEmpty_eq_false_iff, ne_eq, List.dropWhile_eq_nil_iff]
    obtain ⟨c, member, filled⟩ := filled
    exact fun blank => absurd (blank c (List.mem_reverse.mpr member)) (by simp [filled])
  unfold trimEnd
  rw [List.reverse_append, List.dropWhile_append, kept, if_neg Bool.false_ne_true, List.reverse_append,
    List.reverse_reverse]

theorem filled_of_trimStart {c : Char} (first : trimStart line = c :: rest) : isBlank c = false := by
  have stops := List.head?_dropWhile_not isBlank line
  rw [trimStart] at first
  rwa [first] at stops

/-- White space stands between the intervals of word characters. -/
theorem outside_of_blank {c : Char} (blank : isBlank c = true) : isWord c = false := by
  have apart : wordIntervals.all (fun span => (span.2 < 0x85 || 0x85 < span.1) && (span.2 < 0xA0 || 0xA0 < span.1) &&
      (span.2 < 0x1680 || 0x1680 < span.1) && (span.2 < 0x2000 || 0x200A < span.1) &&
      (span.2 < 0x2028 || 0x2029 < span.1) && (span.2 < 0x202F || 0x202F < span.1) &&
      (span.2 < 0x205F || 0x205F < span.1) && (span.2 < 0x3000 || 0x3000 < span.1)) = true := by decide +kernel
  have ascii : ∀ n ∈ [9, 10, 11, 12, 13, 0x20], isWord (Char.ofNat n) = false := by decide
  simp only [isBlank, Bool.or_eq_true, Bool.and_eq_true, decide_eq_true_eq, beq_iff_eq] at blank
  by_cases low : c.toNat < 0x80
  · have among := ascii c.toNat (by simp only [List.mem_cons, List.not_mem_nil, or_false]; omega)
    rwa [Char.ofNat_toNat] at among
  · rw [isWord, if_neg low, within, List.any_eq_false]
    rintro ⟨first, last⟩ member
    have outside := List.all_eq_true.mp apart _ member
    simp only [Bool.or_eq_true, Bool.and_eq_true, decide_eq_true_eq] at outside ⊢
    omega

/-- What is left of a text starts where white space ends. -/
theorem head?_trim (line : List Char) : (trim line).head? = (trimStart line).head? := by
  unfold trim
  cases first : trimStart line with
  | nil => rfl
  | cons c rest =>
    have filled := filled_of_trimStart first
    obtain ⟨cut, whole⟩ := List.rdropWhile_prefix isBlank (l := c :: rest)
    have some : trimEnd (c :: rest) ≠ [] := fun none => by
      have blank := (List.rdropWhile_eq_nil_iff (p := isBlank) (l := c :: rest)).mp none
      exact absurd (blank c List.mem_cons_self) (by simp [filled])
    obtain ⟨d, more, start⟩ := List.exists_cons_of_ne_nil some
    change trimEnd (c :: rest) ++ cut = c :: rest at whole
    rw [start, List.cons_append, List.cons.injEq] at whole
    rw [start, whole.1, List.head?_cons, List.head?_cons]

end Text

namespace Diagnostic

section ErrorLike

variable {test : Option Char → List Char → Bool} {before : Option Char}

theorem anywhere_append (front : List Char) (found : anywhere test (front.getLast?.or before) rest = true) :
    anywhere test before (front ++ rest) = true := by
  induction front generalizing before with
  | nil => exact found
  | cons c front ih =>
    rw [List.cons_append, anywhere, Bool.or_eq_true]
    refine .inr (ih ?_)
    cases front with
    | nil => exact found
    | cons d more =>
      rw [List.getLast?_eq_some_getLast (List.cons_ne_nil d more), Option.some_or]
      rwa [List.getLast?_cons_cons, List.getLast?_eq_some_getLast (List.cons_ne_nil d more), Option.some_or] at found

/-- A test that asks whether a word begins at a place. -/
def Edged (test : Option Char → List Char → Bool) : Prop :=
  ∀ c text, isWord c = false → test (some c) text = test none text

theorem wordEdge_outside {c : Char} (outside : isWord c = false) (next : Option Char) :
    wordEdge (some c) next = wordEdge none next := by
  simp [wordEdge, outside]

theorem edged_looseWord (word : List Char) : Edged (looseWord word) := fun c text outside => by
  simp only [looseWord, wordEdge_outside outside]

theorem edged_exactWord (word : List Char) : Edged (exactWord word) := fun c text outside => by
  simp only [exactWord, wordEdge_outside outside]

theorem edged_errorCode : Edged errorCode := fun c text outside => by
  unfold errorCode
  split
  · rw [wordEdge_outside outside]
  · rfl

theorem Edged.anywhere_append (edged : Edged test) (outside : ∀ c ∈ front.getLast?, isWord c = false)
    (found : anywhere test none rest = true) : anywhere test none (front ++ rest) = true := by
  refine Diagnostic.anywhere_append front ?_
  cases last : front.getLast? with
  | none => exact found
  | some c =>
    cases rest with
    | nil => rwa [Option.some_or, anywhere, edged c [] (outside c last)]
    | cons d more => rwa [Option.some_or, anywhere, edged c (d :: more) (outside c last)]

theorem occurs_append {needle : List Char} (front : List Char) (found : occurs needle rest = true) :
    occurs needle (front ++ rest) = true :=
  occurs_iff.mpr (List.infix_append_of_infix_right (occurs_iff.mp found))

/-- A text that reads like an error still does so behind a character that is not part of a word. -/
theorem errorLike_append (outside : ∀ c ∈ front.getLast?, isWord c = false) (reads : errorLike rest = true) :
    errorLike (front ++ rest) = true := by
  unfold errorLike at reads ⊢
  simp only [Bool.or_eq_true] at reads ⊢
  refine reads.imp (.imp (.imp (.imp ?_ ?_) ?_) ?_) ?_
  · exact (edged_looseWord _).anywhere_append outside
  · exact occurs_append front
  · exact edged_errorCode.anywhere_append outside
  · exact (edged_exactWord _).anywhere_append outside
  · exact occurs_append front

end ErrorLike

/-- A place that a compiler reports an error for. -/
structure Place where
  file : List Char
  row : List Char
  column : List Char
  named : file ≠ []
  plain : file.all fun c => !isBlank c && c != '('
  visible : file.head? ≠ some '>'
  rowDigits : row ≠ [] ∧ row.all isDigit
  columnDigits : column ≠ [] ∧ column.all isDigit

namespace Place

/-- A place as it stands in front of a message: `file(line,column):`. -/
def text (p : Place) : List Char := p.file ++ ['('] ++ p.row ++ [','] ++ p.column ++ [')', ':']

theorem getLast?_text (p : Place) : p.text.getLast? = some ':' := by
  rw [text, List.getLast?_append]
  rfl

theorem text_cons (p : Place) : ∃ c more, p.text = c :: more ∧ isBlank c = false ∧ c ≠ '>' := by
  obtain ⟨c, more, first⟩ := List.exists_cons_of_ne_nil p.named
  have plain := List.all_eq_true.mp p.plain c (first ▸ List.mem_cons_self)
  rw [Bool.and_eq_true, Bool.not_eq_true'] at plain
  refine ⟨c, more ++ ['('] ++ p.row ++ [','] ++ p.column ++ [')', ':'], by simp [text, first], plain.1, ?_⟩
  rintro rfl
  exact p.visible (first ▸ List.head?_cons)

theorem takeWhile_digits {digits : List Char} (all : digits.all isDigit) {stop : Char}
    (stops : isDigit stop = false) (more : List Char) : (digits ++ stop :: more).takeWhile isDigit = digits := by
  rw [List.takeWhile_append_of_pos (List.all_eq_true.mp all), List.takeWhile_cons_of_neg (by simp [stops]),
    List.append_nil]

theorem takeWhile_file (p : Place) (rest : List Char) :
    (p.file ++ '(' :: rest).takeWhile (fun c => !isBlank c && c != '(') = p.file := by
  rw [List.takeWhile_append_of_pos (List.all_eq_true.mp p.plain), List.takeWhile_cons_of_neg (by simp),
    List.append_nil]

/-- Behind a place stands the message, without the white space in front of it. -/
theorem afterPlace?_text (p : Place) (rest : List Char) : afterPlace? (p.text ++ rest) = some (trimStart rest) := by
  have split : p.text ++ rest = p.file ++ '(' :: (p.row ++ ',' :: (p.column ++ ')' :: ':' :: rest)) := by simp [text]
  have row := takeWhile_digits p.rowDigits.2 (by decide : isDigit ',' = false) (p.column ++ ')' :: ':' :: rest)
  have column := takeWhile_digits p.columnDigits.2 (by decide : isDigit ')' = false) (':' :: rest)
  have filled {part : List Char} (some : part ≠ []) : guard (f := Option) ((!part.isEmpty) = true) = .some () :=
    if_pos (by simp [some])
  have opened (rest : List Char) : after? ['('] ('(' :: rest) = some rest := rfl
  have parted (rest : List Char) : after? [','] (',' :: rest) = some rest := rfl
  have closed (rest : List Char) : after? [')', ':'] (')' :: ':' :: rest) = some rest := rfl
  rw [split, afterPlace?]
  dsimp only [Option.bind_eq_bind]
  rw [p.takeWhile_file, filled p.named, Option.bind_some, List.drop_left, opened, Option.bind_some, row, filled p.rowDigits.1,
    Option.bind_some, List.drop_left, parted, Option.bind_some, column, filled p.columnDigits.1, Option.bind_some,
    List.drop_left, closed, Option.bind_some, Option.pure_def]

end Place

/-- A line that carries no error: one of white space, or the announcement of a script. -/
def Quiet (line : List Char) : Prop := (trimStart line).head?.all (· == '>')

instance : DecidablePred Quiet := fun line =>
  inferInstanceAs (Decidable ((trimStart line).head?.all (· == '>') = true))

/-- A line that carries an error and reads like one. -/
def Reports (line : List Char) : Prop := ¬ Quiet line ∧ errorLike (trim line) = true

instance : DecidablePred Reports := fun line =>
  inferInstanceAs (Decidable (¬ Quiet line ∧ errorLike (trim line) = true))

/-- A change to an output that leaves alone what is said of the error. -/
inductive Noise (text changed : String) : Prop
  /-- Quiet lines come in between. -/
  | inserted (front more back : List (List Char)) (quiet : ∀ line ∈ more, Quiet line)
      (here : lines text.toList = front ++ back) (there : lines changed.toList = front ++ (more ++ back))
  /-- The first report is followed by other lines. -/
  | replaced (front : List (List Char)) (line : List Char) (back back' : List (List Char))
      (clear : ∀ l ∈ front, ¬ Reports l) (reports : Reports line) (here : lines text.toList = front ++ line :: back)
      (there : lines changed.toList = front ++ line :: back')
  /-- The first report is made for another place. -/
  | moved (front : List (List Char)) (indent : List Char) (p q : Place) (message : List Char)
      (back : List (List Char)) (clear : ∀ l ∈ front, ¬ Reports l) (blank : ∀ c ∈ indent, isBlank c = true)
      (reports : errorLike (trim message) = true)
      (here : lines text.toList = front ++ (indent ++ (p.text ++ message)) :: back)
      (there : lines changed.toList = front ++ (indent ++ (q.text ++ message)) :: back)
  /-- A line has other white space around it. -/
  | respaced (front : List (List Char)) (line line' : List Char) (back : List (List Char))
      (same : trim line' = trim line) (here : lines text.toList = front ++ line :: back)
      (there : lines changed.toList = front ++ line' :: back)

/-- Whole lines come into an output where one of its lines begins. -/
theorem Noise.of_quiet {front more : String} (back : String) (boundary : ∀ c ∈ front.toList.getLast?, c = '\n')
    (ended : ∀ c ∈ more.toList.getLast?, c = '\n') (quiet : ∀ line ∈ lines more.toList, Quiet line) :
    Noise (front ++ back) (front ++ (more ++ back)) := by
  refine .inserted (lines front.toList) (lines more.toList) (lines back.toList) quiet ?_ ?_
  · rw [String.toList_append, lines_append _ boundary]
  · rw [String.toList_append, String.toList_append, lines_append _ boundary, lines_append _ ended]

theorem quiet_iff : Quiet line ↔ (!(trim line).isEmpty && (trim line).head? != some '>') = false := by
  unfold Quiet
  rw [← head?_trim]
  cases trim line <;> simp

theorem candidates_eq (text : List Char) :
    candidates text = ((lines text).filter fun line => ¬ Quiet line).map trim := by
  unfold candidates
  rw [List.filter_map]
  refine congrArg (List.map trim) (List.filter_congr fun line _ => ?_)
  rw [Function.comp_apply, Bool.eq_iff_iff, decide_eq_true_eq, quiet_iff, Bool.not_eq_false]

/-- The first line that reports an error is the one that identifies it. -/
theorem errorLine_first {text : List Char} {front back : List (List Char)} (clear : ∀ l ∈ front, ¬ Reports l)
    (reports : Reports line) (split : lines text = front ++ line :: back) : errorLine text = trim line := by
  have passed : ((front.filter fun line => ¬ Quiet line).map trim).find? errorLike = none := by
    rw [List.find?_eq_none]
    rintro _ among reads
    obtain ⟨l, kept, rfl⟩ := List.mem_map.mp among
    obtain ⟨member, loud⟩ := List.mem_filter.mp kept
    exact clear l member ⟨of_decide_eq_true loud, reads⟩
  have found : (candidates text).find? errorLike = some (trim line) := by
    rw [candidates_eq, split, List.filter_append, List.filter_cons_of_pos (by simpa using reports.1),
      List.map_append, List.map_cons, List.find?_append, passed, Option.none_or, List.find?_cons_of_pos reports.2]
  unfold errorLine
  rw [found]

theorem filled_of_errorLike (reads : errorLike (trim line) = true) : ∃ c ∈ trimStart line, isBlank c = false := by
  cases first : trimStart line with
  | nil =>
    rw [trim, first] at reads
    exact absurd reads (by decide)
  | cons c rest => exact ⟨c, List.mem_cons_self, filled_of_trimStart first⟩

section Moved

variable {indent message : List Char} (p : Place)

/-- A report of a message for a place, without the white space around it. -/
theorem trim_report (blank : ∀ c ∈ indent, isBlank c = true) (reads : errorLike (trim message) = true) :
    trim (indent ++ (p.text ++ message)) = p.text ++ (message.takeWhile isBlank ++ trim message) := by
  obtain ⟨c, more, first, filled, -⟩ := p.text_cons
  have start : trimStart (p.text ++ message) = p.text ++ message := by
    simp [trimStart, first, filled]
  have whole : p.text ++ message = p.text ++ message.takeWhile isBlank ++ trimStart message := by
    rw [List.append_assoc, trimStart, List.takeWhile_append_dropWhile]
  rw [trim, trimStart, List.dropWhile_append_of_pos blank, ← trimStart, start, whole,
    trimEnd_append (filled_of_errorLike reads), List.append_assoc]
  rfl

theorem reports_report (blank : ∀ c ∈ indent, isBlank c = true) (reads : errorLike (trim message) = true) :
    Reports (indent ++ (p.text ++ message)) := by
  have trimmed := trim_report p blank reads
  refine ⟨fun quiet => ?_, ?_⟩
  · obtain ⟨c, more, first, -, visible⟩ := p.text_cons
    have start : (trim (indent ++ (p.text ++ message))).head? = some c := by rw [trimmed, first]; rfl
    rw [Quiet, ← head?_trim, start] at quiet
    exact visible (beq_iff_eq.mp quiet)
  · rw [trimmed, ← List.append_assoc]
    refine errorLike_append (fun c last => ?_) reads
    rw [List.getLast?_append, p.getLast?_text] at last
    cases gap : (message.takeWhile isBlank).getLast? with
    | none =>
      rw [gap] at last
      cases last
      decide
    | some d =>
      rw [gap] at last
      cases last
      exact outside_of_blank (List.mem_takeWhile_imp (List.mem_of_getLast? gap))

end Moved

/-- An error has the same summary among other noise. -/
theorem Noise.summary {text changed : String} (noise : Noise text changed) :
    errorSummary changed.toList = errorSummary text.toList := by
  have same (carried : candidates changed.toList = candidates text.toList) :
      errorSummary changed.toList = errorSummary text.toList := by
    unfold errorSummary errorLine
    rw [carried]
  cases noise with
  | inserted front more back quiet here there =>
    have none : more.filter (fun line => ¬ Quiet line) = [] := by simpa [List.filter_eq_nil_iff] using quiet
    refine same ?_
    rw [candidates_eq, candidates_eq, here, there, List.filter_append, List.filter_append, List.filter_append, none,
      List.nil_append]
  | replaced front line back back' clear reports here there =>
    unfold errorSummary
    rw [errorLine_first clear reports here, errorLine_first clear reports there]
  | moved front indent p q message back clear blank reports here there =>
    unfold errorSummary
    rw [errorLine_first clear (reports_report p blank reports) here, trim_report p blank reports,
      errorLine_first clear (reports_report q blank reports) there, trim_report q blank reports]
    simp only [Place.afterPlace?_text, Option.getD_some]
  | respaced front line line' back alike here there =>
    refine same ?_
    unfold candidates
    rw [here, there, List.map_append, List.map_append, List.map_cons, List.map_cons, alike]

theorem summary_of_noises {text changed : String} (noises : Relation.ReflTransGen Noise text changed) :
    errorSummary changed.toList = errorSummary text.toList := by
  induction noises with
  | refl => rfl
  | tail _ noise ih => exact noise.summary.trans ih

/-- Two outputs that are taken for the same error. -/
structure SameError (text changed : String) : Prop where
  summary : errorSummary changed.toList = errorSummary text.toList
  signature : signature changed = signature text
  keywords : keywords (errorSummary changed.toList) = keywords (errorSummary text.toList)
  learned : OnStore.learn changed = OnStore.learn text

end Diagnostic

open Diagnostic

/-- Noise does not make another error of one: the same signature and keywords are taken from the output, and on
every store the same is learned from it. -/
theorem noise_keeps_error {text changed : String} (noises : Relation.ReflTransGen Noise text changed) :
    SameError text changed := by
  have summary := summary_of_noises noises
  have signature : signature changed = signature text := by
    unfold Diagnostic.signature
    rw [summary]
  refine ⟨summary, signature, congrArg keywords summary, ?_⟩
  funext description fix success stamp
  unfold OnStore.learn
  rw [signature, summary]

namespace Badge

def place : Place where
  file := "src/Badge.tsx".toList
  row := "4".toList
  column := "9".toList
  named := by decide
  plain := by decide
  visible := by decide
  rowDigits := by decide
  columnDigits := by decide

def otherPlace : Place where
  file := "lib/Rating.tsx".toList
  row := "12".toList
  column := "30".toList
  named := by decide
  plain := by decide
  visible := by decide
  rowDigits := by decide
  columnDigits := by decide

def message : List Char := " error TS2304: Cannot find name 'React'.".toList

def output : String := "src/Badge.tsx(4,9): error TS2304: Cannot find name 'React'.\n"

def banner : String := "> badge@1.0.0 build\n\n"

def elsewhere : String := "> badge@1.0.0 build\n\nlib/Rating.tsx(12,30): error TS2304: Cannot find name 'React'.\n"

def followed : String :=
  "> badge@1.0.0 build\n\nlib/Rating.tsx(12,30): error TS2304: Cannot find name 'React'.\nnpm ERR! code 2\n"

end Badge

open Badge in
theorem badge_error_kept :
    Relation.ReflTransGen Noise output followed ∧ SameError output followed ∧
      signature followed = "error TS2304: Cannot find name 'React'." := by
  have spelled : message = _ := String.toList_ofList
  have announced : Noise ("" ++ output) ("" ++ (banner ++ output)) := by
    refine .of_quiet output (by simp) (by simp [banner]) ?_
    rw [banner, String.toList_ofList]
    decide
  have moved : Noise ("" ++ (banner ++ output)) elsewhere := by
    refine .moved ["> badge@1.0.0 build".toList, []] [] place otherPlace message [] (by decide) (by simp) ?_ ?_ ?_
    · rw [spelled]
      decide
    · rw [String.empty_append, String.toList_append, spelled, banner, output, String.toList_ofList, String.toList_ofList]
      decide
    · rw [elsewhere, spelled, String.toList_ofList, String.toList_ofList]
      decide
  have more : Noise elsewhere followed := by
    refine .replaced ["> badge@1.0.0 build".toList, []] (otherPlace.text ++ message) [] ["npm ERR! code 2".toList]
      (by decide) ?_ ?_ ?_
    · rw [spelled]
      decide
    · rw [elsewhere, spelled, String.toList_ofList, String.toList_ofList]
      decide
    · rw [followed, spelled, String.toList_ofList, String.toList_ofList, String.toList_ofList]
      decide
  have noises := ((Relation.ReflTransGen.single announced).tail moved).tail more
  rw [String.empty_append] at noises
  refine ⟨noises, noise_keeps_error noises, ?_⟩
  rw [signature, followed, String.toList_ofList]
  decide

end WidgetRepair
