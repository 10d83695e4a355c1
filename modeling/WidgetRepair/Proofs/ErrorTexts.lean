import WidgetRepair.Diagnostic.Keyword
import WidgetRepair.Diagnostic.Signature
import WidgetRepair.Proofs.FloatValues
import WidgetRepair.Proofs.TextParts

/-! What is taken from the output of a build to find an error again stands in that output: the
signature as it is, the keywords in lower case. -/

namespace WidgetRepair.Diagnostic

open Binary64 Text

theorem errorLine_within (text : List Char) :
    errorLine text = [] ∨ ∃ line ∈ lines text, errorLine text <:+: line := by
  have within {line} (member : line ∈ candidates text) : ∃ whole ∈ lines text, line <:+: whole := by
    obtain ⟨whole, mem, rfl⟩ := List.mem_map.mp (List.mem_filter.mp member).1
    exact ⟨whole, mem, trim_part whole⟩
  unfold errorLine
  split
  · next line found => exact .inr (within (List.mem_of_find?_eq_some found))
  · cases lines : candidates text with
    | nil => exact .inl rfl
    | cons first others => exact .inr (within (by rw [lines]; exact List.mem_cons_self))

theorem afterPlace?_suffix {line rest : List Char} (found : afterPlace? line = some rest) :
    rest <:+ line := by
  simp only [afterPlace?, Option.bind_eq_bind, Option.bind_eq_some_iff, Option.pure_def,
    Option.some.injEq] at found
  obtain ⟨-, -, second, opened, -, -, third, comma, -, -, last, closed, rfl⟩ := found
  calc trimStart last <:+ last := List.dropWhile_suffix isBlank
    _ <:+ third := (after?_suffix closed).trans (List.drop_suffix _ _)
    _ <:+ second := (after?_suffix comma).trans (List.drop_suffix _ _)
    _ <:+ line := (after?_suffix opened).trans (List.drop_suffix _ _)

/-- What sums an error up stands in one line, unless there is nothing. -/
theorem errorSummary_within (text : List Char) :
    errorSummary text = [] ∨ ∃ line ∈ lines text, errorSummary text <:+: line := by
  have part : errorSummary text <:+: errorLine text := by
    unfold errorSummary
    dsimp only
    cases found : afterPlace? (errorLine text) with
    | none => exact List.infix_rfl
    | some rest => exact (afterPlace?_suffix found).isInfix
  obtain none | ⟨line, member, within⟩ := errorLine_within text
  · rw [none] at part
    exact .inl (List.infix_nil.mp part)
  · exact .inr ⟨line, member, part.trans within⟩

theorem errorSummary_part (text : List Char) : errorSummary text <:+: text := by
  obtain none | ⟨line, member, within⟩ := errorSummary_within text
  · rw [none]
    exact List.nil_infix
  · exact within.trans (lines_part member)

/-- The signature of an error stands in the text it is taken from. -/
theorem contains_signature (text : String) : contains text (signature text) = true := by
  rw [contains_iff, signature, String.toList_ofList]
  exact (List.take_prefix _ _).isInfix.trans (errorSummary_part _)

theorem ascii_of_isKeywordChar {c : Char} (is : isKeywordChar c = true) : c.toNat < 0x80 := by
  rw [isKeywordChar, Bool.or_eq_true, Bool.or_eq_true, beq_iff_eq, beq_iff_eq] at is
  obtain (alphanum | rfl) | rfl := is
  · exact ascii_of_isAlphanum alphanum
  · decide
  · decide

theorem normalized_eq (token : List Char) :
    ∃ inner, inner <:+: token ∧ normalized token = inner.map Char.toLower := by
  have back := (List.dropWhile_suffix (· == '-') (l := (token.dropWhile (· == '-')).reverse)).isInfix
  rw [← List.reverse_infix, List.reverse_reverse] at back
  exact ⟨_, back.trans (List.dropWhile_suffix _).isInfix, rfl⟩

/-- A keyword is a plain part of its text in lower case. -/
theorem keyword_part {text : List Char} {keyword : String} (member : keyword ∈ keywords text) :
    ∃ part, part <:+: text ∧ Plain part ∧ keyword.toList = part.map Char.toLower ∧ part ≠ [] := by
  obtain ⟨word, among, rfl⟩ := List.mem_map.mp member
  have token := List.mem_eraseDups.mp (List.mem_of_mem_take among)
  obtain ⟨token, long⟩ := List.mem_filter.mp token
  obtain ⟨run, found, rfl⟩ := List.mem_map.mp token
  obtain ⟨within, uncut⟩ := mem_splitWhere found
  obtain ⟨part, inner, lower⟩ := normalized_eq run
  refine ⟨part, inner.trans within, fun c among => ?_, by rw [String.toList_ofList, lower], ?_⟩
  · exact ascii_of_isKeywordChar (by simpa using uncut c (inner.subset among))
  · rintro rfl
    rw [lower] at long
    exact absurd long (by decide)

/-- A keyword of a part of a text is found in the text when both are in lower case. -/
theorem contains_keyword {text : String} {part : List Char} {keyword : String}
    (member : keyword ∈ keywords part) (within : part <:+: text.toList) :
    keyword ≠ "" ∧ contains (lowered text) (lowered keyword) = true := by
  obtain ⟨word, inner, plain, lower, some⟩ := keyword_part member
  have kept : Text.lower keyword.toList = word.map Char.toLower := by
    rw [lower, lower_plain (plain_toLower plain), List.map_map]
    exact List.map_congr_left fun c among => (toLower_plain (plain c among)).2
  refine ⟨?_, ?_⟩
  · rintro rfl
    exact some (List.map_eq_nil_iff.mp lower.symm)
  · rw [contains_iff, lowered, lowered, String.toList_ofList, String.toList_ofList, kept]
    exact lower_part plain (inner.trans within)

theorem reads_threshold : Reads similarityThreshold (6305039478318694 * 2 ^ (-53 : Int) : Rat) :=
  reads_of_parts (by decide : parts? similarityThreshold = some (6305039478318694, -53)) rfl

/-- Two sets of keywords that are similar share one. -/
theorem shared_of_similar {a b : List String} (similar : similarityThreshold < similarity a b) :
    ∃ keyword ∈ a, keyword ∈ b := by
  by_contra apart
  have none : a.eraseDups.filter b.eraseDups.contains = [] := by
    rw [List.filter_eq_nil_iff]
    intro keyword left right
    refine apart ⟨keyword, List.mem_eraseDups.mp left, List.mem_eraseDups.mp ?_⟩
    exact List.contains_iff_mem.mp right
  unfold similarity at similar
  split at similar
  · exact absurd similar (by decide)
  · dsimp only at similar
    rw [none] at similar
    exact reads_threshold.not_lt_zero_div _ similar

end WidgetRepair.Diagnostic
