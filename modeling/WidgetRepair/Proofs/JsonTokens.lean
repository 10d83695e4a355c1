import Mathlib
import WidgetRepair.Json.Draft
import WidgetRepair.Json.Printer

/-! The pieces of a printed JSON text that hold no other pieces are read back as they were: quoted
texts with their escapes, and numerals. -/

namespace WidgetRepair.Json

theorem hexValue?_hexDigit (n : Nat) : hexValue? (hexDigit n) = some (n % 16) := by
  have small : ∀ k < 16, hexValue? (Nat.digitChar k) = some k := by decide
  exact small (n % 16) (Nat.mod_lt n (by decide))

/-- How a character stands in a quoted text. -/
inductive Escaped (c : Char) : List Char → Prop where
  | short {e : Char} (letter : e ≠ 'u') (stands : shortEscape? e = some c) : Escaped c ['\\', e]
  | hex {a b : Char} (control : c.toNat < 32) (stands : hex4? '0' '0' a b = some c.toNat) :
    Escaped c ['\\', 'u', '0', '0', a, b]
  | plain (quote : c ≠ '"') (backslash : c ≠ '\\') (printable : 32 ≤ c.toNat) : Escaped c [c]

theorem escapeChar_escaped (c : Char) : Escaped c (escapeChar c) := by
  have named (n : Nat) (valid : n.isValidChar) (same : c.toNat = n) : Char.ofNat n = c := by
    rw [← same, Char.ofNat_toNat]
  unfold escapeChar
  split
  · next same => exact .short (by decide) (by rw [same]; rfl)
  split
  · next same => exact .short (by decide) (by rw [same]; rfl)
  split
  · next same => exact .short (by decide) (by rw [same]; rfl)
  split
  · next same => exact .short (by decide) (by rw [same]; rfl)
  split
  · next same => exact .short (by decide) (by rw [same]; rfl)
  split
  · next same => exact .short (by decide) (congrArg some (named 8 (by decide) same))
  split
  · next same => exact .short (by decide) (congrArg some (named 12 (by decide) same))
  split
  · next control =>
    refine .hex control ?_
    have zero : hexValue? '0' = some 0 := by decide
    simp only [hex4?, zero, hexValue?_hexDigit]
    show some _ = some _
    congr 1
    omega
  · next quote backslash _ _ _ _ _ control => exact .plain quote backslash (Nat.le_of_not_lt control)

theorem scanText_escape (c : Char) (rest : List Char) :
    scanText (escapeChar c ++ rest) = (scanText rest).map fun p => (c :: p.1, p.2) := by
  have escaped := escapeChar_escaped c
  generalize escapeChar c = text at escaped
  cases escaped with
  | short letter stands =>
    simp [scanText, letter, stands]
    cases scanText rest <;> rfl
  | hex control stands =>
    have low : isLowHalf c.toNat = false := by simp [isLowHalf]; omega
    have high : isHighHalf c.toNat = false := by simp [isHighHalf]; omega
    simp [scanText, stands, low, high]
    cases scanText rest <;> rfl
  | plain quote backslash printable =>
    simp [scanText, backslash, Nat.not_lt.mpr printable]
    cases scanText rest <;> rfl

theorem skipText_escape (c : Char) (rest : List Char) : skipText (escapeChar c ++ rest) = skipText rest := by
  have escaped := escapeChar_escaped c
  generalize escapeChar c = text at escaped
  cases escaped with
  | short letter stands => simp [skipText, letter, stands]
  | hex control stands => simp [skipText, stands]
  | plain quote backslash printable => simp [skipText, backslash, Nat.not_lt.mpr printable]

theorem scanText_escapes (text rest : List Char) :
    scanText (text.flatMap escapeChar ++ '"' :: rest) = .ok (text, rest) := by
  induction text with
  | nil => rfl
  | cons c text ih => rw [List.flatMap_cons, List.append_assoc, scanText_escape, ih]; rfl

theorem skipText_escapes (text rest : List Char) :
    skipText (text.flatMap escapeChar ++ '"' :: rest) = .ok rest := by
  induction text with
  | nil => rfl
  | cons c text ih => rw [List.flatMap_cons, List.append_assoc, skipText_escape, ih]

/-- A quoted text is read back, whatever characters it holds. -/
theorem quotedText_escapes (s : String) (rest : List Char) :
    Draft.quotedText (s.toList.flatMap escapeChar ++ '"' :: rest) = (.text (.ok s), some rest) := by
  unfold Draft.quotedText
  simp only [skipText_escapes, scanText_escapes, String.ofList_toList]

/-- What follows a run of digits. -/
def NoDigit (rest : List Char) : Prop := ∀ c ∈ rest.head?, isDigit c = false

/-- What can follow a numeral without being taken for a part of it. -/
def NoNumeral (rest : List Char) : Prop :=
  ∀ c ∈ rest.head?, isDigit c = false ∧ c ≠ '.' ∧ c ≠ 'e' ∧ c ≠ 'E'

def Digits (text : List Char) : Prop := text ≠ [] ∧ ∀ c ∈ text, isDigit c = true

theorem NoNumeral.noDigit {rest : List Char} (ends : NoNumeral rest) : NoDigit rest :=
  fun c member => (ends c member).1

/-- Only zero is written with a zero in front. -/
theorem head_toDigits {n : Nat} (led : (Nat.toDigits 10 n).head? = some '0') : n = 0 := by
  induction n using Nat.strongRecOn with
  | ind n ih =>
    by_cases small : n < 10
    · rw [Nat.toDigits_of_lt_base small] at led
      have digit : ∀ k < 10, [Nat.digitChar k].head? = some '0' → k = 0 := by decide
      exact digit n small led
    · obtain ⟨c, more, front⟩ := List.exists_cons_of_ne_nil (Nat.toDigits_ne_nil (n := n / 10) (b := 10))
      rw [Nat.toDigits_of_base_le (by decide) (Nat.le_of_not_lt small), front] at led
      have := ih (n / 10) (by omega) (front ▸ led)
      omega

theorem noDigit_cons {c : Char} {rest : List Char} (other : isDigit c = false) : NoDigit (c :: rest) := by
  rintro d ⟨⟩
  exact other

theorem digits_toDigits (n : Nat) : Digits (Nat.toDigits 10 n) := by
  refine ⟨Nat.toDigits_ne_nil, fun c member => ?_⟩
  have digit : c.isDigit = true := Nat.isDigit_of_mem_toDigits (by decide) (by decide) member
  exact digit

section Runs

variable {digits rest : List Char}

theorem takeWhile_digits (all : ∀ c ∈ digits, isDigit c = true) (ends : NoDigit rest) :
    (digits ++ rest).takeWhile isDigit = digits := by
  rw [List.takeWhile_append_of_pos all]
  cases rest with
  | nil => simp
  | cons c rest => simp [ends c rfl]

theorem dropWhile_digits (all : ∀ c ∈ digits, isDigit c = true) (ends : NoDigit rest) :
    (digits ++ rest).dropWhile isDigit = rest := by
  rw [List.dropWhile_append_of_pos all]
  cases rest with
  | nil => rfl
  | cons c rest => simp [ends c rfl]

theorem someDigits_digits (digit : Digits digits) (ends : NoDigit rest) :
    someDigits (digits ++ rest) = .ok (digits, rest) := by
  unfold someDigits
  simp [takeWhile_digits digit.2 ends, dropWhile_digits digit.2 ends, digit.1]

end Runs

namespace Numeral

def fractionText : Option (List Char) → List Char
  | none => []
  | some digits => '.' :: digits

/-- An exponent always shows its sign. -/
def exponentText : Option (Bool × List Char) → List Char
  | none => []
  | some (downward, digits) => 'e' :: (if downward then '-' else '+') :: digits

def text (n : Numeral) : List Char :=
  (if n.negative then ['-'] else []) ++
    (n.whole ++ (fractionText n.fraction ++ exponentText n.exponent))

/-- A numeral that can be written: there are digits wherever they are due, and no zero in front. -/
structure Proper (n : Numeral) : Prop where
  whole : Digits n.whole
  led : n.whole.head? = some '0' → n.whole.length ≤ 1
  fraction : ∀ digits ∈ n.fraction, Digits digits
  exponent : ∀ part ∈ n.exponent, Digits part.2

variable {n : Numeral} {rest : List Char}

theorem noDigit_exponentText (exponent : Option (Bool × List Char)) (ends : NoNumeral rest) :
    NoDigit (exponentText exponent ++ rest) := by
  cases exponent with
  | none => exact ends.noDigit
  | some part => exact noDigit_cons (by decide)

theorem noDigit_fractionText (fraction : Option (List Char)) (exponent : Option (Bool × List Char))
    (ends : NoNumeral rest) : NoDigit (fractionText fraction ++ (exponentText exponent ++ rest)) := by
  cases fraction with
  | none => exact noDigit_exponentText exponent ends
  | some digits => exact noDigit_cons (by decide)

theorem scanWhole_text (proper : n.Proper) (ends : NoDigit rest) :
    scanWhole (n.whole ++ rest) = .ok (n.whole, rest) := by
  unfold scanWhole
  rw [someDigits_digits proper.whole ends]
  have led : (n.whole.head? = some '0' && decide (n.whole.length > 1)) = false := by
    have := proper.led
    simpa using this
  simp only [bind, Except.bind, led, Bool.false_eq_true, if_false]
  rfl

theorem scanFraction_text (proper : n.Proper) (ends : NoNumeral rest) :
    scanFraction (fractionText n.fraction ++ (exponentText n.exponent ++ rest)) =
      .ok (n.fraction, exponentText n.exponent ++ rest) := by
  cases fraction : n.fraction with
  | none =>
    cases exponent : n.exponent with
    | some part => rfl
    | none =>
      show scanFraction rest = .ok (none, rest)
      cases rest with
      | nil => rfl
      | cons c rest =>
        have point := (ends c rfl).2.1
        unfold scanFraction
        split
        · next same => cases same; exact absurd rfl point
        · rfl
  | some digits =>
    have digit := proper.fraction digits fraction
    have scanned := someDigits_digits digit (noDigit_exponentText n.exponent ends)
    show scanFraction ('.' :: (digits ++ _)) = _
    simp [scanFraction, scanned]

theorem scanExponent_text (proper : n.Proper) (ends : NoNumeral rest) :
    scanExponent (exponentText n.exponent ++ rest) = .ok (n.exponent, rest) := by
  cases exponent : n.exponent with
  | none =>
    show scanExponent rest = .ok (none, rest)
    cases rest with
    | nil => rfl
    | cons c rest =>
      obtain ⟨-, -, lower, upper⟩ := ends c rfl
      simp [scanExponent, lower, upper]
      rfl
  | some part =>
    have digit := proper.exponent part exponent
    obtain ⟨downward, digits⟩ := part
    have scanned := someDigits_digits digit ends.noDigit
    cases downward <;>
      · show scanExponent ('e' :: _ :: (digits ++ rest)) = _
        simp [scanExponent, scanned]

theorem scanNumeral_text (proper : n.Proper) (ends : NoNumeral rest) :
    scanNumeral (n.text ++ rest) = .ok (n, rest) := by
  obtain ⟨negative, whole, fraction, exponent⟩ := n
  have parts : scanWhole (whole ++ (fractionText fraction ++ (exponentText exponent ++ rest))) = _ :=
    scanWhole_text proper (noDigit_fractionText fraction exponent ends)
  have fractional := scanFraction_text proper ends
  have exponential := scanExponent_text proper ends
  have unsigned : ∀ c more, whole = c :: more → c ≠ '-' := by
    rintro c more rfl rfl
    exact absurd (proper.whole.2 _ List.mem_cons_self) (by decide)
  unfold scanNumeral text
  cases negative with
  | true => simp [parts, fractional, exponential, bind, Except.bind, pure, Except.pure]
  | false =>
    obtain ⟨c, more, first⟩ := List.exists_cons_of_ne_nil proper.whole.1
    have sign := unsigned c more first
    simp only at first
    subst first
    simp at parts
    simp [sign, parts, fractional, exponential, bind, Except.bind, pure, Except.pure]

/-- A numeral begins with a sign or a digit. -/
theorem text_head (proper : n.Proper) :
    ∃ c more, n.text = c :: more ∧ (c = '-' ∨ isDigit c = true) := by
  obtain ⟨c, more, first⟩ := List.exists_cons_of_ne_nil proper.whole.1
  have digit : isDigit c = true := proper.whole.2 c (first ▸ List.mem_cons_self)
  unfold text
  cases n.negative with
  | true => exact ⟨_, _, rfl, .inl rfl⟩
  | false => exact ⟨c, _, by rw [first]; rfl, .inr digit⟩

end Numeral

theorem le_ofDigitChars (digits : List Char) (k : Nat) : k ≤ Nat.ofDigitChars 10 digits k := by
  rw [Nat.ofDigitChars_eq_ofDigitChars_zero]
  have := Nat.le_mul_of_pos_left k (Nat.pow_pos (n := digits.length) (show 0 < 10 by decide))
  omega

/-- Digits that fit are all taken. -/
theorem takeDigits_all (digits : List Char) (k : Nat) (fits : Nat.ofDigitChars 10 digits k < naturalLimit) :
    takeDigits k digits = (Nat.ofDigitChars 10 digits k, []) := by
  induction digits generalizing k with
  | nil => rfl
  | cons c rest ih =>
    have next : k * 10 + digitValue c = 10 * k + (c.toNat - '0'.toNat) := by
      rw [Nat.mul_comm]
      rfl
    rw [Nat.ofDigitChars_cons] at fits ⊢
    have small := Nat.lt_of_le_of_lt (le_ofDigitChars rest _) fits
    unfold takeDigits
    simp only [next, small, if_true]
    exact ih _ fits

namespace Number

/-- A number whose text is that of a numeral with a value. -/
def Legible (n : Number) : Prop := ∃ k : Numeral, k.Proper ∧ k.text = n.text ∧ k.value?.isSome

/-- The number that the text of a number is read as. -/
def reread (n : Number) : Number :=
  match scanNumeral n.text with
  | .ok (k, _) => k.value?.getD n
  | .error _ => n

theorem reread_of_text {n : Number} {k : Numeral} {m : Number} (proper : k.Proper)
    (same : k.text = n.text) (value : k.value? = some m) : n.reread = m := by
  have scanned : scanNumeral (k.text ++ []) = .ok (k, []) := Numeral.scanNumeral_text proper nofun
  rw [List.append_nil, same] at scanned
  simp [reread, scanned, value]

theorem numeral_text {n : Number} {rest : List Char} (legible : n.Legible) (ends : NoNumeral rest) :
    Draft.numeral (n.text ++ rest) = (.number (.ok n.reread), some rest) := by
  obtain ⟨k, proper, same, some⟩ := legible
  obtain ⟨m, value⟩ := Option.isSome_iff_exists.mp some
  have scanned := Numeral.scanNumeral_text proper ends
  rw [same] at scanned
  simp [Draft.numeral, scanned, value, reread_of_text proper same value]

theorem text_head {n : Number} (legible : n.Legible) :
    ∃ c more, n.text = c :: more ∧ (c = '-' ∨ isDigit c = true) := by
  obtain ⟨k, proper, same, -⟩ := legible
  exact same ▸ Numeral.text_head proper

theorem proper_toDigits (negative : Bool) (n : Nat) : Numeral.Proper ⟨negative, Nat.toDigits 10 n, none, none⟩ where
  whole := digits_toDigits n
  led := by
    intro led
    rw [head_toDigits led]
    exact (by decide : (Nat.toDigits 10 0).length ≤ 1)
  fraction := nofun
  exponent := nofun

theorem value_toDigits (negative : Bool) {n : Nat} (fits : n < naturalLimit) :
    Numeral.value? ⟨negative, Nat.toDigits 10 n, none, none⟩ = some (wholeNumber negative n) := by
  have taken := takeDigits_all (Nat.toDigits 10 n) 0 (by rwa [Nat.ofDigitChars_ten_toDigits])
  rw [Nat.ofDigitChars_ten_toDigits] at taken
  simp [Numeral.value?, taken]

theorem text_toDigits (n : Nat) : Numeral.text ⟨false, Nat.toDigits 10 n, none, none⟩ = (natural n).text := by
  simp [Numeral.text, Numeral.fractionText, Numeral.exponentText, Number.text, naturalText]

theorem text_minusDigits (n : Nat) : Numeral.text ⟨true, Nat.toDigits 10 n, none, none⟩ = (negative n).text := by
  simp [Numeral.text, Numeral.fractionText, Numeral.exponentText, Number.text, naturalText]

theorem legible_natural {n : Nat} (fits : n < naturalLimit) : (natural n).Legible :=
  ⟨_, proper_toDigits false n, text_toDigits n, by rw [value_toDigits false fits]; rfl⟩

theorem legible_negative {n : Nat} (fits : n < naturalLimit) : (negative n).Legible :=
  ⟨_, proper_toDigits true n, text_minusDigits n, by rw [value_toDigits true fits]; rfl⟩

theorem reread_natural {n : Nat} (fits : n < naturalLimit) : (natural n).reread = natural n :=
  reread_of_text (proper_toDigits false n) (text_toDigits n) (value_toDigits false fits)

end Number

end WidgetRepair.Json
