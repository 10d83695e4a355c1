import Mathlib
import WidgetRepair.Proofs.JsonTokens
import WidgetRepair.Timestamp

/-! Moments are read back from their texts. Dates come from counts of days and lead back to them, and
every part of a text has a width by which it is found again. -/

namespace WidgetRepair.Timestamp

open Json
open Text (isBlank trimStart)

/-- The first day of a year of an era. -/
def yearStart (year : Nat) : Nat := 365 * year + year / 4 - year / 100 + year / 400

theorem yearStart_mono {a b : Nat} (le : a ≤ b) : yearStart a ≤ yearStart b := by
  induction le with
  | refl => exact Nat.le_refl _
  | @step m _ ih =>
    refine Nat.le_trans ih ?_
    unfold yearStart
    omega

/-- The year of an era that a day of it lies in. -/
def yearOf (day : Nat) : Nat := (day - day / 1460 + day / 36524 - day / 146096) / 365

theorem yearOf_mono {a b : Nat} (le : a ≤ b) : yearOf a ≤ yearOf b := by
  induction le with
  | refl => exact Nat.le_refl _
  | @step m _ ih =>
    refine Nat.le_trans ih (Nat.div_le_div_right ?_)
    omega

theorem yearOf_start : ∀ year < 400, yearOf (yearStart year) = year ∧
    (0 < year → yearOf (yearStart year - 1) = year - 1) := by
  decide +kernel

/-- A day lies between the start of its year and that of the next. -/
theorem yearOf_spec {day : Nat} (inside : day < 146097) :
    yearOf day < 400 ∧ yearStart (yearOf day) ≤ day ∧ day < yearStart (yearOf day + 1) := by
  have bound : yearOf day < 400 := by
    have last : yearOf 146096 < 400 := by decide
    exact Nat.lt_of_le_of_lt (yearOf_mono (Nat.le_of_lt_succ inside)) last
  refine ⟨bound, ?_, ?_⟩
  · by_cases early : day < yearStart (yearOf day)
    · obtain ⟨-, before⟩ := yearOf_start _ bound
      have mono := yearOf_mono (Nat.le_sub_one_of_lt early)
      have pos : 0 < yearOf day := by
        by_cases zero : yearOf day = 0
        · rw [zero] at early
          exact absurd early (Nat.not_lt_zero _)
        · omega
      have := before pos
      omega
    · omega
  · by_cases last : yearOf day = 399
    · rw [last]
      exact inside
    · by_cases late : yearStart (yearOf day + 1) ≤ day
      · have mono := yearOf_mono late
        rw [(yearOf_start (yearOf day + 1) (by omega)).1] at mono
        omega
      · omega

/-- A count of days by its era, the year of the era and the day of the year, all begun in March. -/
structure DayParts (days era : Int) (year day : Nat) : Prop where
  sum : days + 719468 = era * 146097 + (yearStart year + day : Nat)
  bound : year < 400
  within : yearStart year + day < yearStart (year + 1)

/-- The month of a day of the year, counted from March. -/
def monthPart (day : Nat) : Nat := (5 * day + 2) / 153

def monthOf (day : Nat) : Nat := if monthPart day < 10 then monthPart day + 3 else monthPart day - 9

theorem dateOf_parts (days : Int) : ∃ era year day, DayParts days era year day ∧
    dateOf days = (year + era * 400 + (if monthOf day ≤ 2 then 1 else 0), monthOf day,
      day - (153 * monthPart day + 2) / 5 + 1) := by
  have shape : ∃ n : Nat, ((n : Int) = days + 719468 - (days + 719468).fdiv 146097 * 146097) ∧ n < 146097 := by
    rw [Int.fdiv_eq_ediv_of_nonneg _ (by decide)]
    refine ⟨(days + 719468 - (days + 719468) / 146097 * 146097).toNat, ?_, ?_⟩ <;> omega
  obtain ⟨n, value, inside⟩ := shape
  obtain ⟨bound, start, next⟩ := yearOf_spec inside
  have split : yearStart (yearOf n) + (n - yearStart (yearOf n)) = n := Nat.add_sub_of_le start
  refine ⟨(days + 719468).fdiv 146097, yearOf n, n - yearStart (yearOf n), ⟨?_, bound, ?_⟩, ?_⟩
  · omega
  · omega
  · have plain : 365 * yearOf n + yearOf n / 4 - yearOf n / 100 = yearStart (yearOf n) := by
      unfold yearStart
      omega
    have count : (days + 719468 - (days + 719468).fdiv 146097 * 146097).toNat = n := by omega
    unfold dateOf
    simp only [count]
    change ((_ : Int) + _ + _, _, _) = _
    unfold monthOf monthPart
    rw [← plain]
    rfl

variable {days era : Int} {year day : Nat}

theorem DayParts.day_lt (parts : DayParts days era year day) : day < 366 := by
  have := parts.within
  unfold yearStart at this
  omega

theorem month_bounds (short : day < 366) : monthPart day < 12 ∧ (153 * monthPart day + 2) / 5 ≤ day ∧
    day < (153 * (monthPart day + 1) + 2) / 5 := by
  unfold monthPart
  omega

theorem monthOf_cases (short : day < 366) :
    (monthOf day ≤ 2 ∧ 306 ≤ day ∧ monthPart day = monthOf day + 9) ∨
      (2 < monthOf day ∧ day < 306 ∧ monthPart day = monthOf day - 3) := by
  unfold monthOf monthPart
  split <;> omega

theorem monthOf_bounds (short : day < 366) : 1 ≤ monthOf day ∧ monthOf day ≤ 12 := by
  unfold monthOf monthPart
  split <;> omega

theorem daysOf_parts (parts : DayParts days era year day) :
    daysOf (year + era * 400 + (if monthOf day ≤ 2 then 1 else 0)) (monthOf day)
      (day - (153 * monthPart day + 2) / 5 + 1) = days := by
  obtain ⟨sum, bound, -⟩ := id parts
  have short := parts.day_lt
  obtain ⟨part, before, -⟩ := month_bounds short
  have back : (153 * ((monthOf day + 9) % 12) + 2) / 5 + (day - (153 * monthPart day + 2) / 5 + 1) - 1 = day := by
    have : (monthOf day + 9) % 12 = monthPart day := by
      have := monthOf_bounds short
      obtain ⟨_, _, same⟩ | ⟨_, _, same⟩ := monthOf_cases short <;> omega
    rw [this]
    omega
  have years : (if monthOf day ≤ 2 then
      (year + era * 400 + (if monthOf day ≤ 2 then 1 else 0) : Int) - 1
      else (year + era * 400 + (if monthOf day ≤ 2 then 1 else 0) : Int)) = year + era * 400 := by
    split <;> omega
  unfold daysOf
  simp only [years, back]
  rw [Int.fdiv_eq_ediv_of_nonneg _ (by decide)]
  unfold yearStart at sum
  omega

theorem daysIn_parts (parts : DayParts days era year day) :
    day - (153 * monthPart day + 2) / 5 + 1 ≤
      daysIn (year + era * 400 + (if monthOf day ≤ 2 then 1 else 0)) (monthOf day) := by
  have short := parts.day_lt
  obtain ⟨part, before, after⟩ := month_bounds short
  have within := parts.within
  unfold daysIn
  split
  · next second =>
    obtain ⟨-, -, same⟩ | ⟨late, -, -⟩ := monthOf_cases short
    · rw [second] at same
      rw [second, same]
      by_cases leap : isLeap (year + era * 400 + 1)
      · simp only [Nat.le_refl, if_true, leap]
        omega
      · simp only [Nat.le_refl, if_true, leap, Bool.false_eq_true, if_false]
        have common : ¬((year + 1) % 4 = 0 ∧ ((year + 1) % 100 ≠ 0 ∨ (year + 1) % 400 = 0)) := by
          intro both
          apply leap
          simp only [isLeap, Bool.and_eq_true, Bool.or_eq_true, beq_iff_eq, bne_iff_ne]
          omega
        unfold yearStart at within
        omega
    · omega
  · split
    · next fourth =>
      simp only [Bool.or_eq_true, decide_eq_true_eq] at fourth
      have := monthOf_cases short
      omega
    · omega

theorem valueOf_eq (digits : List Char) : valueOf digits = Nat.ofDigitChars 10 digits 0 := by
  have steps : (fun n c => n * 10 + digitValue c) = fun n (c : Char) => 10 * n + (c.toNat - '0'.toNat) := by
    funext n c
    rw [Nat.mul_comm]
    rfl
  rw [valueOf, steps, Nat.ofDigitChars_eq_foldl]

section Padded

variable {width n : Nat} {rest : List Char}

theorem digits_padded (width n : Nat) : Digits (padded width n) := by
  obtain ⟨some, all⟩ := digits_toDigits n
  refine ⟨by simp [padded, some], fun c member => ?_⟩
  obtain zero | digit := List.mem_append.mp member
  · rw [List.eq_of_mem_replicate zero]
    rfl
  · exact all c digit

theorem valueOf_padded (width n : Nat) : valueOf (padded width n) = n := by
  rw [valueOf_eq, padded, Nat.ofDigitChars_append, Nat.ofDigitChars_replicate_zero, Nat.mul_zero,
    Nat.ofDigitChars_ten_toDigits]

theorem length_padded (pos : 0 < width) (fits : n < 10 ^ width) : (padded width n).length = width := by
  have short := (Nat.length_toDigits_le_iff (b := 10) (by decide) pos).mpr fits
  simp only [padded, List.length_append, List.length_replicate]
  omega

theorem number?_digits {most : Nat} {digits : List Char} (digit : Digits digits) (ends : NoDigit rest)
    (short : digits.length ≤ most) : number? most (digits ++ rest) = some (valueOf digits, rest) := by
  simp [number?, takeWhile_digits digit.2 ends, List.take_of_length_le short, digit.1]

theorem number?_padded {most : Nat} (pos : 0 < width) (fits : n < 10 ^ width) (short : width ≤ most)
    (ends : NoDigit rest) : number? most (padded width n ++ rest) = some (n, rest) := by
  rw [number?_digits (digits_padded width n) ends (by rwa [length_padded pos fits]), valueOf_padded]

theorem digit_filled {c : Char} (digit : isDigit c = true) : isBlank c = false := by
  simp only [isDigit, Bool.and_eq_true, decide_eq_true_eq] at digit
  simp [isBlank]
  omega

theorem padded_cons (width n : Nat) : ∃ c more, padded width n = c :: more ∧ isDigit c = true := by
  obtain ⟨some, all⟩ := digits_padded width n
  obtain ⟨c, more, first⟩ := List.exists_cons_of_ne_nil some
  exact ⟨c, more, first, all c (first ▸ List.mem_cons_self)⟩

theorem trimStart_filled {c : Char} (filled : isBlank c = false) (rest : List Char) :
    trimStart (c :: rest) = c :: rest := by
  simp [trimStart, filled]

theorem trimStart_padded (width n : Nat) (rest : List Char) :
    trimStart (padded width n ++ rest) = padded width n ++ rest := by
  obtain ⟨c, more, first, digit⟩ := padded_cons width n
  rw [first]
  exact trimStart_filled (digit_filled digit) _

end Padded

section Parts

variable {rest : List Char}

theorem part?_padded {least most n : Nat} (fits : n < 100) (low : least ≤ n) (high : n ≤ most)
    (ends : NoDigit rest) : part? least most (padded 2 n ++ rest) = some (n, rest) := by
  simp [part?, trimStart_padded, number?_padded (by decide : 0 < 2) fits (Nat.le_refl 2) ends, low, high]

theorem separator?_itself {c : Char} (filled : isBlank c = false) (rest : List Char) :
    separator? c (c :: rest) = some rest := by
  simp [separator?, trimStart_filled filled]

theorem year?_yearText (year : Int) (ends : NoDigit rest) :
    year? (yearText year ++ rest) = some (year, rest) := by
  have size : (padded 4 year.natAbs).length ≤ (padded 4 year.natAbs ++ rest).length := by simp
  have long := number?_digits (digits_padded 4 year.natAbs) ends size
  rw [valueOf_padded] at long
  unfold yearText
  split
  · next four =>
    simp only [Bool.and_eq_true, decide_eq_true_eq] at four
    have small : year.natAbs < 10 ^ 4 := by omega
    have short := number?_padded (by decide : 0 < 4) small (Nat.le_refl 4) ends
    obtain ⟨c, more, first, digit⟩ := padded_cons 4 year.natAbs
    have minus : c ≠ '-' := by rintro rfl; cases digit
    have plus : c ≠ '+' := by rintro rfl; cases digit
    have trimmed := trimStart_padded 4 year.natAbs rest
    rw [first, List.cons_append] at short trimmed
    simp [year?, first, trimmed, minus, plus, short]
    omega
  · split
    · next negative =>
      show year? ('-' :: (padded 4 year.natAbs ++ rest)) = _
      unfold year?
      rw [trimStart_filled (by decide)]
      simp only [long, Option.map_some, Option.some.injEq, Prod.mk.injEq, and_true]
      omega
    · next positive =>
      show year? ('+' :: (padded 4 year.natAbs ++ rest)) = _
      unfold year?
      rw [trimStart_filled (by decide)]
      simp only [long, Option.map_some, Option.some.injEq, Prod.mk.injEq, and_true]
      omega

theorem fraction?_padded {width n : Nat} (pos : 0 < width) (fits : n < 10 ^ width) (short : width ≤ 9)
    (ends : NoDigit rest) : fraction? ('.' :: (padded width n ++ rest)) = some (n * 10 ^ (9 - width), rest) := by
  have digit := digits_padded width n
  simp [fraction?, number?_padded pos fits short ends, takeWhile_digits digit.2 ends,
    dropWhile_digits digit.2 ends, length_padded pos fits]
  rw [Nat.min_eq_right short]
  exact .inl rfl

theorem fraction?_fractionText {nanos : Nat} (less : nanos < 1000000000) :
    fraction? (fractionText nanos ++ ['Z']) = some (nanos, ['Z']) := by
  have ends : NoDigit ['Z'] := noDigit_cons (by decide)
  unfold fractionText
  split
  · next zero =>
    rw [zero]
    rfl
  · split
    · rw [List.cons_append, fraction?_padded (by decide) (by omega) (by decide) ends]
      simp
      omega
    · split
      · rw [List.cons_append, fraction?_padded (by decide) (by omega) (by decide) ends]
        simp
        omega
      · rw [List.cons_append, fraction?_padded (by decide) (by omega) (by decide) ends]
        simp

end Parts

/-- A moment that has a text: its date lies in the years that there are, and only the last second
of a minute is followed by a leap second. -/
structure Valid (t : Timestamp) : Prop where
  first : daysOf firstYear 1 1 * 86400 ≤ t.seconds
  last : t.seconds < daysOf (lastYear + 1) 1 1 * 86400
  nanos : t.nanos < 1000000000 ∨ (t.nanos < 2000000000 ∧ t.seconds % 60 = 59)

theorem year_bounds {days era : Int} {year day : Nat} (parts : DayParts days era year day)
    (first : daysOf firstYear 1 1 ≤ days) (last : days < daysOf (lastYear + 1) 1 1) :
    firstYear ≤ year + era * 400 + (if monthOf day ≤ 2 then 1 else 0) ∧
      year + era * 400 + (if monthOf day ≤ 2 then 1 else 0) ≤ lastYear := by
  have start : daysOf firstYear 1 1 = -96465292 := by decide
  have stop : daysOf (lastYear + 1) 1 1 = 95026237 := by decide
  rw [start] at first
  rw [stop] at last
  have short := parts.day_lt
  obtain ⟨sum, bound, -⟩ := parts
  have months : (monthOf day ≤ 2 ∧ 306 ≤ day) ∨ (2 < monthOf day ∧ day < 306) := by
    have := monthOf_cases short
    omega
  have least := yearStart_mono (Nat.zero_le year)
  have most := yearStart_mono (Nat.le_of_lt_succ bound)
  have values : yearStart 0 = 0 ∧ yearStart 142 = 51864 ∧ yearStart 143 = 52229 ∧
      yearStart 255 = 93136 ∧ yearStart 256 = 93502 ∧ yearStart 399 = 145731 := by decide
  have early (k : Nat) : year ≤ k → yearStart year ≤ yearStart k := yearStart_mono
  have late (k : Nat) : k ≤ year → yearStart k ≤ yearStart year := yearStart_mono
  have early₁ := early 255
  have early₂ := early 256
  have late₁ := late 142
  have late₂ := late 143
  unfold firstYear lastYear
  constructor <;> omega

/-- A moment by its date and its time of day. -/
def ofParts (year : Int) (month day hour minute second nanos : Nat) : Timestamp :=
  ⟨daysOf year month day * 86400 + ((hour * 60 + minute) * 60 + (if second = 60 then 59 else second) : Nat),
    if second = 60 then nanos + 1000000000 else nanos⟩

theorem ofText?_spelled (year : Int) (month day hour minute second nanos : Nat)
    (years : firstYear ≤ year ∧ year ≤ lastYear) (months : 1 ≤ month ∧ month ≤ 12)
    (days : 1 ≤ day ∧ day ≤ daysIn year month) (hours : hour ≤ 23) (minutes : minute ≤ 59)
    (seconds : second ≤ 60) (fraction : nanos < 1000000000)
    (first : daysOf firstYear 1 1 * 86400 ≤ (ofParts year month day hour minute second nanos).seconds)
    (last : (ofParts year month day hour minute second nanos).seconds < daysOf (lastYear + 1) 1 1 * 86400) :
    ofText? (String.ofList (yearText year ++ '-' :: padded 2 month ++ '-' :: padded 2 day ++
      'T' :: (padded 2 hour ++ ':' :: padded 2 minute ++ ':' :: padded 2 second ++ fractionText nanos) ++
      ['Z'])) = some (ofParts year month day hour minute second nanos) := by
  have dash : isBlank '-' = false := by decide
  have colon : isBlank ':' = false := by decide
  have short : day ≤ 31 := by
    have : daysIn year month ≤ 31 := by
      unfold daysIn
      repeat' split
      all_goals decide
    omega
  have afterDash (rest : List Char) : NoDigit ('-' :: rest) := noDigit_cons (by decide)
  have afterColon (rest : List Char) : NoDigit (':' :: rest) := noDigit_cons (by decide)
  have afterDay (rest : List Char) : NoDigit ('T' :: rest) := noDigit_cons (by decide)
  have afterTime : NoDigit (fractionText nanos ++ ['Z']) := by
    unfold fractionText
    repeat' split
    all_goals exact noDigit_cons (by decide)
  simp only [ofText?, String.toList_ofList, List.append_assoc, List.cons_append]
  rw [year?_yearText year (afterDash _)]
  simp only [bind, Option.bind, separator?_itself dash, separator?_itself colon,
    part?_padded (by omega : month < 100) months.1 months.2 (afterDash _),
    part?_padded (by omega : day < 100) days.1 short (afterDay _),
    part?_padded (by omega : hour < 100) (Nat.zero_le _) hours (afterColon _),
    part?_padded (by omega : minute < 100) (Nat.zero_le _) minutes (afterColon _),
    part?_padded (by omega : second < 100) (Nat.zero_le _) seconds afterTime,
    fraction?_fractionText fraction]
  have zone : offset? ['Z'] = some (0, []) := by decide
  have blank : ([] : List Char).all isBlank = true := rfl
  have dates : (firstYear ≤ year && year ≤ lastYear && (0 : Int).natAbs < 86400) = true := by
    simp only [years.1, years.2, decide_true, Bool.and_self]
    rfl
  have moment : daysOf year month day * 86400 + (((hour : Int) * 60 + minute) * 60 +
      (if second = 60 then 59 else second : Nat)) - 0 =
        (ofParts year month day hour minute second nanos).seconds := by
    unfold ofParts
    push_cast
    exact Int.sub_zero _
  simp only [zone, guard, blank, days.2, dates, moment, first, last, decide_true, Bool.and_self, if_true]
  rfl

/-- Every moment is read back from its text. -/
theorem ofText?_toText {t : Timestamp} (valid : t.Valid) : ofText? t.toText = some t := by
  obtain ⟨first, last, nanos⟩ := valid
  obtain ⟨era, year, day, parts, date⟩ := dateOf_parts (t.seconds.fdiv 86400)
  have days := daysOf_parts parts
  have split : t.seconds.fdiv 86400 = t.seconds / 86400 := Int.fdiv_eq_ediv_of_nonneg _ (by decide)
  have rest : t.seconds.fmod 86400 = t.seconds % 86400 := Int.fmod_eq_emod_of_nonneg _ (by decide)
  have bounds := year_bounds parts (by omega) (by omega)
  have months := monthOf_bounds parts.day_lt
  have within := daysIn_parts parts
  have least : 1 ≤ day - (153 * monthPart day + 2) / 5 + 1 := Nat.le_add_left 1 _
  generalize (year : Int) + era * 400 + (if monthOf day ≤ 2 then 1 else 0) = y at *
  generalize day - (153 * monthPart day + 2) / 5 + 1 = d at *
  have same : ofParts y (monthOf day) d ((t.seconds.fmod 86400).toNat / 3600)
      ((t.seconds.fmod 86400).toNat / 60 % 60) ((t.seconds.fmod 86400).toNat % 60 + t.nanos / 1000000000)
      (t.nanos % 1000000000) = t := by
    rw [ofParts, days, split, rest]
    have leap : (t.seconds % 86400).toNat % 60 + t.nanos / 1000000000 = 60 ↔ 1000000000 ≤ t.nanos := by
      omega
    cases t
    simp only [leap, Timestamp.mk.injEq] at *
    constructor <;> split <;> omega
  have spelled := ofText?_spelled y (monthOf day) d ((t.seconds.fmod 86400).toNat / 3600)
    ((t.seconds.fmod 86400).toNat / 60 % 60) ((t.seconds.fmod 86400).toNat % 60 + t.nanos / 1000000000)
    (t.nanos % 1000000000) bounds months ⟨least, within⟩
    (by omega) (by omega) (by omega) (by omega) (by rwa [same]) (by rwa [same])
  rw [same] at spelled
  rw [← spelled, toText, date]

end WidgetRepair.Timestamp
