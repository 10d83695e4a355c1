import WidgetRepair.Proofs.DocumentText
import WidgetRepair.Proofs.Stateful

/-! What is read from a text can be written again: confidences are numbers, counters have 32 bits,
moments lie in the calendar. -/

namespace WidgetRepair.Json

open Binary64

theorem isFinite_scale {x : Float} {a : Rat} {exponent : Int} {fuel : Nat} {y : Float} (reads : Reads x a)
    (scaled : scale? x exponent fuel = some y) : y.isFinite = true := by
  induction fuel generalizing x a exponent with
  | zero =>
    cases scaled
    exact reads.isFinite
  | succ fuel ih =>
    unfold scale? at scaled
    split at scaled
    · next within =>
      split at scaled
      · obtain ⟨b, power, -, -⟩ := exists_powerOfTen within
        have product := reads.times power
        dsimp only at scaled
        split at scaled
        · cases scaled
        · next kept =>
          cases scaled
          exact product.isFinite_of_isInf kept
      · obtain ⟨b, quotient⟩ := exists_divided reads within
        cases scaled
        exact quotient.isFinite
    · split at scaled
      · cases scaled
        exact reads.isFinite
      · split at scaled
        · cases scaled
        · obtain ⟨b, quotient⟩ := exists_divided reads (Nat.le_refl 308)
          exact ih quotient scaled

theorem isFinite_significand {n : Nat} (fits : n < naturalLimit) : n.toUInt64.toFloat.isFinite = true := by
  obtain ⟨a, reads, -, -⟩ := exists_significand fits
  exact reads.isFinite

/-- A real that is read is finite. -/
theorem isFinite_scaledReal {negative : Bool} {n : Nat} {exponent : Int} {v : Number} (fits : n < naturalLimit)
    (scaled : scaledReal? negative n exponent = some v) : v.toFloat.isFinite = true := by
  obtain ⟨a, reads, -, -⟩ := exists_significand fits
  obtain ⟨y, read, rfl⟩ := Option.map_eq_some_iff.mp scaled
  have finite := isFinite_scale reads read
  cases negative with
  | false => exact finite
  | true => exact isFinite_neg finite

theorem isFinite_wholeNumber {negative : Bool} {n : Nat} (fits : n < naturalLimit) :
    (wholeNumber negative n).toFloat.isFinite = true := by
  have finite := isFinite_significand fits
  unfold wholeNumber
  split
  · exact finite
  · split <;> exact isFinite_neg finite

/-- What a numeral is read as: a whole number, a real that its digits are scaled to, or a zero. -/
theorem value_cases {n : Numeral} {v : Number} (value : n.value? = some v) :
    (∃ m < naturalLimit, v = wholeNumber n.negative m ∨ ∃ shift, scaledReal? n.negative m shift = some v) ∨
      v = .real (if n.negative then -0.0 else 0.0) := by
  obtain ⟨taken, left, -, front, fits⟩ := takeDigits_split n.whole 0
  have fits := fits (by decide)
  obtain ⟨m, shift, real, small, plain, exponential⟩ : ∃ (m : Nat) (shift : Int) (real : Bool), m < naturalLimit ∧
      (n.exponent = none →
        n.value? = if real then scaledReal? n.negative m shift else some (wholeNumber n.negative m)) ∧
      ∀ downward digits, n.exponent = some (downward, digits) →
        n.value? =
          let size := digits.foldl (fun k c => min exponentLimit (k * 10 + digitValue c)) 0
          if size < exponentLimit then scaledReal? n.negative m (if downward then shift - size else shift + size)
          else if m != 0 && !downward then none
          else some (.real (if n.negative then -0.0 else 0.0)) := by
    unfold Numeral.value?
    rw [front]
    cases n.fraction with
    | none =>
      refine ⟨_, left.length, !left.isEmpty, fits, fun same => ?_, fun _ _ same => ?_⟩ <;> rw [same]
    | some digits =>
      obtain ⟨taken', left', -, scanned, small⟩ := takeDigits_split digits (Nat.ofDigitChars 10 taken 0)
      dsimp only
      rw [scanned]
      refine ⟨_, left.length - (digits.length - left'.length : Nat), true, small fits, fun same => ?_,
        fun _ _ same => ?_⟩ <;> rw [same]
  cases exponent : n.exponent with
  | none =>
    rw [plain exponent] at value
    split at value
    · exact .inl ⟨m, small, .inr ⟨_, value⟩⟩
    · cases value
      exact .inl ⟨m, small, .inl rfl⟩
  | some scaled =>
    rw [exponential scaled.1 scaled.2 exponent] at value
    dsimp only at value
    split at value
    · exact .inl ⟨m, small, .inr ⟨_, value⟩⟩
    · split at value
      · cases value
      · cases value
        exact .inr rfl

/-- A number that is read is finite. -/
theorem isFinite_value {n : Numeral} {v : Number} (value : n.value? = some v) : v.toFloat.isFinite = true := by
  obtain ⟨m, small, rfl | ⟨shift, scaled⟩⟩ | rfl := value_cases value
  · exact isFinite_wholeNumber small
  · exact isFinite_scaledReal small scaled
  · split
    · exact (by decide +kernel : (-0.0 : Float).isFinite = true)
    · exact (by decide +kernel : (0.0 : Float).isFinite = true)

/-- A number that is read can be written so that it is read back. -/
theorem legible_value {n : Numeral} {v : Number} (value : n.value? = some v) : v.Legible := by
  have finite := isFinite_value value
  obtain ⟨m, small, rfl | ⟨shift, scaled⟩⟩ | rfl := value_cases value
  · unfold wholeNumber at finite ⊢
    split
    · exact Number.legible_natural small
    · next signed =>
      rw [if_neg signed] at finite
      split
      · exact Number.legible_negative small
      · next large =>
        rw [if_neg large] at finite
        exact (real_legible finite).1
  · obtain ⟨y, -, rfl⟩ := Option.map_eq_some_iff.mp scaled
    exact (real_legible finite).1
  · exact (real_legible finite).1

namespace Draft

mutual

/-- A draft whose numbers are good. -/
def Numbers (good : Number → Prop) : Draft → Prop
  | .number n => ∀ v, n = .ok v → good v
  | .list items _ => NumbersItems good items
  | .record fields _ => NumbersFields good fields
  | _ => True

def NumbersItems (good : Number → Prop) : List Draft → Prop
  | [] => True
  | item :: rest => item.Numbers good ∧ NumbersItems good rest

def NumbersFields (good : Number → Prop) : List (Except Fault String × Draft) → Prop
  | [] => True
  | (_, v) :: rest => v.Numbers good ∧ NumbersFields good rest

end

/-- A draft whose numbers are finite. -/
abbrev Finite (d : Draft) : Prop := d.Numbers (·.toFloat.isFinite = true)

section Numbers

variable {good : Number → Prop}

theorem numbersItems_iff (items : List Draft) : NumbersItems good items ↔ ∀ item ∈ items, item.Numbers good := by
  induction items with
  | nil => simp [NumbersItems]
  | cons item rest ih => simp [NumbersItems, ih]

theorem numbersFields_iff (fields : List (Except Fault String × Draft)) :
    NumbersFields good fields ↔ ∀ field ∈ fields, field.2.Numbers good := by
  induction fields with
  | nil => simp [NumbersFields]
  | cons field rest ih => simp [NumbersFields, ih]

theorem numbers_missing (input : List Char) : (missing input).Numbers good := by simp [missing, Numbers]

theorem numbers_quotedText (input : List Char) : (quotedText input).1.Numbers good := by
  unfold quotedText
  split <;> split <;> simp [Numbers]

theorem numbers_word {value : Draft} (numbers : value.Numbers good) (letters input : List Char) :
    (word letters value input).1.Numbers good := by
  unfold word
  split
  · exact numbers
  · simp [Numbers]

variable (each : ∀ (n : Numeral) v, n.value? = some v → good v)

include each

theorem numbers_numeral (input : List Char) : (numeral input).1.Numbers good := by
  unfold numeral
  split
  · split
    · next value =>
      rintro _ ⟨⟩
      exact each _ _ value
    · rintro _ ⟨⟩
  · simp [Numbers]

omit each in
/-- The numbers that are read with some fuel are good. -/
structure ReadsNumbers (good : Number → Prop) (fuel : Nat) : Prop where
  value : ∀ input, (read fuel input).1.Numbers good
  items : ∀ first input, NumbersItems good (readItems fuel first input).1
  item : ∀ input, NumbersItems good (readItem fuel input).1
  fields : ∀ first input, NumbersFields good (readFields fuel first input).1
  field : ∀ input, NumbersFields good (readField fuel input).1

theorem readsNumbers (fuel : Nat) : ReadsNumbers good fuel := by
  induction fuel with
  | zero => constructor <;> intros <;>
      simp [read, readItems, readItem, readFields, readField, Numbers, NumbersItems, NumbersFields]
  | succ fuel ih =>
    obtain ⟨value, items, item, fields, field⟩ := ih
    constructor
    · intro input
      unfold read
      split
      · exact numbers_missing []
      · next c rest _ =>
        have null : Draft.null.Numbers good := by simp [Numbers]
        have flag (b : Bool) : (Draft.flag b).Numbers good := by simp [Numbers]
        split_ifs
        · exact numbers_quotedText rest
        · exact items true rest
        · exact fields true rest
        · exact numbers_word null _ _
        · exact numbers_word (flag true) _ _
        · exact numbers_word (flag false) _ _
        · exact numbers_numeral each _
        · simp [Numbers]
    · intro first input
      unfold readItems
      split
      · simp [NumbersItems]
      · split_ifs
        · simp [NumbersItems]
        · exact item _
        · split
          · simp [NumbersItems, numbers_missing]
          · split_ifs
            · simp [NumbersItems, numbers_missing]
            · exact item _
        · simp [NumbersItems]
    · intro input
      have first := value input
      unfold readItem
      split
      · next read =>
        rw [read] at first
        simpa [NumbersItems] using first
      · next read =>
        rw [read] at first
        exact ⟨first, items false _⟩
    · intro first input
      unfold readFields
      split
      · simp [NumbersFields]
      · split_ifs
        · simp [NumbersFields]
        · exact field _
        · simp [NumbersFields]
        · split
          · simp [NumbersFields, numbers_missing]
          · split_ifs
            · exact field _
            · simp [NumbersFields, numbers_missing]
        · simp [NumbersFields]
    · intro input
      unfold readField
      split
      · split
        · simp [NumbersFields, numbers_missing]
        · next rest _ =>
          split_ifs
          · have first := value rest
            split
            · next read =>
              rw [read] at first
              simpa [NumbersFields] using first
            · next read =>
              rw [read] at first
              exact ⟨first, fields false _⟩
          · simp [NumbersFields, numbers_missing]
      · simp [NumbersFields, Numbers]
      · simp [NumbersFields]

/-- The numbers of a text are good, if those of numerals are. -/
theorem numbers_ofText (input : List Char) : (ofText input).1.Numbers good := (readsNumbers each _).value input

end Numbers

theorem finite_ofText (input : List Char) : (ofText input).1.Finite := numbers_ofText (fun _ _ => isFinite_value) input

end Draft

/-- What is decoded was read from the draft of the text. -/
theorem decode_ok {α : Type} {read : Place → Except Fault α} {text : String} {a : α}
    (decoded : decode read text = .ok a) :
    read ⟨128, (Draft.ofText text.toList).1⟩ = .ok a := by
  unfold decode at decoded
  generalize Draft.ofText text.toList = drafted at *
  obtain ⟨draft, rest⟩ := drafted
  obtain ⟨filled, asked, ended⟩ := bind_ok decoded
  cases rest with
  | none => cases ended
  | some rest =>
    dsimp only at ended
    split at ended
    · cases ended
      exact asked
    · cases ended

end WidgetRepair.Json

namespace WidgetRepair.Timestamp

open Json

theorem number?_lt {most n : Nat} {text rest : List Char} (read : number? most text = some (n, rest)) :
    n < 10 ^ ((text.takeWhile isDigit).take most).length := by
  unfold number? at read
  dsimp only at read
  split at read
  · cases read
  · cases read
    have all : ∀ c ∈ (text.takeWhile isDigit).take most, isDigit c = true := fun c member =>
      List.mem_takeWhile_imp (List.mem_of_mem_take member)
    have less := ofDigitChars_lt all 0
    rwa [valueOf_eq, ← Nat.one_mul (10 ^ _)]

theorem fraction?_lt {text rest : List Char} {nanos : Nat} (read : fraction? text = some (nanos, rest)) :
    nanos < 1000000000 := by
  unfold fraction? at read
  split at read
  · next digits =>
    obtain ⟨⟨n, after⟩, counted, same⟩ := Option.bind_eq_some_iff.mp read
    have less := number?_lt counted
    have short : ((digits.takeWhile isDigit).take 9).length ≤ 9 := List.length_take_le 9 _
    cases same
    generalize ((digits.takeWhile isDigit).take 9).length = size at *
    calc n * 10 ^ (9 - size) < 10 ^ size * 10 ^ (9 - size) :=
          Nat.mul_lt_mul_of_pos_right less (Nat.pow_pos (by decide))
      _ = 1000000000 := by rw [← Nat.pow_add, Nat.add_sub_cancel' short]
  · cases read
    decide

theorem offset?_minutes {text rest : List Char} {offset : Int} (read : offset? text = some (offset, rest)) :
    offset % 60 = 0 := by
  unfold offset? at read
  dsimp only at read
  split at read
  · cases read
    rfl
  · split at read
    · cases read
      rfl
    · cases read
      rfl
    · split at read
      · split at read
        · split at read
          · cases read
            split <;> omega
          · cases read
        · cases read
      · cases read
    · cases read

theorem of_guard {p : Prop} [Decidable p] {u : Unit} (passed : (guard p : Option Unit) = some u) : p := by
  by_contra fails
  simp [guard, fails] at passed

/-- A moment that is read lies in the calendar. -/
theorem valid_of_ofText? {text : String} {t : Timestamp} (read : ofText? text = some t) : t.Valid := by
  unfold ofText? at read
  obtain ⟨⟨year, _⟩, -, read⟩ := Option.bind_eq_some_iff.mp read
  obtain ⟨_, -, read⟩ := Option.bind_eq_some_iff.mp read
  obtain ⟨⟨month, _⟩, -, read⟩ := Option.bind_eq_some_iff.mp read
  obtain ⟨_, -, read⟩ := Option.bind_eq_some_iff.mp read
  obtain ⟨⟨day, _⟩, -, read⟩ := Option.bind_eq_some_iff.mp read
  dsimp only at read
  split at read
  case h_4 => cases read
  all_goals
    obtain ⟨_, -, read⟩ := Option.bind_eq_some_iff.mp read
    obtain ⟨⟨hour, _⟩, -, read⟩ := Option.bind_eq_some_iff.mp read
    obtain ⟨_, -, read⟩ := Option.bind_eq_some_iff.mp read
    obtain ⟨⟨minute, _⟩, -, read⟩ := Option.bind_eq_some_iff.mp read
    obtain ⟨_, -, read⟩ := Option.bind_eq_some_iff.mp read
    obtain ⟨⟨second, _⟩, -, read⟩ := Option.bind_eq_some_iff.mp read
    obtain ⟨⟨nanos, _⟩, fraction, read⟩ := Option.bind_eq_some_iff.mp read
    obtain ⟨⟨offset, _⟩, zone, read⟩ := Option.bind_eq_some_iff.mp read
    obtain ⟨_, -, read⟩ := Option.bind_eq_some_iff.mp read
    obtain ⟨_, -, read⟩ := Option.bind_eq_some_iff.mp read
    obtain ⟨_, -, read⟩ := Option.bind_eq_some_iff.mp read
    obtain ⟨_, within, read⟩ := Option.bind_eq_some_iff.mp read
    have less := fraction?_lt fraction
    have minutes := offset?_minutes zone
    cases read
    obtain ⟨first, last⟩ := Bool.and_eq_true_iff.mp (of_guard within)
    refine ⟨of_decide_eq_true first, of_decide_eq_true last, ?_⟩
    dsimp only
    split
    · omega
    · omega

end WidgetRepair.Timestamp

namespace WidgetRepair

open Source Json

/-- What a reader makes of drafts whose numbers are finite. -/
def Yields {α : Type} (reader : Place → Except Fault α) (good : α → Prop) : Prop :=
  ∀ place a, place.draft.Finite → reader place = .ok a → good a

namespace Yields

variable {α σ : Type}

theorem real : Yields Place.real (·.isFinite = true) := by
  rintro ⟨room, draft⟩ x finite read
  cases draft with
  | number n =>
    cases n with
    | ok v =>
      cases read
      simpa [Draft.Numbers] using finite
    | error f => cases read
  | _ => cases read

theorem below (limit : Nat) : Yields (Place.below limit) (· < limit) := by
  rintro ⟨room, draft⟩ n - read
  unfold Place.below at read
  split at read
  · split at read
    · next less =>
      cases read
      exact less
    · cases read
  · cases read

theorem parsed {parse : String → Option α} {good : α → Prop} (each : ∀ s a, parse s = some a → good a) :
    Yields (Source.parsed parse) good := by
  intro place a _ read
  obtain ⟨s, -, read⟩ := bind_ok read
  split at read
  · next stands =>
    cases read
    exact each s a stands
  · cases read

theorem option {item : Place → Except Fault α} {good : α → Prop} (yields : Yields item good) :
    Yields (Source.option item) fun found => ∀ a ∈ found, good a := by
  intro place found finite read
  obtain ⟨inner, asked, read⟩ := bind_ok read
  have same : inner = none ∨ inner = some place := by
    obtain ⟨room, draft⟩ := place
    cases draft <;> cases asked
    · exact .inl rfl
    all_goals exact .inr rfl
  obtain rfl | rfl := same
  · cases read
    simp
  · obtain ⟨a, answer, same⟩ := bind_ok read
    cases same
    rintro _ ⟨⟩
    exact yields place a finite answer

theorem mem_withEnding {β : Type} {entries : List (Except Fault β)} {ending : Option Fault} {b : β}
    (member : .ok b ∈ withEnding entries ending) : .ok b ∈ entries := by
  unfold withEnding at member
  cases ending <;> simpa using member

theorem finite_items {place : Place} {places : List (Except Fault Place)} (finite : place.draft.Finite)
    (asked : Source.items place = .ok places) : ∀ inner, .ok inner ∈ places → inner.draft.Finite := by
  obtain ⟨room, draft⟩ := place
  cases draft with
  | list items ending =>
    obtain ⟨inside, -, asked⟩ := bind_ok asked
    cases asked
    intro inner member
    obtain ⟨d, among, same⟩ := List.mem_map.mp (mem_withEnding member)
    cases same
    exact (Draft.numbersItems_iff items).mp finite d among
  | _ => cases asked

theorem listOf {item : Place → Except Fault α} {good : α → Prop} (yields : Yields item good) :
    Yields (Source.listOf item) fun items => ∀ a ∈ items, good a := by
  intro place items finite read a member
  obtain ⟨places, asked, read⟩ := bind_ok read
  obtain ⟨entry, among, read⟩ := mem_of_mapM read a member
  obtain ⟨inner, same, read⟩ := bind_ok read
  subst same
  exact yields inner a (finite_items finite asked inner among) read

/-- The entries of a record are finite, by name or in order. -/
def FiniteShape : Shape Place (Except Fault) → Prop
  | .named entries => ∀ name inner, .ok (name, inner) ∈ entries → inner.draft.Finite
  | .ordered items _ => ∀ inner, .ok inner ∈ items → inner.draft.Finite

theorem finite_record {place : Place} {shape : Shape Place (Except Fault)} (finite : place.draft.Finite)
    (asked : Source.record place = .ok shape) : FiniteShape shape := by
  obtain ⟨room, draft⟩ := place
  cases draft with
  | list items ending =>
    obtain ⟨inside, -, asked⟩ := bind_ok asked
    cases asked
    intro inner member
    obtain ⟨d, among, same⟩ := List.mem_map.mp (mem_withEnding member)
    cases same
    exact (Draft.numbersItems_iff items).mp finite d among
  | record fields ending =>
    obtain ⟨inside, -, asked⟩ := bind_ok asked
    cases asked
    intro name inner member
    obtain ⟨field, among, same⟩ := List.mem_map.mp (mem_withEnding member)
    obtain ⟨named, d⟩ := field
    have within := (Draft.numbersFields_iff fields).mp finite _ among
    cases named with
    | error f => cases same
    | ok name =>
      cases same
      exact within
  | _ => cases asked

section Records

variable {fields : List (Field Place (Except Fault) σ)} {holds : σ → Prop}

theorem namedFields_holds (each : ∀ field ∈ fields, ∀ s, holds s → Yields (field.read s) holds)
    {entries : List (Except Fault (String × Place))} {s filled : σ} (held : holds s)
    (finite : FiniteShape (.named entries)) (read : namedFields fields entries s = .ok filled) : holds filled := by
  induction entries generalizing s with
  | nil =>
    cases read
    exact held
  | cons entry rest ih =>
    have later : FiniteShape (.named rest) := fun name inner member =>
      finite name inner (List.mem_cons_of_mem entry member)
    unfold namedFields at read
    obtain ⟨⟨name, place⟩, rfl, named⟩ := bind_ok read
    dsimp only at named
    split at named
    · obtain ⟨-, -, filling⟩ := bind_ok named
      exact ih held later filling
    · next field found =>
      split at named
      · cases named
      · obtain ⟨t, asked, filling⟩ := bind_ok named
        have own := each field (List.mem_of_find?_eq_some found) s held place t
          (finite name place List.mem_cons_self) asked
        exact ih own later filling

theorem orderedFields_holds (surplus : Option Fault)
    (each : ∀ field ∈ fields, ∀ s, holds s → Yields (field.read s) holds)
    {items : List (Except Fault Place)} {s filled : σ} (held : holds s)
    (finite : FiniteShape (.ordered items surplus)) (read : orderedFields surplus fields items s = .ok filled) :
    holds filled := by
  induction items generalizing fields s with
  | nil =>
    cases fields <;> cases read <;> exact held
  | cons item rest ih =>
    cases fields with
    | nil =>
      unfold orderedFields at read
      obtain ⟨-, -, read⟩ := bind_ok read
      cases surplus with
      | none =>
        cases read
        exact held
      | some f => cases read
    | cons field fields =>
      unfold orderedFields at read
      obtain ⟨place, rfl, next⟩ := bind_ok read
      obtain ⟨t, asked, filling⟩ := bind_ok next
      have own := each field List.mem_cons_self s held place t (finite place List.mem_cons_self) asked
      exact ih (fun f member => each f (List.mem_cons_of_mem field member)) own
        (fun inner member => finite inner (List.mem_cons_of_mem _ member)) filling

theorem recordOf (holds : σ → Prop) {start : σ} {finish : σ → Option α} {good : α → Prop} (empty : holds start)
    (each : ∀ field ∈ fields, ∀ s, holds s → Yields (field.read s) holds)
    (complete : ∀ s a, holds s → finish s = some a → good a) : Yields (Source.recordOf fields start finish) good := by
  intro place a finite read
  obtain ⟨shape, asked, read⟩ := bind_ok read
  have within := finite_record finite asked
  obtain ⟨filled, held, whole⟩ : ∃ filled, holds filled ∧ finish filled = some a := by
    cases shape with
    | named entries =>
      obtain ⟨filled, filling, last⟩ := bind_ok read
      have held := namedFields_holds each empty within filling
      dsimp only at last
      split at last
      next b whole =>
        cases last
        exact ⟨filled, held, whole⟩
      next => cases last
    | ordered items surplus =>
      obtain ⟨filled, filling, last⟩ := bind_ok read
      have held := orderedFields_holds surplus each empty within filling
      dsimp only at last
      split at last
      next b whole =>
        cases last
        exact ⟨filled, held, whole⟩
      next => cases last
  exact complete filled a held whole

end Records

theorem any (reader : Place → Except Fault α) : Yields reader fun _ => True := fun _ _ _ _ => trivial

/-- What a record keeps is kept by a field that reads something good for it. -/
theorem field {name : String} {get : σ → Option α} {set : Option α → σ → σ} {item : Place → Except Fault α}
    {good : α → Prop} {holds : σ → Prop} (yields : Yields item good)
    (kept : ∀ s a, holds s → good a → holds (set (some a) s)) (s : σ) (held : holds s) :
    Yields ((Field.of name get set item).read s) holds := by
  intro place filled finite read
  obtain ⟨a, answer, same⟩ := bind_ok read
  cases same
  exact kept s a held (yields place a finite answer)

end Yields

/-- What has been read of a pattern. -/
structure PatternFields.Sound (s : PatternFields) : Prop where
  confidence : ∀ c ∈ s.confidence, c.isFinite = true
  lastUsed : ∀ used ∈ s.lastUsed, ∀ t ∈ used, t.Valid

theorem forall_mem_none {α : Type} {good : α → Prop} : ∀ b ∈ (none : Option α), good b := by
  intro b member
  cases member

theorem forall_mem_some {α : Type} {a : α} {good : α → Prop} (holds : good a) : ∀ b ∈ some a, good b := by
  rintro _ ⟨⟩
  exact holds

theorem FixPattern.yields : Yields FixPattern.read FixPattern.Sound := by
  refine Yields.recordOf PatternFields.Sound ⟨forall_mem_none, forall_mem_none⟩ ?_ ?_
  · simp only [PatternFields.all, List.forall_mem_cons]
    refine ⟨?_, ?_, ?_, ?_, ?_, ?_, ?_, ?_, ?_, ?_, List.forall_mem_nil _⟩
    · exact Yields.field (.any _) fun _ _ held _ => ⟨held.1, held.2⟩
    · exact Yields.field (.any _) fun _ _ held _ => ⟨held.1, held.2⟩
    · exact Yields.field (.any _) fun _ _ held _ => ⟨held.1, held.2⟩
    · exact Yields.field (.any _) fun _ _ held _ => ⟨held.1, held.2⟩
    · exact Yields.field (.any _) fun _ _ held _ => ⟨held.1, held.2⟩
    · exact Yields.field .real fun _ _ held good => ⟨forall_mem_some good, held.2⟩
    · exact Yields.field (.any _) fun _ _ held _ => ⟨held.1, held.2⟩
    · exact Yields.field (.any _) fun _ _ held _ => ⟨held.1, held.2⟩
    · refine Yields.field (.option (.parsed fun _ t => Timestamp.valid_of_ofText? (t := t))) ?_
      exact fun _ _ held good => ⟨held.1, forall_mem_some good⟩
    · exact Yields.field (.any _) fun _ _ held _ => ⟨held.1, held.2⟩
  · intro s p held complete
    simp only [PatternFields.finish, Option.bind_eq_bind, Option.bind_eq_some_iff, Option.pure_def,
      Option.some.injEq] at complete
    obtain ⟨id, -, error, -, fix, -, c, confidence, origin, -, rfl⟩ := complete
    refine ⟨held.confidence c confidence, fun t member => ?_⟩
    cases used : s.lastUsed with
    | none => simp [used] at member
    | some last => exact held.lastUsed last used t (by simpa [used] using member)

theorem WidgetTemplate.yields : Yields WidgetTemplate.read fun t => t.confidence.isFinite = true := by
  refine Yields.recordOf (fun s => ∀ c ∈ s.confidence, c.isFinite = true) forall_mem_none ?_ ?_
  · simp only [TemplateFields.all, List.forall_mem_cons]
    refine ⟨?_, ?_, ?_, ?_, ?_, ?_, ?_, ?_, ?_, List.forall_mem_nil _⟩
    · exact Yields.field (.any _) fun _ _ held _ => held
    · exact Yields.field (.any _) fun _ _ held _ => held
    · exact Yields.field (.any _) fun _ _ held _ => held
    · exact Yields.field (.any _) fun _ _ held _ => held
    · exact Yields.field (.any _) fun _ _ held _ => held
    · exact Yields.field (.any _) fun _ _ held _ => held
    · exact Yields.field .real fun _ _ _ good => forall_mem_some good
    · exact Yields.field (.any _) fun _ _ held _ => held
    · exact Yields.field (.any _) fun _ _ held _ => held
  · intro s t held complete
    simp only [TemplateFields.finish, Option.bind_eq_bind, Option.bind_eq_some_iff, Option.pure_def,
      Option.some.injEq] at complete
    obtain ⟨id, -, name, -, c, confidence, rfl⟩ := complete
    exact held c confidence

/-- What has been read of a document. -/
structure DocumentFields.Sound (s : DocumentFields) : Prop where
  updated : ∀ t ∈ s.updated, t.Valid
  patterns : ∀ patterns ∈ s.patterns, ∀ p ∈ patterns, p.Sound
  templates : ∀ templates ∈ s.templates, ∀ t ∈ templates, t.confidence.isFinite = true

theorem forall_getD {α : Type} {found : Option (List α)} {good : α → Prop}
    (all : ∀ items ∈ found, ∀ a ∈ items, good a) : ∀ a ∈ found.getD [], good a := by
  cases found with
  | none => exact List.forall_mem_nil _
  | some items => exact all items rfl

namespace StoreDocument

theorem yields : Yields StoreDocument.read StoreDocument.Sound := by
  refine Yields.recordOf DocumentFields.Sound ⟨forall_mem_none, forall_mem_none, forall_mem_none⟩ ?_ ?_
  · simp only [DocumentFields.all, List.forall_mem_cons]
    refine ⟨?_, ?_, ?_, ?_, ?_, ?_, List.forall_mem_nil _⟩
    · exact Yields.field (.any _) fun _ _ held _ => ⟨held.1, held.2, held.3⟩
    · refine Yields.field (.parsed fun _ t => Timestamp.valid_of_ofText? (t := t)) ?_
      exact fun _ _ held good => ⟨forall_mem_some good, held.2, held.3⟩
    · exact Yields.field (.listOf FixPattern.yields) fun _ _ held good => ⟨held.1, forall_mem_some good, held.3⟩
    · exact Yields.field (.listOf WidgetTemplate.yields) fun _ _ held good => ⟨held.1, held.2, forall_mem_some good⟩
    · exact Yields.field (.any _) fun _ _ held _ => ⟨held.1, held.2, held.3⟩
    · exact Yields.field (.any _) fun _ _ held _ => ⟨held.1, held.2, held.3⟩
  · intro s doc held complete
    simp only [Option.bind_eq_bind, Option.bind_eq_some_iff, Option.pure_def, Option.some.injEq] at complete
    obtain ⟨version, -, updated, moment, rfl⟩ := complete
    exact ⟨held.updated updated moment, forall_getD held.patterns, forall_getD held.templates⟩

/-- A document that is read from a text can be written again. -/
theorem sound_of_ofText {text : String} {doc : StoreDocument} (read : StoreDocument.ofText text = .ok doc) :
    doc.Sound :=
  yields ⟨128, _⟩ doc (Draft.finite_ofText text.toList) (decode_ok read)

end StoreDocument

/-- Whatever a file holds, the store that is loaded from it can be written so that it is read back. -/
theorem Store.sound_load (d : Disk) (path : Path) {now : Timestamp} (valid : now.Valid) :
    (Store.load d path now).document.Sound := by
  have builtin : (StoreDocument.builtin now).Sound := by
    have templates : ∀ t ∈ Builtin.templates, t.confidence.isFinite = true := by decide +kernel
    exact ⟨valid, Builtin.sound_patterns, templates⟩
  unfold Store.load
  dsimp only
  split
  · exact builtin
  · split
    · next read => exact (StoreDocument.sound_of_ofText read).completed
    · exact builtin

end WidgetRepair
