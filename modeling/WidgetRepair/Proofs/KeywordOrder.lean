import WidgetRepair.Proofs.DistinctLessons

/-! What the keywords of a text are, said of the text alone: of the words that stand in it between other characters
the first twelve, in the order in which they first appear. Hence the case of letters does not matter, keywords are
their own keywords, and a text that goes on keeps the ones it had. -/

namespace WidgetRepair

/-- The first place at which something stands. -/
structure First {α : Type} (stands : Nat → α → Prop) (place : Nat) (a : α) : Prop where
  there : stands place a
  first : ∀ earlier < place, ¬ stands earlier a

section First

variable {α : Type}

theorem exists_first {stands : Nat → α → Prop} {place : Nat} {a : α} (there : stands place a) :
    ∃ n, First stands n a := by
  classical
  have somewhere : ∃ n, stands n a := ⟨place, there⟩
  exact ⟨Nat.find somewhere, Nat.find_spec somewhere, fun _ earlier => Nat.find_min somewhere earlier⟩

theorem First.congr {β : Type} {stands : Nat → α → Prop} {others : Nat → β → Prop} {place : Nat} {a : α} {b : β}
    (same : ∀ n, others n b ↔ stands n a) (first : First stands place a) : First others place b where
  there := (same place).mpr first.there
  first := fun n earlier there => first.first n earlier ((same n).mp there)

/-- What a list says of places. -/
def Listed (items : List (Nat × α)) (place : Nat) (a : α) : Prop := (place, a) ∈ items

/-- Items of which each is kept once stand in the order of their first appearance. -/
theorem eraseDups_firsts [BEq α] [LawfulBEq α] : (items : List (Nat × α)) →
    items.Pairwise (fun x y => x.1 < y.1) →
    (items.map (·.2)).eraseDups.Pairwise fun a b =>
      ∃ m n, First (Listed items) m a ∧ First (Listed items) n b ∧ m < n
  | [], _ => List.Pairwise.nil
  | (k, a) :: rest, rising => by
    obtain ⟨later, rising⟩ := List.pairwise_cons.mp rising
    have others : ((rest.map (·.2)).filter fun b => !b == a) = (rest.filter fun x => !x.2 == a).map (·.2) := by
      rw [List.filter_map]
      rfl
    have elsewhere {b : α} (differs : b ≠ a) (n : Nat) :
        Listed ((k, a) :: rest) n b ↔ Listed (rest.filter fun x => !x.2 == a) n b := by
      simp [Listed, differs]
    have differs {b : α} (member : b ∈ ((rest.filter fun x => !x.2 == a).map (·.2)).eraseDups) : b ≠ a := by
      obtain ⟨x, among, rfl⟩ := List.mem_map.mp (List.mem_eraseDups.mp member)
      simpa using (List.mem_filter.mp among).2
    rw [List.map_cons, List.eraseDups_cons, others, List.pairwise_cons]
    constructor
    · intro b member
      obtain ⟨⟨n, c⟩, among, same⟩ := List.mem_map.mp (List.mem_eraseDups.mp member)
      obtain rfl : c = b := same
      obtain ⟨n, first⟩ := exists_first ((elsewhere (differs member) n).mpr among)
      have behind := (List.mem_filter.mp ((elsewhere (differs member) n).mp first.there)).1
      refine ⟨k, n, ⟨List.mem_cons_self, fun earlier before there => ?_⟩, first, later _ behind⟩
      obtain same | there := List.mem_cons.mp there
      · exact absurd (congrArg Prod.fst same) (Nat.ne_of_lt before)
      · exact Nat.lt_asymm before (later _ there)
    · have ih := eraseDups_firsts (rest.filter fun x => !x.2 == a) (rising.filter _)
      refine ih.imp_of_mem fun {b c} among among' ⟨m, n, first, first', less⟩ => ⟨m, n, ?_, ?_, less⟩
      · exact first.congr (elsewhere (differs among))
      · exact first'.congr (elsewhere (differs among'))
termination_by items => items.length
decreasing_by exact Nat.lt_succ_of_le (List.length_filter_le _ _)

theorem eraseDups_of_nodup [BEq α] [LawfulBEq α] {items : List α} (distinct : items.Nodup) :
    items.eraseDups = items := by
  induction items with
  | nil => rfl
  | cons a rest ih =>
    obtain ⟨new, distinct⟩ := List.nodup_cons.mp distinct
    have others : (rest.filter fun b => !b == a) = rest := by
      refine List.filter_eq_self.mpr fun b member => ?_
      have differs : b ≠ a := fun same => new (same ▸ member)
      simpa using differs
    rw [List.eraseDups_cons, others, ih distinct]

end First

namespace Diagnostic

open Text

/-- A run of keyword characters in a text, from a place on, as long as it can be. -/
structure RunAt (text : List Char) (place : Nat) (run : List Char) : Prop where
  filled : run ≠ []
  chars : ∀ c ∈ run, isKeywordChar c = true
  around : ∃ front back, text = front ++ run ++ back ∧ front.length = place ∧
    (∀ c, front.getLast? = some c → isKeywordChar c = false) ∧ ∀ c, back.head? = some c → isKeywordChar c = false

/-- What is left of a run without the dashes around it. -/
structure Stripped (run inner : List Char) : Prop where
  around : ∃ m n, run = List.replicate m '-' ++ inner ++ List.replicate n '-'
  starts : inner.head? ≠ some '-'
  ends : inner.getLast? ≠ some '-'

/-- A word that says something: at least three characters, not a number and not a stop word. -/
structure Telling (word : String) : Prop where
  long : 3 ≤ word.length
  noNumber : ∃ c ∈ word.toList, c.isDigit = false
  own : word ∉ stopWords

/-- A telling word stands in a text at a place. It is told without the dashes around it and in lower case. -/
structure WordAt (text : List Char) (place : Nat) (word : String) : Prop where
  run : ∃ run inner, RunAt text place run ∧ Stripped run inner ∧ word.toList = inner.map Char.toLower
  telling : Telling word

theorem telling_iff {word : String} : telling word.toList = true ↔ Telling word := by
  have long : leastKeywordLength ≤ word.toList.length ↔ 3 ≤ word.length := by
    rw [String.length_toList]
    rfl
  have noNumber : word.toList.all Char.isDigit = false ↔ ∃ c ∈ word.toList, c.isDigit = false := by
    rw [List.all_eq_false]
    simp
  have own : stopWords.contains (String.ofList word.toList) = false ↔ word ∉ stopWords := by
    rw [String.ofList_toList, ← Bool.not_eq_true, List.contains_iff_mem]
  rw [telling, Bool.and_eq_true, Bool.and_eq_true, Bool.not_eq_true', Bool.not_eq_true', decide_eq_true_eq, long,
    noNumber, own]
  exact ⟨fun ⟨⟨a, b⟩, c⟩ => ⟨a, b, c⟩, fun ⟨a, b, c⟩ => ⟨⟨a, b⟩, c⟩⟩

section Strip

variable {run inner : List Char}

/-- A run without the dashes around it. -/
def strip (run : List Char) : List Char := ((run.dropWhile (· == '-')).reverse.dropWhile (· == '-')).reverse

theorem normalized_strip (run : List Char) : normalized run = (strip run).map Char.toLower := rfl

theorem dashes_of_takeWhile (text : List Char) :
    ∃ n, text.takeWhile (· == '-') = List.replicate n '-' :=
  ⟨_, List.eq_replicate_of_mem fun c member => by simpa using List.all_eq_true.mp List.all_takeWhile c member⟩

theorem dropWhile_replicate (n : Nat) (rest : List Char) :
    (List.replicate n '-' ++ rest).dropWhile (· == '-') = rest.dropWhile (· == '-') :=
  List.dropWhile_append_of_pos fun _ member => beq_iff_eq.mpr (List.mem_replicate.mp member).2

theorem dropWhile_filled {rest : List Char} (starts : rest.head? ≠ some '-') :
    rest.dropWhile (· == '-') = rest := by
  cases rest with
  | nil => rfl
  | cons c rest => exact List.dropWhile_cons_of_neg (by simpa using starts)

theorem head_dropWhile_dashes (text : List Char) : (text.dropWhile (· == '-')).head? ≠ some '-' := by
  intro dash
  have first := List.head?_dropWhile_not (· == '-') text
  rw [dash] at first
  cases first

theorem stripped_strip (run : List Char) : Stripped run (strip run) where
  around := by
    obtain ⟨m, front⟩ := dashes_of_takeWhile run
    obtain ⟨n, back⟩ := dashes_of_takeWhile (run.dropWhile (· == '-')).reverse
    refine ⟨m, n, ?_⟩
    have whole := List.takeWhile_append_dropWhile (p := (· == '-')) (l := (run.dropWhile (· == '-')).reverse)
    have inner := congrArg List.reverse whole
    rw [List.reverse_append, List.reverse_reverse, back, List.reverse_replicate] at inner
    rw [strip, List.append_assoc, inner, ← front, List.takeWhile_append_dropWhile]
  starts := by
    have front : strip run <+: run.dropWhile (· == '-') := by
      have back := List.dropWhile_suffix (· == '-') (l := (run.dropWhile (· == '-')).reverse)
      rw [← List.reverse_prefix, List.reverse_reverse] at back
      exact back
    intro dash
    obtain ⟨rest, whole⟩ := front
    apply head_dropWhile_dashes run
    rw [← whole, List.head?_append, dash, Option.some_or]
  ends := by
    rw [strip, List.getLast?_reverse]
    exact head_dropWhile_dashes _

theorem Stripped.eq (stripped : Stripped run inner) : inner = strip run := by
  obtain ⟨⟨m, n, rfl⟩, starts, ends⟩ := stripped
  rw [strip, List.append_assoc, dropWhile_replicate]
  by_cases none : inner = []
  · have dashes := dropWhile_replicate n []
    rw [List.append_nil] at dashes
    rw [none, List.nil_append, dashes]
    rfl
  · have filled : (inner ++ List.replicate n '-').head? ≠ some '-' := by
      rw [List.head?_append_of_ne_nil _ none]
      exact starts
    rw [dropWhile_filled filled, List.reverse_append, List.reverse_replicate, dropWhile_replicate,
      dropWhile_filled (by rwa [List.head?_reverse]), List.reverse_reverse]

end Strip

/-- Pieces of a text with their places, when one character stands between each two. -/
def placed (place : Nat) : List (List Char) → List (Nat × List Char)
  | [] => []
  | piece :: rest => (place, piece) :: placed (place + piece.length + 1) rest

theorem placed_pieces (place : Nat) (pieces : List (List Char)) : (placed place pieces).map (·.2) = pieces := by
  induction pieces generalizing place with
  | nil => rfl
  | cons piece rest ih => exact congrArg (piece :: ·) (ih _)

theorem placed_behind {place : Nat} {pieces : List (List Char)} : ∀ x ∈ placed place pieces, place ≤ x.1 := by
  induction pieces generalizing place with
  | nil => nofun
  | cons piece rest ih =>
    intro x member
    obtain rfl | later := List.mem_cons.mp member
    · exact Nat.le_refl _
    · have behind := ih x later
      omega

theorem placed_rising (place : Nat) (pieces : List (List Char)) :
    (placed place pieces).Pairwise fun x y => x.1 < y.1 := by
  induction pieces generalizing place with
  | nil => exact List.Pairwise.nil
  | cons piece rest ih =>
    refine List.pairwise_cons.mpr ⟨fun x later => ?_, ih _⟩
    have behind := placed_behind x later
    show place < x.1
    omega

section Runs

variable {text piece rest run : List Char} {c : Char} {place : Nat}

theorem takeWhile_run (chars : ∀ d ∈ piece, isKeywordChar d = true)
    (stop : ∀ d, rest.head? = some d → isKeywordChar d = false) :
    (piece ++ rest).takeWhile isKeywordChar = piece := by
  rw [List.takeWhile_append_of_pos chars]
  cases rest with
  | nil => exact List.append_nil _
  | cons d rest => rw [List.takeWhile_cons_of_neg (by simp [stop d rfl]), List.append_nil]

/-- A run that begins in a piece of keyword characters is the piece. -/
theorem RunAt.eq_piece (runs : RunAt (piece ++ rest) place run) (chars : ∀ d ∈ piece, isKeywordChar d = true)
    (stop : ∀ d, rest.head? = some d → isKeywordChar d = false) (inside : place ≤ piece.length) :
    place = 0 ∧ run = piece := by
  obtain ⟨filled, kept, front, back, whole, rfl, before, after⟩ := runs
  have outer : front <+: piece :=
    List.prefix_of_prefix_length_le ⟨run ++ back, by rw [whole, List.append_assoc]⟩ (List.prefix_append _ _) inside
  obtain rfl : front = [] := by
    by_contra some_char
    have last := List.getLast_mem some_char
    have cut := before _ (List.getLast?_eq_some_getLast some_char)
    rw [chars _ (outer.subset last)] at cut
    cases cut
  refine ⟨rfl, ?_⟩
  rw [← takeWhile_run chars stop, whole, List.nil_append, takeWhile_run kept after]

theorem runAt_front (chars : ∀ d ∈ piece, isKeywordChar d = true)
    (stop : ∀ d, rest.head? = some d → isKeywordChar d = false) (filled : piece ≠ []) :
    RunAt (piece ++ rest) 0 piece :=
  ⟨filled, chars, [], rest, rfl, rfl, nofun, stop⟩

theorem runAt_uncut (chars : ∀ d ∈ piece, isKeywordChar d = true) :
    RunAt piece place run ↔ place = 0 ∧ run = piece ∧ run ≠ [] := by
  constructor
  · intro runs
    have filled := runs.filled
    have inside : place ≤ piece.length := by
      obtain ⟨-, -, front, back, rfl, rfl, -, -⟩ := runs
      simp only [List.length_append]
      omega
    rw [← List.append_nil piece] at runs
    obtain ⟨first, same⟩ := runs.eq_piece chars nofun inside
    exact ⟨first, same, filled⟩
  · rintro ⟨rfl, rfl, filled⟩
    have front : RunAt (run ++ []) 0 run := runAt_front chars nofun filled
    rwa [List.append_nil] at front

/-- Behind a character that cuts, the runs are those of the rest. -/
theorem runAt_behind (cut : isKeywordChar c = false) (n : Nat) :
    RunAt (piece ++ c :: rest) (piece.length + 1 + n) run ↔ RunAt rest n run := by
  have end_of (front : List Char) : (piece ++ c :: front).getLast? = some (front.getLast?.getD c) := by
    rw [List.getLast?_append, List.getLast?_cons, Option.some_or]
  constructor
  · rintro ⟨filled, kept, front, back, whole, size, before, after⟩
    obtain ⟨inner, rfl, rest_eq⟩ : ∃ inner, front = piece ++ c :: inner ∧ rest = inner ++ run ++ back := by
      rw [List.append_assoc] at whole
      obtain ⟨more, rfl, split⟩ | ⟨more, rfl, -⟩ := List.append_eq_append_iff.mp whole
      · cases more with
        | nil =>
          rw [List.append_nil] at size
          omega
        | cons d more =>
          obtain ⟨rfl, later⟩ := List.cons.inj split
          exact ⟨more, rfl, later.trans (List.append_assoc ..).symm⟩
      · rw [List.length_append] at size
        omega
    rw [List.length_append, List.length_cons] at size
    refine ⟨filled, kept, inner, back, rest_eq, by omega, fun d last => before d ?_, after⟩
    rw [end_of, last, Option.getD_some]
  · rintro ⟨filled, kept, front, back, rfl, rfl, before, after⟩
    refine ⟨filled, kept, piece ++ c :: front, back, by simp, ?_, fun d last => ?_, after⟩
    · rw [List.length_append, List.length_cons]
      omega
    · rw [end_of] at last
      cases final : front.getLast? with
      | none =>
        rw [final] at last
        cases last
        exact cut
      | some e =>
        rw [final] at last
        cases last
        exact before _ final

theorem runAt_cut (chars : ∀ d ∈ piece, isKeywordChar d = true) (cut : isKeywordChar c = false) :
    RunAt (piece ++ c :: rest) place run ↔ (place = 0 ∧ run = piece ∧ run ≠ []) ∨
      ∃ n, place = piece.length + 1 + n ∧ RunAt rest n run := by
  have stop : ∀ d, (c :: rest).head? = some d → isKeywordChar d = false := by
    rintro d ⟨⟩
    exact cut
  constructor
  · intro runs
    by_cases inside : place ≤ piece.length
    · obtain ⟨first, same⟩ := runs.eq_piece chars stop inside
      exact .inl ⟨first, same, runs.filled⟩
    · obtain ⟨n, rfl⟩ : ∃ n, place = piece.length + 1 + n := ⟨_, (Nat.add_sub_of_le (Nat.not_le.mp inside)).symm⟩
      exact .inr ⟨n, rfl, (runAt_behind cut n).mp runs⟩
  · rintro (⟨rfl, rfl, filled⟩ | ⟨n, rfl, runs⟩)
    · exact runAt_front chars stop filled
    · exact (runAt_behind cut n).mpr runs

/-- The pieces that are no blank are the runs of a text. -/
theorem mem_placed_iff (filled : run ≠ []) (start : Nat) :
    (place, run) ∈ placed start (splitWhere (fun c => !isKeywordChar c) text) ↔
      ∃ n, place = start + n ∧ RunAt text n run := by
  generalize split : splitWhere (fun c => !isKeywordChar c) text = pieces
  induction pieces generalizing text start with
  | nil =>
    rw [splitWhere_eq] at split
    exact absurd split (List.splitOnP_ne_nil _ _)
  | cons piece after ih =>
    obtain ⟨uncut, ends⟩ := splitWhere_cons split
    have chars : ∀ d ∈ piece, isKeywordChar d = true := fun d member => by simpa using uncut d member
    rw [placed, List.mem_cons, Prod.mk.injEq]
    obtain ⟨rfl, rfl⟩ | ⟨c, rest, cuts, rfl, others⟩ := ends
    · simp only [runAt_uncut chars]
      constructor
      · rintro (⟨rfl, rfl⟩ | none)
        · exact ⟨0, rfl, rfl, rfl, filled⟩
        · cases none
      · rintro ⟨n, rfl, rfl, rfl, -⟩
        exact .inl ⟨rfl, rfl⟩
    · have cut : isKeywordChar c = false := by simpa using cuts
      simp only [ih _ others, runAt_cut chars cut]
      constructor
      · rintro (⟨rfl, rfl⟩ | ⟨n, rfl, runs⟩)
        · exact ⟨0, rfl, .inl ⟨rfl, rfl, filled⟩⟩
        · exact ⟨piece.length + 1 + n, by omega, .inr ⟨n, rfl, runs⟩⟩
      · rintro ⟨n, rfl, ⟨rfl, rfl, -⟩ | ⟨n, rfl, runs⟩⟩
        · exact .inl ⟨rfl, rfl⟩
        · exact .inr ⟨n, by omega, runs⟩

end Runs

/-- The telling words of a text, with repetitions. -/
def tokens (text : List Char) : List (List Char) :=
  ((splitWhere (fun c => !isKeywordChar c) text).map normalized).filter telling

theorem keywords_tokens (text : List Char) :
    keywords text = ((tokens text).eraseDups.take keywordLimit).map String.ofList := rfl

/-- The telling words of a text with their places. -/
def wordsOf (text : List Char) : List (Nat × List Char) :=
  ((placed 0 (splitWhere (fun c => !isKeywordChar c) text)).map fun x => (x.1, normalized x.2)).filter
    fun x => telling x.2

theorem wordsOf_tokens (text : List Char) : (wordsOf text).map (·.2) = tokens text := by
  have each (items : List (Nat × List Char)) :
      ((items.map fun x => (x.1, normalized x.2)).filter fun x => telling x.2).map (·.2) =
        ((items.map (·.2)).map normalized).filter telling := by
    rw [List.map_map, List.filter_map, List.map_map, List.filter_map]
    rfl
  rw [wordsOf, each, placed_pieces, tokens]

theorem wordsOf_rising (text : List Char) : (wordsOf text).Pairwise fun x y => x.1 < y.1 :=
  List.Pairwise.filter _ (List.pairwise_map.mpr (placed_rising 0 _))

theorem mem_wordsOf {text : List Char} {place : Nat} {word : String} :
    (place, word.toList) ∈ wordsOf text ↔ WordAt text place word := by
  have none : normalized [] = [] := rfl
  rw [wordsOf, List.mem_filter, telling_iff, List.mem_map]
  constructor
  · rintro ⟨⟨⟨n, run⟩, among, same⟩, telling⟩
    obtain ⟨rfl, lower⟩ := Prod.mk.inj same
    have filled : run ≠ [] := by
      rintro rfl
      have long := telling.long
      rw [← String.length_toList, ← lower, none] at long
      cases long
    obtain ⟨n, rfl, runs⟩ := (mem_placed_iff filled 0).mp among
    rw [Nat.zero_add]
    exact ⟨⟨run, strip run, runs, stripped_strip run, lower.symm⟩, telling⟩
  · rintro ⟨⟨run, inner, runs, stripped, lower⟩, telling⟩
    refine ⟨⟨(place, run), (mem_placed_iff runs.filled 0).mpr ⟨place, (Nat.zero_add _).symm, runs⟩, ?_⟩, telling⟩
    rw [normalized_strip, ← stripped.eq, lower]

/-- Each word once, in the order of their first appearance. -/
def distinctWords (text : List Char) : List String := (tokens text).eraseDups.map String.ofList

theorem mem_distinctWords {text : List Char} {word : String} :
    word ∈ distinctWords text ↔ ∃ place, WordAt text place word := by
  have token : word ∈ distinctWords text ↔ word.toList ∈ tokens text := by
    rw [distinctWords, List.mem_map]
    constructor
    · rintro ⟨w, among, rfl⟩
      rw [String.toList_ofList]
      exact List.mem_eraseDups.mp among
    · exact fun among => ⟨_, List.mem_eraseDups.mpr among, String.ofList_toList⟩
  rw [token, ← wordsOf_tokens, List.mem_map]
  constructor
  · rintro ⟨⟨place, w⟩, among, same⟩
    exact ⟨place, mem_wordsOf.mp (same ▸ among)⟩
  · rintro ⟨place, stands⟩
    exact ⟨_, mem_wordsOf.mpr stands, rfl⟩

theorem distinctWords_firsts (text : List Char) : (distinctWords text).Pairwise fun v w =>
    ∃ m n, First (WordAt text) m v ∧ First (WordAt text) n w ∧ m < n := by
  rw [distinctWords, List.pairwise_map, ← wordsOf_tokens]
  refine (eraseDups_firsts (wordsOf text) (wordsOf_rising text)).imp fun {a b} ⟨m, n, first, first', less⟩ => ?_
  have same (w : List Char) (k : Nat) : WordAt text k (String.ofList w) ↔ Listed (wordsOf text) k w := by
    rw [← mem_wordsOf, String.toList_ofList, Listed]
  exact ⟨m, n, first.congr (same a), first'.congr (same b), less⟩

theorem keywords_distinctWords (text : List Char) : keywords text = (distinctWords text).take keywordLimit := by
  rw [keywords_tokens, distinctWords, List.map_take]

theorem toLower_outside {c : Char} (outside : 0x80 ≤ c.toNat) : c.toLower = c := by
  have value : c.toNat = c.val.toNat := rfl
  unfold Char.toLower
  refine dif_neg fun upper => ?_
  have last := UInt32.le_iff_toNat_le.mp upper.2
  have bound : 'Z'.val.toNat = 90 := rfl
  omega

/-- What holds of an ASCII character by its number, and of others because they are what they are in lower case. -/
theorem cased_induction {P : Char → Char → Prop} (ascii : ∀ n < 0x80, P (Char.ofNat n) (Char.ofNat n).toLower)
    (others : ∀ c, P c c) (c : Char) : P c c.toLower := by
  by_cases inside : c.toNat < 0x80
  · exact of_ascii (P := fun c => P c c.toLower) ascii inside
  · rw [toLower_outside (Nat.not_lt.mp inside)]
    exact others c

theorem isKeywordChar_toLower (c : Char) : isKeywordChar c.toLower = isKeywordChar c :=
  cased_induction (P := fun c d => isKeywordChar d = isKeywordChar c) (by decide +kernel) (fun _ => rfl) c

theorem dash_of_toLower {c : Char} (dash : c.toLower = '-') : c = '-' :=
  cased_induction (P := fun c d => d = '-' → c = '-') (by decide +kernel) (fun _ same => same) c dash

theorem toLower_toLower (c : Char) : c.toLower.toLower = c.toLower := by
  by_cases inside : c.toNat < 0x80
  · exact (toLower_plain inside).2
  · rw [toLower_outside (Nat.not_lt.mp inside), toLower_outside (Nat.not_lt.mp inside)]

theorem map_toLower_toLower (text : List Char) :
    (text.map Char.toLower).map Char.toLower = text.map Char.toLower := by
  rw [List.map_map]
  exact List.map_congr_left fun c _ => toLower_toLower c

theorem Stripped.lower {run inner : List Char} (stripped : Stripped run inner) :
    Stripped (run.map Char.toLower) (inner.map Char.toLower) := by
  obtain ⟨⟨m, n, rfl⟩, starts, ends⟩ := stripped
  have dash {c : Option Char} (other : c ≠ some '-') : c.map Char.toLower ≠ some '-' := by
    intro same
    obtain ⟨c, rfl, lower⟩ := Option.map_eq_some_iff.mp same
    exact other (congrArg some (dash_of_toLower lower))
  refine ⟨⟨m, n, ?_⟩, ?_, ?_⟩
  · rw [List.map_append, List.map_append, List.map_replicate, List.map_replicate]
    rfl
  · rw [List.head?_map]
    exact dash starts
  · rw [List.getLast?_map]
    exact dash ends

theorem normalized_toLower (run : List Char) : normalized (run.map Char.toLower) = normalized run := by
  rw [normalized_strip, ← (stripped_strip run).lower.eq, map_toLower_toLower, normalized_strip]

theorem normalized_normalized (run : List Char) : normalized (normalized run) = normalized run := by
  have own : Stripped (strip run) (strip run) :=
    ⟨⟨0, 0, by simp⟩, (stripped_strip run).starts, (stripped_strip run).ends⟩
  rw [normalized_strip run, normalized_toLower, normalized_strip, ← own.eq]

theorem splitWhere_map {cut : Char → Bool} {f : Char → Char} (same : ∀ c, cut (f c) = cut c) (text : List Char) :
    splitWhere cut (text.map f) = (splitWhere cut text).map (List.map f) := by
  induction text with
  | nil => rfl
  | cons c text ih =>
    rw [List.map_cons, splitWhere, splitWhere, ih, same]
    cases splitWhere cut text with
    | nil => rfl
    | cons first others => cases cut c <;> rfl

theorem tokens_toLower (text : List Char) : tokens (text.map Char.toLower) = tokens text := by
  rw [tokens, splitWhere_map fun c => by rw [isKeywordChar_toLower], List.map_map, tokens]
  congr 1
  exact List.map_congr_left fun run _ => normalized_toLower run

theorem keywords_cased {text other : List Char} (same : other.map Char.toLower = text.map Char.toLower) :
    keywords other = keywords text := by
  rw [keywords_tokens, ← tokens_toLower, same, tokens_toLower, keywords_tokens]

theorem tokens_append (text rest : List Char) {c : Char} (cut : isKeywordChar c = false) :
    tokens (text ++ c :: rest) = tokens text ++ tokens rest := by
  have cuts : (!isKeywordChar c) = true := by rw [cut]; rfl
  rw [tokens, splitWhere_append (fun c => !isKeywordChar c) cuts, List.map_append, List.filter_append]
  rfl

theorem keywords_append (text rest : List Char) {c : Char} (cut : isKeywordChar c = false) :
    keywords text <+: keywords (text ++ c :: rest) := by
  rw [keywords_tokens, keywords_tokens, tokens_append text rest cut, List.eraseDups_append]
  exact ((List.prefix_append _ _).take keywordLimit).map String.ofList

/-- A telling word that is told as it stands. -/
structure Plainly (word : List Char) : Prop where
  chars : ∀ c ∈ word, isKeywordChar c = true
  kept : normalized word = word
  telling : telling word = true

theorem plainly_of_mem {text word : List Char} (among : word ∈ tokens text) : Plainly word := by
  obtain ⟨among, telling⟩ := List.mem_filter.mp among
  obtain ⟨run, piece, rfl⟩ := List.mem_map.mp among
  refine ⟨fun c member => ?_, normalized_normalized run, telling⟩
  obtain ⟨inner, within, lower⟩ := normalized_eq run
  obtain ⟨d, among, rfl⟩ := List.mem_map.mp (lower ▸ member)
  rw [isKeywordChar_toLower]
  simpa using (mem_splitWhere piece).2 d (within.subset among)

theorem tokens_plainly {word : List Char} (plainly : Plainly word) : tokens word = [word] := by
  rw [tokens, splitWhere_uncut fun c member => by simpa using plainly.chars c member, List.map_singleton,
    plainly.kept, List.filter_cons_of_pos plainly.telling, List.filter_nil]

theorem tokens_joined {words : List (List Char)} (plainly : ∀ word ∈ words, Plainly word) :
    tokens ([' '].intercalate words) = words := by
  induction words with
  | nil => rfl
  | cons word rest ih =>
    obtain ⟨first, others⟩ := List.forall_mem_cons.mp plainly
    cases rest with
    | nil => simpa using tokens_plainly first
    | cons next rest =>
      have blank : isKeywordChar ' ' = false := rfl
      rw [List.intercalate_cons_cons, List.append_assoc, List.singleton_append, tokens_append _ _ blank,
        tokens_plainly first, ih others]
      rfl

theorem keywords_again (text : List Char) : keywords (" ".intercalate (keywords text)).toList = keywords text := by
  have words : (keywords text).map String.toList = (tokens text).eraseDups.take keywordLimit := by
    rw [keywords_tokens, List.map_map]
    exact (List.map_congr_left fun w _ => String.toList_ofList).trans (List.map_id _)
  have plainly : ∀ word ∈ (tokens text).eraseDups.take keywordLimit, Plainly word := fun word member =>
    plainly_of_mem (List.mem_eraseDups.mp (List.mem_of_mem_take member))
  have distinct : ((tokens text).eraseDups.take keywordLimit).Nodup :=
    (nodup_eraseDups _).sublist (List.take_sublist _ _)
  have joined : (" ".intercalate (keywords text)).toList = [' '].intercalate ((keywords text).map String.toList) :=
    String.toList_intercalate
  rw [joined, words, keywords_tokens, tokens_joined plainly, eraseDups_of_nodup distinct,
    List.take_of_length_le (List.length_take_le _ _), keywords_tokens]

/-- The keywords of a text are the first twelve of its telling words, each once, in the order of their first
appearance. They do not depend on the case of letters, they are the keywords of the text that they make when they are
joined by blanks, and a text that goes on behind a character that belongs to no word begins with the same keywords. -/
theorem keywords_canonical (text : List Char) :
    (∃ words : List String, (∀ word, word ∈ words ↔ ∃ place, WordAt text place word) ∧
      words.Pairwise (fun v w => ∃ m n, First (WordAt text) m v ∧ First (WordAt text) n w ∧ m < n) ∧
      keywords text = words.take 12) ∧
    (∀ other : List Char, other.map Char.toLower = text.map Char.toLower → keywords other = keywords text) ∧
    keywords (" ".intercalate (keywords text)).toList = keywords text ∧
    ∀ (c : Char) (rest : List Char), isKeywordChar c = false → keywords text <+: keywords (text ++ c :: rest) := by
  refine ⟨⟨distinctWords text, ?_, distinctWords_firsts text, keywords_distinctWords text⟩, ?_,
    keywords_again text, ?_⟩
  · exact fun word => mem_distinctWords
  · exact fun other same => keywords_cased same
  · exact fun c rest cut => keywords_append text rest cut

/-- An error in capitals, and one that goes on with words that are known and a number. -/
theorem missing_import_keywords_canonical :
    let text := "error TS2304: Cannot find name 'React'. The --React import".toList
    let louder := "ERROR TS2304: CANNOT FIND NAME 'REACT'. THE --REACT IMPORT".toList
    keywords text = ["ts2304", "cannot", "find", "name", "react", "import"] ∧
      louder.map Char.toLower = text.map Char.toLower ∧ keywords louder = keywords text ∧
      isKeywordChar '\n' = false ∧ keywords text <+: keywords (text ++ '\n' :: "Find 2304 react_dom".toList) := by
  intro text louder
  obtain ⟨-, cased, -, further⟩ := keywords_canonical text
  have same : louder.map Char.toLower = text.map Char.toLower := by decide +kernel
  exact ⟨by decide +kernel, same, cased louder same, rfl, further '\n' _ rfl⟩

end Diagnostic

end WidgetRepair
