import WidgetRepair.Proofs.ErrorTexts
import WidgetRepair.Proofs.SharedStore
import WidgetRepair.Proofs.StoreEffects

/-! What a store learns while calls are made on it. A pattern is only made of a repair that worked, for an error that
no pattern before it is for, and neither what it is for nor what the others are for changes afterwards. -/

namespace WidgetRepair

open StoreCall

theorem nodup_eraseDups {α : Type} [BEq α] [LawfulBEq α] : (items : List α) → items.eraseDups.Nodup
  | [] => List.nodup_nil
  | a :: rest => by
    rw [List.eraseDups_cons, List.nodup_cons, List.mem_eraseDups]
    exact ⟨by simp, nodup_eraseDups _⟩
termination_by items => items.length
decreasing_by exact Nat.lt_succ_of_le (List.length_filter_le _ _)

namespace Diagnostic

open Binary64

theorem keywords_length (text : List Char) : (keywords text).length ≤ 12 := by
  simp only [keywords, List.length_map, List.length_take]
  exact Nat.min_le_left keywordLimit _

theorem keywords_nodup (text : List Char) : (keywords text).Nodup := by
  have tokens := (nodup_eraseDups (((Text.splitWhere (fun c => !isKeywordChar c) text).map normalized).filter
    telling)).sublist (List.take_sublist keywordLimit _)
  exact tokens.map fun _ _ same => String.ofList_injective same

/-- How much two sets of keywords share, as a part of the larger one. -/
def overlap (a b : List String) : Rat :=
  (a.toFinset ∩ b.toFinset).card / (max a.toFinset.card b.toFinset.card : Nat)

theorem overlap_comm (a b : List String) : overlap a b = overlap b a := by
  rw [overlap, overlap, Finset.inter_comm, max_comm]

variable {a b : List String}

theorem card_toFinset (a : List String) : a.toFinset.card = a.eraseDups.length := by
  rw [← List.toFinset_card_of_nodup (nodup_eraseDups a)]
  congr 1
  ext keyword
  simp

theorem card_shared (a b : List String) :
    (a.toFinset ∩ b.toFinset).card = (a.eraseDups.filter b.eraseDups.contains).length := by
  rw [← List.toFinset_card_of_nodup ((nodup_eraseDups a).filter _)]
  congr 1
  ext keyword
  simp

theorem reads_natural {n : Nat} (small : n < 2 ^ 53) : Reads (Float.ofNat n) (n : Rat) := by
  have reads := reads_ofNat n
  have kept := rounded_exact small (e := 0) (by decide)
  rw [zpow_zero, mul_one] at kept
  have bits : (n : Rat) < 2 ^ 53 := by exact_mod_cast small
  have finite : (n : Rat) < 2 ^ 1024 := bits.trans (pow_lt_pow_right₀ one_lt_two (by decide))
  rwa [near_coe, kept, if_pos finite] at reads

/-- Of at most twelve shared keywords 12 of 17 are the least that are more than seven tenths, and they are so with
rounded numbers, too. -/
theorem threshold_lt {shared larger : Nat} (few : shared ≤ 12) (some : 0 < larger)
    (above : 7 * larger < 10 * shared) : similarityThreshold < Float.ofNat shared / Float.ofNat larger := by
  have least : 12 * larger ≤ 17 * shared := by omega
  have positive : (0 : Rat) < larger := Nat.cast_pos.mpr some
  have quotient := (reads_natural (n := shared) (by omega)).div (reads_natural (n := larger) (by omega)) positive
  have bound := (reads_natural (n := 12) (by decide)).div (reads_natural (n := 17) (by decide)) (by norm_num)
  have clear : similarityThreshold < Float.ofNat 12 / Float.ofNat 17 := by decide
  rw [reads_threshold.lt_iff bound] at clear
  rw [reads_threshold.lt_iff quotient]
  refine clear.trans_le (near_mono (WithTop.coe_nonneg.mpr (by norm_num)) (WithTop.coe_le_coe.mpr ?_))
  rw [div_le_div_iff₀ (by norm_num) positive]
  exact_mod_cast (mul_comm 17 shared ▸ least)

/-- Keywords that were not found similar to those of an error overlap in at most seven tenths. -/
theorem overlap_le (few : b.toFinset.card ≤ 12) (apart : ¬ similarityThreshold < similarity a b) :
    overlap a b ≤ 7 / 10 := by
  by_contra above
  rw [overlap, not_le] at above
  have some : 0 < max a.toFinset.card b.toFinset.card := by
    refine Nat.pos_of_ne_zero fun none => ?_
    rw [none, Nat.cast_zero, div_zero] at above
    norm_num at above
  have positive : (0 : Rat) < (max a.toFinset.card b.toFinset.card : Nat) := Nat.cast_pos.mpr some
  rw [div_lt_div_iff₀ (by norm_num) positive] at above
  have counts : 7 * max a.toFinset.card b.toFinset.card < 10 * (a.toFinset ∩ b.toFinset).card := by
    rw [mul_comm 10]
    exact_mod_cast above
  have shared : (a.toFinset ∩ b.toFinset).card ≤ 12 := (Finset.card_le_card Finset.inter_subset_right).trans few
  have common : (a.toFinset ∩ b.toFinset).Nonempty := Finset.card_pos.mp (by omega)
  obtain ⟨keyword, member⟩ := common
  obtain ⟨left, right⟩ := Finset.mem_inter.mp member
  have filled : (a.isEmpty || b.isEmpty) = false := by
    simp [List.ne_nil_of_mem (List.mem_toFinset.mp left), List.ne_nil_of_mem (List.mem_toFinset.mp right)]
  refine apart ?_
  rw [similarity, filled, if_neg Bool.false_ne_true]
  dsimp only
  rw [← card_shared, ← card_toFinset, ← card_toFinset]
  exact threshold_lt shared some counts

end Diagnostic

/-- A pattern as it is learned from a text, after some more successes. -/
structure LearnedFromText (error id : String) (rewards : Nat) (q : FixPattern) : Prop where
  id : q.id = id
  provenance : q.provenance = .learned
  successes : q.successes = (1 + rewards) % counterLimit
  filled : q.errorPattern ≠ ""
  short : q.errorPattern.length ≤ 160
  line : ∃ line ∈ Text.lines error.toList, q.errorPattern.toList <:+: line
  few : q.keywords.length ≤ 12
  distinct : q.keywords.Nodup

structure Dissimilar (p q : FixPattern) : Prop where
  signatures : p.errorPattern ≠ q.errorPattern
  keywords : Diagnostic.overlap p.keywords q.keywords ≤ 7 / 10

theorem Dissimilar.symm {p q : FixPattern} (dissimilar : Dissimilar p q) : Dissimilar q p where
  signatures := dissimilar.signatures.symm
  keywords := Diagnostic.overlap_comm p.keywords q.keywords ▸ dissimilar.keywords

namespace Store

variable {error : String}

theorem lessonOf_learned (filled : Diagnostic.signature error ≠ "") (description : String) (fix : FixAction)
    (stamp : Stamp) : LearnedFromText error stamp.id 0 (lessonOf error description fix stamp) := by
  have few := Diagnostic.keywords_length (Diagnostic.errorSummary error.toList)
  have distinct := Diagnostic.keywords_nodup (Diagnostic.errorSummary error.toList)
  unfold lessonOf
  generalize Diagnostic.keywords (Diagnostic.errorSummary error.toList) = keywords at few distinct ⊢
  refine ⟨rfl, rfl, rfl, filled, ?_, ?_, few, distinct⟩
  · show (Diagnostic.signature error).length ≤ 160
    rw [Diagnostic.signature, String.length_ofList, List.length_take]
    exact Nat.min_le_left Diagnostic.signatureLimit _
  · obtain none | ⟨line, member, within⟩ := Diagnostic.errorSummary_within error.toList
    · refine absurd ?_ filled
      rw [Diagnostic.signature, none]
      rfl
    · refine ⟨line, member, ?_⟩
      show (Diagnostic.signature error).toList <:+: line
      rw [Diagnostic.signature, String.toList_ofList]
      exact (List.take_prefix _ _).isInfix.trans within

/-- A pattern is dissimilar to a lesson where it is not for the error of the lesson. -/
theorem dissimilar_lessonOf {p : FixPattern} (novel : speaksOf error p = false) (description : String)
    (fix : FixAction) (stamp : Stamp) : Dissimilar p (lessonOf error description fix stamp) := by
  have few := Diagnostic.keywords_length (Diagnostic.errorSummary error.toList)
  unfold speaksOf at novel
  unfold lessonOf
  generalize Diagnostic.keywords (Diagnostic.errorSummary error.toList) = keywords at few novel ⊢
  obtain ⟨signature, similarity⟩ := Bool.or_eq_false_iff.mp novel
  exact ⟨beq_eq_false_iff_ne.mp signature,
    Diagnostic.overlap_le ((List.toFinset_card_le _).trans few) (of_decide_eq_false similarity)⟩

end Store

/-- A pattern that was at most tried, with so many successes. -/
structure Tried (rewards : Nat) (p q : FixPattern) : Prop where
  identity : q.identity = p.identity
  successes : q.successes = (p.successes + rewards) % counterLimit

namespace Tried

variable {rewards more : Nat} {p q p' q' : FixPattern}

theorem refl (p : FixPattern) : Tried 0 p p := ⟨rfl, (Nat.mod_eq_of_lt (p.outcomes_lt true)).symm⟩

theorem trans {r : FixPattern} (first : Tried rewards p q) (second : Tried more q r) :
    Tried (rewards + more) p r := by
  refine ⟨second.identity.trans first.identity, ?_⟩
  rw [second.successes, first.successes, Nat.mod_add_mod, Nat.add_assoc]

theorem afterOutcome (p : FixPattern) (success : Bool) (now : Timestamp) :
    Tried (if success then 1 else 0) p (p.afterOutcome success now) := by
  refine ⟨rfl, ?_⟩
  cases success with
  | true => exact p.outcomes_succ true now
  | false => exact (refl p).successes

theorem learned (tried : Tried more p q) {error id : String} (learned : LearnedFromText error id rewards p) :
    LearnedFromText error id (rewards + more) q := by
  obtain ⟨name, provenance, successes, filled, short, line, few, distinct⟩ := learned
  obtain ⟨identity, counted⟩ := tried
  simp only [FixPattern.identity, PatternIdentity.mk.injEq] at identity
  obtain ⟨sameId, sameText, sameWords, -, -, sameProvenance⟩ := identity
  rw [← sameText] at filled short line
  rw [← sameWords] at few distinct
  rw [successes, Nat.mod_add_mod, Nat.add_assoc] at counted
  exact ⟨sameId.trans name, sameProvenance.trans provenance, counted, filled, short, line, few, distinct⟩

theorem dissimilar (tried : Tried rewards p q) (tried' : Tried more p' q') (dissimilar : Dissimilar p p') :
    Dissimilar q q' := by
  obtain ⟨signatures, keywords⟩ := dissimilar
  have text := congrArg PatternIdentity.errorPattern tried.identity
  have text' := congrArg PatternIdentity.errorPattern tried'.identity
  have words := congrArg PatternIdentity.keywords tried.identity
  have words' := congrArg PatternIdentity.keywords tried'.identity
  simp only [FixPattern.identity] at text text' words words'
  rw [← text, ← text'] at signatures
  rw [← words, ← words'] at keywords
  exact ⟨signatures, keywords⟩

end Tried

section Staying

variable {doc after : StoreDocument} {call : StoreCall} {i : Nat} {p : FixPattern}

theorem StoreCall.Effect.pattern_stays (effect : Effect doc call after) (found : doc.patterns[i]? = some p) :
    ∃ q, after.patterns[i]? = some q ∧
      Tried (if call.outcome? doc = some (.pattern i, true) then 1 else 0) p q := by
  have inside := (List.getElem?_eq_some_iff.mp found).1
  cases effect with
  | kept still =>
    rw [still]
    exact ⟨p, found, .refl p⟩
  | used _ outcome =>
    rw [outcome, if_neg (by simp)]
    exact ⟨p, found, .refl p⟩
  | @tried id place success now first outcome =>
    simp only [StoreDocument.afterOutcome, Store.getElem?_changeFirst, found, first, outcome]
    by_cases here : place = i
    · subst here
      simpa using Tried.afterOutcome p success now
    · simpa [here] using Tried.refl p
  | added still =>
    rw [still]
    exact ⟨p, (List.getElem?_append_left inside).trans found, .refl p⟩
  | learned still =>
    rw [still]
    exact ⟨p, (List.getElem?_append_left inside).trans found, .refl p⟩

/-- What an outcome is taken down for is there. -/
theorem StoreCall.Effect.lt_of_outcome (effect : Effect doc call after) {success : Bool}
    (outcome : call.outcome? doc = some (.pattern i, success)) : i < doc.patterns.length := by
  cases effect with
  | kept still | added still | learned still => rw [still] at outcome; cases outcome
  | used _ other => rw [other] at outcome; cases outcome
  | tried first this =>
    rw [this] at outcome
    cases outcome
    exact (List.findIdx?_eq_some_iff_getElem.mp first).1

/-- How many successes the first calls take down for the pattern at a place. -/
def rewardsAt (calls : List StoreCall) (s : Store) (d : Disk) (i n : Nat) : Nat :=
  (List.range n).countP fun k => calls[k]?.bind (·.outcome? (documentAt calls s d k)) = some (.pattern i, true)

section Steps

variable (calls : List StoreCall) (s : Store) (d : Disk) {n m : Nat}

theorem rewardsAt_succ (i n : Nat) : rewardsAt calls s d i (n + 1) = rewardsAt calls s d i n +
    if calls[n]?.bind (·.outcome? (documentAt calls s d n)) = some (.pattern i, true) then 1 else 0 := by
  rw [rewardsAt, List.range_succ, List.countP_append, List.countP_singleton]
  simp only [decide_eq_true_eq]
  rfl

theorem pattern_stays_once (found : (documentAt calls s d n).patterns[i]? = some p) :
    ∃ q more, (documentAt calls s d (n + 1)).patterns[i]? = some q ∧
      rewardsAt calls s d i (n + 1) = rewardsAt calls s d i n + more ∧ Tried more p q := by
  have count := rewardsAt_succ calls s d i n
  cases next : calls[n]? with
  | none =>
    have past : calls.length ≤ n := List.getElem?_eq_none_iff.mp next
    have same : documentAt calls s d (n + 1) = documentAt calls s d n := by
      rw [documentAt_eq, documentAt_eq, List.take_of_length_le past, List.take_of_length_le (Nat.le_succ_of_le past)]
    rw [next] at count
    exact ⟨p, 0, same ▸ found, count, .refl p⟩
  | some call =>
    obtain ⟨q, there, tried⟩ := (documentAfter_effect call (documentAt calls s d n)).pattern_stays found
    rw [next] at count
    exact ⟨q, _, documentAt_succ next s d ▸ there, count, tried⟩

theorem pattern_stays (found : (documentAt calls s d n).patterns[i]? = some p) (later : n ≤ m) :
    ∃ q more, (documentAt calls s d m).patterns[i]? = some q ∧
      rewardsAt calls s d i m = rewardsAt calls s d i n + more ∧ Tried more p q := by
  induction later with
  | refl => exact ⟨p, 0, found, rfl, .refl p⟩
  | step _ ih =>
    obtain ⟨between, some, there, counted, tried⟩ := ih
    obtain ⟨q, more, last, further, again⟩ := pattern_stays_once calls s d there
    exact ⟨q, some + more, last, by rw [further, counted, Nat.add_assoc], tried.trans again⟩

/-- Before there is a pattern at a place, no success is taken down for it. -/
theorem rewardsAt_eq_zero (absent : (documentAt calls s d n).patterns.length ≤ i) :
    rewardsAt calls s d i (n + 1) = 0 := by
  refine List.countP_eq_zero.mpr fun k before rewarded => ?_
  obtain ⟨call, next, outcome⟩ := Option.bind_eq_some_iff.mp (of_decide_eq_true rewarded)
  have inside := (documentAfter_effect call _).lt_of_outcome outcome
  obtain ⟨q, -, there, -⟩ := pattern_stays calls s d (List.getElem?_eq_getElem inside)
    (Nat.le_of_lt_succ (List.mem_range.mp before))
  exact absurd (List.getElem?_eq_some_iff.mp there).1 (Nat.not_lt.mpr absent)

end Steps

/-- A call that learns and after which there are more patterns has learned from a success, what no pattern was for. -/
theorem StoreCall.Effect.learned_of_grown (effect : Effect doc call after) {error description : String}
    {fix : FixAction} {success : Bool} {stamp : Stamp} (learning : call = .learn error description fix success stamp)
    (grown : doc.patterns.length < after.patterns.length) : success = true ∧ Diagnostic.signature error ≠ "" ∧
      (∀ p ∈ doc.patterns, Store.speaksOf error p = false) ∧
      after.patterns = doc.patterns ++ [Store.lessonOf error description fix stamp] := by
  cases effect with
  | kept | used => exact absurd grown (Nat.lt_irrefl _)
  | tried =>
    rw [StoreDocument.afterOutcome, Store.length_changeFirst] at grown
    exact absurd grown (Nat.lt_irrefl _)
  | added _ adding =>
    rw [learning] at adding
    cases adding
  | learned _ same filled novel =>
    rw [learning] at same
    cases same
    exact ⟨rfl, filled, novel, rfl⟩

end Staying

/-- A run learns a pattern from a text by one of its calls: there is one more pattern afterwards, at the end. -/
structure LearnsAt (calls : List StoreCall) (s : Store) (d : Disk) (n : Nat) (error id : String) (i : Nat) : Prop where
  call : ∃ description fix success now, calls[n]? = some (.learn error description fix success ⟨now, id⟩)
  place : i = (documentAt calls s d n).patterns.length
  grown : i < (documentAt calls s d (n + 1)).patterns.length

/-- The pattern at a place was learned from a text by one of the first calls. -/
def LearnedBy (calls : List StoreCall) (s : Store) (d : Disk) (m : Nat) (error id : String) (i : Nat) : Prop :=
  ∃ n < m, LearnsAt calls s d n error id i

/-- What a run learns is earned, and different from what stands before it. Patterns are told by their places, which
they keep. The counter of successes of what was learned is one more than the successes taken down for it, as far as 32
bits go. -/
structure LearnsApart (calls : List StoreCall) (s : Store) (d : Disk) : Prop where
  earned : ∀ m error id i, LearnedBy calls s d m error id i → ∃ q, (documentAt calls s d m).patterns[i]? = some q ∧
    LearnedFromText error id (rewardsAt calls s d i m) q ∧
      ∀ j < i, ∀ p, (documentAt calls s d m).patterns[j]? = some p → Dissimilar p q
  pairwise : ∀ m error id i error' id' i', LearnedBy calls s d m error id i → LearnedBy calls s d m error' id' i' →
    i ≠ i' → ∃ q q', (documentAt calls s d m).patterns[i]? = some q ∧
      (documentAt calls s d m).patterns[i']? = some q' ∧ Dissimilar q q' ∧ Dissimilar q' q
  /-- From failures nothing is learned. -/
  failures : (∀ error description fix success stamp, .learn error description fix success stamp ∈ calls →
    success = false) → ∀ m error id i, ¬ LearnedBy calls s d m error id i

section Learning

variable {calls : List StoreCall} {s : Store} {d : Disk} {m n i : Nat} {error id : String}

/-- What was learned has stayed where it is since, and so have the patterns that it was compared with. -/
theorem learned_apart (learned : LearnedBy calls s d m error id i) :
    ∃ q, (documentAt calls s d m).patterns[i]? = some q ∧ LearnedFromText error id (rewardsAt calls s d i m) q ∧
      ∀ j < i, ∀ p, (documentAt calls s d m).patterns[j]? = some p → Dissimilar p q := by
  obtain ⟨n, later, ⟨description, fix, success, now, next⟩, rfl, grown⟩ := learned
  have unrewarded := rewardsAt_eq_zero calls s d (Nat.le_refl (documentAt calls s d n).patterns.length)
  have after := documentAt_succ next s d
  rw [after] at grown
  obtain ⟨-, filled, novel, patterns⟩ := (documentAfter_effect _ _).learned_of_grown rfl grown
  rw [← after] at patterns
  have lesson : (documentAt calls s d (n + 1)).patterns[(documentAt calls s d n).patterns.length]? =
      some (Store.lessonOf error description fix ⟨now, id⟩) := by
    rw [patterns, List.getElem?_append_right (Nat.le_refl _), Nat.sub_self]
    rfl
  obtain ⟨q, more, there, counted, tried⟩ := pattern_stays calls s d lesson (Nat.succ_le_of_lt later)
  rw [unrewarded] at counted
  refine ⟨q, there, ?_, fun j before p found => ?_⟩
  · rw [counted]
    exact tried.learned (Store.lessonOf_learned filled description fix ⟨now, id⟩)
  · have old : (documentAt calls s d (n + 1)).patterns[j]? = some (documentAt calls s d n).patterns[j] := by
      rw [patterns, List.getElem?_append_left before, List.getElem?_eq_getElem before]
    obtain ⟨p', _, there', -, tried'⟩ := pattern_stays calls s d old (Nat.succ_le_of_lt later)
    rw [found] at there'
    cases there'
    exact tried'.dissimilar tried (Store.dissimilar_lessonOf (novel _ (List.getElem_mem before)) description fix _)

theorem success_of_learnsAt (learns : LearnsAt calls s d n error id i) :
    ∃ description fix stamp, .learn error description fix true stamp ∈ calls := by
  obtain ⟨⟨description, fix, success, now, next⟩, rfl, grown⟩ := learns
  rw [documentAt_succ next] at grown
  obtain ⟨rfl, -⟩ := (documentAfter_effect _ _).learned_of_grown rfl grown
  exact ⟨description, fix, _, List.mem_of_getElem? next⟩

end Learning

/-- Whatever calls are made on a store, and whether or not they can be saved, what is learned by them is earned and
is for an error of its own. -/
theorem lessons_apart (calls : List StoreCall) (s : Store) (d : Disk) : LearnsApart calls s d := by
  refine ⟨fun m error id i => learned_apart, ?_, ?_⟩
  · intro m error id i error' id' i' learned learned' other
    obtain ⟨q, there, -, before⟩ := learned_apart learned
    obtain ⟨q', there', -, before'⟩ := learned_apart learned'
    refine ⟨q, q', there, there', ?_⟩
    obtain less | more := Nat.lt_or_gt_of_ne other
    · have dissimilar := before' i less q there
      exact ⟨dissimilar, dissimilar.symm⟩
    · have dissimilar := before i' more q' there'
      exact ⟨dissimilar.symm, dissimilar⟩
  · rintro failed m error id i ⟨n, -, learns⟩
    obtain ⟨description, fix, stamp, member⟩ := success_of_learnsAt learns
    exact Bool.noConfusion (failed error description fix true stamp member)

/-- Two errors that share one of three keywords, and the first of them once more. -/
theorem lessons_apart_for_two_imports :
    let fix := FixAction.manual "Add the import"
    let name := "TS2304: unknown React"
    let module := "TS2307: unknown clsx"
    let calls : List StoreCall := [.learn name "" fix true ⟨default, "learned-1"⟩,
      .learn module "" fix true ⟨default, "learned-2"⟩, .learn name "" fix false ⟨default, "learned-3"⟩]
    let s : Store := { path := some ⟨"nucleus.json"⟩, document := .empty default }
    let d : Disk := { Disk.empty with hitches := [.refused] }
    LearnedBy calls s d 3 name "learned-1" 0 ∧ LearnedBy calls s d 3 module "learned-2" 1 ∧
      ∃ p q, (documentAt calls s d 3).patterns[0]? = some p ∧ (documentAt calls s d 3).patterns[1]? = some q ∧
        Dissimilar p q := by
  intro fix name module calls s d
  have zero : (documentAt calls s d 0).patterns.length = 0 := rfl
  have one : (documentAt calls s d 1).patterns.length = 1 := by
    rw [documentAt_eq]
    decide
  have two : (documentAt calls s d 2).patterns.length = 2 := by
    rw [documentAt_eq]
    decide
  have first : LearnedBy calls s d 3 name "learned-1" 0 :=
    ⟨0, by decide, ⟨_, _, _, _, rfl⟩, zero.symm, by rw [one]; decide⟩
  have second : LearnedBy calls s d 3 module "learned-2" 1 :=
    ⟨1, by decide, ⟨_, _, _, _, rfl⟩, one.symm, by rw [two]; decide⟩
  obtain ⟨p, q, there, there', dissimilar, -⟩ :=
    (lessons_apart calls s d).pairwise 3 _ _ _ _ _ _ first second (by decide)
  exact ⟨first, second, p, q, there, there', dissimilar⟩

/-- A pattern that stands alone and succeeds again and again. -/
theorem rewarded_again (n : Nat) {doc : StoreDocument} {p : FixPattern} (single : doc.patterns = [p])
    (now : Timestamp) : ∃ q,
      (documentAfterAll (List.replicate n (.recordOutcome p.id true now)) doc).patterns = [q] ∧ Tried n p q := by
  induction n generalizing doc p with
  | zero => exact ⟨p, single, .refl p⟩
  | succ n ih =>
    have known : p.id ∈ doc.patterns.map (·.id) := by simp [single]
    have next : ((recordOutcome p.id true now).documentAfter doc).patterns = [p.afterOutcome true now] := by
      rw [recordOutcome_known known]
      simp [StoreDocument.afterOutcome, single, Store.changeFirst_cons]
    obtain ⟨q, last, tried⟩ := ih next
    refine ⟨q, last, ?_⟩
    rw [Nat.add_comm]
    exact (Tried.afterOutcome p true now).trans tried

namespace Tireless

def error : String := "TS2304: unknown React"

/-- A lesson and some successes of it. -/
def calls (n : Nat) : List StoreCall :=
  .learn error "" (.manual "Add the import") true ⟨default, "learned-1"⟩ ::
    List.replicate n (.recordOutcome "learned-1" true default)

def store : Store := { document := .empty default }

def lesson : FixPattern := Store.lessonOf error "" (.manual "Add the import") ⟨default, "learned-1"⟩

theorem taught (n : Nat) : documentAt (calls n) store Disk.empty 1 =
    (StoreDocument.empty default).withPattern lesson default := by
  rw [documentAt_eq, calls, List.take_succ_cons, List.take_zero]
  rfl

theorem calls_learn (n : Nat) : LearnedBy (calls n) store Disk.empty (n + 1) error "learned-1" 0 := by
  refine ⟨0, Nat.succ_pos n, ⟨_, _, _, _, rfl⟩, rfl, ?_⟩
  rw [taught]
  exact Nat.one_pos

theorem calls_count (n : Nat) : ∃ q, (documentAt (calls n) store Disk.empty (n + 1)).patterns = [q] ∧
    q.provenance = .learned ∧ q.successes = (1 + n) % counterLimit := by
  have alone : ((StoreDocument.empty default).withPattern lesson default).patterns = [lesson] := rfl
  obtain ⟨q, last, identity, successes⟩ := rewarded_again n alone default
  have all : documentAt (calls n) store Disk.empty (n + 1) = documentAfterAll
      (List.replicate n (.recordOutcome lesson.id true default)) (documentAt (calls n) store Disk.empty 1) := by
    rw [documentAt_eq, documentAt_eq, calls, List.take_succ_cons, List.take_succ_cons, List.take_zero,
      List.take_of_length_le (Nat.le_of_eq List.length_replicate)]
    rfl
  rw [all, taught]
  exact ⟨q, last, congrArg PatternIdentity.provenance identity, successes⟩

end Tireless

open Tireless in
/-- After enough successes the counter of a learned pattern is zero. -/
theorem tireless_lesson_restarts :
    LearnedBy (calls 4294967295) store Disk.empty 4294967296 error "learned-1" 0 ∧
      ∃ q, (documentAt (calls 4294967295) store Disk.empty 4294967296).patterns = [q] ∧
        q.provenance = .learned ∧ q.successes = 0 := by
  obtain ⟨q, last, learned, count⟩ := calls_count 4294967295
  exact ⟨calls_learn 4294967295, q, last, learned, count⟩

end WidgetRepair
