import WidgetRepair.Proofs.FloatValues
import WidgetRepair.Store.Basic

/-! Items by rank. Items with equal scores keep their order, so it makes no difference whether items
are left out before the others are ranked or afterwards. -/

namespace WidgetRepair

variable {α : Type}

section Sorting

variable {le : α → α → Bool}

/-- What an order puts strictly in front of an item, where the item stands in a sorted list. -/
theorem front_of_sorted {a : α} {front back : List α} (sorted : (front ++ a :: back).Pairwise (le · ·))
    (before : ∀ b ∈ front, le a b = false) : (front ++ back).filter (fun b => !le a b) = front := by
  have behind : ∀ b ∈ back, le a b = true :=
    (List.pairwise_cons.mp (List.pairwise_append.mp sorted).2.1).1
  rw [List.filter_append, List.filter_eq_self.mpr fun b member => by simp [before b member],
    List.filter_eq_nil_iff.mpr fun b member => by simp [behind b member], List.append_nil]

theorem filter_mergeSort (trans : ∀ a b c, le a b = true → le b c = true → le a c = true)
    (total : ∀ a b, (le a b || le b a) = true) (keep : α → Bool) (items : List α) :
    (items.mergeSort le).filter keep = (items.filter keep).mergeSort le := by
  induction items with
  | nil => simp
  | cons a rest ih =>
    obtain ⟨front, back, all, others, before⟩ := List.mergeSort_cons trans total a rest
    have sorted := List.pairwise_mergeSort trans total (a :: rest)
    rw [others, List.filter_append] at ih
    rw [all, List.filter_append]
    cases kept : keep a with
    | false => rw [List.filter_cons_of_neg (by simp [kept]), List.filter_cons_of_neg (by simp [kept]), ih]
    | true =>
      rw [List.filter_cons_of_pos kept, List.filter_cons_of_pos kept]
      obtain ⟨front', back', all', others', before'⟩ :=
        List.mergeSort_cons trans total a (rest.filter keep)
      have sorted' := List.pairwise_mergeSort trans total (a :: rest.filter keep)
      rw [all] at sorted
      rw [all'] at sorted' ⊢
      rw [others'] at ih
      have left : (front ++ a :: back).filter keep = front.filter keep ++ a :: back.filter keep := by
        rw [List.filter_append, List.filter_cons_of_pos kept]
      have strict := front_of_sorted (left ▸ sorted.filter keep) fun b member => by
        simpa using before b (List.mem_filter.mp member).1
      have strict' := front_of_sorted sorted' fun b member => by simpa using before' b member
      rw [ih, strict'] at strict
      rw [← strict] at ih ⊢
      rw [List.append_cancel_left ih]

/-- Sorting items that are known to have a property. -/
theorem mergeSort_within {P : α → Prop} (list : List { a // P a }) :
    (list.map Subtype.val).mergeSort le = (list.mergeSort fun a b => le a b).map Subtype.val :=
  (List.map_mergeSort (f := Subtype.val) fun _ _ _ _ => rfl).symm

section Comparable

variable {P : α → Prop} (trans : ∀ a b c, P a → P b → P c → le a b = true → le b c = true → le a c = true)
  (total : ∀ a b, P a → P b → (le a b || le b a) = true) {items : List α} (all : ∀ a ∈ items, P a)

include trans total all

/-- The same where only some items can be compared, if those that are sorted are among them. -/
theorem filter_mergeSort_of (keep : α → Bool) :
    (items.mergeSort le).filter keep = (items.filter keep).mergeSort le := by
  have sorted := @filter_mergeSort { a // P a } (fun a b => le a b) (fun a b c => trans a b c a.2 b.2 c.2)
    (fun a b => total a b a.2 b.2) (fun a => keep a.1) (items.attachWith P all)
  have members : (items.attachWith P all).map Subtype.val = items := List.attachWith_map_subtype_val all
  rw [← members, mergeSort_within, List.filter_map, List.filter_map, mergeSort_within]
  exact congrArg (List.map Subtype.val) sorted

theorem pairwise_mergeSort_of : (items.mergeSort le).Pairwise (le · ·) := by
  have sorted := @List.pairwise_mergeSort { a // P a } (fun a b => le a b) (fun a b c => trans a b c a.2 b.2 c.2)
    (fun a b => total a b a.2 b.2) (items.attachWith P all)
  have members : (items.attachWith P all).map Subtype.val = items := List.attachWith_map_subtype_val all
  rw [← members, mergeSort_within]
  exact List.pairwise_map.mpr sorted

end Comparable

end Sorting

open Binary64 Float.Model

theorem Binary64.le_of_lt {x y : Float} (less : x < y) : x ≤ y := by
  rw [float_lt_iff, UnpackedFloat.lt] at less
  rw [float_le_iff, UnpackedFloat.le, eq_of_beq less]
  rfl

/-- A score that counts has a value. -/
theorem exists_reads_of_pos {x : Float} (pos : 0.0 < x) : ∃ a, Reads x a :=
  reads_zero.exists_of_le (le_of_lt pos)

theorem ranking_length_le (score : α → Float) (items : List α) : (ranking score items).length ≤ items.length := by
  unfold ranking bestFirst
  rw [List.length_mergeSort]
  exact (List.length_filter_le ..).trans (List.length_map _).le

section Above

variable {x y z : α × Float} (first : ∃ a, Reads x.2 a) (second : ∃ a, Reads y.2 a)

include first second

theorem above_trans (third : ∃ a, Reads z.2 a) (above : decide (y.2 ≤ x.2) = true)
    (further : decide (z.2 ≤ y.2) = true) : decide (z.2 ≤ x.2) = true := by
  obtain ⟨a, first⟩ := first
  obtain ⟨b, second⟩ := second
  obtain ⟨c, third⟩ := third
  rw [decide_eq_true_eq] at above further ⊢
  rw [second.le_iff first] at above
  rw [third.le_iff second] at further
  exact (third.le_iff first).mpr (further.trans above)

theorem above_total : (decide (y.2 ≤ x.2) || decide (x.2 ≤ y.2)) = true := by
  obtain ⟨a, first⟩ := first
  obtain ⟨b, second⟩ := second
  rw [Bool.or_eq_true, decide_eq_true_eq, decide_eq_true_eq, second.le_iff first, first.le_iff second]
  exact le_total b a

end Above

/-- Items are left out before they are ranked or afterwards. -/
theorem filter_ranking (score : α → Float) (keep : α → Bool) (items : List α) :
    (ranking score items).filter (fun scored => keep scored.1) = ranking score (items.filter keep) := by
  unfold ranking bestFirst
  rw [filter_mergeSort_of (P := fun scored : α × Float => ∃ a, Reads scored.2 a)]
  · rw [List.filter_map, List.filter_map, List.filter_map, List.filter_filter, List.filter_filter]
    congr 2
    simp [Bool.and_comm]
  · exact fun _ _ _ first second third => above_trans first second third
  · exact fun _ _ first second => above_total first second
  · intro scored member
    exact exists_reads_of_pos (by simpa using (List.mem_filter.mp member).2)

end WidgetRepair
