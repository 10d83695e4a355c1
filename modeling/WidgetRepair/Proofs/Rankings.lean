import WidgetRepair.Knowledge.Basic
import WidgetRepair.Proofs.StableRanking

/-! What a ranking lists, and in which order. Patterns, shapes of widgets and notes are all listed by one rule: what
has a positive score, the best first, and what scores the same in the order of the store. -/

namespace WidgetRepair

variable {α : Type}

open Binary64 Float.Model

theorem Binary64.float_beq_iff (x y : Float) :
    (x == y) = true ↔ x.toModel.unpack.compare y.toModel.unpack = some .eq := by
  show (x.toModel.unpack.compare y.toModel.unpack == some .eq) = true ↔ _
  exact beq_iff_eq

theorem Binary64.Reads.beq_iff {x y : Float} {a b : WithTop Rat} (left : Reads x a) (right : Reads y b) :
    (x == y) = true ↔ a = b := by
  rw [float_beq_iff, left.compare right, Option.some_inj, compare_eq_iff_eq]

theorem Binary64.le_of_beq {x y : Float} (same : (x == y) = true) : x ≤ y := by
  rw [float_beq_iff] at same
  rw [float_le_iff, UnpackedFloat.le, same]
  rfl

/-- The items with a positive score, each as often as it is there: the best first, and those of one score as they
stand among the items. -/
structure Ranks (score : α → Float) (items ranked : List α) : Prop where
  listed : ranked.Perm (items.filter fun a => 0.0 < score a)
  descending : ranked.Pairwise fun a b => score b ≤ score a
  stable : ∀ s : Float, ranked.filter (score · == s) = items.filter fun a => 0.0 < score a && score a == s

section Ranking

variable (score : α → Float) (items : List α)

/-- The items that count, with their scores. -/
def counting : List (α × Float) := (items.filter fun a => 0.0 < score a).map fun a => (a, score a)

theorem ranking_eq : ranking score items = (counting score items).mergeSort fun a b => b.2 ≤ a.2 := by
  unfold ranking bestFirst counting
  rw [List.filter_map]
  rfl

variable {score items}

theorem own_score {scored : α × Float} (member : scored ∈ ranking score items) :
    scored = (scored.1, score scored.1) := by
  rw [ranking_eq, List.mem_mergeSort] at member
  obtain ⟨a, -, rfl⟩ := List.mem_map.mp member
  rfl

theorem exists_reads_of_counting {scored : α × Float} (member : scored ∈ counting score items) :
    ∃ a, Reads scored.2 a := by
  obtain ⟨a, counts, rfl⟩ := List.mem_map.mp member
  exact exists_reads_of_pos (of_decide_eq_true (List.mem_filter.mp counts).2)

variable (score items)

theorem ranking_perm : (ranking score items).Perm (counting score items) := by
  rw [ranking_eq]
  exact List.mergeSort_perm ..

theorem ranking_descending : (ranking score items).Pairwise fun x y => y.2 ≤ x.2 := by
  rw [ranking_eq]
  refine List.Pairwise.imp of_decide_eq_true ?_
  exact pairwise_mergeSort_of (fun _ _ _ => above_trans) (fun _ _ => above_total) fun _ => exists_reads_of_counting

/-- Items of one score are compared as equal, so sorting them changes nothing. -/
theorem ranking_stable (s : Float) :
    (ranking score items).filter (·.2 == s) = (counting score items).filter (·.2 == s) := by
  rw [ranking_eq, filter_mergeSort_of (fun _ _ _ => above_trans) (fun _ _ => above_total)
    (fun _ => exists_reads_of_counting) (·.2 == s)]
  refine List.mergeSort_of_pairwise (List.pairwise_of_forall_mem_list ?_)
  intro x first y second
  obtain ⟨counts, same⟩ := List.mem_filter.mp first
  obtain ⟨counts', same'⟩ := List.mem_filter.mp second
  obtain ⟨a, reads⟩ := exists_reads_of_counting counts
  obtain ⟨b, reads'⟩ := exists_reads_of_counting counts'
  obtain ⟨c, reads_s⟩ := reads.exists_of_le (le_of_beq same)
  have equal := ((reads.beq_iff reads_s).mp same).trans ((reads'.beq_iff reads_s).mp same').symm
  exact decide_eq_true ((reads'.le_iff reads).mpr equal.ge)

theorem ranking_scored : ranking score items = ((ranking score items).map (·.1)).map fun a => (a, score a) := by
  rw [List.map_map]
  exact (List.map_id _).symm.trans (List.map_congr_left fun _ => own_score)

theorem counting_items : (counting score items).map (·.1) = items.filter fun a => 0.0 < score a := by
  rw [counting, List.map_map]
  exact List.map_id _

theorem ranking_ranks : Ranks score items ((ranking score items).map (·.1)) where
  listed := by
    rw [← counting_items]
    exact (ranking_perm score items).map Prod.fst
  descending := by
    have sorted := ranking_descending score items
    rw [ranking_scored, List.pairwise_map] at sorted
    exact sorted
  stable s := by
    have scored (list : List α) : ((list.map fun a => (a, score a)).filter (·.2 == s)).map (·.1) =
        list.filter (score · == s) := by
      rw [List.filter_map, List.map_map]
      exact List.map_id _
    calc ((ranking score items).map (·.1)).filter (score · == s)
      _ = ((ranking score items).filter (·.2 == s)).map (·.1) := by rw [← scored, ← ranking_scored]
      _ = ((counting score items).filter (·.2 == s)).map (·.1) := by rw [ranking_stable]
      _ = (items.filter fun a => 0.0 < score a).filter (score · == s) := scored _
      _ = items.filter fun a => 0.0 < score a && score a == s := by
        rw [List.filter_filter]
        simp only [Bool.and_comm]

end Ranking

theorem KnowledgeEntry.score_nil (e : KnowledgeEntry) : ¬ 0.0 < e.score [] := by
  have nothing (t : Tier) : ¬ 0.0 < Float.ofNat 0 * t.weight := by cases t <;> decide +kernel
  exact nothing e.tier

/-- Without keywords there is nothing to rank. -/
theorem search_ranking (k : Knowledge) (query : String) (limit : Nat) :
    k.search query limit = (ranking (·.score (Diagnostic.keywords query.toList)) k.entries).take limit := by
  unfold Knowledge.search
  dsimp only
  split
  next none =>
    have empty : ranking (·.score []) k.entries = [] := by
      refine List.Perm.eq_nil ((ranking_perm _ _).trans ?_)
      simp [counting, KnowledgeEntry.score_nil]
    rw [List.isEmpty_iff.mp none, empty, List.take_nil]
  next => rfl

/-- The patterns that fit a text, the shapes of widget and the notes that it speaks of are all ranked the same way. A
search that lists fewer notes lists the first ones. -/
theorem rankings_stable (s : Store) (k : Knowledge) (text : String) :
    Ranks (·.score text) s.patterns (s.matches? text) ∧
      s.rankedMatches text = (s.matches? text).map (fun p => (p, p.score text)) ∧
      Ranks (·.relevance (Diagnostic.keywords text.toList)) s.document.templates (s.findTemplates text) ∧
      ∃ notes, Ranks (·.score (Diagnostic.keywords text.toList)) k.entries notes ∧
        (∀ limit, k.entries.length ≤ limit →
          k.search text limit = notes.map fun e => (e, e.score (Diagnostic.keywords text.toList))) ∧
        ∀ limit, k.search text limit = (k.search text k.entries.length).take limit := by
  refine ⟨ranking_ranks _ _, ranking_scored _ _, ranking_ranks _ _, _, ranking_ranks _ _, ?_, ?_⟩
  · intro limit enough
    have short : (ranking (·.score (Diagnostic.keywords text.toList)) k.entries).length ≤ limit :=
      (ranking_length_le _ _).trans enough
    rw [search_ranking, List.take_of_length_le short]
    exact ranking_scored _ _
  · intro limit
    rw [search_ranking, search_ranking, List.take_of_length_le (ranking_length_le _ _)]

end WidgetRepair
