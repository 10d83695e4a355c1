import Mathlib.Data.Nat.Digits.Defs
import WidgetRepair.Proofs.EditSteps

/-! An edit can take texts only one way: up where it puts in something of a higher rank than what it
takes out, and else down. So edits with one purpose never bring back a text that they changed. -/

namespace WidgetRepair

namespace Text

def number (text : List Char) : Nat := Nat.ofDigits 0x110000 (text.map Char.toNat)

/-- Longer texts rank higher; among those of one length the number that their characters make up
decides. -/
def AtMost (a b : List Char) : Prop := a.length < b.length ∨ a.length = b.length ∧ number a ≤ number b

namespace AtMost

variable {a b c d : List Char}

theorem refl (a : List Char) : AtMost a a := .inr ⟨rfl, Nat.le_refl _⟩

theorem trans (first : AtMost a b) (second : AtMost b c) : AtMost a c := by
  unfold AtMost at *
  omega

theorem total (a b : List Char) : AtMost a b ∨ AtMost b a := by
  unfold AtMost
  omega

theorem antisymm (there : AtMost a b) (back : AtMost b a) : a = b := by
  obtain ⟨size, same⟩ : a.length = b.length ∧ number a = number b := by
    unfold AtMost at there back
    omega
  have digit (text : List Char) : ∀ n ∈ text.map Char.toNat, n < 0x110000 := by
    intro n member
    obtain ⟨c, -, rfl⟩ := List.mem_map.mp member
    have valid := c.valid
    simp only [UInt32.isValidChar, Nat.isValidChar, Char.toNat] at valid ⊢
    omega
  have digits : a.map Char.toNat = b.map Char.toNat :=
    Nat.ofDigits_inj_of_len_eq (by decide) (by simpa using size) (digit a) (digit b) same
  exact (List.map_inj_right fun _ _ same => Char.toNat_inj.mp same).mp digits

theorem append (first : AtMost a b) (rest : AtMost c d) : AtMost (a ++ c) (b ++ d) := by
  unfold AtMost at *
  simp only [List.length_append]
  by_cases sizes : a.length = b.length ∧ c.length = d.length
  · obtain ⟨size, length⟩ := sizes
    have below : number a ≤ number b := by omega
    have under : number c ≤ number d := by omega
    right
    refine ⟨by omega, ?_⟩
    simp only [number, List.map_append, Nat.ofDigits_append, List.length_map, size]
    exact Nat.add_le_add below (Nat.mul_le_mul_left _ under)
  · left
    omega

theorem of_nil (text : List Char) : AtMost [] text := by
  cases text with
  | nil => exact refl []
  | cons c text => exact .inl (Nat.succ_pos _)

theorem eq_nil (below : AtMost a []) : a = [] := below.antisymm (of_nil a)

end AtMost

theorem prefixed_drop {needle text : List Char} {c : Char}
    (found : needle.isPrefixOf (c :: text) = true) (filled : needle ≠ []) :
    needle ++ text.drop (needle.length - 1) = c :: text := by
  obtain ⟨rest, whole⟩ := List.isPrefixOf_iff_prefix.mp found
  cases needle with
  | nil => exact absurd rfl filled
  | cons n needle =>
    cases whole
    simp

/-- What holds between `needle` and `new` and lasts when texts are put together, holds between a text
and the one in which they were exchanged. -/
theorem replaceFrom_keeps {R : List Char → List Char → Prop} (same : ∀ text, R text text)
    (both : ∀ {a b c d}, R a b → R c d → R (a ++ c) (b ++ d)) {needle new : List Char}
    (filled : needle ≠ []) (piece : R needle new) (skip : Nat) (text : List Char) :
    R (text.drop skip) (replaceFrom needle new skip text) := by
  induction text generalizing skip with
  | nil =>
    rw [List.drop_nil, replaceFrom]
    exact same []
  | cons c rest ih =>
    cases skip with
    | succ skip =>
      rw [List.drop_succ_cons, replaceFrom]
      exact ih skip
    | zero =>
      rw [List.drop_zero, replaceFrom]
      split
      next found =>
        have replaced := both piece (ih (needle.length - 1))
        rwa [prefixed_drop found filled] at replaced
      next => exact both (same [c]) (ih 0)

theorem replaceAll_keeps {R : List Char → List Char → Prop} (same : ∀ text, R text text)
    (both : ∀ {a b c d}, R a b → R c d → R (a ++ c) (b ++ d)) {needle new : List Char}
    (piece : R needle new) (text : List Char) : R text (replaceAll needle new text) := by
  unfold replaceAll
  split
  next => exact same text
  next filled => exact replaceFrom_keeps same both (by simpa using filled) piece 0 text

end Text

namespace Edit

open Text

variable {search replace : String}

/-- The way from `a` to `b` is that from `search` to `replace`. -/
structure Drifts (search replace a b : String) : Prop where
  up : AtMost search.toList replace.toList → AtMost a.toList b.toList
  down : AtMost replace.toList search.toList → AtMost b.toList a.toList

namespace Drifts

variable {a b c : String}

theorem refl (a : String) : Drifts search replace a a := ⟨fun _ => .refl _, fun _ => .refl _⟩

theorem trans (first : Drifts search replace a b) (second : Drifts search replace b c) :
    Drifts search replace a c where
  up above := (first.up above).trans (second.up above)
  down below := (second.down below).trans (first.down below)

/-- There is no way back. -/
theorem antisymm (there : Drifts search replace a b) (back : Drifts search replace b a) : a = b := by
  obtain above | below := AtMost.total search.toList replace.toList
  · exact String.toList_inj.mp ((there.up above).antisymm (back.up above))
  · exact String.toList_inj.mp ((back.down below).antisymm (there.down below))

end Drifts

theorem edited?_drifts {content new : String} (edit : edited? content search replace = some new) :
    Drifts search replace content new := by
  unfold edited? at edit
  split at edit
  next empty =>
    have none : search.toList = [] := by simpa using empty
    unfold prepended? at edit
    split at edit
    next => cases edit
    next filled =>
      cases edit
      refine ⟨?_, ?_⟩
      · intro _
        rw [String.toList_append]
        exact (AtMost.of_nil _).append (.refl content.toList)
      · intro below
        rw [none] at below
        simp [Text.blank, below.eq_nil] at filled
  next =>
    split at edit
    next =>
      cases edit
      refine ⟨?_, ?_⟩
      · intro above
        rw [substitute, String.toList_ofList]
        exact replaceAll_keeps (R := AtMost) .refl .append above _
      · intro below
        rw [substitute, String.toList_ofList]
        exact replaceAll_keeps (R := fun a b => AtMost b a) .refl .append below _
    next => cases edit

end Edit

end WidgetRepair
