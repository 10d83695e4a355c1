import WidgetRepair.Pattern.Basic

/-! The counters of a pattern. An outcome adds one to the counter of its kind and leaves the other. Counters have 32
bits, so one that is full starts again from zero. -/

namespace WidgetRepair

theorem counter_lt (n : UInt32) : n.toNat < counterLimit := n.toNat_lt_size

theorem counter_succ (n : UInt32) : (n + 1).toNat = (n.toNat + 1) % counterLimit := UInt32.toNat_add n 1

namespace FixPattern

variable {p : FixPattern} {kind success : Bool} {now : Timestamp}

/-- How often a pattern succeeded, or failed, as its counter has it. -/
def outcomes (p : FixPattern) (kind : Bool) : Nat := if kind then p.successes else p.failures

/-- A counter that cannot go any higher. -/
def Full (p : FixPattern) (kind : Bool) : Prop := p.outcomes kind + 1 = counterLimit

instance (p : FixPattern) (kind : Bool) : Decidable (p.Full kind) := inferInstanceAs (Decidable (_ = _))

theorem outcomes_lt (p : FixPattern) (kind : Bool) : p.outcomes kind < counterLimit := by
  cases kind <;> exact counter_lt _

theorem outcomes_succ (p : FixPattern) (kind : Bool) (now : Timestamp) :
    (p.afterOutcome kind now).outcomes kind = (p.outcomes kind + 1) % counterLimit := by
  cases kind <;> exact counter_succ _

theorem outcomes_other (other : success ≠ kind) : (p.afterOutcome success now).outcomes kind = p.outcomes kind := by
  cases kind <;> cases success
  · exact absurd rfl other
  · rfl
  · rfl
  · exact absurd rfl other

theorem outcomes_succ_of_room (room : ¬ p.Full kind) :
    (p.afterOutcome kind now).outcomes kind = p.outcomes kind + 1 := by
  rw [outcomes_succ]
  exact Nat.mod_eq_of_lt (Nat.lt_of_le_of_ne (p.outcomes_lt kind) room)

theorem outcomes_succ_of_full (full : p.Full kind) : (p.afterOutcome kind now).outcomes kind = 0 := by
  rw [outcomes_succ, show p.outcomes kind + 1 = counterLimit from full]
  exact Nat.mod_self counterLimit

theorem outcomes_succ_ne (p : FixPattern) (kind : Bool) (now : Timestamp) :
    (p.afterOutcome kind now).outcomes kind ≠ p.outcomes kind := by
  by_cases full : p.Full kind
  · intro same
    rw [outcomes_succ_of_full full] at same
    rw [Full, ← same] at full
    exact absurd full (by decide)
  · rw [outcomes_succ_of_room full]
    exact Nat.succ_ne_self _

/-- How often an outcome takes a counter past its end. -/
def overrun (p : FixPattern) (kind success : Bool) : Nat := if success = kind ∧ p.Full kind then 1 else 0

theorem outcomes_counted (p : FixPattern) (kind success : Bool) (now : Timestamp) :
    (p.afterOutcome success now).outcomes kind + counterLimit * p.overrun kind success =
      p.outcomes kind + if success = kind then 1 else 0 := by
  unfold overrun
  by_cases same : success = kind
  · subst same
    by_cases full : p.Full success
    · rw [if_pos ⟨rfl, full⟩, if_pos rfl, outcomes_succ_of_full full, Nat.zero_add, Nat.mul_one]
      exact full.symm
    · rw [if_neg (mt And.right full), if_pos rfl, outcomes_succ_of_room full, Nat.mul_zero, Nat.add_zero]
  · rw [if_neg (mt And.left same), if_neg same, outcomes_other same, Nat.mul_zero]

/-- An outcome counts once where its counter has room. -/
theorem outcomes_of_room (room : ¬ p.Full success) : (p.afterOutcome success now).outcomes kind =
    p.outcomes kind + if success = kind then 1 else 0 := by
  have counted := p.outcomes_counted kind success now
  have none : ¬ (success = kind ∧ p.Full kind) := fun ⟨same, full⟩ => room (same ▸ full)
  rwa [overrun, if_neg none] at counted

end FixPattern

end WidgetRepair
