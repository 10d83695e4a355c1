import WidgetRepair.Store.Update

/-! Lists in which the first item with some property is changed: what stays of the items, and what
becomes of the one item that has a key. -/

namespace WidgetRepair.Store

variable {α β : Type} {test : α → Bool} {f : α → α} {items : List α}

theorem changeFirst_cons (a : α) (rest : List α) :
    changeFirst test f (a :: rest) = if test a then f a :: rest else a :: changeFirst test f rest := rfl

theorem map_changeFirst {g : α → β} (same : ∀ a, g (f a) = g a) (items : List α) :
    (changeFirst test f items).map g = items.map g := by
  induction items with
  | nil => rfl
  | cons a rest ih =>
    rw [changeFirst_cons]
    split
    · simp [same]
    · simp [ih]

theorem length_changeFirst (items : List α) : (changeFirst test f items).length = items.length := by
  induction items with
  | nil => rfl
  | cons a rest ih =>
    rw [changeFirst_cons]
    split
    · rfl
    · exact congrArg (· + 1) ih

theorem mem_changeFirst {a : α} (member : a ∈ items) :
    a ∈ changeFirst test f items ∨ f a ∈ changeFirst test f items := by
  induction items with
  | nil => cases member
  | cons first rest ih =>
    rw [changeFirst_cons]
    obtain rfl | later := List.mem_cons.mp member
    · split
      · exact .inr List.mem_cons_self
      · exact .inl List.mem_cons_self
    · split
      · exact .inl (List.mem_cons_of_mem _ later)
      · exact (ih later).imp (List.mem_cons_of_mem _) (List.mem_cons_of_mem _)

theorem forall_changeFirst {good : α → Prop} (kept : ∀ a, good a → good (f a))
    (all : ∀ a ∈ items, good a) : ∀ a ∈ changeFirst test f items, good a := by
  induction items with
  | nil => exact all
  | cons first rest ih =>
    have later := ih fun a member => all a (List.mem_cons_of_mem first member)
    rw [changeFirst_cons]
    split
    · exact List.forall_mem_cons.mpr ⟨kept first (all first List.mem_cons_self), fun a member =>
        all a (List.mem_cons_of_mem first member)⟩
    · exact List.forall_mem_cons.mpr ⟨all first List.mem_cons_self, later⟩

theorem find?_changeFirst {find : α → Bool} {g : α → β} (found : ∀ a, find (f a) = find a)
    (named : ∀ a, g (f a) = g a) (items : List α) :
    ((changeFirst test f items).find? find).map g = (items.find? find).map g := by
  induction items with
  | nil => rfl
  | cons a rest ih =>
    rw [changeFirst_cons]
    split
    · rw [List.find?_cons, List.find?_cons, found]
      cases find a with
      | true => exact congrArg some (named a)
      | false => rfl
    · rw [List.find?_cons, List.find?_cons]
      cases find a with
      | true => rfl
      | false => exact ih

/-- Only the first item with the property is another one, and it stands where it stood. -/
theorem getElem?_changeFirst (items : List α) (i : Nat) : (changeFirst test f items)[i]? =
    if items.findIdx? test = some i then items[i]?.map f else items[i]? := by
  induction items generalizing i with
  | nil => simp [changeFirst]
  | cons a rest ih =>
    rw [changeFirst_cons, List.findIdx?_cons]
    cases first : test a with
    | true => cases i <;> simp
    | false =>
      cases i with
      | zero => simp
      | succ i => simp [ih]

section Keys

variable {key : α → String} {id : String}

theorem changeFirst_unknown (unknown : id ∉ items.map key) :
    changeFirst (key · == id) f items = items := by
  induction items with
  | nil => rfl
  | cons a rest ih =>
    rw [List.map_cons, List.mem_cons, not_or] at unknown
    obtain ⟨other, unknown⟩ := unknown
    rw [changeFirst_cons, if_neg (mt beq_iff_eq.mp (Ne.symm other)), ih unknown]

/-- Where keys are distinct, the change of the first item with a key is the change of every such
item. -/
theorem changeFirst_eq_map (distinct : (items.map key).Nodup) :
    changeFirst (key · == id) f items = items.map fun a => if key a = id then f a else a := by
  induction items with
  | nil => rfl
  | cons a rest ih =>
    rw [List.map_cons, List.nodup_cons] at distinct
    obtain ⟨single, distinct⟩ := distinct
    rw [changeFirst_cons, List.map_cons]
    by_cases same : key a = id
    · rw [if_pos (beq_iff_eq.mpr same), if_pos same, ← ih distinct, changeFirst_unknown (same ▸ single)]
    · rw [if_neg (mt beq_iff_eq.mp same), if_neg same, ih distinct]

/-- What becomes of the items with one key when the first item with another is changed. -/
theorem filter_changeFirst (kept : ∀ a, key (f a) = key a) (other : String) (items : List α) :
    (changeFirst (key · == other) f items).filter (key · == id) =
      changeFirst (key · == other) f (items.filter (key · == id)) := by
  induction items with
  | nil => rfl
  | cons a rest ih =>
    rw [changeFirst_cons]
    by_cases first : key a == other
    · rw [if_pos first, List.filter_cons, List.filter_cons, kept]
      split
      · rw [changeFirst_cons, if_pos first]
      · next apart =>
        have unknown : other ∉ (rest.filter (key · == id)).map key := by
          rw [← beq_iff_eq.mp first]
          intro member
          obtain ⟨b, inside, same⟩ := List.mem_map.mp member
          exact apart (same ▸ (List.mem_filter.mp inside).2)
        exact (changeFirst_unknown unknown).symm
    · rw [if_neg first, List.filter_cons, List.filter_cons]
      split
      · rw [changeFirst_cons, if_neg first, ih]
      · exact ih

theorem filter_of_distinct (distinct : (items.map key).Nodup) {a : α} (member : a ∈ items) :
    items.filter (key · == key a) = [a] := by
  induction items with
  | nil => cases member
  | cons first rest ih =>
    rw [List.map_cons, List.nodup_cons] at distinct
    obtain ⟨single, distinct⟩ := distinct
    obtain rfl | later := List.mem_cons.mp member
    · rw [List.filter_cons, if_pos (beq_self_eq_true _), List.filter_eq_nil_iff.mpr]
      intro b inside same
      exact single (beq_iff_eq.mp same ▸ List.mem_map_of_mem inside)
    · have other : key first ≠ key a := fun same => single (same ▸ List.mem_map_of_mem later)
      rw [List.filter_cons, if_neg (mt beq_iff_eq.mp other), ih distinct later]

end Keys

end WidgetRepair.Store
