/-! Kinds of characters as closed intervals of code points. -/

namespace WidgetRepair.Text

/-- Whether the code point of a character lies in one of some intervals. -/
def within (intervals : List (Nat × Nat)) (c : Char) : Bool :=
  intervals.any fun (first, last) => first ≤ c.toNat && c.toNat ≤ last

end WidgetRepair.Text
