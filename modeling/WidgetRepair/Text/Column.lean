/-! Texts in columns. A text that is too long for its column is shown whole. -/

namespace WidgetRepair.Text

/-- The blanks that a text lacks to be `width` characters long. -/
def blanksUpTo (width : Nat) (s : String) : String :=
  String.ofList (List.replicate (width - s.length) ' ')

/-- A text at the left of its column. -/
def leftAligned (width : Nat) (s : String) : String := s ++ blanksUpTo width s

/-- A text at the right of its column. -/
def rightAligned (width : Nat) (s : String) : String := blanksUpTo width s ++ s

end WidgetRepair.Text
