/-! Texts as lists of lines. A line ends at a line feed or at a carriage return followed by
one; what follows the last ending is a line only if it is not empty. -/

namespace WidgetRepair.Text

/-- The lines of a text, without their endings. -/
def lines : List Char → List (List Char)
  | [] => []
  | '\r' :: '\n' :: rest => [] :: lines rest
  | '\n' :: rest => [] :: lines rest
  | c :: rest =>
    match lines rest with
    | [] => [[c]]
    | first :: others => (c :: first) :: others

end WidgetRepair.Text
