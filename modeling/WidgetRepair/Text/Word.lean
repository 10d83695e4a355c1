import WidgetRepair.Text.Interval
import WidgetRepair.Text.WordTable

/-! Words inside a text: which characters belong to one and where one begins or ends. -/

namespace WidgetRepair.Text

/-- Letters, marks, decimal digits, connectors and joiners. -/
def isWord (c : Char) : Bool :=
  if c.toNat < 0x80 then c.isAlphanum || c == '_' else within wordIntervals c

/-- Decimal digits of any script. -/
def isDigit (c : Char) : Bool :=
  if c.toNat < 0x80 then c.isDigit else within digitIntervals c

/-- Whether a word begins or ends between two neighbours; the ends of the text count as
neighbours outside of any word. -/
def wordEdge (left right : Option Char) : Bool :=
  ((left.map isWord).getD false) != ((right.map isWord).getD false)

end WidgetRepair.Text
