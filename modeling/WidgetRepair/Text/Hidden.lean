import WidgetRepair.Text.HiddenTable
import WidgetRepair.Text.Interval

/-! Characters that a person who looks at a text may miss or take for others. -/

namespace WidgetRepair.Text

/-- Whether a character does not show as a sign of its own. The space does. -/
def isHidden (c : Char) : Bool :=
  if c.toNat < 0x80 then c.toNat < 0x20 || c.toNat == 0x7F else within hiddenIntervals c

end WidgetRepair.Text
