/-! White space as Unicode defines it, and trimming by it. Every trimming step of the
library goes through these functions, so a text is blank in one sense only. -/

namespace WidgetRepair.Text

/-- The 25 code points with the Unicode property White_Space. -/
def isBlank (c : Char) : Bool :=
  let n := c.toNat
  (9 ≤ n && n ≤ 13) || n == 0x20 || n == 0x85 || n == 0xA0 || n == 0x1680 ||
    (0x2000 ≤ n && n ≤ 0x200A) || n == 0x2028 || n == 0x2029 || n == 0x202F ||
    n == 0x205F || n == 0x3000

def trimStart (text : List Char) : List Char := text.dropWhile isBlank

def trimEnd (text : List Char) : List Char := (text.reverse.dropWhile isBlank).reverse

def trim (text : List Char) : List Char := trimEnd (trimStart text)

/-- A text without its outer white space. -/
def trimmed (text : String) : String := String.ofList (trim text.toList)

/-- A text that holds nothing but white space. -/
def blank (text : String) : Bool := text.toList.all isBlank

end WidgetRepair.Text
