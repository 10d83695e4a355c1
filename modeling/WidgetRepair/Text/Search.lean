/-! Finding and replacing a literal text inside another, always leftmost first. -/

namespace WidgetRepair.Text

/-- What follows `needle` when the text starts with it. -/
def after? : (needle text : List Char) → Option (List Char)
  | [], text => some text
  | _ :: _, [] => none
  | n :: needle, c :: text => if n = c then after? needle text else none

/-- Whether `needle` occurs somewhere in the text. -/
def occurs (needle : List Char) : List Char → Bool
  | [] => needle.isEmpty
  | c :: rest => needle.isPrefixOf (c :: rest) || occurs needle rest

/-- The text after the leftmost occurrence of `needle`. -/
def afterFirst? (needle : List Char) : List Char → Option (List Char)
  | [] => after? needle []
  | c :: rest => (after? needle (c :: rest)).or (afterFirst? needle rest)

/-- Replacing from the left; `skip` characters still belong to the occurrence just replaced. -/
def replaceFrom (needle new : List Char) : Nat → List Char → List Char
  | _, [] => []
  | skip + 1, _ :: rest => replaceFrom needle new skip rest
  | 0, c :: rest =>
    if needle.isPrefixOf (c :: rest) then new ++ replaceFrom needle new (needle.length - 1) rest
    else c :: replaceFrom needle new 0 rest

/-- Every occurrence of `needle` replaced, occurrences taken leftmost first and disjoint. An
empty `needle` occurs nowhere. -/
def replaceAll (needle new text : List Char) : List Char :=
  if needle.isEmpty then text else replaceFrom needle new 0 text

/-- Whether `needle` occurs in `text`. -/
def contains (text needle : String) : Bool := occurs needle.toList text.toList

/-- `text` with every occurrence of `needle` replaced by `new`. -/
def substitute (text needle new : String) : String :=
  String.ofList (replaceAll needle.toList new.toList text.toList)

/-- The pieces of a text between the characters that satisfy `cut`; there is always one more
piece than there are cuts. -/
def splitWhere (cut : Char → Bool) : List Char → List (List Char)
  | [] => [[]]
  | c :: rest =>
    match splitWhere cut rest with
    | [] => [[c]]
    | first :: others => if cut c then [] :: first :: others else (c :: first) :: others

/-- The first `limit` characters, and whether anything was cut off. -/
def cutTo (limit : Nat) (text : List Char) : List Char × Bool :=
  (text.take limit, !(text.drop limit).isEmpty)

end WidgetRepair.Text
