/-! Lines of bytes, where nobody has said that they are text. -/

namespace WidgetRepair.Text

namespace ByteLine

/-- The pieces between line feeds, each with the mark whether a line feed ended it. -/
def pieces : List UInt8 → List (List UInt8 × Bool)
  | [] => []
  | b :: rest =>
    if b = 10 then ([], true) :: pieces rest
    else
      match pieces rest with
      | [] => [([b], false)]
      | (line, ended) :: more => (b :: line, ended) :: more

/-- A line without the carriage return that belongs to its ending. -/
def withoutReturn : List UInt8 × Bool → List UInt8
  | (line, ended) => if ended && line.getLast? == some 13 then line.dropLast else line

end ByteLine

/-- The lines of some bytes. A line ends at a line feed, before which a carriage return belongs to
the ending; nothing after the last ending is no line. -/
def byteLines (content : ByteArray) : List ByteArray :=
  (ByteLine.pieces content.toList).map fun line => ⟨(ByteLine.withoutReturn line).toArray⟩

/-- The lines up to the first one that is no text. -/
def leadingLines (content : ByteArray) : List String :=
  ((byteLines content).map String.fromUTF8?).takeWhile Option.isSome |>.filterMap id

end WidgetRepair.Text
