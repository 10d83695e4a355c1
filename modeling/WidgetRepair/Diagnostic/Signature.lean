import WidgetRepair.Text.Blank
import WidgetRepair.Text.Line
import WidgetRepair.Text.Search
import WidgetRepair.Text.Word

/-! What identifies an error in the output of a build: its line, without the place in the source
that it points to. -/

namespace WidgetRepair.Diagnostic

open Text

/-- Whether `test` holds somewhere, given the character before and the text from there on. -/
def anywhere (test : Option Char → List Char → Bool) : Option Char → List Char → Bool
  | before, [] => test before []
  | before, c :: rest => test before (c :: rest) || anywhere test (some c) rest

/-- A word that stands alone, in any case. -/
def looseWord (word : List Char) (before : Option Char) (text : List Char) : Bool :=
  let found := text.take word.length
  found.map Char.toLower == word && wordEdge before found.head? &&
    wordEdge found.getLast? (text.drop word.length).head?

/-- A word that stands alone, as written. -/
def exactWord (word : List Char) (before : Option Char) (text : List Char) : Bool :=
  word.isPrefixOf text && wordEdge before word.head? &&
    wordEdge word.getLast? (text.drop word.length).head?

/-- The code of a compiler message: `TS` and digits, standing alone. -/
def errorCode (before : Option Char) : List Char → Bool
  | 'T' :: 'S' :: rest =>
    let digits := rest.takeWhile isDigit
    !digits.isEmpty && wordEdge before (some 'T') &&
      wordEdge digits.getLast? (rest.drop digits.length).head?
  | _ => false

/-- A line that reads like the report of an error. -/
def errorLike (line : List Char) : Bool :=
  anywhere (looseWord "error".toList) none line ||
    occurs "ERR!".toList line ||
    anywhere errorCode none line ||
    anywhere (exactWord "Cannot".toList) none line ||
    occurs "Module not found".toList line

/-- The lines that can carry an error: neither blank nor an announcement of a script. -/
def candidates (text : List Char) : List (List Char) :=
  ((lines text).map trim).filter fun line => !line.isEmpty && line.head? != some '>'

/-- The first candidate that reads like an error, or else the first one. -/
def errorLine (text : List Char) : List Char :=
  match (candidates text).find? errorLike with
  | some line => line
  | none => (candidates text).headD []

/-- What follows a place in the source, `file(line,column):`, at the start of a line. -/
def afterPlace? (line : List Char) : Option (List Char) := do
  let file := line.takeWhile fun c => !isBlank c && c != '('
  guard !file.isEmpty
  let rest ← after? ['('] (line.drop file.length)
  let row := rest.takeWhile isDigit
  guard !row.isEmpty
  let rest ← after? [','] (rest.drop row.length)
  let column := rest.takeWhile isDigit
  guard !column.isEmpty
  let rest ← after? [')', ':'] (rest.drop column.length)
  return trimStart rest

/-- The error line without the place in front. -/
def errorSummary (text : List Char) : List Char :=
  let line := errorLine text
  (afterPlace? line).getD line

/-- The most characters of a signature. -/
def signatureLimit : Nat := 160

/-- The text by which the same error is recognized again. -/
def signature (text : String) : String :=
  String.ofList ((errorSummary text.toList).take signatureLimit)

end WidgetRepair.Diagnostic
