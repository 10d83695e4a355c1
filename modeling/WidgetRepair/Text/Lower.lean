import WidgetRepair.Text.CaseTable
import WidgetRepair.Text.Interval
import WidgetRepair.Text.LowerTable

/-! Lower-casing of whole texts. Nearly every character has a form of its own; two depend on
more than that: the dotted capital I has two characters, and a capital sigma that ends a word
has the final form. -/

namespace WidgetRepair.Text

/-- The lower-case form of a character that has a form of one character. -/
def lowerChar (c : Char) : Char :=
  if c.toNat < 0x80 then c.toLower
  else
    match lowerRuns.find? fun run =>
        run.first ≤ c.toNat && c.toNat ≤ run.last && (c.toNat - run.first) % run.step == 0 with
    | some run => Char.ofNat ((c.toNat : Int) + run.shift).toNat
    | none => c

/-- Whether a character is in one of the cases, also where the others have no form of it. -/
def cased (c : Char) : Bool :=
  if c.toNat < 0x80 then c.isAlpha else within casedIntervals c

/-- Characters that do not interrupt a word for the sigma rule: apostrophes, points and marks. -/
def caseIgnorable (c : Char) : Bool :=
  if c.toNat < 0x80 then "'.:^\x60".toList.contains c else within caseIgnorableIntervals c

/-- A capital sigma is final when a character with a case comes before it and none after it. -/
def finalSigma (before after : List Char) : Bool :=
  let seen (side : List Char) := ((side.dropWhile caseIgnorable).head?.map cased).getD false
  seen before && !seen after

/-- Lower-casing with the characters already passed, nearest first. -/
def lowerFrom (before : List Char) : List Char → List Char
  | [] => []
  | c :: rest =>
    let form :=
      if c.toNat == 0x130 then ['i', Char.ofNat 0x307]
      else if c.toNat == 0x3A3 && finalSigma before rest then [Char.ofNat 0x3C2]
      else [lowerChar c]
    form ++ lowerFrom (c :: before) rest

def lower (text : List Char) : List Char := lowerFrom [] text

def lowered (text : String) : String := String.ofList (lower text.toList)

/-- Equality up to the case of ASCII letters. -/
def sameName (a b : String) : Bool := a.toList.map Char.toLower == b.toList.map Char.toLower

end WidgetRepair.Text
