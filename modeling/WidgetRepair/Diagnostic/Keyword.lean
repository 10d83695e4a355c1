import WidgetRepair.Text.Search

/-! The words by which texts about the same thing find each other. -/

namespace WidgetRepair.Diagnostic

/-- Characters that keywords are made of. -/
def isKeywordChar (c : Char) : Bool := c.isAlphanum || c == '_' || c == '-'

/-- Words that say nothing about an error. -/
def stopWords : List String := [
  "the", "and", "for", "with", "from", "this", "that", "are", "was", "were", "has", "have",
  "had", "but", "its", "into", "does", "did", "can", "will", "you", "your", "not", "npm", "err",
  "error", "warn", "info"]

def keywordLimit : Nat := 12

def leastKeywordLength : Nat := 3

/-- A run of keyword characters without its outer dashes, in lower case. -/
def normalized (token : List Char) : List Char :=
  let inner := (token.dropWhile (· == '-')).reverse.dropWhile (· == '-')
  inner.reverse.map Char.toLower

/-- Long enough, not a number, and not a stop word. -/
def telling (token : List Char) : Bool :=
  leastKeywordLength ≤ token.length && !token.all Char.isDigit &&
    !stopWords.contains (String.ofList token)

/-- The first keywords of a text in the order of their first appearance. -/
def keywords (text : List Char) : List String :=
  let tokens := (Text.splitWhere (fun c => !isKeywordChar c) text).map normalized
  (((tokens.filter telling).eraseDups).take keywordLimit).map String.ofList

/-- How much of the larger of two sets of keywords both share. -/
def similarity (a b : List String) : Float :=
  if a.isEmpty || b.isEmpty then 0.0
  else
    let left := a.eraseDups
    let right := b.eraseDups
    let shared := left.filter right.contains
    Float.ofNat shared.length / Float.ofNat (max left.length right.length)

/-- Two errors with more than this in common are taken for the same. -/
def similarityThreshold : Float := 0.7

end WidgetRepair.Diagnostic
