/-! Elements with attributes, printed one a line. Whatever text an element or attribute carries,
it cannot be taken for markup. -/

namespace WidgetRepair.Markup

def escapeChar (c : Char) : List Char :=
  if c == '&' then "&amp;".toList
  else if c == '<' then "&lt;".toList
  else if c == '>' then "&gt;".toList
  else if c == '"' then "&quot;".toList
  else [c]

def escape (text : String) : List Char := text.toList.flatMap escapeChar

structure Attribute where
  name : String
  value : String
  deriving DecidableEq, Repr

inductive Element where
  /-- Closed at once. -/
  | empty (name : String) (attributes : List Attribute)
  /-- On one line around a text. -/
  | leaf (name : String) (attributes : List Attribute) (text : String)
  /-- On lines of its own around others. -/
  | group (name : String) (attributes : List Attribute) (children : List Element)

/-- An attribute after the blank in front of it. -/
def attribute_ (a : Attribute) : List Char :=
  ' ' :: (a.name.toList ++ ['=', '"'] ++ escape a.value ++ ['"'])

def opening (name : String) (attributes : List Attribute) : List Char :=
  '<' :: (name.toList ++ attributes.flatMap attribute_)

def closing (name : String) : List Char := ['<', '/'] ++ name.toList ++ ['>', '\n']

def indent (level : Nat) : List Char := List.replicate (4 * level) ' '

mutual

/-- The lines of an element, indented by four blanks a level. -/
def Element.lines (level : Nat) : Element → List Char
  | .empty name attributes => indent level ++ opening name attributes ++ ['/', '>', '\n']
  | .leaf name attributes text =>
    indent level ++ opening name attributes ++ ['>'] ++ escape text ++ closing name
  | .group name attributes children =>
    indent level ++ opening name attributes ++ ['>', '\n'] ++
      Element.allLines (level + 1) children ++ indent level ++ closing name

def Element.allLines (level : Nat) : List Element → List Char
  | [] => []
  | e :: rest => e.lines level ++ Element.allLines level rest

end

end WidgetRepair.Markup
