import Mathlib
import WidgetRepair.Package.Markup

/-! Markup as a reader sees it. A reader takes every bracket, quote and ampersand for what it means in
markup; what it makes of printed elements are the same elements with the same texts, and nothing else. -/

namespace WidgetRepair.Markup

/-- What a reader makes of a text: stretches of text, and elements around others. -/
inductive Node where
  | text (content : String)
  | element (name : String) (attributes : List Attribute) (children : List Node)

/-- A text with its references resolved. An ampersand that begins none is a fault. -/
def unescape? : List Char → Option (List Char)
  | [] => some []
  | '&' :: 'a' :: 'm' :: 'p' :: ';' :: rest => (unescape? rest).map ('&' :: ·)
  | '&' :: 'l' :: 't' :: ';' :: rest => (unescape? rest).map ('<' :: ·)
  | '&' :: 'g' :: 't' :: ';' :: rest => (unescape? rest).map ('>' :: ·)
  | '&' :: 'q' :: 'u' :: 'o' :: 't' :: ';' :: rest => (unescape? rest).map ('"' :: ·)
  | c :: rest => if c = '&' then none else (unescape? rest).map (c :: ·)

def isSpace (c : Char) : Bool := c == ' ' || c == '\n' || c == '\t' || c == '\r'

/-- Whether a character can stand in a name. -/
def inName (c : Char) : Bool := c.isAlphanum || c == '-' || c == '_' || c == ':' || c == '.'

/-- The value of an attribute after its opening quote, and what follows the closing one. -/
def readValue (text : List Char) : Option (String × List Char) := do
  let content := text.takeWhile (· != '"')
  guard ('<' ∉ content)
  let value ← unescape? content
  match text.dropWhile (· != '"') with
  | [] => none
  | _ :: rest => some (String.ofList value, rest)

/-- A tag from behind its name: its attributes, whether it closes its element at once, and what
follows it. -/
def readTag : (fuel : Nat) → List Char → Option (List Attribute × Bool × List Char)
  | 0, _ => none
  | fuel + 1, text =>
    match text.dropWhile isSpace with
    | [] => none
    | c :: rest =>
      if c = '>' then some ([], false, rest)
      else if c = '/' then
        if rest.head? = some '>' then some ([], true, rest.tail) else none
      else do
        let name := (c :: rest).takeWhile inName
        guard (name ≠ [] ∧ ((c :: rest).dropWhile inName).take 2 = ['=', '"'])
        let (value, rest) ← readValue (((c :: rest).dropWhile inName).drop 2)
        let (attributes, closed, rest) ← readTag fuel rest
        return (⟨String.ofList name, value⟩ :: attributes, closed, rest)

def closingTag (name : List Char) : List Char := ['<', '/'] ++ name ++ ['>']

/-- What follows the closing tag of an element. -/
def afterClosing? (name text : List Char) : Option (List Char) :=
  if (closingTag name).isPrefixOf text then some (text.drop (closingTag name).length) else none

/-- The texts and elements from a place on, up to a closing tag or the end. `fuel` counts the steps still
allowed; each takes a character at least. -/
def readNodes : (fuel : Nat) → List Char → Option (List Node × List Char)
  | 0, _ => none
  | _ + 1, [] => some ([], [])
  | fuel + 1, c :: rest =>
    if c ≠ '<' then do
      let content ← unescape? ((c :: rest).takeWhile (· != '<'))
      let (later, rest) ← readNodes fuel ((c :: rest).dropWhile (· != '<'))
      return (.text (String.ofList content) :: later, rest)
    else if rest.head? = some '/' then some ([], c :: rest)
    else do
      let name := rest.takeWhile inName
      guard (name ≠ [])
      let (attributes, closed, rest) ← readTag fuel (rest.dropWhile inName)
      let (children, rest) ←
        if closed then some ([], rest)
        else do
          let (children, rest) ← readNodes fuel rest
          pure (children, ← afterClosing? name rest)
      let (later, rest) ← readNodes fuel rest
      return (.element (String.ofList name) attributes children :: later, rest)

/-- What follows the end of a declaration. -/
def afterDeclaration : List Char → List Char
  | '?' :: '>' :: rest => rest
  | _ :: rest => afterDeclaration rest
  | [] => []

/-- A whole document, which may begin with a declaration. -/
def read (document : String) : Option (List Node) :=
  let text := document.toList
  let text := if ['<', '?'].isPrefixOf text then afterDeclaration text else text
  match readNodes (text.length + 1) text with
  | some (nodes, []) => some nodes
  | _ => none

/-- How a character stands in an escaped text. -/
inductive Escaped : Char → List Char → Prop where
  | amp : Escaped '&' ['&', 'a', 'm', 'p', ';']
  | lt : Escaped '<' ['&', 'l', 't', ';']
  | gt : Escaped '>' ['&', 'g', 't', ';']
  | quote : Escaped '"' ['&', 'q', 'u', 'o', 't', ';']
  | plain {c : Char} (amp : c ≠ '&') (lt : c ≠ '<') (quote : c ≠ '"') : Escaped c [c]

theorem escapeChar_escaped (c : Char) : Escaped c (escapeChar c) := by
  by_cases amp : c = '&'
  · subst amp
    exact .amp
  by_cases lt : c = '<'
  · subst lt
    exact .lt
  by_cases gt : c = '>'
  · subst gt
    exact .gt
  by_cases quote : c = '"'
  · subst quote
    exact .quote
  have same : escapeChar c = [c] := by simp [escapeChar, amp, lt, gt, quote]
  rw [same]
  exact .plain amp lt quote

theorem unescape?_cons {c : Char} (amp : c ≠ '&') (rest : List Char) :
    unescape? (c :: rest) = (unescape? rest).map (c :: ·) := by
  conv_lhs => unfold unescape?
  split <;> simp_all

theorem unescape?_escapeChar (c : Char) (rest : List Char) :
    unescape? (escapeChar c ++ rest) = (unescape? rest).map (c :: ·) := by
  have escaped := escapeChar_escaped c
  generalize escapeChar c = text at escaped
  cases escaped with
  | plain amp => exact unescape?_cons amp rest
  | _ => rfl

theorem unescape?_escape (s : String) : unescape? (escape s) = some s.toList := by
  unfold escape
  induction s.toList with
  | nil => rfl
  | cons c rest ih => rw [List.flatMap_cons, unescape?_escapeChar, ih, Option.map_some]

/-- No bracket opens in an escaped text, and no quote ends it. -/
theorem escape_harmless (s : String) : ∀ d ∈ escape s, d ≠ '<' ∧ d ≠ '"' := by
  intro d member
  obtain ⟨c, -, own⟩ := List.mem_flatMap.mp member
  have escaped := escapeChar_escaped c
  generalize escapeChar c = text at escaped own
  cases escaped with
  | plain amp lt quote =>
    obtain rfl := List.mem_singleton.mp own
    exact ⟨lt, quote⟩
  | _ => constructor <;> (rintro rfl; simp at own)

theorem unescape?_plain {text : List Char} (plain : '&' ∉ text) : unescape? text = some text := by
  induction text with
  | nil => rfl
  | cons c rest ih =>
    obtain ⟨amp, later⟩ := not_or.mp (mt List.mem_cons.mpr plain)
    rw [unescape?_cons (Ne.symm amp), ih later, Option.map_some]

/-- Resolving a reference makes a text shorter. -/
theorem unescape?_shortens {text value : List Char} (resolved : unescape? text = some value) :
    value.length ≤ text.length ∧ (value.length = text.length → '&' ∉ text) := by
  fun_induction unescape? text generalizing value with
  | case1 => cases resolved; simp
  | case2 rest ih | case3 rest ih | case4 rest ih | case5 rest ih =>
    obtain ⟨later, found, rfl⟩ := Option.map_eq_some_iff.mp resolved
    have shorter := (ih found).1
    simp only [List.length_cons]
    omega
  | case6 => cases resolved
  | case7 c rest _ _ _ _ amp ih =>
    obtain ⟨later, found, rfl⟩ := Option.map_eq_some_iff.mp resolved
    obtain ⟨shorter, whole⟩ := ih found
    simp only [List.length_cons, List.mem_cons, not_or]
    exact ⟨by omega, fun same => ⟨Ne.symm amp, whole (by omega)⟩⟩

/-- What can stand as the name of an element or an attribute. -/
structure IsName (name : List Char) : Prop where
  filled : name ≠ []
  legal : ∀ c ∈ name, inName c = true

theorem isName_iff {name : List Char} : IsName name ↔ name ≠ [] ∧ ∀ c ∈ name, inName c = true :=
  ⟨fun named => ⟨named.filled, named.legal⟩, fun named => ⟨named.1, named.2⟩⟩

def NoName (text : List Char) : Prop := ∀ c ∈ text.head?, inName c = false

section Names

variable {name rest : List Char}

theorem takeWhile_name (named : IsName name) (ends : NoName rest) : (name ++ rest).takeWhile inName = name := by
  rw [List.takeWhile_append_of_pos named.legal]
  cases rest with
  | nil => simp
  | cons c rest => simp [ends c rfl]

theorem dropWhile_name (named : IsName name) (ends : NoName rest) : (name ++ rest).dropWhile inName = rest := by
  rw [List.dropWhile_append_of_pos named.legal]
  cases rest with
  | nil => rfl
  | cons c rest => simp [ends c rfl]

theorem IsName.head (named : IsName name) :
    ∃ c more, name = c :: more ∧ isSpace c = false ∧ c ≠ '>' ∧ c ≠ '/' ∧ c ≠ '<' := by
  obtain ⟨c, more, rfl⟩ := List.exists_cons_of_ne_nil named.filled
  have letter : inName c = true := named.legal c List.mem_cons_self
  have apart (d : Char) (other : inName d = false) : c ≠ d := by
    rintro rfl
    rw [letter] at other
    cases other
  refine ⟨c, more, rfl, ?_, apart _ rfl, apart _ rfl, apart _ rfl⟩
  simp [isSpace, apart ' ' rfl, apart '\n' rfl, apart '\t' rfl, apart '\r' rfl]

theorem IsName.no_slash (named : IsName name) : name.head? ≠ some '/' := by
  obtain ⟨c, more, rfl, -, -, slash, -⟩ := named.head
  simpa using slash

end Names

section Until

variable {q : Char} {text rest : List Char}

theorem takeWhile_until (harmless : ∀ d ∈ text, d ≠ q) (ends : ∀ c ∈ rest.head?, c = q) :
    (text ++ rest).takeWhile (· != q) = text := by
  rw [List.takeWhile_append_of_pos (by simpa using harmless)]
  cases rest with
  | nil => simp
  | cons c rest => simp [ends c rfl]

theorem dropWhile_until (harmless : ∀ d ∈ text, d ≠ q) (ends : ∀ c ∈ rest.head?, c = q) :
    (text ++ rest).dropWhile (· != q) = rest := by
  rw [List.dropWhile_append_of_pos (by simpa using harmless)]
  cases rest with
  | nil => rfl
  | cons c rest => simp [ends c rfl]

end Until

theorem readValue_of {text rest : List Char} {s : String} (quote : ∀ d ∈ text, d ≠ '"') (bracket : '<' ∉ text)
    (resolved : unescape? text = some s.toList) : readValue (text ++ '"' :: rest) = some (s, rest) := by
  have ends : ∀ c ∈ ('"' :: rest).head?, c = '"' := by simp
  simp [readValue, takeWhile_until quote ends, dropWhile_until quote ends, bracket, resolved]

theorem readValue_escape (s : String) (rest : List Char) : readValue (escape s ++ '"' :: rest) = some (s, rest) :=
  readValue_of (fun d member => (escape_harmless s d member).2)
    (fun member => (escape_harmless s _ member).1 rfl) (unescape?_escape s)

theorem readValue_plain {text rest : List Char} (plain : ∀ d ∈ text, d ≠ '&' ∧ d ≠ '<' ∧ d ≠ '"') :
    readValue (text ++ '"' :: rest) = some (String.ofList text, rest) := by
  refine readValue_of (fun d member => (plain d member).2.2) (fun member => (plain _ member).2.1 rfl) ?_
  rw [String.toList_ofList]
  exact unescape?_plain fun member => (plain _ member).1 rfl

/-- A reader takes what stands between quotes for itself exactly when nothing in it means something else. -/
theorem readValue_self_iff {text rest : List Char} :
    (∃ further, readValue (text ++ '"' :: rest) = some (String.ofList text, further)) ↔
      ∀ d ∈ text, d ≠ '&' ∧ d ≠ '<' ∧ d ≠ '"' := by
  constructor
  · rintro ⟨further, read⟩
    have front : text.takeWhile (· != '"') <+: text := List.takeWhile_prefix _
    have taken : (text ++ '"' :: rest).takeWhile (· != '"') = text.takeWhile (· != '"') := by
      rw [List.takeWhile_append]
      split
      next all => simp [front.eq_of_length all]
      next => rfl
    obtain ⟨⟨⟩, bracket, read⟩ := Option.bind_eq_some_iff.mp read
    obtain ⟨value, resolved, read⟩ := Option.bind_eq_some_iff.mp read
    have own : value = text := by
      split at read
      next => cases read
      next => simpa using congrArg (·.1.toList) (Option.some.inj read)
    subst own
    rw [taken] at resolved bracket
    obtain ⟨shorter, plain⟩ := unescape?_shortens resolved
    have whole := front.eq_of_length (front.length_le.antisymm shorter)
    rw [whole] at plain bracket
    have closed := List.takeWhile_eq_self_iff.mp whole
    refine fun d member => ⟨?_, ?_, by simpa using closed d member⟩
    · rintro rfl
      exact plain rfl member
    · rintro rfl
      simp [member, guard] at bracket
  · exact fun plain => ⟨rest, readValue_plain plain⟩

theorem readTag_attribute {fuel : Nat} {gap name text : List Char} (blank : ∀ c ∈ gap, isSpace c = true)
    (named : IsName name) : readTag (fuel + 1) (gap ++ (name ++ '=' :: '"' :: text)) = do
      let (value, rest) ← readValue text
      let (attributes, closed, rest) ← readTag fuel rest
      return (⟨String.ofList name, value⟩ :: attributes, closed, rest) := by
  obtain ⟨c, more, split, space, gt, slash, -⟩ := named.head
  have ends : NoName ('=' :: '"' :: text) := by
    rintro d ⟨⟩
    rfl
  have taken := takeWhile_name named ends
  have dropped := dropWhile_name named ends
  have front : (gap ++ (name ++ '=' :: '"' :: text)).dropWhile isSpace = c :: (more ++ '=' :: '"' :: text) := by
    rw [List.dropWhile_append_of_pos blank, split]
    simp [space]
  rw [split, List.cons_append] at taken dropped
  rw [readTag, front, split]
  simp only [gt, slash, taken, dropped]
  rfl

/-- A tag is read from behind its name on. -/
def ReadsTag (text : List Char) (attributes : List Attribute) (closed : Bool) (rest : List Char) : Prop :=
  ∀ fuel, text.length < fuel → readTag fuel text = some (attributes, closed, rest)

namespace ReadsTag

variable {rest : List Char}

theorem opened (rest : List Char) : ReadsTag ('>' :: rest) [] false rest := by
  intro fuel enough
  obtain ⟨fuel, rfl⟩ : ∃ k, fuel = k + 1 := ⟨fuel - 1, by omega⟩
  simp [readTag, isSpace]

theorem closed (rest : List Char) : ReadsTag ('/' :: '>' :: rest) [] true rest := by
  intro fuel enough
  obtain ⟨fuel, rfl⟩ : ∃ k, fuel = k + 1 := ⟨fuel - 1, by omega⟩
  simp [readTag, isSpace]

theorem value {text gap name content : List Char} {attributes : List Attribute} {closed : Bool} {s : String}
    (later : ReadsTag text attributes closed rest) (blank : ∀ c ∈ gap, isSpace c = true) (named : IsName name)
    (resolved : readValue (content ++ '"' :: text) = some (s, text)) :
    ReadsTag (gap ++ (name ++ '=' :: '"' :: (content ++ '"' :: text)))
      (⟨String.ofList name, s⟩ :: attributes) closed rest := by
  intro fuel enough
  simp only [List.length_append, List.length_cons] at enough
  obtain ⟨fuel, rfl⟩ : ∃ k, fuel = k + 1 := ⟨fuel - 1, by omega⟩
  have tail := later fuel (by omega)
  simp [readTag_attribute blank named, resolved, tail]

theorem cons {text gap : List Char} {attributes : List Attribute} {closed : Bool} {a : Attribute}
    (later : ReadsTag text attributes closed rest) (blank : ∀ c ∈ gap, isSpace c = true)
    (named : IsName a.name.toList) :
    ReadsTag (gap ++ (a.name.toList ++ '=' :: '"' :: (escape a.value ++ '"' :: text))) (a :: attributes) closed
      rest := by
  simpa using later.value blank named (readValue_escape a.value text)

theorem append {text : List Char} {closed : Bool} {attributes more : List Attribute}
    (later : ReadsTag text more closed rest) (named : ∀ a ∈ attributes, IsName a.name.toList) :
    ReadsTag (attributes.flatMap attribute_ ++ text) (attributes ++ more) closed rest := by
  induction attributes with
  | nil => exact later
  | cons a attributes ih =>
    have behind := ih fun b member => named b (List.mem_cons_of_mem a member)
    have blank : ∀ c ∈ [' '], isSpace c = true := by simp [isSpace]
    have first := behind.cons blank (named a List.mem_cons_self)
    simpa [attribute_] using first

theorem opening (rest : List Char) {attributes : List Attribute} (named : ∀ a ∈ attributes, IsName a.name.toList) :
    ReadsTag (attributes.flatMap attribute_ ++ '>' :: rest) attributes false rest := by
  simpa using (ReadsTag.opened rest).append named

end ReadsTag

theorem noName_cons {c : Char} {rest : List Char} (other : inName c = false) : NoName (c :: rest) := by
  rintro d ⟨⟩
  exact other

theorem noName_attributes (attributes : List Attribute) {rest : List Char} (ends : NoName rest) :
    NoName (attributes.flatMap attribute_ ++ rest) := by
  cases attributes with
  | nil => exact ends
  | cons a attributes => exact noName_cons rfl

theorem readNodes_text {fuel : Nat} {content rest : List Char} {s : String} (ends : ∀ c ∈ rest.head?, c = '<')
    (resolved : unescape? content = some s.toList) (filled : content ≠ []) (harmless : ∀ d ∈ content, d ≠ '<') :
    readNodes (fuel + 1) (content ++ rest) = do
      let (later, after) ← readNodes fuel rest
      return (.text s :: later, after) := by
  have taken := takeWhile_until harmless ends
  have dropped := dropWhile_until harmless ends
  obtain ⟨c, more, rfl⟩ := List.exists_cons_of_ne_nil filled
  have bracket : c ≠ '<' := harmless c List.mem_cons_self
  rw [List.cons_append] at taken dropped ⊢
  simp [readNodes, bracket, taken, dropped, resolved]

/-- The children of an element from behind its tag on, and what follows the element. -/
def readInside (fuel : Nat) (name : List Char) (closed : Bool) (text : List Char) : Option (List Node × List Char) :=
  if closed then some ([], text)
  else do
    let (children, rest) ← readNodes fuel text
    return (children, ← afterClosing? name rest)

theorem readNodes_element {fuel : Nat} {name tag : List Char} (named : IsName name) (ends : NoName tag) :
    readNodes (fuel + 1) ('<' :: (name ++ tag)) = do
      let (attributes, closed, rest) ← readTag fuel tag
      let (children, rest) ← readInside fuel name closed rest
      let (later, rest) ← readNodes fuel rest
      return (.element (String.ofList name) attributes children :: later, rest) := by
  have taken := takeWhile_name named ends
  have dropped := dropWhile_name named ends
  cases tag : readTag fuel tag with
  | none => simp [readNodes, named.no_slash, named.filled, taken, dropped, tag]
  | some found =>
    obtain ⟨attributes, closed, rest⟩ := found
    cases closed <;> simp [readNodes, readInside, named.no_slash, named.filled, taken, dropped, tag, Option.bind_assoc]

theorem afterClosing?_closingTag (name rest : List Char) :
    afterClosing? name (closingTag name ++ rest) = some rest := by
  simp [afterClosing?]

/-- A text is read as nodes up to a closing tag or the end. -/
def ReadsAs (text : List Char) (nodes : List Node) (rest : List Char) : Prop :=
  ∀ fuel, text.length < fuel → readNodes fuel text = some (nodes, rest)

/-- What stands between tags as a node; where nothing does there is none. -/
def textNodes (s : String) : List Node := if s = "" then [] else [.text s]

namespace ReadsAs

variable {rest after : List Char} {nodes : List Node}

theorem nil : ReadsAs [] [] [] := by
  intro fuel enough
  obtain ⟨fuel, rfl⟩ : ∃ k, fuel = k + 1 := ⟨fuel - 1, by omega⟩
  rfl

theorem closing (name rest : List Char) : ReadsAs (closingTag name ++ rest) [] (closingTag name ++ rest) := by
  intro fuel enough
  obtain ⟨fuel, rfl⟩ : ∃ k, fuel = k + 1 := ⟨fuel - 1, by omega⟩
  simp [readNodes, closingTag]

theorem text {content : List Char} {s : String} (later : ReadsAs rest nodes after)
    (ends : ∀ c ∈ rest.head?, c = '<') (resolved : unescape? content = some s.toList) (filled : content ≠ [])
    (harmless : ∀ d ∈ content, d ≠ '<') : ReadsAs (content ++ rest) (.text s :: nodes) after := by
  intro fuel enough
  have size := List.length_pos_of_ne_nil filled
  rw [List.length_append] at enough
  obtain ⟨fuel, rfl⟩ : ∃ k, fuel = k + 1 := ⟨fuel - 1, by omega⟩
  have behind := later fuel (by omega)
  simp [readNodes_text ends resolved filled harmless, behind]

theorem escaped (s : String) (later : ReadsAs rest nodes after) (ends : ∀ c ∈ rest.head?, c = '<') :
    ReadsAs (escape s ++ rest) (textNodes s ++ nodes) after := by
  by_cases blank : s = ""
  · subst blank
    exact later
  · have filled : escape s ≠ [] := by
      intro none
      have resolved := unescape?_escape s
      rw [none] at resolved
      exact blank (String.toList_eq_nil_iff.mp (Option.some.inj resolved).symm)
    simp only [textNodes, blank, if_false, List.singleton_append]
    exact later.text ends (unescape?_escape s) filled fun d member => (escape_harmless s d member).1

/-- An element around what its content is read as. -/
theorem element {name tag text : List Char} {attributes : List Attribute} {children : List Node}
    (named : IsName name) (ends : NoName tag) (opened : ReadsTag tag attributes false text)
    (inside : ReadsAs text children (closingTag name ++ rest)) (content : text.length ≤ tag.length)
    (shorter : rest.length ≤ text.length) (later : ReadsAs rest nodes after) :
    ReadsAs ('<' :: (name ++ tag)) (.element (String.ofList name) attributes children :: nodes) after := by
  intro fuel enough
  simp only [List.length_append, List.length_cons] at enough
  obtain ⟨fuel, rfl⟩ : ∃ k, fuel = k + 1 := ⟨fuel - 1, by omega⟩
  have head := opened fuel (by omega)
  have content := inside fuel (by omega)
  have behind := later fuel (by omega)
  simp [readNodes_element named ends, readInside, head, content, afterClosing?_closingTag, behind]

theorem group {name : String} {attributes : List Attribute} {text : List Char} {children : List Node}
    (named : IsName name.toList) (each : ∀ a ∈ attributes, IsName a.name.toList)
    (inside : ReadsAs text children (closingTag name.toList ++ rest)) (shorter : rest.length ≤ text.length)
    (later : ReadsAs rest nodes after) :
    ReadsAs (opening name attributes ++ '>' :: text) (.element name attributes children :: nodes) after := by
  have element := ReadsAs.element named (noName_attributes attributes (noName_cons rfl))
    (ReadsTag.opening text each) inside (by simp; omega) shorter later
  simpa [opening] using element

theorem empty {name tag : List Char} {attributes : List Attribute} (named : IsName name) (ends : NoName tag)
    (opened : ReadsTag tag attributes true rest) (shorter : rest.length ≤ tag.length)
    (later : ReadsAs rest nodes after) :
    ReadsAs ('<' :: (name ++ tag)) (.element (String.ofList name) attributes [] :: nodes) after := by
  intro fuel enough
  simp only [List.length_append, List.length_cons] at enough
  obtain ⟨fuel, rfl⟩ : ∃ k, fuel = k + 1 := ⟨fuel - 1, by omega⟩
  have head := opened fuel (by omega)
  have behind := later fuel (by omega)
  simp [readNodes_element named ends, readInside, head, behind]

end ReadsAs

/-- The line end and the blanks in front of what stands on a level. -/
def gap (level : Nat) : List Char := '\n' :: indent level

def gapNode (level : Nat) : Node := .text (String.ofList (gap level))

mutual

/-- What a reader makes of an element that begins on a level. -/
def Element.node (level : Nat) : Element → Node
  | .empty name attributes => .element name attributes []
  | .leaf name attributes text => .element name attributes (textNodes text)
  | .group name attributes children =>
    .element name attributes (Element.allNodes (level + 1) children ++ [gapNode level])

def Element.allNodes (level : Nat) : List Element → List Node
  | [] => []
  | e :: rest => gapNode level :: e.node level :: Element.allNodes level rest

end

mutual

/-- An element whose names can be read as names. -/
def Element.Proper : Element → Prop
  | .empty name attributes | .leaf name attributes _ =>
    IsName name.toList ∧ ∀ a ∈ attributes, IsName a.name.toList
  | .group name attributes children =>
    IsName name.toList ∧ (∀ a ∈ attributes, IsName a.name.toList) ∧ Element.AllProper children

def Element.AllProper : List Element → Prop
  | [] => True
  | e :: rest => e.Proper ∧ Element.AllProper rest

end

theorem Element.allProper_iff {elements : List Element} :
    Element.AllProper elements ↔ ∀ e ∈ elements, e.Proper := by
  induction elements with
  | nil => simp [Element.AllProper]
  | cons e rest ih => simp [Element.AllProper, ih]

/-- An element from its first bracket to its last. -/
def Element.tagged (level : Nat) : Element → List Char
  | .empty name attributes => opening name attributes ++ ['/', '>']
  | .leaf name attributes text => opening name attributes ++ '>' :: (escape text ++ closingTag name.toList)
  | .group name attributes children =>
    opening name attributes ++
      '>' :: '\n' :: (Element.allLines (level + 1) children ++ (indent level ++ closingTag name.toList))

theorem Element.lines_eq (level : Nat) (e : Element) : e.lines level = indent level ++ (e.tagged level ++ ['\n']) := by
  cases e <;> simp [Element.lines, Element.tagged, Markup.closing, closingTag]

theorem Element.tagged_head (level : Nat) (e : Element) : ∃ more, e.tagged level = '<' :: more := by
  cases e <;> exact ⟨_, rfl⟩

theorem indent_plain (level : Nat) : ∀ c ∈ indent level, c = ' ' := fun _ member => List.eq_of_mem_replicate member

theorem gap_apart (level : Nat) {d : Char} (line : d ≠ '\n') (blank : d ≠ ' ') : d ∉ gap level := fun member =>
  (List.mem_cons.mp member).elim line fun later => blank (indent_plain level d later)

theorem unescape?_gap (level : Nat) : unescape? (gap level) = some (String.ofList (gap level)).toList := by
  rw [String.toList_ofList]
  exact unescape?_plain (gap_apart level (by decide) (by decide))

theorem gap_harmless (level : Nat) : ∀ d ∈ gap level, d ≠ '<' := by
  rintro d member rfl
  exact gap_apart level (by decide) (by decide) member

theorem ReadsAs.gap {rest after : List Char} {nodes : List Node} (level : Nat) (later : ReadsAs rest nodes after)
    (ends : ∀ c ∈ rest.head?, c = '<') : ReadsAs (gap level ++ rest) (gapNode level :: nodes) after :=
  later.text ends (unescape?_gap level) (List.cons_ne_nil _ _) (gap_harmless level)

mutual

/-- A printed element is read as it is. -/
theorem Element.reads (level : Nat) : ∀ (e : Element), e.Proper → ∀ {rest after : List Char} {nodes : List Node},
    ReadsAs rest nodes after → ReadsAs (e.tagged level ++ rest) (e.node level :: nodes) after
  | .empty name attributes => by
    intro proper rest after nodes later
    obtain ⟨named, each⟩ := proper
    have tag := (ReadsTag.closed rest).append each
    rw [List.append_nil] at tag
    have element := later.empty named (noName_attributes attributes (noName_cons rfl)) tag (by simp; omega)
    simpa [Element.tagged, Element.node, opening] using element
  | .leaf name attributes text => by
    intro proper rest after nodes later
    obtain ⟨named, each⟩ := proper
    have inside : ReadsAs (escape text ++ (closingTag name.toList ++ rest)) (textNodes text ++ [])
        (closingTag name.toList ++ rest) :=
      (ReadsAs.closing name.toList rest).escaped text (by simp [closingTag])
    simpa [Element.tagged, Element.node] using ReadsAs.group named each inside (by simp; omega) later
  | .group name attributes children => by
    intro proper rest after nodes later
    obtain ⟨named, each, all⟩ := proper
    have last : ReadsAs (Markup.gap level ++ (closingTag name.toList ++ rest)) [gapNode level]
        (closingTag name.toList ++ rest) :=
      (ReadsAs.closing name.toList rest).gap level (by simp [closingTag])
    let content := '\n' :: (Element.allLines (level + 1) children ++ indent level)
    have inside : ReadsAs (content ++ (closingTag name.toList ++ rest))
        (Element.allNodes (level + 1) children ++ [gapNode level]) (closingTag name.toList ++ rest) := by
      simpa [content, Markup.gap] using Element.allReads (level + 1) children all last
    simpa [content, Element.tagged, Element.node] using ReadsAs.group named each inside (by simp; omega) later
termination_by structural e => e

/-- Elements on lines of their own are read one after the other. The text begins with the end of the line
before. -/
theorem Element.allReads (level : Nat) : ∀ (elements : List Element), Element.AllProper elements →
    ∀ {rest after : List Char} {nodes : List Node}, ReadsAs ('\n' :: rest) nodes after →
      ReadsAs ('\n' :: (Element.allLines level elements ++ rest)) (Element.allNodes level elements ++ nodes) after
  | [] => fun _ _ _ _ later => later
  | e :: elements => by
    intro proper rest after nodes later
    obtain ⟨own, all⟩ := proper
    have behind := Element.allReads level elements all later
    have element := Element.reads level e own behind
    obtain ⟨more, head⟩ := e.tagged_head level
    have line := element.gap level (by simp [head])
    simpa [Element.allLines, Element.allNodes, Element.lines_eq, Markup.gap] using line
termination_by structural elements => elements

end

/-- These nodes are read from the begin of a text on. -/
def Finds (text : List Char) (nodes : List Node) : Prop :=
  ∃ fuel after, text.length < fuel ∧ readNodes fuel text = some (nodes, after)

namespace Finds

variable {rest : List Char} {nodes : List Node}

theorem behind_gap {level : Nat} (found : Finds (gap level ++ rest) nodes) (ends : ∀ c ∈ rest.head?, c = '<') :
    ∃ later, nodes = gapNode level :: later ∧ Finds rest later := by
  obtain ⟨fuel, after, enough, read⟩ := found
  rw [List.length_append, gap, List.length_cons] at enough
  obtain ⟨fuel, rfl⟩ : ∃ k, fuel = k + 1 := ⟨fuel - 1, by omega⟩
  rw [readNodes_text ends (unescape?_gap level) (List.cons_ne_nil _ _) (gap_harmless level)] at read
  obtain ⟨⟨later, after⟩, found, same⟩ := Option.bind_eq_some_iff.mp read
  cases same
  exact ⟨later, rfl, fuel, after, by omega, found⟩

section Opened

variable {name : String} {attributes : List Attribute}

theorem opened (found : Finds (opening name attributes ++ '>' :: rest) nodes) (named : IsName name.toList)
    (each : ∀ a ∈ attributes, IsName a.name.toList) :
    ∃ fuel children further behind later after, rest.length < fuel ∧
      readNodes fuel rest = some (children, further) ∧ afterClosing? name.toList further = some behind ∧
      readNodes fuel behind = some (later, after) ∧ nodes = .element name attributes children :: later := by
  obtain ⟨fuel, after, enough, read⟩ := found
  simp only [opening, List.cons_append, List.append_assoc, List.length_cons, List.length_append] at enough read
  obtain ⟨fuel, rfl⟩ : ∃ k, fuel = k + 1 := ⟨fuel - 1, by omega⟩
  have tag := ReadsTag.opening rest each fuel (by simp only [List.length_append, List.length_cons]; omega)
  rw [readNodes_element named (noName_attributes attributes (noName_cons rfl)), tag] at read
  obtain ⟨_, ⟨⟩, read⟩ := Option.bind_eq_some_iff.mp read
  obtain ⟨⟨children, behind⟩, inside, read⟩ := Option.bind_eq_some_iff.mp read
  obtain ⟨⟨later, after⟩, others, same⟩ := Option.bind_eq_some_iff.mp read
  obtain ⟨⟨children, further⟩, inner, closed⟩ := Option.bind_eq_some_iff.mp inside
  obtain ⟨behind, closed, own⟩ := Option.bind_eq_some_iff.mp closed
  cases own
  cases same
  exact ⟨fuel, children, further, behind, later, after, by omega, inner, closed, others, by simp⟩

theorem inside (found : Finds (opening name attributes ++ '>' :: rest) nodes) (named : IsName name.toList)
    (each : ∀ a ∈ attributes, IsName a.name.toList) :
    ∃ children later, nodes = .element name attributes children :: later ∧ Finds rest children := by
  obtain ⟨fuel, children, further, -, later, -, enough, inner, -, -, same⟩ := found.opened named each
  exact ⟨children, later, same, fuel, further, enough, inner⟩

theorem behind {text : List Char} {children : List Node} (found : Finds (opening name attributes ++ '>' :: text) nodes)
    (named : IsName name.toList) (each : ∀ a ∈ attributes, IsName a.name.toList)
    (within : ReadsAs text children (closingTag name.toList ++ rest)) (shorter : rest.length ≤ text.length) :
    ∃ later, nodes = .element name attributes children :: later ∧ Finds rest later := by
  obtain ⟨fuel, inner, further, behind, later, after, enough, read, closed, others, same⟩ := found.opened named each
  cases (within fuel enough).symm.trans read
  cases (afterClosing?_closingTag name.toList rest).symm.trans closed
  exact ⟨later, same, fuel, after, by omega, others⟩

end Opened

theorem valued {name gap key text : List Char}
    (found : Finds ('<' :: (name ++ (gap ++ (key ++ '=' :: '"' :: text)))) nodes) (named : IsName name)
    (ends : NoName (gap ++ (key ++ '=' :: '"' :: text))) (blank : ∀ c ∈ gap, isSpace c = true) (own : IsName key) :
    ∃ value rest attributes children later, readValue text = some (value, rest) ∧
      nodes = .element (String.ofList name) (⟨String.ofList key, value⟩ :: attributes) children :: later := by
  obtain ⟨fuel, after, enough, read⟩ := found
  simp only [List.length_cons, List.length_append] at enough
  obtain ⟨fuel, rfl⟩ : ∃ k, fuel = k + 2 := ⟨fuel - 2, by omega⟩
  rw [readNodes_element named ends, readTag_attribute blank own] at read
  obtain ⟨⟨attributes, closed, rest⟩, tag, read⟩ := Option.bind_eq_some_iff.mp read
  obtain ⟨⟨value, further⟩, first, tag⟩ := Option.bind_eq_some_iff.mp tag
  obtain ⟨⟨others, closed, rest⟩, -, same⟩ := Option.bind_eq_some_iff.mp tag
  cases same
  obtain ⟨⟨children, behind⟩, -, read⟩ := Option.bind_eq_some_iff.mp read
  obtain ⟨⟨later, after⟩, -, same⟩ := Option.bind_eq_some_iff.mp read
  cases same
  exact ⟨value, further, others, children, later, first, rfl⟩

end Finds

theorem textNodes_inj {s t : String} (same : textNodes s = textNodes t) : s = t := by
  unfold textNodes at same
  split at same <;> split at same <;> simp_all

theorem Element.map_node {level : Nat} : ∀ {elements others : List Element},
    Element.allNodes level elements = Element.allNodes level others →
      elements.map (Element.node level) = others.map (Element.node level)
  | [], [], _ => rfl
  | e :: rest, d :: others, same => by
    simp only [Element.allNodes, List.cons.injEq, true_and] at same
    rw [List.map_cons, List.map_cons, same.1, Element.map_node same.2]

theorem Element.leaf_inj {level : Nat} {name : String} {attributes attributes' : List Attribute} {s t : String}
    (same : (Element.leaf name attributes s).node level = (Element.leaf name attributes' t).node level) :
    attributes = attributes' ∧ s = t := by
  simp only [Element.node, Node.element.injEq, true_and] at same
  exact ⟨same.1, textNodes_inj same.2⟩

/-- Groups that read the same have the same attributes and children that read the same. -/
theorem Element.group_inj {level : Nat} {name : String} {attributes attributes' : List Attribute}
    {children children' : List Element}
    (same : (Element.group name attributes children).node level =
      (Element.group name attributes' children').node level) :
    attributes = attributes' ∧
      children.map (Element.node (level + 1)) = children'.map (Element.node (level + 1)) := by
  simp only [Element.node, Node.element.injEq, true_and, List.append_left_inj] at same
  exact ⟨same.1, Element.map_node same.2⟩

/-- The elements of a text with the names of their attributes, and no text besides. -/
inductive Outline where
  | element (name : String) (attributes : List String) (children : List Outline)

mutual

def Node.outlines : Node → List Outline
  | .text _ => []
  | .element name attributes children =>
    [.element name (attributes.map (·.name)) (Node.allOutlines children)]

def Node.allOutlines : List Node → List Outline
  | [] => []
  | node :: rest => node.outlines ++ Node.allOutlines rest

end

def outline? (document : String) : Option (List Outline) := (read document).map Node.allOutlines

mutual

def Element.outline : Element → Outline
  | .empty name attributes | .leaf name attributes _ => .element name (attributes.map (·.name)) []
  | .group name attributes children => .element name (attributes.map (·.name)) (Element.allOutlines children)

def Element.allOutlines : List Element → List Outline
  | [] => []
  | e :: rest => e.outline :: Element.allOutlines rest

end

theorem Element.allOutlines_eq (elements : List Element) : Element.allOutlines elements = elements.map outline := by
  induction elements with
  | nil => rfl
  | cons e rest ih => rw [Element.allOutlines, ih, List.map_cons]

theorem Node.allOutlines_append (nodes others : List Node) :
    Node.allOutlines (nodes ++ others) = Node.allOutlines nodes ++ Node.allOutlines others := by
  induction nodes with
  | nil => rfl
  | cons node rest ih => simp [Node.allOutlines, ih]

theorem textNodes_outlines (s : String) : Node.allOutlines (textNodes s) = [] := by
  unfold textNodes
  split <;> rfl

mutual

theorem Element.node_outlines (level : Nat) : ∀ e : Element, (e.node level).outlines = [e.outline]
  | .empty name attributes => rfl
  | .leaf name attributes text => by simp [Element.node, Node.outlines, Element.outline, textNodes_outlines]
  | .group name attributes children => by
    have inside := Element.allNodes_outlines (level + 1) children
    simp [Element.node, Node.outlines, Element.outline, Node.allOutlines_append, inside, Node.allOutlines, gapNode]

theorem Element.allNodes_outlines (level : Nat) : ∀ elements : List Element,
    Node.allOutlines (Element.allNodes level elements) = Element.allOutlines elements
  | [] => rfl
  | e :: rest => by
    have first := Element.node_outlines level e
    have later := Element.allNodes_outlines level rest
    simp [Element.allNodes, Node.allOutlines, Element.allOutlines, first, later, gapNode, Node.outlines]

end

end WidgetRepair.Markup
