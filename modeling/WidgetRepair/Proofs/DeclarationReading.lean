import Mathlib
import WidgetRepair.Package.Typings
import WidgetRepair.Proofs.DeclarationTokens

/-! Typings as a reader sees them: imports, aliases and interfaces with their members. What is read of
printed declarations are these declarations. -/

namespace WidgetRepair.Typings

/-- One declaration of a file of typings. -/
inductive Declaration where
  | imported (names : List String) (source : String)
  | alias (a : Alias)
  | interface (name : String) (members : List Member)

/-- Items with a mark between them, up to another mark. -/
def readSeparated {α : Type} (item : List Token → Option (α × List Token)) (between last : Char) :
    (fuel : Nat) → List Token → Option (List α × List Token)
  | 0, _ => none
  | fuel + 1, tokens => do
    let (a, tokens) ← item tokens
    match tokens with
    | .mark c :: rest =>
      if c = between then
        let (items, rest) ← readSeparated item between last fuel rest
        return (a :: items, rest)
      else if c = last then some ([a], rest) else none
    | _ => none

def readWord : List Token → Option (String × List Token)
  | .word s :: rest => some (s, rest)
  | _ => none

def readKey : List Token → Option (String × List Token)
  | .quoted s :: rest => some (s, rest)
  | _ => none

def readField : List Token → Option ((String × String) × List Token)
  | .word field :: .mark ':' :: .word type :: rest => some ((field, type), rest)
  | _ => none

/-- A type up to the alternatives behind it. -/
def readPrimary : List Token → Option (PropType × List Token)
  | .word head :: .mark '<' :: .word argument :: .mark '>' :: rest => some (.applied head argument, rest)
  | .word item :: .mark '[' :: .mark ']' :: rest => some (.listOf item, rest)
  | .word s :: rest => some (.name s, rest)
  | .mark '\x7b' :: .mark '\x7d' :: rest => some (.record [], rest)
  | .mark '\x7b' :: rest => do
    let (fields, rest) ← readSeparated readField ';' '\x7d' rest.length rest
    return (.record fields, rest)
  | _ => none

/-- A type with the `null`s that stand behind it as alternatives. -/
def readNulls (type : PropType) : List Token → PropType × List Token
  | .mark '|' :: .word "null" :: rest => readNulls (.orNull type) rest
  | tokens => (type, tokens)

def readType (tokens : List Token) : Option (PropType × List Token) := do
  let (type, rest) ← readPrimary tokens
  return readNulls type rest

/-- A member from the mark behind its name on. -/
def readMember (name : String) (optional : Bool) : List Token → Option (Member × List Token)
  | .mark ':' :: tokens => do
    match ← readType tokens with
    | (type, .mark ';' :: rest) => some (⟨name, optional, type⟩, rest)
    | _ => none
  | _ => none

/-- The members of an interface up to its end. -/
def readMembers : (fuel : Nat) → List Token → Option (List Member × List Token)
  | 0, _ => none
  | fuel + 1, tokens =>
    match tokens with
    | .mark '\x7d' :: rest => some ([], rest)
    | .word name :: .mark '?' :: tokens => do
      let (m, tokens) ← readMember name true tokens
      let (members, rest) ← readMembers fuel tokens
      return (m :: members, rest)
    | .word name :: tokens => do
      let (m, tokens) ← readMember name false tokens
      let (members, rest) ← readMembers fuel tokens
      return (m :: members, rest)
    | _ => none

def readDeclaration : List Token → Option (Declaration × List Token)
  | .word "import" :: .mark '\x7b' :: tokens => do
    match ← readSeparated readWord ',' '\x7d' tokens.length tokens with
    | (names, .word "from" :: .quoted source :: .mark ';' :: rest) => some (.imported names source, rest)
    | _ => none
  | .word "export" :: .word "type" :: .word name :: .mark '=' :: .word "string" :: .mark ';' :: rest =>
    some (.alias ⟨name, []⟩, rest)
  | .word "export" :: .word "type" :: .word name :: .mark '=' :: tokens => do
    let (keys, rest) ← readSeparated readKey '|' ';' tokens.length tokens
    return (.alias ⟨name, keys⟩, rest)
  | .word "export" :: .word "interface" :: .word name :: .mark '\x7b' :: tokens => do
    let (members, rest) ← readMembers tokens.length tokens
    return (.interface name members, rest)
  | _ => none

/-- Declarations up to the end. `fuel` counts those still allowed. -/
def readDeclarations : (fuel : Nat) → List Token → Option (List Declaration)
  | _, [] => some []
  | 0, _ => none
  | fuel + 1, tokens => do
    let (declaration, rest) ← readDeclaration tokens
    return declaration :: (← readDeclarations fuel rest)

def read (text : String) : Option (List Declaration) := do
  let tokens ← lexPlain [] text.toList
  readDeclarations tokens.length tokens

def fieldTokens (f : String × String) : List Token := [.word f.1, .mark ':', .word f.2]

def PropType.tokens : PropType → List Token
  | name s => [.word s]
  | applied head argument => [.word head, .mark '<', .word argument, .mark '>']
  | listOf item => [.word item, .mark '[', .mark ']']
  | record fields =>
    .mark '\x7b' :: [.mark ';'].intercalate (fields.map fieldTokens) ++ [.mark '\x7d']
  | orNull t => t.tokens ++ [.mark '|', .word "null"]

def Member.tokens (m : Member) : List Token :=
  .word m.name :: (if m.optional then [.mark '?'] else []) ++ .mark ':' :: m.type.tokens ++ [.mark ';']

def Declaration.tokens : Declaration → List Token
  | imported names source =>
    [.word "import", .mark '\x7b'] ++ [.mark ','].intercalate (names.map fun n => [.word n]) ++
      [.mark '\x7d', .word "from", .quoted source, .mark ';']
  | .alias a =>
    [.word "export", .word "type", .word a.name, .mark '='] ++
      (if a.keys.isEmpty then [.word "string"] else [.mark '|'].intercalate (a.keys.map fun k => [.quoted k])) ++
      [.mark ';']
  | interface name members =>
    [.word "export", .word "interface", .word name, .mark '\x7b'] ++ members.flatMap Member.tokens ++
      [.mark '\x7d']

section Separated

variable {α : Type} (item : List Token → Option (α × List Token)) (print : α → List Token) {between last : Char}

/-- Items are read one by one when each of them is, in front of anything. -/
theorem readSeparated_print (apart : last ≠ between) {items : List α} (filled : items ≠ []) (rest : List Token)
    (reads : ∀ a ∈ items, ∀ rest, item (print a ++ rest) = some (a, rest)) {fuel : Nat}
    (enough : items.length ≤ fuel) :
    readSeparated item between last fuel ([.mark between].intercalate (items.map print) ++ .mark last :: rest) =
      some (items, rest) := by
  induction items generalizing fuel with
  | nil => exact absurd rfl filled
  | cons a items ih =>
    obtain ⟨fuel, rfl⟩ : ∃ k, fuel = k + 1 := ⟨fuel - 1, by simp at enough; omega⟩
    have first := reads a List.mem_cons_self
    cases items with
    | nil => simp [readSeparated, first, apart]
    | cons b items =>
      have later := ih (List.cons_ne_nil _ _) (fun c member => reads c (List.mem_cons_of_mem a member))
        (Nat.le_of_succ_le_succ enough)
      rw [List.map_cons] at later
      simp [readSeparated, List.intercalate_cons_cons, first, later]

theorem length_separated (between : Char) (items : List α) :
    items.length ≤ ([Token.mark between].intercalate (items.map print)).length + 1 := by
  induction items with
  | nil => simp
  | cons a items ih =>
    cases items with
    | nil => simp
    | cons b items =>
      rw [List.map_cons] at ih
      simp only [List.map_cons, List.intercalate_cons_cons, List.length_append, List.length_cons,
        List.length_nil] at ih ⊢
      omega

theorem readSeparated_all (apart : last ≠ between) {items : List α} (filled : items ≠ [])
    (reads : ∀ a ∈ items, ∀ rest, item (print a ++ rest) = some (a, rest)) (rest : List Token) :
    let tokens := [.mark between].intercalate (items.map print) ++ .mark last :: rest
    readSeparated item between last tokens.length tokens = some (items, rest) := by
  have enough := length_separated print between items
  exact readSeparated_print item print apart filled rest reads (by simp; omega)

theorem separated_cons (between : Char) (a : α) (items : List α) :
    ∃ more, [.mark between].intercalate ((a :: items).map print) = print a ++ more := by
  cases items with
  | nil => exact ⟨[], by simp⟩
  | cons b items =>
    refine ⟨.mark between :: [.mark between].intercalate ((b :: items).map print), ?_⟩
    simp [List.intercalate_cons_cons]

end Separated

/-- What ends a type that may have alternatives behind it. -/
def EndsType (rest : List Token) : Prop := ∀ t ∈ rest.head?, t ≠ .mark '<' ∧ t ≠ .mark '['

theorem readPrimary_record (fields : List (String × String)) (rest : List Token) :
    readPrimary ((PropType.record fields).tokens ++ rest) = some (.record fields, rest) := by
  cases fields with
  | nil => rfl
  | cons f fields =>
    have apart : '\x7d' ≠ ';' := by decide
    have read := readSeparated_all readField fieldTokens apart (List.cons_ne_nil f fields) (fun f _ rest => rfl) rest
    obtain ⟨more, begins⟩ := separated_cons fieldTokens ';' f fields
    simp only [begins, fieldTokens, List.cons_append, List.nil_append] at read
    simp only [PropType.tokens, begins, fieldTokens, List.cons_append, List.nil_append, List.append_assoc,
      readPrimary, read]
    rfl

theorem readType_tokens (type : PropType) (rest : List Token) (ends : EndsType rest) :
    readType (type.tokens ++ rest) = some (readNulls type rest) := by
  induction type generalizing rest with
  | name s =>
    have primary : readPrimary (.word s :: rest) = some (.name s, rest) := by
      unfold readPrimary
      split <;> simp_all [EndsType]
    simp [PropType.tokens, readType, primary]
  | applied head argument => rfl
  | listOf item => rfl
  | record fields => simp [readType, readPrimary_record]
  | orNull type ih =>
    have bar : EndsType (.mark '|' :: .word "null" :: rest) := by simp [EndsType]
    simpa [PropType.tokens, readNulls] using ih _ bar

theorem length_printed {α : Type} {print : α → List Token} (filled : ∀ a, print a ≠ []) (items : List α) :
    items.length ≤ (items.flatMap print).length := by
  induction items with
  | nil => simp
  | cons a items ih =>
    have own := List.length_pos_iff.mpr (filled a)
    rw [List.flatMap_cons, List.length_append, List.length_cons]
    omega

theorem Member.tokens_filled (m : Member) : m.tokens ≠ [] := List.cons_ne_nil _ _

theorem Declaration.tokens_filled (d : Declaration) : d.tokens ≠ [] := by
  cases d <;> exact List.cons_ne_nil _ _

theorem readMember_tokens (name : String) (optional : Bool) (type : PropType) (rest : List Token) :
    readMember name optional (.mark ':' :: (type.tokens ++ .mark ';' :: rest)) =
      some (⟨name, optional, type⟩, rest) := by
  have read := readType_tokens type (.mark ';' :: rest) (by simp [EndsType])
  simp [readMember, read, readNulls]

theorem readMembers_tokens (members : List Member) (rest : List Token) {fuel : Nat} (enough : members.length < fuel) :
    readMembers fuel (members.flatMap Member.tokens ++ .mark '\x7d' :: rest) = some (members, rest) := by
  induction members generalizing fuel with
  | nil =>
    obtain ⟨fuel, rfl⟩ : ∃ k, fuel = k + 1 := ⟨fuel - 1, by omega⟩
    rfl
  | cons m members ih =>
    obtain ⟨fuel, rfl⟩ : ∃ k, fuel = k + 1 := ⟨fuel - 1, by omega⟩
    have later := ih (Nat.lt_of_succ_lt_succ enough)
    obtain ⟨name, optional, type⟩ := m
    have first := readMember_tokens name optional type (members.flatMap Member.tokens ++ .mark '\x7d' :: rest)
    cases optional <;> simp [Member.tokens, readMembers, first, later]

/-- A declaration that can be read back: it imports something if it imports. -/
def Declaration.Filled : Declaration → Prop
  | imported names _ => names ≠ []
  | _ => True

theorem readDeclaration_tokens (d : Declaration) (filled : d.Filled) (rest : List Token) :
    readDeclaration (d.tokens ++ rest) = some (d, rest) := by
  cases d with
  | imported names source =>
    have apart : '\x7d' ≠ ',' := by decide
    have read := readSeparated_all readWord (fun n => [.word n]) apart filled (fun n _ rest => rfl)
      (.word "from" :: .quoted source :: .mark ';' :: rest)
    simp only at read
    simp only [Declaration.tokens, List.append_assoc, List.cons_append, List.nil_append, readDeclaration, read]
    rfl
  | «alias» a =>
    obtain ⟨name, keys⟩ := a
    cases keys with
    | nil => rfl
    | cons k keys =>
      have apart : ';' ≠ '|' := by decide
      have read := readSeparated_all readKey (fun k => [.quoted k]) apart (List.cons_ne_nil k keys)
        (fun n _ rest => rfl) rest
      obtain ⟨more, begins⟩ := separated_cons (fun k => [.quoted k]) '|' k keys
      simp only [begins, List.cons_append, List.nil_append] at read
      simp only [Declaration.tokens, List.isEmpty_cons, Bool.false_eq_true, if_false, begins, List.append_assoc,
        List.cons_append, List.nil_append, readDeclaration, read]
      rfl
  | interface name members =>
    have enough : members.length < (members.flatMap Member.tokens ++ .mark '\x7d' :: rest).length := by
      have each := length_printed Member.tokens_filled members
      rw [List.length_append, List.length_cons]
      omega
    have read := readMembers_tokens members rest enough
    simp only [Declaration.tokens, List.append_assoc, List.cons_append, List.nil_append, readDeclaration, read]
    rfl

theorem readDeclarations_tokens (declarations : List Declaration) (filled : ∀ d ∈ declarations, d.Filled)
    {fuel : Nat} (enough : declarations.length ≤ fuel) :
    readDeclarations fuel (declarations.flatMap Declaration.tokens) = some declarations := by
  induction declarations generalizing fuel with
  | nil => cases fuel <;> rfl
  | cons d declarations ih =>
    obtain ⟨fuel, rfl⟩ : ∃ k, fuel = k + 1 := ⟨fuel - 1, by simp at enough; omega⟩
    obtain ⟨own, others⟩ := List.forall_mem_cons.mp filled
    have later := ih others (Nat.le_of_succ_le_succ enough)
    have first := readDeclaration_tokens d own (declarations.flatMap Declaration.tokens)
    obtain ⟨t, more, begins⟩ := List.exists_cons_of_ne_nil d.tokens_filled
    rw [begins, List.cons_append] at first
    rw [List.flatMap_cons, begins, List.cons_append]
    simp [readDeclarations, first, later]

/-- A type all of whose names are identifiers. -/
def PropType.Spelled : PropType → Prop
  | name s => IsWord s
  | applied head argument => IsWord head ∧ IsWord argument
  | listOf item => IsWord item
  | record fields => ∀ f ∈ fields, IsWord f.1 ∧ IsWord f.2
  | orNull t => t.Spelled

def Member.Spelled (m : Member) : Prop := IsWord m.name ∧ m.type.Spelled

/-- A declaration with identifiers for names and plain quoted texts. -/
def Declaration.Spelled : Declaration → Prop
  | imported names source => (∀ n ∈ names, IsWord n) ∧ Unquoted source
  | .alias a => IsWord a.name ∧ ∀ k ∈ a.keys, Unquoted k
  | interface name members => IsWord name ∧ ∀ m ∈ members, m.Spelled

/-- A declaration as it is printed. All but imports stand behind an empty line. -/
def Declaration.text : Declaration → String
  | imported names source => "import \x7b " ++ ", ".intercalate names ++ " \x7d from \"" ++ source ++ "\";\n"
  | .alias a =>
    "\nexport type " ++ a.name ++ " = " ++
      (if a.keys.isEmpty then "string" else " | ".intercalate (a.keys.map fun key => "\"" ++ key ++ "\"")) ++ ";\n"
  | interface name members => "\n" ++ Typings.interface name members

section Printed

variable {rest : List Char} {tokens : List Token}

def fieldText (f : String × String) : List Char := (f.1 ++ ": " ++ f.2).toList

theorem field_lexes {f : String × String} (spelled : IsWord f.1 ∧ IsWord f.2) (later : Lexes rest tokens)
    (ends : EndsWord rest) : Lexes (fieldText f ++ rest) (fieldTokens f ++ tokens) := by
  have type := later.word spelled.2 ends
  have colon : Lexes (':' :: ' ' :: (f.2.toList ++ rest)) (.mark ':' :: .word f.2 :: tokens) :=
    (type.blank (.inl rfl)).mark rfl
  simpa [fieldText, fieldTokens] using colon.word spelled.1 (endsWord_cons rfl)

theorem fields_lexes {fields : List (String × String)} (spelled : ∀ f ∈ fields, IsWord f.1 ∧ IsWord f.2)
    (later : Lexes rest tokens) (ends : EndsWord rest) :
    Lexes ([';', ' '].intercalate (fields.map fieldText) ++ rest)
      ([.mark ';'].intercalate (fields.map fieldTokens) ++ tokens) :=
  later.separated ends (fun later => (later.blank (.inl rfl)).mark rfl) (endsWord_cons rfl)
    fun f member _ _ later ends => field_lexes (spelled f member) later ends

theorem record_text (f : String × String) (fields : List (String × String)) :
    (PropType.record (f :: fields)).text.toList =
      '\x7b' :: ' ' :: ([';', ' '].intercalate ((f :: fields).map fieldText) ++ [' ', '\x7d']) := by
  have each : fieldText = fun f => f.1.toList ++ ": ".toList ++ f.2.toList := by
    funext f
    simp only [fieldText, String.toList_append]
  rw [each]
  simp only [PropType.text, String.toList_append, String.toList_intercalate, List.map_map, Function.comp_def,
    String.reduceToList, List.cons_append, List.nil_append]

theorem type_lexes (type : PropType) (spelled : type.Spelled) (later : Lexes rest tokens) (ends : EndsWord rest) :
    Lexes (type.text.toList ++ rest) (type.tokens ++ tokens) := by
  induction type generalizing rest tokens with
  | name s => exact later.word spelled ends
  | applied head argument =>
    have close := (later.mark (c := '>') rfl).word spelled.2 (endsWord_cons rfl)
    have opened := (close.mark (c := '<') rfl).word spelled.1 (endsWord_cons rfl)
    simpa [PropType.text, PropType.tokens] using opened
  | listOf item =>
    have brackets := (later.mark (c := ']') rfl).mark (c := '[') rfl
    simpa [PropType.text, PropType.tokens] using brackets.word spelled (endsWord_cons rfl)
  | record fields =>
    have close := (later.mark (c := '\x7d') rfl)
    cases fields with
    | nil => simpa [PropType.text, PropType.tokens] using close.mark (c := '\x7b') rfl
    | cons f fields =>
      have inside := fields_lexes spelled (close.blank (c := ' ') (.inl rfl)) (endsWord_cons rfl)
      have opened := (inside.blank (c := ' ') (.inl rfl)).mark (c := '\x7b') rfl
      simpa only [record_text, PropType.tokens, List.cons_append, List.append_assoc, List.nil_append] using opened
  | orNull type ih =>
    have null : IsWord "null" := ⟨by decide, by simp [inWord]⟩
    have bar := ((later.word null ends).blank (c := ' ') (.inl rfl)).mark (c := '|') rfl
    have inner := ih spelled (bar.blank (c := ' ') (.inl rfl)) (endsWord_cons rfl)
    simpa [PropType.text, PropType.tokens] using inner

theorem member_lexes {m : Member} (spelled : m.Spelled) (later : Lexes rest tokens) :
    Lexes (m.line.toList ++ rest) (m.tokens ++ tokens) := by
  obtain ⟨name, optional, type⟩ := m
  have last := (later.blank (c := '\n') (.inr rfl)).mark (c := ';') rfl
  have written := type_lexes type spelled.2 last (endsWord_cons rfl)
  have colon := (written.blank (c := ' ') (.inl rfl)).mark (c := ':') rfl
  cases optional with
  | false =>
    have line := (colon.word spelled.1 (endsWord_cons rfl)).blanks 4
    simpa [Member.line, Member.tokens] using line
  | true =>
    have line := ((colon.mark (c := '?') rfl).word spelled.1 (endsWord_cons rfl)).blanks 4
    simpa [Member.line, Member.tokens] using line

theorem members_lexes {members : List Member} (spelled : ∀ m ∈ members, m.Spelled) (later : Lexes rest tokens) :
    Lexes ((String.join (members.map Member.line)).toList ++ rest) (members.flatMap Member.tokens ++ tokens) := by
  induction members with
  | nil => simpa using later
  | cons m members ih =>
    obtain ⟨own, others⟩ := List.forall_mem_cons.mp spelled
    have line := member_lexes own (ih others)
    simpa using line

theorem keyword_lexes {s : String} (named : IsWord s) (later : Lexes rest tokens) :
    Lexes (s.toList ++ ' ' :: rest) (.word s :: tokens) :=
  (later.blank (.inl rfl)).word named (endsWord_cons rfl)

theorem names_lexes {names : List String} (spelled : ∀ n ∈ names, IsWord n) (later : Lexes rest tokens)
    (ends : EndsWord rest) :
    Lexes ([',', ' '].intercalate (names.map String.toList) ++ rest)
      ([.mark ','].intercalate (names.map fun n => [.word n]) ++ tokens) :=
  later.separated ends (fun later => (later.blank (.inl rfl)).mark rfl) (endsWord_cons rfl)
    fun n member _ _ later ends => later.word (spelled n member) ends

theorem imported_text (names : List String) (source : String) :
    (Declaration.imported names source).text =
      "import \x7b " ++ ", ".intercalate names ++ " \x7d from \"" ++ source ++ "\";\n" := rfl

theorem imported_lexes {names : List String} {source : String} (spelled : (Declaration.imported names source).Spelled)
    (later : Lexes rest tokens) :
    Lexes ((Declaration.imported names source).text.toList ++ rest)
      ((Declaration.imported names source).tokens ++ tokens) := by
  have last := ((later.blank (c := '\n') (.inr rfl)).mark (c := ';') rfl).quoted spelled.2
  have origin := (keyword_lexes (s := "from") (by simp [isWord_iff, inWord]) last).blank (c := ' ') (.inl rfl)
  have close := (origin.mark (c := '\x7d') rfl).blank (c := ' ') (.inl rfl)
  have inside := names_lexes spelled.1 close (endsWord_cons rfl)
  have opened := (inside.blank (c := ' ') (.inl rfl)).mark (c := '\x7b') rfl
  have line := keyword_lexes (s := "import") (by simp [isWord_iff, inWord]) opened
  rw [imported_text]
  simpa [Declaration.tokens, String.toList_intercalate] using line

def keyText (key : String) : List Char := '"' :: (key.toList ++ ['"'])

theorem keys_lexes {keys : List String} (harmless : ∀ k ∈ keys, Unquoted k) (later : Lexes rest tokens)
    (ends : EndsWord rest) :
    Lexes ([' ', '|', ' '].intercalate (keys.map keyText) ++ rest)
      ([.mark '|'].intercalate (keys.map fun k => [.quoted k]) ++ tokens) :=
  later.separated ends
    (fun later => ((later.blank (.inl rfl)).mark rfl).blank (.inl rfl)) (endsWord_cons rfl)
    fun k member _ _ later ends => by simpa [keyText] using later.quoted (harmless k member)

theorem keys_text (keys : List String) :
    (" | ".intercalate (keys.map fun key => "\"" ++ key ++ "\"")).toList =
      [' ', '|', ' '].intercalate (keys.map keyText) := by
  have each : keyText = fun key => "\"".toList ++ key.toList ++ "\"".toList := by
    funext key
    simp [keyText]
  rw [each]
  simp only [String.toList_intercalate, List.map_map, Function.comp_def, String.toList_append, String.reduceToList]

theorem alias_text (a : Alias) : (Declaration.alias a).text = "\nexport type " ++ a.name ++ " = " ++
    (if a.keys.isEmpty then "string" else " | ".intercalate (a.keys.map fun key => "\"" ++ key ++ "\"")) ++
      ";\n" := rfl

theorem alias_lexes {a : Alias} (spelled : (Declaration.alias a).Spelled) (later : Lexes rest tokens) :
    Lexes ((Declaration.alias a).text.toList ++ rest) ((Declaration.alias a).tokens ++ tokens) := by
  obtain ⟨name, keys⟩ := a
  obtain ⟨named, harmless⟩ := spelled
  have last := (later.blank (c := '\n') (.inr rfl)).mark (c := ';') rfl
  have begun {text : List Char} {inside : List Token} (content : Lexes text inside) :
      Lexes ('\n' :: ("export".toList ++ ' ' :: ("type".toList ++ ' ' :: (name.toList ++ ' ' :: '=' :: ' ' :: text))))
        (.word "export" :: .word "type" :: .word name :: .mark '=' :: inside) := by
    have equals := keyword_lexes named ((content.blank (c := ' ') (.inl rfl)).mark (c := '=') rfl)
    have kind := keyword_lexes (s := "type") (by simp [isWord_iff, inWord]) equals
    exact (keyword_lexes (s := "export") (by simp [isWord_iff, inWord]) kind).blank (.inr rfl)
  cases keys with
  | nil =>
    have type := begun (last.word (s := "string") (by simp [isWord_iff, inWord]) (endsWord_cons rfl))
    rw [alias_text]
    simpa [Declaration.tokens] using type
  | cons k keys =>
    have type := begun (keys_lexes harmless last (endsWord_cons rfl))
    rw [alias_text]
    simp only [Declaration.tokens, List.isEmpty_cons, Bool.false_eq_true, if_false, String.toList_append, keys_text]
    simpa using type

theorem interface_text (name : String) (members : List Member) :
    (Declaration.interface name members).text =
      "\nexport interface " ++ name ++ " \x7b\n" ++ String.join (members.map Member.line) ++ "\x7d\n" := by
  unfold Declaration.text Typings.interface
  simp only [← String.append_assoc]
  rfl

theorem interface_lexes {name : String} {members : List Member} (spelled : (Declaration.interface name members).Spelled)
    (later : Lexes rest tokens) :
    Lexes ((Declaration.interface name members).text.toList ++ rest)
      ((Declaration.interface name members).tokens ++ tokens) := by
  have close := (later.blank (c := '\n') (.inr rfl)).mark (c := '\x7d') rfl
  have inside := (members_lexes spelled.2 close).blank (c := '\n') (.inr rfl)
  have opened := keyword_lexes spelled.1 (inside.mark (c := '\x7b') rfl)
  have kind := keyword_lexes (s := "interface") (by simp [isWord_iff, inWord]) opened
  have line := (keyword_lexes (s := "export") (by simp [isWord_iff, inWord]) kind).blank (c := '\n') (.inr rfl)
  rw [interface_text]
  simpa [Declaration.tokens] using line

theorem declaration_lexes {d : Declaration} (spelled : d.Spelled) (later : Lexes rest tokens) :
    Lexes (d.text.toList ++ rest) (d.tokens ++ tokens) := by
  cases d with
  | imported names source => exact imported_lexes spelled later
  | «alias» a => exact alias_lexes spelled later
  | interface name members => exact interface_lexes spelled later

theorem declarations_lex {declarations : List Declaration} (spelled : ∀ d ∈ declarations, d.Spelled) :
    Lexes (String.join (declarations.map Declaration.text)).toList (declarations.flatMap Declaration.tokens) := by
  induction declarations with
  | nil => exact Lexes.nil
  | cons d declarations ih =>
    obtain ⟨own, others⟩ := List.forall_mem_cons.mp spelled
    have line := declaration_lexes own (ih others)
    simpa using line

/-- The comment that typings begin with. -/
def header (origin : String) : String := "/**\n * This file was generated from " ++ origin ++ ".xml\n */\n"

theorem header_lexes {origin : String} (starless : ∀ c ∈ origin.toList, c ≠ '*') (later : Lexes rest tokens) :
    Lexes ((header origin).toList ++ rest) tokens := by
  unfold header
  unfold Lexes at later ⊢
  simp [lexPlain, inWord, finished, lexSlash, lexComment, lexComment_starless starless, Text.isBlank, later]

end Printed

/-- Printed declarations are read as they are. -/
theorem read_printed {origin : String} (starless : ∀ c ∈ origin.toList, c ≠ '*') {declarations : List Declaration}
    (spelled : ∀ d ∈ declarations, d.Spelled) (filled : ∀ d ∈ declarations, d.Filled) :
    read (header origin ++ String.join (declarations.map Declaration.text)) = some declarations := by
  have tokens := header_lexes starless (declarations_lex spelled)
  rw [← String.toList_append] at tokens
  unfold Lexes at tokens
  have enough := length_printed Declaration.tokens_filled declarations
  rw [Typings.read, tokens]
  exact readDeclarations_tokens declarations filled enough

end WidgetRepair.Typings