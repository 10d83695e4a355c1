/-! TOML values, and how a table grows while a document is read. What a later line may add to a
table depends on how the table came about. -/

namespace WidgetRepair.Toml

/-- How a table came about. -/
inductive Standing where
  /-- Written in braces: nothing is added later. -/
  | inline
  /-- By a heading of its own, or as the root. -/
  | headed
  /-- By a heading further inside. -/
  | implied
  /-- By a key with dots. -/
  | dotted
  deriving DecidableEq, Repr

inductive Value where
  | text (s : String)
  | flag (b : Bool)
  | whole (n : Int)
  | real (x : Float)
  | moment
  | list (items : List Value)
  | table (standing : Standing) (entries : List (String × Value))
  /-- The tables under headings in double brackets, the last one first. -/
  | tables (items : List (List (String × Value)))

instance : Inhabited Value := ⟨.moment⟩

structure Table where
  standing : Standing
  entries : List (String × Value)

namespace Table

def get? (t : Table) (key : String) : Option Value := (t.entries.find? (·.1 == key)).map (·.2)

/-- The table with `v` under `key`, in place of what was there. -/
def set (t : Table) (key : String) (v : Value) : Table :=
  { t with entries := (key, v) :: t.entries.filter (·.1 != key) }

/-- Going down a path and changing the table at its end. Tables that are missing on the way are
made. A path of dotted keys passes through no table that has a heading of its own. -/
def change (byDots : Bool) (edit : Table → Option Table) : List String → Table → Option Table
  | [], t => edit t
  | key :: path, t =>
    match t.get? key with
    | none => do
      let inner ← change byDots edit path ⟨if byDots then .dotted else .implied, []⟩
      return t.set key (.table inner.standing inner.entries)
    | some (.table standing entries) =>
      if standing == .inline || (byDots && standing == .headed) then none
      else do
        let inner ← change byDots edit path ⟨standing, entries⟩
        return t.set key (.table inner.standing inner.entries)
    | some (.tables (last :: earlier)) => do
      let inner ← change byDots edit path ⟨.headed, last⟩
      return t.set key (.tables (inner.entries :: earlier))
    | some _ => none

/-- A new key with its value, below the tables that the dots before it name. Dots only reach
tables that dots have made. -/
def put (path : List String) (key : String) (v : Value) : Table → Option Table :=
  change true (fun t =>
    if (t.standing == .dotted) == path.isEmpty || (t.get? key).isSome then none
    else some (t.set key v)) path

/-- The table of a heading. A table that headings further inside made before gets its own now. -/
def head (path : List String) (key : String) : Table → Option Table :=
  change false (fun t =>
    match t.get? key with
    | none => some (t.set key (.table .headed []))
    | some (.table .implied entries) => some (t.set key (.table .headed entries))
    | some _ => none) path

/-- One more table under a heading in double brackets. -/
def append (path : List String) (key : String) : Table → Option Table :=
  change false (fun t =>
    match t.get? key with
    | none => some (t.set key (.tables [[]]))
    | some (.tables items) => some (t.set key (.tables ([] :: items)))
    | some _ => none) path

end Table

end WidgetRepair.Toml
