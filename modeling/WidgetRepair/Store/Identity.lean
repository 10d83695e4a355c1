/-! Ids of patterns that are learned: the layout of random UUIDs, counted on from a random
start, so that the ids of one run differ. -/

namespace WidgetRepair.LearnedId

/-- What every id starts with. -/
def lead : String := "learned-"

/-- The last `size` hexadecimal digits of a number. -/
def digits : (size : Nat) → Nat → List Char
  | 0, _ => []
  | size + 1, n => digits size (n / 16) ++ [Nat.digitChar (n % 16)]

/-- The number of a random start. -/
def seedOf (bytes : List UInt8) : Nat := bytes.foldl (fun n b => 256 * n + b.toNat) 0

/-- The id that is `n` after a start. One digit tells the version of the layout, and two bits of
another its variant. -/
def text (seed n : Nat) : String :=
  let r := seed + n
  let group := fun size place => String.ofList (digits size (r / Nat.pow 16 place))
  lead ++ "-".intercalate [group 8 24, group 4 20, "4" ++ group 3 16,
    String.ofList [Nat.digitChar (8 + r / Nat.pow 16 15 % 4)] ++ group 3 12, group 12 0]

end WidgetRepair.LearnedId
