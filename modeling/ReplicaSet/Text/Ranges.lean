/-!
Classes of characters given as tables of code point ranges.
-/
namespace ReplicaSet.Text

/-- A class of characters: inclusive ranges of code points. -/
abbrev Ranges := List (Nat × Nat)

/-- Whether the character lies in one of the ranges. -/
def Ranges.holds (table : Ranges) (c : Char) : Bool :=
  table.any fun range => range.1 ≤ c.toNat && c.toNat ≤ range.2

end ReplicaSet.Text
