/-! Sets of characters given as closed ranges of code points. -/

namespace SmbBrowser.Text

/-- A character belongs to a table when one of its ranges holds the character's code point. -/
def inRanges (table : List (Nat × Nat)) (c : Char) : Bool :=
  table.any fun (first, last) => first ≤ c.toNat && c.toNat ≤ last

end SmbBrowser.Text
