import SmbBrowser.Text.Ranges

/-! White space at the two ends of a text. -/

namespace SmbBrowser.Text

/-- The characters with the white-space property. -/
def blanks : List (Nat × Nat) :=
  [(0x9, 0xd), (0x20, 0x20), (0x85, 0x85), (0xa0, 0xa0), (0x1680, 0x1680), (0x2000, 0x200a),
    (0x2028, 0x2029), (0x202f, 0x202f), (0x205f, 0x205f), (0x3000, 0x3000)]

/-- A blank is a character of white space in any script. -/
def isBlank (c : Char) : Bool := inRanges blanks c

/-- The list without the elements at its two ends that `drop` picks out. -/
def trimBoth {α : Type} (drop : α → Bool) (xs : List α) : List α :=
  -- Dropping from the back is dropping from the front of the reversed list.
  ((xs.dropWhile drop).reverse.dropWhile drop).reverse

/-- A text without the blanks at its two ends. -/
def trim (text : String) : String := String.ofList (trimBoth isBlank text.toList)

end SmbBrowser.Text
