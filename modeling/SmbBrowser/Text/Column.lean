/-! Text in columns of a least width. -/

namespace SmbBrowser.Text

/-- The spaces that a text lacks of a width. -/
def padding (width : Nat) (text : String) : String :=
  String.ofList (List.replicate (width - text.length) ' ')

/-- A text at the left of its column. -/
def alignLeft (width : Nat) (text : String) : String := text ++ padding width text

/-- A text at the right of its column. -/
def alignRight (width : Nat) (text : String) : String := padding width text ++ text

end SmbBrowser.Text
