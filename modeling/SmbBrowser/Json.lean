/-! JSON values, with the order and the repetitions of an object's members kept. -/

namespace SmbBrowser

/--
A JSON value.

A text is none when it holds half of a surrogate pair: it is then well formed, but no string.
-/
inductive Json where
  | null
  | bool (value : Bool)
  /-- A whole number without sign, point or exponent. -/
  | natural (value : Nat)
  /-- Any other number, as it was written. -/
  | decimal (lexeme : String)
  | text (content : Option String)
  | array (items : List Json)
  | object (members : List (Option String × Json))
  deriving Inhabited

namespace Json

/-- A text that is a string. -/
def string (content : String) : Json := .text (some content)

/-- An object whose keys are strings. -/
def record (members : List (String × Json)) : Json :=
  .object (members.map fun (key, value) => (some key, value))

/-- Nothing is written as null. -/
def ofOption {α : Type} (encode : α → Json) : Option α → Json
  | none => .null
  | some value => encode value

/-- The string a value holds, if it holds one. -/
def string? : Json → Option String
  | .text content => content
  | _ => none

/-- The truth value a value holds, if it holds one. -/
def bool? : Json → Option Bool
  | .bool value => some value
  | _ => none

/-- The whole number below `bound` that a value holds, if it holds one. -/
def below? (bound : Nat) : Json → Option Nat
  | .natural value => if value < bound then some value else none
  | _ => none

/-- A byte. -/
def uint8? (json : Json) : Option UInt8 := (json.below? UInt8.size).map Nat.toUInt8

/-- A number of sixteen bits. -/
def uint16? (json : Json) : Option UInt16 := (json.below? UInt16.size).map Nat.toUInt16

/-- A number of thirty-two bits. -/
def uint32? (json : Json) : Option UInt32 := (json.below? UInt32.size).map Nat.toUInt32

/-- A number of sixty-four bits. -/
def uint64? (json : Json) : Option UInt64 := (json.below? UInt64.size).map Nat.toUInt64

/-- Null stands for nothing, any other value for itself. -/
def option? {α : Type} (decode : Json → Option α) : Json → Option (Option α)
  | .null => some none
  | json => (decode json).map some

/-- Every item of an array. -/
def list? {α : Type} (decode : Json → Option α) : Json → Option (List α)
  | .array items => items.mapM decode
  | _ => none

end Json

end SmbBrowser
