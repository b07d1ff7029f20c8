import SmbBrowser.Json
import SmbBrowser.Json.Numeral
import SmbBrowser.Json.Reader

/-! Records and variants in JSON: how fields are found, and which values a variant's name may take. -/

namespace SmbBrowser.Json

/-- The fields of a record, under the names that the record declares. -/
structure Fields where
  /-- Each name with its value, if there is one. -/
  values : List (String × Option Json)
  /-- The fields were given as a row, without names. -/
  positional : Bool

/-- The value under a key, if it has one; no key may come twice. -/
def member? (members : List (Option String × Json)) (name : String) : Option (Option Json) :=
  match members.filter (·.1 = some name) with
  | [] => some none
  | [(_, value)] => some (some value)
  | _ => none

/-- The fields of a record, from an object or from an array in the order of declaration. -/
def fields? (names : List String) : Json → Option Fields
  | .object members =>
    -- A key that is no string can be no name, so nothing tells whether it may be passed over.
    if members.all (·.1.isSome) then
      (names.mapM (member? members)).map fun values => ⟨names.zip values, false⟩
    else none
  | .array items =>
    if items.length ≤ names.length then
      let missing := List.replicate (names.length - items.length) none
      some ⟨names.zip (items.map some ++ missing), true⟩
    else none
  | _ => none

/-- An object may only have keys that the record declares. -/
def hasOnly (names : List String) : Json → Bool
  | .object members => members.all fun (key, _) => key.any names.contains
  | _ => true

namespace Fields

/-- A field that must be there. -/
def required {α : Type} (fields : Fields) (name : String) (decode : Json → Option α) : Option α :=
  match fields.values.lookup name with
  | some (some value) => decode value
  | _ => none

/-- A field that stands for `default` when it is missing. -/
def defaulted {α : Type} (fields : Fields) (name : String) (default : α)
    (decode : Json → Option α) : Option α :=
  match fields.values.lookup name with
  | some (some value) => decode value
  | _ => some default

/-- A field that may be missing or null; in a row it has its place. -/
def optional {α : Type} (fields : Fields) (name : String) (decode : Json → Option α) :
    Option (Option α) :=
  match fields.values.lookup name with
  | some (some value) => value.option? decode
  | _ => if fields.positional then none else some none

end Fields

mutual
/-- A value can be kept whole: its texts are strings, its numbers are finite, its depth is at most `levels`. -/
def isWhole (levels : Nat) : Json → Bool
  | .text content => content.isSome
  | .decimal lexeme => ((readNumeral lexeme.toList).map (·.1.isFinite)).getD false
  | .array items => 0 < levels && areWhole (levels - 1) items
  | .object members => 0 < levels && membersAreWhole (levels - 1) members
  | _ => true

/-- Every value of a row can be kept whole. -/
def areWhole (levels : Nat) : List Json → Bool
  | [] => true
  | item :: items => item.isWhole levels && areWhole levels items

/-- Every member can be kept whole. -/
def membersAreWhole (levels : Nat) : List (Option String × Json) → Bool
  | [] => true
  | (key, value) :: members =>
    key.isSome && value.isWhole levels && membersAreWhole levels members
end

/-- Whether a value has already been kept whole, or is read straight from its text. -/
inductive Mode where
  | direct
  | kept
  deriving DecidableEq

/-- The value a variant without content may carry: null, and once kept also an empty object. -/
def isNothing (mode : Mode) : Json → Bool
  | .null => true
  | .object [] => mode = .kept
  | _ => false

/-- A variant without content, given by its name or as the only key of an object. -/
def variant? {α : Type} (mode : Mode) (variants : List (String × α)) : Json → Option α
  | .text (some name) => variants.lookup name
  | .object [(some name, content)] =>
    if content.isNothing mode then variants.lookup name else none
  | _ => none

/-- The name and the content of a variant given as the only member of an object. -/
def single? : Json → Option (String × Json)
  | .object [(some name, content)] => some (name, content)
  | _ => none

/-- The kind that a tag names; once kept, a tag may also give the kind's position. -/
def tag? (mode : Mode) (kinds : List String) : Json → Option String
  | .text (some kind) => if kinds.contains kind then some kind else none
  | .natural position => if mode = .kept then kinds[position]? else none
  | _ => none

/-- The kind of a tagged value and what stands beside the tag. -/
def tagged? (mode : Mode) (kinds : List String) : Json → Option (String × Json)
  | .object members => do
    let tag ← ← member? members "kind"
    let kind ← tag.tag? mode kinds
    return (kind, .object (members.filter (·.1 ≠ some "kind")))
  | .array (tag :: rest) => do
    let kind ← tag.tag? mode kinds
    return (kind, .array rest)
  | _ => none

/-- What stands beside the tag of a variant without content. -/
def isBare : Json → Bool
  | .object _ => true
  | .array items => items.isEmpty
  | _ => false

end SmbBrowser.Json
