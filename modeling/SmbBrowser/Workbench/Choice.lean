import SmbBrowser.Cursor
import SmbBrowser.Resource

/-! Choices of names and of resources that can be written down, those that fail included. -/

namespace SmbBrowser

/-- One text occurs inside another. -/
def occursIn (part : List Char) : List Char → Bool
  | [] => part.isEmpty
  | c :: rest => part.isPrefixOf (c :: rest) || occursIn part rest

/-- How a name is compared with a given text. -/
inductive Comparison where
  | startsWith
  | endsWith
  | contains
  | equals
  /-- Every name will do. -/
  | anything
  deriving DecidableEq

/-- The outcome of a comparison. -/
def Comparison.holds (comparison : Comparison) (value name : String) : Bool :=
  match comparison with
  | .startsWith => value.toList.isPrefixOf name.toList
  | .endsWith => value.toList.isSuffixOf name.toList
  | .contains => occursIn value.toList name.toList
  | .equals => name = value
  | .anything => true

/-- A choice of names. -/
structure NameChoice where
  /-- How a name is compared. -/
  comparison : Comparison := .anything
  /-- What it is compared with. -/
  value : String := ""
  /-- The names that fail the comparison are wanted, and no others. -/
  negated : Bool := false
  /-- The names at which the choice itself fails. -/
  failsOn : List String := []

/-- Whether a name is wanted. -/
def NameChoice.wants (choice : NameChoice) : NameFilter := fun name =>
  if choice.failsOn.contains name then .error (.invalid ("filter failed on " ++ name))
  else .ok (choice.comparison.holds choice.value name != choice.negated)

/-- A choice of resources. -/
inductive ResourceChoice where
  /-- By the name of the entry. -/
  | byName (choice : NameChoice)
  /-- By the address. -/
  | byUrl (choice : NameChoice)
  /-- By the title of the entry's kind. -/
  | byKind (choice : NameChoice)
  /-- Those that are hidden, or those that are not. -/
  | hidden (negated : Bool)
  /-- Those that can be listed, or those that cannot. -/
  | container (negated : Bool)

/-- Whether a resource is wanted. -/
def ResourceChoice.wants (choice : ResourceChoice) (resource : Resource) : Except Fault Bool :=
  match choice with
  | .byName choice => choice.wants resource.entry.name
  | .byUrl choice => choice.wants resource.locator.url
  | .byKind choice => choice.wants resource.entry.kind.title
  | .hidden negated => .ok (resource.entry.isHidden != negated)
  | .container negated => .ok (resource.isContainer != negated)

end SmbBrowser
