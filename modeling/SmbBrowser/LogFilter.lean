import SmbBrowser.Fault
import SmbBrowser.LogFilter.Field
import SmbBrowser.Text.Alphanumeric
import SmbBrowser.Text.Blank
import SmbBrowser.Text.Quoted

/-! Log filters: comma-separated directives that set a level for everything, a target or a span. -/

namespace SmbBrowser.LogFilter

/-- The directives used when none are given. -/
def defaultDirectives : String := "warn,smbwalk=info"

/-- The value of a row of digits, which a plus sign may precede. -/
def number? (word : List Char) : Option Nat :=
  let digits := match word with
    | '+' :: rest => rest
    | rest => rest
  if digits ≠ [] ∧ digits.all Char.isDigit then
    some (digits.foldl (fun value c => 10 * value + (c.toNat - '0'.toNat)) 0)
  else none

/-- A level is given by its name, in any case, or by its number. -/
def isLevel (word : List Char) : Bool :=
  match number? word with
  | some number => number ≤ 5
  | none =>
    let name := String.ofList (word.map Char.toLower)
    ["", "off", "error", "warn", "info", "debug", "trace"].contains name

/-- The characters behind the first `size` bytes of a text. -/
def dropBytes : Nat → List Char → List Char
  | 0, text => text
  | _, [] => []
  | size + 1, c :: rest => dropBytes (size + 1 - c.utf8Size) rest

/-- The characters in the first `size` bytes of a text. -/
def takeBytes : Nat → List Char → List Char
  | 0, _ => []
  | _, [] => []
  | size + 1, c :: rest => c :: takeBytes (size + 1 - c.utf8Size) rest

/-- How far the reading of a directive has come. -/
inductive Stage where
  /-- Nothing was read. -/
  | start
  /-- A level or a target is being read. -/
  | word
  /-- The name of a span is being read. -/
  | span
  /-- A field of a span is being read, from byte `first` on. -/
  | field (first : Nat)
  /-- The field of a span is behind. -/
  | fields
  /-- The target and the span are behind. -/
  | target
  /-- A level is being read, from byte `first` on. -/
  | level (first : Nat)
  deriving DecidableEq

/--
The stage after one more character, which stands at byte `position` of the trimmed directive.

Bytes count in the trimmed directive, while fields and levels are cut out of the directive itself.
-/
def Stage.next (directive : List Char) (position : Nat) (c : Char) : Stage → Option Stage
  | .start =>
    if c = '[' then some .span
    else if c = '-' || c = ':' || c = '_' || Text.isAlphanumeric c then some .word
    else none
  | .word =>
    if c = '=' then some (.level (position + 1))
    else if c = '[' then some .span
    else some .word
  | .span =>
    if c = ']' then some .target
    else if c = '\x7b' then some (.field (position + 1))
    else some .span
  | .field first =>
    if c = '\x7d' then
      if first < position && isField (takeBytes (position - first) (dropBytes first directive)) then
        some .fields
      else none
    else some (.field first)
  | .fields => if c = ']' then some .target else none
  | .target => if c = '=' then some (.level (position + 1)) else none
  | .level first => some (.level first)

/-- The stage behind the characters of a directive that follow byte `position`. -/
def Stage.run (directive : List Char) : Stage → Nat → List Char → Option Stage
  | stage, _, [] => some stage
  | stage, position, c :: rest =>
    match stage.next directive position c with
    | none => none
    | some stage => stage.run directive (position + c.utf8Size) rest

/-- A directive is complete behind a word, behind a target, or behind a level that is one. -/
def isDirective (directive : List Char) : Bool :=
  match Stage.run directive .start 0 (Text.trimBoth Text.isBlank directive) with
  | some .word => true
  | some .target => true
  | some (.level first) => isLevel (dropBytes first directive)
  | _ => false

/-- The pieces of a text between commas. -/
def pieces : List Char → List (List Char)
  | [] => [[]]
  | ',' :: rest => [] :: pieces rest
  | c :: rest =>
    match pieces rest with
    | [] => [[c]]
    | piece :: more => (c :: piece) :: more

/-- A filter is valid when each of its pieces is a directive or empty. -/
def isValid (filter : String) : Bool :=
  (pieces filter.toList).all fun piece => piece.isEmpty || isDirective piece

/-- The directives a filter stands for: an empty filter stands for the default. -/
def directives (filter : String) : String :=
  let trimmed := Text.trim filter
  if trimmed.isEmpty then defaultDirectives else trimmed

/-- A filter that can be installed, or why it cannot. -/
def check (filter : String) : Except Fault String :=
  let given := directives filter
  if isValid given then .ok given
  else .error (.invalid ("invalid log filter " ++ Text.quoted given))

/-- Installing a second filter fails, however good it is. -/
def installAgain (filter : String) : Except Fault Unit :=
  match check filter with
  | .error fault => .error fault
  | .ok _ => .error (.invalid "logging already initialized")

end SmbBrowser.LogFilter
