import SmbBrowser.LogFilter.Pattern
import SmbBrowser.Text.Alphanumeric
import SmbBrowser.Text.Blank
import SmbBrowser.Text.Hex

/-! Reading patterns: every reader takes a part from the front and returns what follows it. -/

namespace SmbBrowser.LogFilter.Pattern

/-- The rest from its first character that is neither blank nor inside a comment. -/
def skipComment (inside : Bool) : List Char → List Char
  | [] => []
  | c :: rest =>
    if inside then skipComment (c ≠ '\n') rest
    else if c = '#' then skipComment true rest
    else if Text.isBlank c then skipComment false rest
    else c :: rest

/-- The rest from its next part: in spaced mode, blanks and comments may stand in between. -/
def skip (spaced : Bool) (input : List Char) : List Char :=
  if spaced then skipComment false input else input

/-- The first character that is neither blank nor the first mark of a comment. -/
def peekPast (marked : Bool) : List Char → Option Char
  | [] => none
  | c :: rest =>
    if Text.isBlank c then peekPast marked rest
    else if c = '#' && !marked then peekPast true rest
    else some c

/-- The character that decides whether a dash stands for itself. -/
def peek (spaced : Bool) (input : List Char) : Option Char :=
  if spaced then peekPast false input else input.head?

/-- What a character or an escape stands for. -/
inductive Atom where
  | char (c : PatternChar)
  | kind (negated : Bool)
  | edge (ofWord : Bool)

/-- An atom as a part of a pattern. -/
def Atom.toPattern : Atom → Pattern
  | .char c => .char c
  | .kind negated => .kind negated
  | .edge ofWord => .edge ofWord

/-- An atom as a member of a set; a place cannot be one. -/
def Atom.toSet? : Atom → Option CharSet
  | .char c => some (.char c)
  | .kind negated => some (.kind negated)
  | .edge _ => none

/-- The value of as many hexadecimal digits as are wanted, on top of those already read. -/
def readHex (spaced : Bool) : Nat → Nat → List Char → Option (Nat × List Char)
  | 0, value, input => some (value, input)
  | wanted + 1, value, input =>
    match skip spaced input with
    | [] => none
    | c :: rest => (Text.hexDigit? c).bind fun digit => readHex spaced wanted (16 * value + digit) rest

/-- How many hexadecimal digits follow a letter behind a backslash. -/
def hexWidth? (c : Char) : Option Nat := [('x', 2), ('u', 4), ('U', 8)].lookup c

/-- The control character that a letter behind a backslash stands for. -/
def control? (c : Char) : Option Char :=
  [('a', '\x07'), ('f', '\x0c'), ('n', '\n'), ('r', '\r'), ('t', '\t'), ('v', '\x0b')].lookup c

/-- What one character behind a backslash stands for; most signs of ASCII stand for themselves. -/
def escaped? (c : Char) : Option Atom :=
  if c = 'd' || c = 's' || c = 'w' then some (.kind false)
  else if c = 'D' || c = 'S' || c = 'W' then some (.kind true)
  else if c = 'A' || c = 'z' then some (.edge false)
  else if c = 'b' || c = 'B' || c = '<' || c = '>' then some (.edge true)
  else if c.toNat < 0x80 && !c.isAlphanum then some (.char { char := c })
  else (control? c).map fun char => .char { char }

/-- An escape, behind its backslash. -/
def readEscape (spaced : Bool) : List Char → Option (Atom × List Char)
  | [] => none
  | c :: rest =>
    match hexWidth? c with
    | some width => do
      let (code, rest) ← readHex spaced width 0 rest
      let char ← Text.charOfCode? code
      return (.char { char, octet := c = 'x' }, rest)
    | none => (escaped? c).map (·, rest)

/-- The names of the named sets. -/
def setNames : List String :=
  ["alnum", "alpha", "ascii", "blank", "cntrl", "digit", "graph", "lower", "print", "punct", "space",
    "upper", "word", "xdigit"]

/-- A named set, behind its opening bracket: whether it is negated, and what follows. -/
def readNamed : List Char → Option (Bool × List Char)
  | ':' :: rest =>
    let (negated, rest) := match rest with
      | '^' :: rest => (true, rest)
      | rest => (false, rest)
    match rest.dropWhile (· ≠ ':') with
    | ':' :: ']' :: behind =>
      let name := String.ofList (rest.takeWhile (· ≠ ':'))
      if setNames.contains name then some (negated, behind) else none
    | _ => none
  | _ => none

/-- One character of a set, or what an escape stands for. -/
def readMember (spaced : Bool) : List Char → Option (Atom × List Char)
  | [] => none
  | '\\' :: rest => readEscape spaced rest
  | c :: rest => some (.char { char := c }, rest)

/-- A member of a set, or all characters from one to another. -/
def readRange (spaced : Bool) (input : List Char) : Option (CharSet × List Char) := do
  let (first, rest) ← readMember spaced input
  match skip spaced rest with
  | '-' :: behind =>
    let next := peek spaced behind
    -- A dash in front of the end or of another dash makes no range.
    if next = some ']' || next = some '-' then
      return (← first.toSet?, '-' :: behind)
    else
      match first, ← readMember spaced (skip spaced behind) with
      | .char first, (.char last, rest) =>
        if first.char ≤ last.char then some (.range first last, rest) else none
      | _, _ => none
  | rest => return (← first.toSet?, rest)

/-- The set that members make, combined with the set in front of them, if there is one. -/
def closeSet (left : Option CharSet) (members : List CharSet) : CharSet :=
  let right := CharSet.ofList members.reverse
  match left with
  | none => right
  | some left => .combined left right

/-- Whether a set is negated, behind its opening bracket. -/
def readNegation (spaced : Bool) (input : List Char) : Bool × List Char :=
  match skip spaced input with
  | '^' :: rest => (true, rest)
  | rest => (false, rest)

/-- The members of a set up to its closing bracket, behind those already read, the last one first. -/
def readSet (spaced : Bool) :
    Nat → Bool → Option CharSet → List CharSet → List Char → Option (CharSet × List Char)
  | 0, _, _, _, _ => none
  | budget + 1, opening, left, members, input =>
    match skip spaced input with
    | [] => none
    | ']' :: rest =>
      -- An empty set cannot be written: a bracket in front of all members is one itself.
      if opening && members.isEmpty then
        readSet spaced budget false left [.char { char := ']' }] rest
      else some (closeSet left members, rest)
    | '-' :: rest =>
      if opening then readSet spaced budget true left (.char { char := '-' } :: members) rest
      else
        match rest with
        | '-' :: rest => readSet spaced budget false (some (closeSet left members)) [] rest
        | _ => do
          let (member, rest) ← readRange spaced ('-' :: rest)
          readSet spaced budget false left (member :: members) rest
    | '&' :: '&' :: rest => readSet spaced budget false (some (closeSet left members)) [] rest
    | '~' :: '~' :: rest => readSet spaced budget false (some (closeSet left members)) [] rest
    | '[' :: rest =>
      match readNamed rest with
      | some (negated, rest) => readSet spaced budget false left (.named negated :: members) rest
      | none => do
        let (negated, rest) := readNegation spaced rest
        let (set, rest) ← readSet spaced budget true none [] rest
        readSet spaced budget false left (.bracket negated set :: members) rest
    | input => do
      let (member, rest) ← readRange spaced input
      readSet spaced budget false left (member :: members) rest

/-- What an opening round bracket begins. -/
inductive Opening where
  /-- Nothing: the brackets only switch modes. -/
  | modes (letters : List Char)
  | group (letters : List Char)
  | capture (name : List Char)

/-- Letters that switch modes: each once, with at most one dash, and something behind the dash. -/
def areModes (letters : List Char) : Bool :=
  letters.all ['i', 'm', 's', 'U', 'u', 'R', 'x', '-'].contains && decide letters.Nodup
    && letters.getLast? ≠ some '-'

/-- A name begins with a letter or an underscore; digits, points and square brackets may follow. -/
def isName : List Char → Bool
  | [] => false
  | c :: rest =>
    (c = '_' || Text.isAlphabetic c)
      && rest.all fun c => ['_', '.', '[', ']'].contains c || Text.isAlphanumeric c

/-- The name of a group, behind its opening angle. -/
def readName (input : List Char) : Option (Opening × List Char) :=
  let name := input.takeWhile (· ≠ '>')
  match input.dropWhile (· ≠ '>') with
  | [] => none
  | _ :: rest => if isName name then some (.capture name, rest) else none

/-- What stands behind an opening round bracket, in front of the pattern inside. -/
def readOpening (spaced : Bool) (input : List Char) : Option (Opening × List Char) :=
  match skip spaced input with
  | '?' :: 'P' :: '<' :: rest => readName rest
  | '?' :: '<' :: rest => readName rest
  | '?' :: rest =>
    let isLetter := fun c => c ≠ ':' && c ≠ ')'
    let letters := rest.takeWhile isLetter
    if areModes letters then
      match rest.dropWhile isLetter with
      | ':' :: rest => some (.group letters, rest)
      | ')' :: rest => if letters.isEmpty then none else some (.modes letters, rest)
      | _ => none
    else none
  | rest => some (.group [], rest)

/-- The pattern that branches make, where the last one is still given by its parts, the last one first. -/
def closeBranches (branches parts : List Pattern) : Pattern :=
  let last := ofRow parts.reverse
  if branches.isEmpty then last else .choice (last :: branches).reverse

/--
A pattern up to its end or to a closing round bracket, behind the branches and parts already read.

No two groups may have the same name, so the names go along.
-/
def readParts : Nat → Bool → List (List Char) → List Pattern → List Pattern → List Char →
    Option (Pattern × List (List Char) × List Char)
  | 0, _, _, _, _, _ => none
  | budget + 1, spaced, names, branches, parts, input =>
    match skip spaced input with
    | [] => some (closeBranches branches parts, names, [])
    | ')' :: rest => some (closeBranches branches parts, names, ')' :: rest)
    | '|' :: rest => readParts budget spaced names (ofRow parts.reverse :: branches) [] rest
    | '(' :: rest => do
      let (opening, rest) ← readOpening spaced rest
      let spacedBy := fun letters => (switched? 'x' true letters).getD spaced
      match opening with
      | .modes letters =>
        readParts budget (spacedBy letters) names branches (.modes letters :: parts) rest
      | .group letters =>
        let (inner, names, rest) ← readParts budget (spacedBy letters) names [] [] rest
        match rest with
        | [] => none
        | _ :: rest => readParts budget spaced names branches (.group letters inner :: parts) rest
      | .capture name =>
        if names.contains name then none
        else
          let (inner, names, rest) ← readParts budget spaced (name :: names) [] [] rest
          match rest with
          | [] => none
          | _ :: rest => readParts budget spaced names branches (.group [] inner :: parts) rest
    | '[' :: rest => do
      let (negated, rest) := readNegation spaced rest
      let (set, rest) ← readSet spaced rest.length true none [] rest
      readParts budget spaced names branches (.charSet negated set :: parts) rest
    -- A count would need a closing brace, which ends the field.
    | '\x7b' :: _ => none
    | '\\' :: rest => do
      let (atom, rest) ← readEscape spaced rest
      readParts budget spaced names branches (atom.toPattern :: parts) rest
    | '.' :: rest => readParts budget spaced names branches (.dot :: parts) rest
    | c :: rest =>
      if c = '^' || c = '$' then
        readParts budget spaced names branches (.edge false :: parts) rest
      else if c = '?' || c = '*' || c = '+' then
        match parts with
        | [] => none
        | part :: parts =>
          if part.isRepeatable then
            readParts budget spaced names branches (.repeated part :: parts)
              -- A question mark behind the sign asks for few repetitions.
              (if rest.head? = some '?' then rest.tail else rest)
          else none
      else readParts budget spaced names branches (.char { char := c } :: parts) rest

/-- The pattern that a text spells. -/
def parse? (input : List Char) : Option Pattern :=
  -- Every step takes a character, so the length bounds their number.
  match readParts (input.length + 1) false [] [] [] input with
  | some (pattern, _, []) => some pattern
  | _ => none

end SmbBrowser.LogFilter.Pattern
