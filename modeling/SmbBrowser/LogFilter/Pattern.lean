/-! Patterns for the values of fields: what they are made of, and which of them can be used. -/

namespace SmbBrowser.LogFilter

/-- A character of a pattern. -/
structure PatternChar where
  char : Char
  /-- It is written as two hexadecimal digits. -/
  octet : Bool := false

/-- A set of characters between square brackets. -/
inductive CharSet where
  | empty
  | char (c : PatternChar)
  | range (first last : PatternChar)
  /-- A set of ASCII characters with a name. -/
  | named (negated : Bool)
  /-- The digits, the blanks or the characters of words. -/
  | kind (negated : Bool)
  | bracket (negated : Bool) (set : CharSet)
  | union (sets : List CharSet)
  /-- What two sets share, or what only one of them has. -/
  | combined (left right : CharSet)

/-- A pattern, from single characters up to choices. -/
inductive Pattern where
  | empty
  /-- Letters that switch modes for what follows. -/
  | modes (letters : List Char)
  | char (c : PatternChar)
  /-- Any character but a line feed. -/
  | dot
  /-- A place at the edge of a line, of the text or of a word. -/
  | edge (ofWord : Bool)
  | kind (negated : Bool)
  | charSet (negated : Bool) (set : CharSet)
  | repeated (pattern : Pattern)
  /-- A pattern between round brackets, with letters that switch modes inside. -/
  | group (letters : List Char) (pattern : Pattern)
  | row (parts : List Pattern)
  | choice (branches : List Pattern)

/-- Whether letters switch the mode of one letter on, or behind a dash off, if they name it at all. -/
def switched? (letter : Char) : Bool → List Char → Option Bool
  | _, [] => none
  | on, c :: letters =>
    if c = letter then some on else switched? letter (on && c ≠ '-') letters

/-- The modes that decide what a part of a pattern may be. -/
structure Modes where
  /-- Upper and lower case are the same. -/
  anyCase : Bool := false
  /-- Characters are those of every script, and not only ASCII. -/
  wide : Bool := true

/-- The modes behind letters that switch them. -/
def Modes.switch (modes : Modes) (letters : List Char) : Modes where
  anyCase := (switched? 'i' true letters).getD modes.anyCase
  wide := (switched? 'u' true letters).getD modes.wide

/-- Case is known of ASCII alone, and two hexadecimal digits alone cannot make a text beyond ASCII. -/
def PatternChar.isUsable (modes : Modes) (c : PatternChar) : Bool :=
  if modes.wide then !modes.anyCase else !c.octet || c.char.toNat < 0x80

/-- A set that is not wide holds ASCII alone. -/
def PatternChar.isMember (modes : Modes) (c : PatternChar) : Bool :=
  if modes.wide then !modes.anyCase else c.char.toNat < 0x80

namespace CharSet

/-- The union of sets; one set stands for itself. -/
def ofList : List CharSet → CharSet
  | [] => .empty
  | [set] => set
  | sets => .union sets

mutual
/-- How deep sets stand inside each other. -/
def depth : CharSet → Nat
  | .bracket _ set => set.depth + 1
  | .union sets => maxDepth sets + 1
  | .combined left right => max left.depth right.depth + 1
  | _ => 0

/-- The depth of the deepest set. -/
def maxDepth : List CharSet → Nat
  | [] => 0
  | set :: sets => max set.depth (maxDepth sets)
end

mutual
/-- A set can be used when its modes leave nothing in it to look up and nothing outside ASCII. -/
def isUsable (modes : Modes) : CharSet → Bool
  | .empty => true
  | .char c => c.isMember modes
  | .range first last => first.isMember modes && last.isMember modes
  | .named negated => if modes.wide then !modes.anyCase else !negated
  -- The kinds of every script are not known.
  | .kind negated => !modes.wide && !negated
  -- All but some characters of ASCII is more than ASCII.
  | .bracket negated set => (modes.wide || !negated) && set.isUsable modes
  | .union sets => areUsable modes sets
  | .combined left right => left.isUsable modes && right.isUsable modes

/-- Every set can be used. -/
def areUsable (modes : Modes) : List CharSet → Bool
  | [] => true
  | set :: sets => set.isUsable modes && areUsable modes sets
end

end CharSet

namespace Pattern

/-- Parts in a row; one part stands for itself. -/
def ofRow : List Pattern → Pattern
  | [] => .empty
  | [part] => part
  | parts => .row parts

/-- A pattern that matches something, if only a place, so that it can be repeated. -/
def isRepeatable : Pattern → Bool
  | .empty => false
  | .modes _ => false
  | _ => true

mutual
/-- How deep patterns and sets stand inside each other. -/
def depth : Pattern → Nat
  | .charSet _ set => set.depth + 1
  | .repeated pattern => pattern.depth + 1
  | .group _ pattern => pattern.depth + 1
  | .row parts => maxDepth parts + 1
  | .choice branches => maxDepth branches + 1
  | _ => 0

/-- The depth of the deepest pattern. -/
def maxDepth : List Pattern → Nat
  | [] => 0
  | pattern :: patterns => max pattern.depth (maxDepth patterns)
end

mutual
/-- The modes behind a pattern, if the pattern can be used in the modes in front of it. -/
def modesAfter (modes : Modes) : Pattern → Option Modes
  | .empty => some modes
  | .modes letters => some (modes.switch letters)
  | .char c => if c.isUsable modes then some modes else none
  | .dot => if modes.wide then some modes else none
  -- The edges of words are known in ASCII alone.
  | .edge ofWord => if ofWord && modes.wide then none else some modes
  | .kind negated => if CharSet.isUsable modes (.kind negated) then some modes else none
  | .charSet negated set => if CharSet.isUsable modes (.bracket negated set) then some modes else none
  | .repeated pattern => pattern.modesAfter modes
  -- What is switched inside a group ends with it.
  | .group letters pattern => (pattern.modesAfter (modes.switch letters)).map fun _ => modes
  | .row parts => modesAfterAll modes parts
  | .choice branches => modesAfterAll modes branches

/-- The modes behind patterns one after the other. -/
def modesAfterAll (modes : Modes) : List Pattern → Option Modes
  | [] => some modes
  | pattern :: patterns => (pattern.modesAfter modes).bind (modesAfterAll · patterns)
end

/-- How deep a pattern may be. -/
def depthLimit : Nat := 250

/-- A pattern can be used when it is not too deep and each part can be used in its modes. -/
def isUsable (pattern : Pattern) : Bool :=
  pattern.depth ≤ depthLimit && (pattern.modesAfter {}).isSome

end Pattern

end SmbBrowser.LogFilter
