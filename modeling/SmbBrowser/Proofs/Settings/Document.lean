import Mathlib.Data.List.TakeWhile
import SmbBrowser.Proofs.Json.Text
import SmbBrowser.Settings.Document

/-!
Settings documents are read back as they were written: the text falls into its lines, every line
into a name and a word, and the word stands for one value.
-/

namespace SmbBrowser.Settings.Document

/-- A line ends at the first line feed, unless there is one in it or something like it. -/
theorem lines_append {line : List Char} (whole : ∀ c ∈ line, c ≠ '\r' ∧ c ≠ '\n')
    (rest : List Char) : lines (line ++ '\n' :: rest) = line :: lines rest := by
  -- The splitter looks two characters ahead for a carriage return, hence both conditions.
  induction line with
  | nil => rfl
  | cons c line ih =>
    obtain ⟨noReturn, noFeed⟩ := whole c List.mem_cons_self
    have behind := ih fun other listed => whole other (List.mem_cons_of_mem c listed)
    rw [List.cons_append, lines, behind]
    · exact fun _ isReturn _ => noReturn isReturn
    · exact noFeed

/-! A number is read back from its digits. -/

/-- Whatever is no digit is not among the digits of a number. -/
theorem ne_of_mem_toDigits {value : Nat} {c other : Char} (listed : c ∈ Nat.toDigits 10 value)
    (noDigit : other.isDigit = false) : c ≠ other := by
  -- If they were the same, the other would be a digit.
  intro same
  have isDigit : c.isDigit = true := Nat.isDigit_of_mem_toDigits (by decide) (by decide) listed
  rw [same, noDigit] at isDigit
  exact Bool.false_ne_true isDigit

/-- A decimal digit has its value among the hexadecimal ones too. -/
theorem hexDigit?_of_isDigit {c : Char} (isDigit : c.isDigit = true) :
    Text.hexDigit? c = some (c.toNat - '0'.toNat) ∧ c.toNat - '0'.toNat < 10 := by
  -- The reader asks by order where the library asks by code point.
  have between : '0' ≤ c ∧ c ≤ '9' := by
    simpa [Char.isDigit, Char.le_def, UInt32.le_iff_toNat_le] using isDigit
  have bound : c.toNat ≤ 57 := by
    simpa [Char.le_def, UInt32.le_iff_toNat_le] using between.2
  have zero : '0'.toNat = 48 := rfl
  rw [Text.hexDigit?, if_pos between]
  exact ⟨rfl, by omega⟩

/-- Digits without underscores between them are read as they are. -/
theorem digits?_eq {isDigit : Char → Bool} (underscore : isDigit '_' = false)
    {numeral : List Char} (filled : numeral ≠ []) (all : ∀ c ∈ numeral, isDigit c = true) :
    digits? isDigit numeral = some numeral := by
  induction numeral with
  | nil => exact absurd rfl filled
  | cons c numeral ih =>
    have first : isDigit c = true := all c List.mem_cons_self
    cases numeral with
    | nil => rw [digits?, if_pos first]
    | cons next numeral =>
      have second : isDigit next = true := all next (by simp)
      have behind := ih (by simp) fun other listed => all other (List.mem_cons_of_mem c listed)
      rw [digits?, if_pos first, behind]
      · rfl
      · exact List.cons_ne_nil next numeral
      · -- What stands behind a digit is a digit, and no underscore.
        intro rest same
        obtain ⟨rfl, _⟩ := List.cons_eq_cons.mp same
        rw [underscore] at second
        exact Bool.false_ne_true second

/-- The digits add up to what they spell. -/
theorem foldlM_hexDigit? {numeral : List Char} (all : ∀ c ∈ numeral, c.isDigit = true)
    (front : Nat) :
    numeral.foldlM (fun value c => (Text.hexDigit? c).map (10 * value + ·)) front =
      some (Nat.ofDigitChars 10 numeral front) := by
  -- What stands in front grows with each digit, so it is left open.
  induction numeral generalizing front with
  | nil => rfl
  | cons c numeral ih =>
    obtain ⟨first, _⟩ := hexDigit?_of_isDigit (all c List.mem_cons_self)
    have behind := ih fun other listed => all other (List.mem_cons_of_mem c listed)
    rw [List.foldlM_cons, first]
    exact behind _

/-- A number is read back from its decimal digits. -/
theorem radixValue?_toDigits (value : Nat) :
    radixValue? 10 (Nat.toDigits 10 value) = some value := by
  have isDigit : ∀ c ∈ Nat.toDigits 10 value, c.isDigit = true :=
    fun c listed => Nat.isDigit_of_mem_toDigits (by decide) (by decide) listed
  -- The reader takes a digit of any radix first and compares it with the radix after.
  have below : ∀ c ∈ Nat.toDigits 10 value, (Text.hexDigit? c).any (· < 10) = true := by
    intro c listed
    obtain ⟨known, small⟩ := hexDigit?_of_isDigit (isDigit c listed)
    rw [known, Option.any_some]
    exact decide_eq_true small
  rw [radixValue?, digits?_eq (by decide) Nat.toDigits_ne_nil below]
  exact (foldlM_hexDigit? isDigit 0).trans (congrArg some Nat.ofDigitChars_ten_toDigits)

/-- A number is written without a zero in front. -/
theorem decimalValue?_toDigits (value : Nat) :
    decimalValue? (Nat.toDigits 10 value) = some value := by
  have read := radixValue?_toDigits value
  unfold decimalValue?
  split
  · rename_i zero
    -- Only zero begins with a zero, and then nothing follows it.
    have alone := Json.toDigits_zero_head zero
    simp at alone
  · exact read

/-- A number is written without a sign and without the mark of a base. -/
theorem integer?_toDigits (value : Nat) :
    integer? (Nat.toDigits 10 value) = some (value : Int) := by
  have read := decimalValue?_toDigits value
  have others {c : Char} (noDigit : c.isDigit = false) : c ∉ Nat.toDigits 10 value :=
    fun listed => ne_of_mem_toDigits listed noDigit rfl
  unfold integer?
  -- Any other way to spell a number has a character that is no digit.
  split <;> rename_i spelled
  · exact absurd (by simp [spelled]) (others (c := 'x') rfl)
  · exact absurd (by simp [spelled]) (others (c := 'o') rfl)
  · exact absurd (by simp [spelled]) (others (c := 'b') rfl)
  · exact absurd (by simp [spelled]) (others (c := '-') rfl)
  · exact absurd (by simp [spelled]) (others (c := '+') rfl)
  · rw [read]
    rfl

/-- A number that fits into a document is read back. -/
theorem value?_toDigits {value : Nat} (fits : value ≤ maxInteger) :
    value? (Nat.toDigits 10 value) = some (.integer value) := by
  -- Truth values are tried first; they begin with letters, and a number does not.
  have noLetters {word : List Char} {c : Char} (front : word.head? = some c)
      (letter : c.isDigit = false) : Nat.toDigits 10 value ≠ word := by
    intro same
    have listed : c ∈ Nat.toDigits 10 value := by
      rw [same]
      exact List.mem_of_mem_head? front
    exact ne_of_mem_toDigits listed letter rfl
  have ranges : inRange (value : Int) = true := by
    have within : (value : Int) ≤ maxInteger := Int.ofNat_le.mpr fits
    have signed : -(maxInteger : Int) - 1 ≤ value := by omega
    simp [inRange, within, signed]
  rw [value?, if_neg (noLetters (c := 't') rfl rfl), if_neg (noLetters (c := 'f') rfl rfl),
    integer?_toDigits, Option.bind_some, if_pos ranges]

/-- So is a truth value. -/
theorem value?_boolean (isTrue : Bool) :
    value? (if isTrue then "true" else "false").toList = some (.boolean isTrue) := by
  -- Both words are tried before anything else.
  cases isTrue <;> rfl

/-- Whatever does not belong into a bare name is not in one. -/
theorem ne_of_isBare {c d : Char} (bare : isBare c = true) (other : isBare d = false) : c ≠ d := by
  -- The two differ in what they may be part of.
  intro same
  rw [same, other] at bare
  exact Bool.false_ne_true bare

/-- A row of a document: a name without quotes, and a word that stands for a value. -/
structure Row where
  name : String
  word : String
  value : Value
  named : name.toList ≠ []
  bare : ∀ c ∈ name.toList, isBare c = true
  solid : ∀ c ∈ word.toList, isWord c = true ∧ c ≠ '\r' ∧ c ≠ '\n'
  means : value? word.toList = some value

namespace Row

/-- The row that assigns a number to a name. -/
def ofNat (name : String) (named : name.toList ≠ []) (bare : name.toList.all isBare = true)
    (value : Nat) (fits : value ≤ maxInteger) : Row where
  name
  word := toString value
  value := .integer value
  named
  bare := List.all_eq_true.mp bare
  solid c listed := by
    rw [Nat.toString_eq_repr, Nat.toList_repr] at listed
    have other {d : Char} (noDigit : d.isDigit = false) : c ≠ d := ne_of_mem_toDigits listed noDigit
    have isWord : isWord c = true := by
      simp [Document.isWord, isSpace, other (d := ' ') rfl, other (d := '\t') rfl,
        other (d := '#') rfl]
    exact ⟨isWord, other rfl, other rfl⟩
  means := by
    rw [Nat.toString_eq_repr, Nat.toList_repr]
    exact value?_toDigits fits

/-- The row that assigns a truth value to a name. -/
def ofBool (name : String) (named : name.toList ≠ []) (bare : name.toList.all isBare = true)
    (value : Bool) : Row where
  name
  word := if value then "true" else "false"
  value := .boolean value
  named
  bare := List.all_eq_true.mp bare
  solid := by cases value <;> simp [isWord, isSpace]
  means := value?_boolean value

variable (row : Row)

/-- The characters of a row up to the end of its line. -/
def line : List Char := row.name.toList ++ ' ' :: '=' :: ' ' :: row.word.toList

/-- The row as it is written. -/
def text : String := renderLine row.name row.word

/-- A row is written as its line with the line feed behind. -/
theorem toList_text : row.text.toList = row.line ++ ['\n'] := by
  -- The renderer puts the pieces together in this order.
  simp [text, renderLine, line]

/-- A row is one line. -/
theorem line_whole : ∀ c ∈ row.line, c ≠ '\r' ∧ c ≠ '\n' := by
  intro c listed
  simp only [line, List.mem_append, List.mem_cons] at listed
  -- Name and word exclude line ends by themselves; the three characters between are looked at.
  rcases listed with inName | rfl | rfl | rfl | inWord
  · exact ⟨ne_of_isBare (row.bare c inName) rfl, ne_of_isBare (row.bare c inName) rfl⟩
  · decide
  · decide
  · decide
  · exact (row.solid c inWord).2

/-- A row begins with a character of its name. -/
theorem front : ∃ c rest, row.line = c :: rest ∧ isBare c = true := by
  -- A row has a name, so there is a first character.
  cases chars : row.name.toList with
  | nil => exact absurd chars row.named
  | cons c name =>
    have bare : isBare c = true := row.bare c (by rw [chars]; exact List.mem_cons_self)
    exact ⟨c, _, by rw [line, chars, List.cons_append], bare⟩

/-- The name of a row is read up to the space behind it. -/
theorem name?_line :
    name? row.line = some (row.name.toList, ' ' :: '=' :: ' ' :: row.word.toList) := by
  obtain ⟨c, rest, begins, bare⟩ := row.front
  have taken : row.line.takeWhile isBare = row.name.toList := by
    rw [line, List.takeWhile_append_of_pos row.bare, List.takeWhile_cons_of_neg (by decide),
      List.append_nil]
  have left : row.line.dropWhile isBare = ' ' :: '=' :: ' ' :: row.word.toList := by
    rw [line, List.dropWhile_append_of_pos row.bare, List.dropWhile_cons_of_neg (by decide)]
  unfold name?
  -- A name that is bare begins with neither quote.
  split
  · rename_i quoted
    rw [begins] at quoted
    exact absurd (List.cons_eq_cons.mp quoted).1 (ne_of_isBare bare rfl)
  · rename_i quoted
    rw [begins] at quoted
    exact absurd (List.cons_eq_cons.mp quoted).1 (ne_of_isBare bare rfl)
  · rw [taken, left]
    cases chars : row.name.toList with
    | nil => exact absurd chars row.named
    | cons c name => rfl

/-- The word of a row is all that stands behind the equals sign. -/
theorem word_alone : (skipSpace (' ' :: row.word.toList)).takeWhile isWord = row.word.toList ∧
    (skipSpace (' ' :: row.word.toList)).dropWhile isWord = [] := by
  -- Nothing in the word would end it.
  have solid : ∀ c ∈ row.word.toList, isWord c = true := fun c listed => (row.solid c listed).1
  -- The one space in front is skipped, and the word does not begin with another.
  have unspaced : skipSpace (' ' :: row.word.toList) = row.word.toList := by
    rw [skipSpace, List.dropWhile_cons_of_pos (by decide)]
    cases chars : row.word.toList with
    | nil => rfl
    | cons c word =>
      have first : isWord c = true := solid c (by rw [chars]; exact List.mem_cons_self)
      have noSpace : isSpace c = false := by
        simpa [isWord] using (Bool.and_eq_true_iff.mp first).1
      rw [List.dropWhile_cons_of_neg (by simp [noSpace])]
  rw [unspaced]
  exact ⟨List.takeWhile_eq_self_iff.mpr solid, List.dropWhile_eq_nil_iff.mpr solid⟩

/-- The line of a row assigns its value to its name. -/
theorem line?_line : line? row.line = some (some (row.name, row.value)) := by
  obtain ⟨c, rest, begins, bare⟩ := row.front
  have unspaced : skipSpace row.line = row.line := by
    have noSpace : isSpace c = false := by
      simp [isSpace, ne_of_isBare bare (d := ' ') rfl, ne_of_isBare bare (d := '\t') rfl]
    rw [skipSpace, begins, List.dropWhile_cons_of_neg (by simp [noSpace])]
  have busy : isIdle row.line = false := by
    rw [isIdle, unspaced, begins]
    -- A comment would begin with a number sign.
    split
    · rename_i nothing
      exact absurd nothing (List.cons_ne_nil c rest)
    · rename_i comment
      exact absurd (List.cons_eq_cons.mp comment).1 (ne_of_isBare bare rfl)
    · rfl
  have behind : skipSpace (' ' :: '=' :: ' ' :: row.word.toList) =
      '=' :: ' ' :: row.word.toList := rfl
  obtain ⟨taken, left⟩ := row.word_alone
  rw [line?, if_neg (by simp [busy]), unspaced, row.name?_line]
  simp only [Option.bind_eq_bind, Option.bind_some, behind, taken, left, row.means,
    String.ofList_toList]
  rfl

end Row

/-- The lines of some rows, one after the other, assign their values in their order. -/
theorem mapM_line?_rows (rows : List Row) :
    (lines (rows.flatMap fun row => row.line ++ ['\n'])).mapM line? =
      some (rows.map (fun row => some (row.name, row.value)) ++ [none]) := by
  induction rows with
  -- Behind the last line feed stands an empty line, which assigns nothing.
  | nil => rfl
  | cons row rows ih =>
    rw [List.flatMap_cons, List.append_assoc, List.singleton_append,
      lines_append row.line_whole, List.mapM_cons, row.line?_line, ih]
    rfl

/-- A document of rows assigns their values, and nothing else. -/
theorem assignments?_rows (rows : List Row) :
    assignments? (String.join (rows.map Row.text)) =
      some (rows.map fun row => (row.name, row.value)) := by
  have chars : (String.join (rows.map Row.text)).toList =
      rows.flatMap fun row => row.line ++ ['\n'] := by
    simp only [String.toList_join, List.flatMap_map, Row.toList_text]
  have read := mapM_line?_rows rows
  -- A name does not begin with a byte order mark.
  have unmarked : ∀ rest, (rows.flatMap fun row => row.line ++ ['\n']) ≠ '\uFEFF' :: rest := by
    intro rest marked
    cases rows with
    | nil => exact absurd marked (List.cons_ne_nil _ rest).symm
    | cons row rows =>
      obtain ⟨c, more, begins, bare⟩ := row.front
      rw [List.flatMap_cons, begins] at marked
      exact absurd (List.cons_eq_cons.mp marked).1 (ne_of_isBare bare rfl)
  unfold assignments?
  rw [chars]
  split
  · rename_i rest marked
    exact absurd marked (unmarked rest)
  · simp only [read, Option.bind_eq_bind, Option.bind_some]
    simp [List.filterMap_append, List.filterMap_map]

end SmbBrowser.Settings.Document
