import Mathlib.Tactic.IntervalCases
import SmbBrowser.Json.Reader
import SmbBrowser.Json.Writer

/-! Texts and numbers in JSON are read back as they were written, whatever stands behind them. -/

namespace SmbBrowser.Json

/-- The unit of a written text that stands for a character. -/
def unitOf (c : Char) : TextUnit :=
  if c.toNat < 0x20 ∧ c ∉ ['\x08', '\x0c', '\n', '\r', '\t'] then .code c.toNat else .char c

/-- A control character is written with four digits, which spell its code. -/
theorem hexQuad?_hex {code : Nat} (control : code < 0x20) :
    ∃ a b c d, (Text.hex 4 code).toList = [a, b, c, d] ∧ hexQuad? a b c d = some code := by
  -- There are thirty-two control characters.
  interval_cases code <;> exact ⟨_, _, _, _, rfl, rfl⟩

/-- Each character is read back as one unit. -/
theorem readUnits_escapeChar (c : Char) (rest : List Char) :
    readUnits (escapeChar c ++ rest) =
      (readUnits rest).map fun (units, rest) => (unitOf c :: units, rest) := by
  unfold escapeChar
  -- The characters that have an escape of their own are told by it.
  by_cases quote : c = '"'
  · subst quote; rfl
  by_cases backslash : c = '\\'
  · subst backslash; rfl
  by_cases backspace : c = '\x08'
  · subst backspace; rfl
  by_cases formFeed : c = '\x0c'
  · subst formFeed; rfl
  by_cases lineFeed : c = '\n'
  · subst lineFeed; rfl
  by_cases carriageReturn : c = '\r'
  · subst carriageReturn; rfl
  by_cases tab : c = '\t'
  · subst tab; rfl
  simp only [quote, backslash, backspace, formFeed, lineFeed, carriageReturn, tab, if_false]
  by_cases control : c.toNat < 0x20
  · -- Any other control character is told by its code.
    obtain ⟨a, b, d, e, digits, code⟩ := hexQuad?_hex control
    have unit : unitOf c = .code c.toNat := by
      simp [unitOf, control, backspace, formFeed, lineFeed, carriageReturn, tab]
    simp only [control, if_true, digits, unit, List.cons_append, List.nil_append]
    rw [readUnits, code]
  · -- Everything else stands for itself, and begins neither an escape nor the end.
    have unit : unitOf c = .char c := by simp [unitOf, control]
    simp only [control, if_false, unit, List.cons_append, List.nil_append]
    rw [readUnits, if_neg control]
    · exact quote
    · exact fun _ _ _ _ _ isEscape _ => backslash isEscape
    · exact fun _ _ isEscape _ => backslash isEscape

/-- A code that is no half of a surrogate pair stands for its character, whatever follows. -/
theorem joinUnits_code {code : Nat} (high : isHighSurrogate code = false)
    (low : isLowSurrogate code = false) (units : List TextUnit) :
    joinUnits (.code code :: units) = (joinUnits units).map (Char.ofNat code :: ·) := by
  -- The unit behind is only looked at if this code is half of a pair.
  rcases units with _ | ⟨c | next, units⟩
  · simp [joinUnits, high, low]
  · simp [joinUnits, high, low]
  · rw [joinUnits]
    simp only [high, low, Bool.false_eq_true, if_false]

/-- The unit of a character stands for it. -/
theorem joinUnits_unitOf (c : Char) (units : List TextUnit) :
    joinUnits (unitOf c :: units) = (joinUnits units).map (c :: ·) := by
  unfold unitOf
  split
  · -- The codes of control characters lie far below the surrogates.
    rename_i control
    have below := control.1
    rw [joinUnits_code]
    · rw [Char.ofNat_toNat]
    · simp only [isHighSurrogate, Bool.and_eq_false_iff, decide_eq_false_iff_not]
      omega
    · simp only [isLowSurrogate, Bool.and_eq_false_iff, decide_eq_false_iff_not]
      omega
  · rw [joinUnits]

/-- The characters of a text are read back up to its closing quote. -/
theorem readUnits_flatMap (chars rest : List Char) :
    readUnits (chars.flatMap escapeChar ++ '"' :: rest) = some (chars.map unitOf, rest) := by
  -- Each character is read back from what it was escaped to.
  induction chars with
  | nil => simp [readUnits]
  | cons c chars ih =>
    rw [List.flatMap_cons, List.append_assoc, readUnits_escapeChar, ih]
    rfl

/-- The units of written characters join to these characters. -/
theorem joinUnits_map (chars : List Char) : joinUnits (chars.map unitOf) = some chars := by
  -- None of the units is half of a pair.
  induction chars with
  | nil => rfl
  | cons c chars ih =>
    rw [List.map_cons, joinUnits_unitOf, ih]
    rfl

/-- A text is read back behind its opening quote. -/
theorem readText_escaped (content : String) (rest : List Char) :
    readText (content.toList.flatMap escapeChar ++ '"' :: rest) = some (some content, rest) := by
  -- The units are read, and then they are joined.
  simp [readText, readUnits_flatMap, joinUnits_map]

/-- What may stand behind a value: nothing, or what separates or ends the parts of a container. -/
def Follows (rest : List Char) : Prop := ∀ c ∈ rest.head?, c = ',' ∨ c = ']' ∨ c = '\x7d'

/-- Nothing may stand behind a value. -/
theorem follows_nil : Follows [] := by
  -- There is no character that would have to separate.
  simp [Follows]

/-- What begins with a separator may stand behind a value. -/
theorem follows_cons {c : Char} (separates : c = ',' ∨ c = ']' ∨ c = '\x7d') (rest : List Char) :
    Follows (c :: rest) := by
  -- Only the first character matters.
  simpa [Follows] using separates

/-- No digit separates values. -/
theorem isDigit_of_follows {rest : List Char} (follows : Follows rest) :
    ∀ c ∈ rest.head?, c.isDigit = false := by
  -- Each of the three separators is no digit.
  intro c front
  rcases follows c front with rfl | rfl | rfl <;> rfl

/-- A row of digits is read back if no digit stands behind it. -/
theorem readDigits_append {digits : List Char} (filled : digits ≠ [])
    (all : ∀ c ∈ digits, c.isDigit = true) (rest : List Char)
    (ends : ∀ c ∈ rest.head?, c.isDigit = false) :
    readDigits (digits ++ rest) = some (digits, rest) := by
  -- The row of digits goes no further than its end.
  have stops : rest.takeWhile Char.isDigit = [] ∧ rest.dropWhile Char.isDigit = rest := by
    cases rest with
    | nil => exact ⟨rfl, rfl⟩
    | cons c rest =>
      have isOther := ends c (by simp)
      simp [isOther]
  unfold readDigits
  rw [List.takeWhile_append_of_pos all, List.dropWhile_append_of_pos all, stops.1, stops.2,
    List.append_nil]
  cases digits with
  | nil => exact absurd rfl filled
  | cons c digits => rfl

/-- The digits of a number have its value. -/
theorem digitsValue_toDigits (value : Nat) : digitsValue (Nat.toDigits 10 value) = value :=
  -- Digits are written and valued in decimal.
  Nat.ofDigitChars_ten_toDigits

/-- The first digit of a number is no zero, unless it is the only one. -/
theorem toDigits_zero_head {value : Nat} {digits : List Char}
    (zero : Nat.toDigits 10 value = '0' :: digits) : digits = [] := by
  -- The induction takes the last digit off.
  induction value using Nat.strongRecOn generalizing digits with
  | ind value ih =>
    by_cases small : value < 10
    · rw [Nat.toDigits_of_lt_base small] at zero
      exact (List.cons_eq_cons.mp zero).2.symm
    · rw [Nat.toDigits_of_base_le (by omega) (by omega)] at zero
      have front := digitsValue_toDigits (value / 10)
      rcases fronts : Nat.toDigits 10 (value / 10) with _ | ⟨c, others⟩
      · exact absurd fronts Nat.toDigits_ne_nil
      · rw [fronts, List.cons_append] at zero
        obtain ⟨rfl, _⟩ := List.cons_eq_cons.mp zero
        -- A zero in front would be all that there is in front.
        rw [fronts, ih (value / 10) (by omega) fronts] at front
        have isZero : value / 10 = 0 := front.symm
        omega

/-- The whole part of a number is all of its digits. -/
theorem readWhole_toDigits (value : Nat) {rest : List Char} (follows : Follows rest) :
    readWhole (Nat.toDigits 10 value ++ rest) = some (Nat.toDigits 10 value, rest) := by
  have read := readDigits_append (Nat.toDigits_ne_nil (b := 10) (n := value))
    (fun c listed => Nat.isDigit_of_mem_toDigits (by decide) (by decide) listed) rest
    (isDigit_of_follows follows)
  rcases digits : Nat.toDigits 10 value with _ | ⟨c, others⟩
  · exact absurd digits Nat.toDigits_ne_nil
  · rw [digits] at read
    -- A zero in front stands alone, as it does in the digits of zero.
    by_cases zero : c = '0'
    · subst zero
      rw [toDigits_zero_head digits]
      rfl
    · rw [List.cons_append, readWhole]
      · exact read
      · exact fun _ isZero => zero (List.cons_eq_cons.mp isZero).1

/-- No point and no exponent separates values. -/
theorem readFraction_of_follows {rest : List Char} (follows : Follows rest) :
    readFraction rest = some (none, rest) := by
  -- A fraction would begin with a point.
  rcases rest with _ | ⟨c, rest⟩
  · rfl
  · rcases follows c rfl with rfl | rfl | rfl <;> rfl

/-- No exponent is read from what may stand behind a value. -/
theorem readExponent_of_follows {rest : List Char} (follows : Follows rest) :
    readExponent rest = some (none, rest) := by
  -- An exponent would begin with a letter.
  rcases rest with _ | ⟨c, rest⟩
  · rfl
  · rcases follows c rfl with rfl | rfl | rfl <;> rfl

/-- A number without a sign has the parts that its digits make. -/
theorem readNumeral_toDigits (value : Nat) {rest : List Char} (follows : Follows rest) :
    readNumeral (Nat.toDigits 10 value ++ rest) =
      some ({ negative := false, whole := Nat.toDigits 10 value, fraction := none, exponent := none },
        rest) := by
  have whole := readWhole_toDigits value follows
  rcases digits : Nat.toDigits 10 value with _ | ⟨c, others⟩
  · exact absurd digits Nat.toDigits_ne_nil
  · rw [digits, List.cons_append] at whole
    have isDigit : c.isDigit = true :=
      Nat.isDigit_of_mem_toDigits (by decide) (by decide) (digits ▸ List.mem_cons_self)
    unfold readNumeral
    simp only [List.cons_append]
    split
    · -- A minus sign is no digit.
      rename_i isMinus
      obtain ⟨rfl, _⟩ := List.cons_eq_cons.mp isMinus
      exact absurd isDigit (by decide)
    · simp only [whole, Option.bind_eq_bind, Option.bind_some, readFraction_of_follows follows,
        readExponent_of_follows follows]
      rfl

/-- A number of sixty-four bits is read back. -/
theorem readNumber_toDigits {value : Nat} (fits : value < UInt64.size) {rest : List Char}
    (follows : Follows rest) :
    readNumber (Nat.toDigits 10 value ++ rest) = some (.natural value, rest) := by
  -- The numeral has neither sign nor fraction nor exponent, and its value fits.
  simp only [readNumber, readNumeral_toDigits value follows, digitsValue_toDigits,
    Option.bind_eq_bind, Option.bind_some]
  rw [if_pos (by simp [Numeral.isNatural, fits])]
  rfl

end SmbBrowser.Json
