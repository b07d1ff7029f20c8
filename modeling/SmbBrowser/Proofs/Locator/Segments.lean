import SmbBrowser.Locator.Target

/-! Cutting a text at its slashes undoes joining names with slashes. -/

namespace SmbBrowser

/-- Trimming takes away just what is dropped at the back, if both ends of the rest are kept. -/
theorem Text.trimBoth_append {α : Type} {drop : α → Bool} {kept tail : List α} (filled : kept ≠ [])
    (front : ∀ x ∈ kept.head?, drop x = false) (back : ∀ x ∈ kept.getLast?, drop x = false)
    (dropped : ∀ x ∈ tail, drop x = true) : trimBoth drop (kept ++ tail) = kept := by
  -- The front is kept, so nothing goes there.
  have fromFront : (kept ++ tail).dropWhile drop = kept ++ tail := by
    cases kept with
    | nil => exact absurd rfl filled
    | cons x rest => simp [front x (by simp)]
  -- From behind the tail goes, and stops at what is kept.
  have fromBack : (tail.reverse ++ kept.reverse).dropWhile drop = kept.reverse := by
    rw [List.dropWhile_append_of_pos (by simpa using dropped)]
    rcases List.eq_nil_or_concat kept with rfl | ⟨rest, x, rfl⟩
    · exact absurd rfl filled
    · simp [back x (by simp)]
  rw [trimBoth, fromFront, List.reverse_append, fromBack, List.reverse_reverse]

namespace Locator

/-- What an address can hold between two slashes. -/
structure IsName (name : List Char) : Prop where
  /-- There is something between the slashes. -/
  nonempty : name ≠ []
  /-- No slash parts it. -/
  noSlash : '/' ∉ name

/-- A text has a segment even if it is empty. -/
theorem segments_ne_nil (text : List Char) : segments text ≠ [] := by
  -- Even an empty text is cut into one segment.
  fun_cases segments text <;> simp_all

/-- A slash ends one segment and starts the next. -/
theorem segments_append_slash (front back : List Char) :
    segments (front ++ '/' :: back) = segments front ++ segments back := by
  -- The induction is on the cutting of the text before the slash.
  fun_induction segments front with
  | case1 => simp [segments]
  | case2 rest ih => simp [segments, ih]
  | case3 c rest notSlash empty ih => exact absurd empty (segments_ne_nil rest)
  | case4 c rest notSlash segment more found ih =>
    rw [List.cons_append, segments.eq_3 _ _ notSlash, ih, found]
    rfl

/-- A text without a slash is one segment. -/
theorem segments_of_noSlash {text : List Char} (noSlash : '/' ∉ text) : segments text = [text] := by
  -- Without a slash each character only lengthens the one segment.
  fun_induction segments text with
  | case1 => rfl
  | case2 rest ih => simp at noSlash
  | case3 c rest notSlash empty ih => exact absurd empty (segments_ne_nil rest)
  | case4 c rest notSlash segment more found ih =>
    have := found.symm.trans (ih (by simp_all))
    simp_all

/-- No segment holds a slash. -/
theorem noSlash_of_mem_segments {text segment : List Char} (cut : segment ∈ segments text) :
    '/' ∉ segment := by
  -- A slash begins a new segment, and any other character goes to the first.
  fun_induction segments text generalizing segment with
  | case1 => simp_all
  | case2 rest ih =>
    rcases List.mem_cons.mp cut with rfl | later
    · simp
    · exact ih later
  | case3 c rest notSlash empty ih => exact absurd empty (segments_ne_nil rest)
  | case4 c rest notSlash first more found ih =>
    rcases List.mem_cons.mp cut with rfl | later
    · have listed : first ∈ segments rest := by simp [found]
      have := ih listed
      simpa [this] using fun slash => notSlash slash.symm
    · exact ih (by simp [found, later])

/-- The segments that count are names. -/
theorem isName_of_mem_filter {text name : List Char}
    (cut : name ∈ (segments text).filter (· ≠ [])) : IsName name := by
  -- What is left out are the empty segments.
  obtain ⟨cut, nonempty⟩ := List.mem_filter.mp cut
  exact ⟨by simpa using nonempty, noSlash_of_mem_segments cut⟩

/-- One more name goes behind one more slash. -/
theorem joinSegments_concat {names : List (List Char)} (filled : names ≠ []) (name : List Char) :
    joinSegments (names ++ [name]) = joinSegments names ++ '/' :: name := by
  -- The last name stays the last when one is put in front.
  fun_induction joinSegments names with
  | case1 => exact absurd rfl filled
  | case2 segment => rfl
  | case3 segment next more ih =>
    have later := ih (by simp)
    simp only [List.cons_append, joinSegments, List.append_assoc] at later ⊢
    rw [later]

/-- Cutting joined names gives the names back. -/
theorem segments_joinSegments {names : List (List Char)} (filled : names ≠ [])
    (clean : ∀ name ∈ names, IsName name) : segments (joinSegments names) = names := by
  -- The first name ends at the first slash, since it holds none.
  fun_induction joinSegments names with
  | case1 => exact absurd rfl filled
  | case2 segment => exact segments_of_noSlash (clean segment (by simp)).noSlash
  | case3 segment next more ih =>
    rw [segments_append_slash, segments_of_noSlash (clean segment (by simp)).noSlash,
      ih (by simp) fun name listed => clean name (by simp_all)]
    rfl

/-- Joined names start with the start of the first. -/
theorem joinSegments_front {names : List (List Char)} (clean : ∀ name ∈ names, IsName name) :
    ∀ c ∈ (joinSegments names).head?, c ≠ '/' := by
  -- The first character is that of the first name.
  cases names with
  | nil => simp [joinSegments]
  | cons name more =>
    have first := clean name (by simp)
    obtain ⟨c, rest, rfl⟩ := List.exists_cons_of_ne_nil first.nonempty
    have notSlash : c ≠ '/' := fun slash => first.noSlash (by simp [slash])
    cases more with
    | nil => simpa [joinSegments] using notSlash
    | cons next more => simpa [joinSegments] using notSlash

/-- Joined names end with the end of the last. -/
theorem joinSegments_back {names : List (List Char)} (clean : ∀ name ∈ names, IsName name) :
    ∀ c ∈ (joinSegments names).getLast?, c ≠ '/' := by
  rcases List.eq_nil_or_concat names with rfl | ⟨before, name, rfl⟩
  · simp [joinSegments]
  have last := clean name (by simp)
  -- A name is not empty, so that the text ends with its last character.
  have ends : (joinSegments (before ++ [name])).getLast? = name.getLast? := by
    rcases List.eq_nil_or_concat name with rfl | ⟨rest, c, rfl⟩
    · exact absurd rfl last.nonempty
    · by_cases filled : before = []
      · simp [filled, joinSegments]
      · simp [joinSegments_concat filled, List.getLast?_append, List.getLast?_cons]
  intro c listed
  rw [List.concat_eq_append, ends] at listed
  rintro rfl
  exact last.noSlash (List.mem_of_getLast? listed)

/-- Joined names are a text. -/
theorem joinSegments_ne_nil {names : List (List Char)} (filled : names ≠ [])
    (clean : ∀ name ∈ names, IsName name) : joinSegments names ≠ [] := by
  obtain ⟨name, more, rfl⟩ := List.exists_cons_of_ne_nil filled
  have := (clean name (by simp)).nonempty
  -- The first name alone is a text already.
  cases more <;> simp_all [joinSegments]

end Locator

end SmbBrowser
