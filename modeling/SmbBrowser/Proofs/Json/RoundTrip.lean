import SmbBrowser.Proofs.Json.Text

/-!
JSON values are read back as they were written: a value whose texts are strings and whose numbers fit
sixty-four bits is what its own text spells.
-/

namespace SmbBrowser.Json

mutual
/-- How many containers stand inside each other in a value. -/
def depth : Json → Nat
  | .array items => itemsDepth items + 1
  | .object members => membersDepth members + 1
  | _ => 0

/-- How many containers stand inside each other in the values of a row. -/
def itemsDepth : List Json → Nat
  | [] => 0
  | item :: items => max item.depth (itemsDepth items)

/-- How many containers stand inside each other in the members of an object. -/
def membersDepth : List (Option String × Json) → Nat
  | [] => 0
  | (_, value) :: members => max value.depth (membersDepth members)
end

/-- A value that spells itself: its texts are strings, and its numbers fit sixty-four bits. -/
inductive Plain : Json → Prop where
  | null : Plain .null
  | bool (value : Bool) : Plain (.bool value)
  | natural {value : Nat} (fits : value < UInt64.size) : Plain (.natural value)
  | text (content : String) : Plain (.text (some content))
  | array {items : List Json} (each : ∀ item ∈ items, Plain item) : Plain (.array items)
  | object {members : List (Option String × Json)} (keys : ∀ member ∈ members, member.1.isSome)
    (each : ∀ member ∈ members, Plain member.2) : Plain (.object members)

/-- The items of a container one after the other, with commas between them. -/
def joined {α : Type} (write : α → List Char → List Char) : List α → List Char → List Char
  | [], rest => rest
  | [item], rest => write item rest
  | item :: next :: items, rest => write item (',' :: joined write (next :: items) rest)

/-- A member of an object is written as its key, a colon and its value. -/
def writeMember (member : Option String × Json) (rest : List Char) : List Char :=
  writeText member.1 (':' :: member.2.write rest)

/-- The items of a list are written one after the other, with commas between them. -/
theorem writeItems_eq (items : List Json) (rest : List Char) :
    writeItems items rest = joined write items rest := by
  -- Both recursions tell the last item from the others.
  fun_induction joined write items rest with
  | case1 => rfl
  | case2 => rfl
  | case3 item next items rest ih => rw [writeItems, ih]

/-- The members of an object are written one after the other, with commas between them. -/
theorem writeMembers_eq (members : List (Option String × Json)) (rest : List Char) :
    writeMembers members rest = joined writeMember members rest := by
  -- As with items: the last member is told from the others.
  fun_induction joined writeMember members rest with
  | case1 => rfl
  | case2 => rfl
  | case3 member next members rest ih => rw [writeMembers, ih]; rfl

/-- A value nests no deeper than a row that it is in. -/
theorem depth_le_itemsDepth {items : List Json} {item : Json} (listed : item ∈ items) :
    item.depth ≤ itemsDepth items := by
  -- The depth of a row is the greatest one in it.
  induction items with
  | nil => simp at listed
  | cons first items ih =>
    rw [itemsDepth]
    rcases List.mem_cons.mp listed with rfl | behind
    · exact Nat.le_max_left _ _
    · exact Nat.le_trans (ih behind) (Nat.le_max_right _ _)

/-- A value nests no deeper than the members that it is among. -/
theorem depth_le_membersDepth {members : List (Option String × Json)}
    {member : Option String × Json} (listed : member ∈ members) :
    member.2.depth ≤ membersDepth members := by
  -- The depth of the members is the greatest one among their values.
  induction members with
  | nil => simp at listed
  | cons first members ih =>
    rw [membersDepth]
    rcases List.mem_cons.mp listed with rfl | behind
    · exact Nat.le_max_left _ _
    · exact Nat.le_trans (ih behind) (Nat.le_max_right _ _)

/-- A row nests no deeper than the deepest of its values. -/
theorem itemsDepth_le {items : List Json} {bound : Nat}
    (each : ∀ item ∈ items, item.depth ≤ bound) : itemsDepth items ≤ bound := by
  -- A bound for each is a bound for the greatest.
  induction items with
  | nil => exact Nat.zero_le _
  | cons first items ih =>
    rw [itemsDepth]
    exact Nat.max_le.mpr ⟨each first List.mem_cons_self,
      ih fun item listed => each item (List.mem_cons_of_mem _ listed)⟩

/-- Members nest no deeper than the deepest of their values. -/
theorem membersDepth_le {members : List (Option String × Json)} {bound : Nat}
    (each : ∀ member ∈ members, member.2.depth ≤ bound) : membersDepth members ≤ bound := by
  -- A bound for each is a bound for the greatest.
  induction members with
  | nil => exact Nat.zero_le _
  | cons first members ih =>
    rw [membersDepth]
    exact Nat.max_le.mpr ⟨each first List.mem_cons_self,
      ih fun member listed => each member (List.mem_cons_of_mem _ listed)⟩

/-- The first character of an item tells that it is an item: no space, and no end of its container. -/
def Begins (close : Char) (input : List Char) : Prop :=
  ∃ c rest, input = c :: rest ∧ isSpace c = false ∧ c ≠ close

section Containers

variable {α : Type} {write : α → List Char → List Char} {item : List Char → Option (α × List Char)}
  {close : Char} {items : List α}

/-- Every item takes a character at least. -/
theorem length_joined (grows : ∀ value ∈ items, ∀ rest, rest.length < (write value rest).length)
    (rest : List Char) : items.length + rest.length ≤ (joined write items rest).length := by
  -- Each item grows the text, and each comma does so too.
  fun_induction joined write items rest with
  | case1 rest => simp
  | case2 value rest =>
    have := grows value List.mem_cons_self rest
    simp only [List.length_singleton]
    omega
  | case3 value next items rest ih =>
    have behind := ih fun value listed => grows value (List.mem_cons_of_mem _ listed)
    have := grows value List.mem_cons_self (',' :: joined write (next :: items) rest)
    simp only [List.length_cons] at this behind ⊢
    omega

/-- Whatever an item takes, all of them take. -/
theorem lt_length_joined {size : α → Nat}
    (grows : ∀ value ∈ items, ∀ rest, size value + rest.length < (write value rest).length)
    {value : α} (listed : value ∈ items) (rest : List Char) :
    size value + rest.length < (joined write items rest).length := by
  fun_induction joined write items rest with
  | case1 rest => simp at listed
  | case2 first rest =>
    obtain rfl := List.mem_singleton.mp listed
    exact grows value List.mem_cons_self rest
  | case3 first next items rest ih =>
    have long := length_joined
      (fun value (listed : value ∈ next :: items) rest => Nat.lt_of_le_of_lt (Nat.le_add_left _ _)
        (grows value (List.mem_cons_of_mem _ listed) rest)) rest
    have takes := grows first List.mem_cons_self (',' :: joined write (next :: items) rest)
    simp only [List.length_cons] at takes long
    -- The item is the first one, or it is among those behind the comma.
    rcases List.mem_cons.mp listed with rfl | behind
    · omega
    · have := ih (fun value listed => grows value (List.mem_cons_of_mem _ listed)) behind
      omega

/-- Items are read back up to the end of their container, given a budget for each. -/
theorem readItems_joined (closes : close ≠ ',') (visible : isSpace close = false)
    (reads : ∀ value ∈ items, ∀ rest, Follows rest → item (write value rest) = some (value, rest))
    (ends : close = ']' ∨ close = '\x7d') {budget : Nat} (enough : items.length ≤ budget)
    (filled : items ≠ []) (rest : List Char) :
    readItems item close budget (joined write items (close :: rest)) = some (items, rest) := by
  induction items generalizing budget with
  | nil => exact absurd rfl filled
  | cons value items ih =>
    obtain ⟨budget, rfl⟩ : ∃ fewer, budget = fewer + 1 :=
      ⟨budget - 1, (Nat.sub_add_cancel (Nat.le_trans (Nat.le_add_left _ _) enough)).symm⟩
    cases items with
    | nil =>
      -- Behind the last item the container ends.
      have read := reads value List.mem_cons_self (close :: rest) (follows_cons (by tauto) rest)
      simp only [joined, readItems, read, skipSpace, List.dropWhile_cons, visible,
        Bool.false_eq_true, if_false, if_true]
    | cons next items =>
      have read := reads value List.mem_cons_self
        (',' :: joined write (next :: items) (close :: rest)) (follows_cons (.inl rfl) _)
      have behind := ih (fun value listed => reads value (List.mem_cons_of_mem _ listed))
        (Nat.le_of_succ_le_succ enough) (List.cons_ne_nil _ _)
      have comma : isSpace ',' = false := rfl
      simp only [joined, readItems, read, skipSpace, List.dropWhile_cons, comma,
        Bool.false_eq_true, if_false, if_neg closes.symm, if_true, behind, Option.map_some]

/-- A container is read back behind its opening character. -/
theorem readContainer_joined (ends : close = ']' ∨ close = '\x7d')
    (begins : ∀ value ∈ items, ∀ rest, Begins close (write value rest) ∧
      rest.length < (write value rest).length)
    (reads : ∀ value ∈ items, ∀ rest, Follows rest → item (write value rest) = some (value, rest))
    (rest : List Char) :
    readContainer item close (joined write items (close :: rest)) = some (items, rest) := by
  have visible : isSpace close = false := by rcases ends with rfl | rfl <;> rfl
  have closes : close ≠ ',' := by rcases ends with rfl | rfl <;> decide
  cases items with
  | nil =>
    simp only [joined, readContainer, skipSpace, List.dropWhile_cons, visible, Bool.false_eq_true,
      if_false, if_true]
  | cons value items =>
    -- The first item is told from the end of the container by its first character.
    obtain ⟨c, tail, whole, isVisible, isItem⟩ :
        Begins close (joined write (value :: items) (close :: rest)) := by
      cases items with
      | nil => exact (begins value List.mem_cons_self _).1
      | cons next items => exact (begins value List.mem_cons_self _).1
    have long := length_joined (fun value listed rest => (begins value listed rest).2) (close :: rest)
    have read := readItems_joined closes visible reads ends
      (Nat.le_trans (Nat.le_add_right _ _) long) (List.cons_ne_nil _ _) rest
    rw [whole] at read ⊢
    simp only [readContainer, skipSpace, List.dropWhile_cons, isVisible, Bool.false_eq_true,
      if_false, if_neg isItem, read]

end Containers

/-- A number is written as its digits. -/
theorem write_natural (value : Nat) (rest : List Char) :
    (natural value).write rest = Nat.toDigits 10 value ++ rest := by
  -- Numbers are written in decimal.
  rw [write, Nat.toString_eq_ofList_toDigits, String.toList_ofList]

/-- A number begins with a digit. -/
theorem write_natural_cons (value : Nat) (rest : List Char) :
    ∃ c tail, (natural value).write rest = c :: tail ∧ c.isDigit = true := by
  rw [write_natural]
  -- There is one digit at least.
  rcases digits : Nat.toDigits 10 value with _ | ⟨c, others⟩
  · exact absurd digits Nat.toDigits_ne_nil
  · exact ⟨c, others ++ rest, rfl,
      Nat.isDigit_of_mem_toDigits (by decide) (by decide) (digits ▸ List.mem_cons_self)⟩

/-- A digit stands neither between values nor behind them. -/
theorem isSpace_of_isDigit {c : Char} (digit : c.isDigit = true) : isSpace c = false := by
  -- None of the four spaces is a digit.
  simp only [isSpace, Bool.or_eq_false_iff, decide_eq_false_iff_not]
  refine ⟨⟨⟨?_, ?_⟩, ?_⟩, ?_⟩ <;> rintro rfl <;> simp at digit

/-- What is written begins as an item of any container does. -/
theorem begins_write {json : Json} (plain : Plain json) {close : Char}
    (ends : close = ']' ∨ close = '\x7d') (rest : List Char) : Begins close (json.write rest) := by
  have others {c : Char} (bracket : c ≠ ']') (brace : c ≠ '\x7d') : c ≠ close := by
    rcases ends with rfl | rfl
    · exact bracket
    · exact brace
  -- Each kind of value begins with a character of its own, which is no space and closes nothing.
  cases plain with
  | null => exact ⟨'n', _, rfl, rfl, others (by decide) (by decide)⟩
  | bool value =>
    cases value with
    | false => exact ⟨'f', _, rfl, rfl, others (by decide) (by decide)⟩
    | true => exact ⟨'t', _, rfl, rfl, others (by decide) (by decide)⟩
  | @natural value fits =>
    obtain ⟨c, tail, whole, digit⟩ := write_natural_cons value rest
    exact ⟨c, tail, whole, isSpace_of_isDigit digit,
      others (by rintro rfl; simp at digit) (by rintro rfl; simp at digit)⟩
  | text content => exact ⟨'"', _, rfl, rfl, others (by decide) (by decide)⟩
  | array each => exact ⟨'[', _, rfl, rfl, others (by decide) (by decide)⟩
  | object keys each => exact ⟨'\x7b', _, rfl, rfl, others (by decide) (by decide)⟩

/-- A string is written between quotes. -/
theorem writeText_some (content : String) (rest : List Char) :
    writeText (some content) rest = '"' :: (content.toList.flatMap escapeChar ++ '"' :: rest) :=
  -- This is how a text is written.
  rfl

/-- A text takes more than what stands behind it. -/
theorem length_writeText (content : String) (rest : List Char) :
    rest.length < (writeText (some content) rest).length := by
  -- The quotes alone make it longer.
  rw [writeText_some, List.length_cons, List.length_append, List.length_cons]
  omega

/-- A member begins with the quote of its key. -/
theorem begins_writeMember {member : Option String × Json} (key : member.1.isSome) {close : Char}
    (ends : close = ']' ∨ close = '\x7d') (rest : List Char) :
    Begins close (writeMember member rest) := by
  -- A key that is there is a text.
  obtain ⟨name, named⟩ := Option.isSome_iff_exists.mp key
  rw [writeMember, named, writeText_some]
  refine ⟨'"', _, rfl, rfl, ?_⟩
  rcases ends with rfl | rfl <;> decide

/-- A member takes more than its value. -/
theorem length_writeMember {member : Option String × Json} (key : member.1.isSome)
    (rest : List Char) : (member.2.write rest).length < (writeMember member rest).length := by
  -- The key and the colon come on top of the value.
  obtain ⟨name, named⟩ := Option.isSome_iff_exists.mp key
  have outside := length_writeText name (':' :: member.2.write rest)
  rw [writeMember, named]
  simp only [List.length_cons] at outside
  omega

/-- No value nests deeper than its text is long. -/
theorem length_write {json : Json} (plain : Plain json) (rest : List Char) :
    json.depth + rest.length < (json.write rest).length := by
  induction plain generalizing rest with
  | null =>
    simp only [write, depth, List.length_append]
    exact Nat.add_lt_add_right (by decide) _
  | bool value =>
    cases value with
    | false =>
      simp only [write, depth, List.length_append]
      exact Nat.add_lt_add_right (by decide) _
    | true =>
      simp only [write, depth, List.length_append]
      exact Nat.add_lt_add_right (by decide) _
  | @natural value fits =>
    have some : 0 < (Nat.toDigits 10 value).length := List.length_pos_iff.mpr Nat.toDigits_ne_nil
    simp only [write_natural, depth, List.length_append]
    omega
  | text content =>
    simp only [write, depth, Nat.zero_add]
    exact length_writeText content rest
  | @array items each ih =>
    -- The deepest of the items takes its depth, and the brackets take more.
    have long := length_joined
      (fun item listed rest => Nat.lt_of_le_of_lt (Nat.le_add_left _ _) (ih item listed rest))
      (']' :: rest)
    have deepest : itemsDepth items ≤ (joined write items (']' :: rest)).length - rest.length - 1 := by
      refine itemsDepth_le fun item listed => ?_
      have := lt_length_joined ih listed (']' :: rest)
      simp only [List.length_cons] at this
      omega
    rw [write, writeItems_eq, depth, List.length_cons]
    simp only [List.length_cons] at long
    omega
  | @object members keys each ih =>
    have grows (member : Option String × Json) (listed : member ∈ members) (rest : List Char) :
        member.2.depth + rest.length < (writeMember member rest).length :=
      Nat.lt_trans (ih member listed rest) (length_writeMember (keys member listed) rest)
    have long := length_joined
      (fun member listed rest => Nat.lt_of_le_of_lt (Nat.le_add_left _ _) (grows member listed rest))
      ('\x7d' :: rest)
    have deepest : membersDepth members ≤
        (joined writeMember members ('\x7d' :: rest)).length - rest.length - 1 := by
      refine membersDepth_le fun member listed => ?_
      have := lt_length_joined grows listed ('\x7d' :: rest)
      simp only [List.length_cons] at this
      omega
    rw [write, writeMembers_eq, depth, List.length_cons]
    simp only [List.length_cons] at long
    omega

/-- What stands in front of a number is none of the characters that other values begin with. -/
theorem readValue_digit {c : Char} (digit : c.isDigit = true) (levels : Nat) (rest : List Char) :
    readValue levels (c :: rest) = readNumber (c :: rest) := by
  have visible : skipSpace (c :: rest) = c :: rest := by
    simp [skipSpace, isSpace_of_isDigit digit]
  unfold readValue
  rw [visible]
  -- Of the branches only that of numbers is left to a digit.
  split
  all_goals
    first
    | rfl
    | (rename_i whole
       obtain ⟨rfl, _⟩ := List.cons_eq_cons.mp whole
       exact absurd digit (by decide))

/-- A member is read back as its key and its value. -/
theorem readMember_write {value : List Char → Option (Json × List Char)} {key : String}
    {json : Json} {rest : List Char} (read : value (json.write rest) = some (json, rest)) :
    readMember value (writeMember (some key, json) rest) = some ((some key, json), rest) := by
  -- Neither the quote nor the colon is preceded by a space.
  have quote : isSpace '"' = false := rfl
  have colon : isSpace ':' = false := rfl
  simp only [readMember, writeMember, writeText_some, skipSpace, List.dropWhile_cons, quote, colon,
    Bool.false_eq_true, if_false, readText_escaped, Option.bind_eq_bind, Option.bind_some, read]
  rfl

/-- A value is read back as it was written, if it nests no deeper than may be read. -/
theorem readValue_write {json : Json} (plain : Plain json) {levels : Nat}
    (shallow : json.depth ≤ levels) {rest : List Char} (follows : Follows rest) :
    readValue levels (json.write rest) = some (json, rest) := by
  induction plain generalizing levels rest with
  | null => cases levels <;> rfl
  | bool value => cases value <;> cases levels <;> rfl
  | @natural value fits =>
    obtain ⟨c, tail, whole, digit⟩ := write_natural_cons value rest
    rw [whole, readValue_digit digit, ← whole, write_natural]
    exact readNumber_toDigits fits follows
  | text content =>
    have quoted : skipSpace ((text (some content)).write rest) =
        '"' :: (content.toList.flatMap escapeChar ++ '"' :: rest) := rfl
    unfold readValue
    simp only [quoted, readText_escaped, Option.map_some]
  | @array items each ih =>
    rw [depth] at shallow
    obtain ⟨levels, rfl⟩ : ∃ fewer, levels = fewer + 1 := ⟨levels - 1, by omega⟩
    have read : readContainer (readValue levels) ']' (joined write items (']' :: rest)) =
        some (items, rest) := by
      refine readContainer_joined (.inl rfl) (fun item listed rest => ?_)
        (fun item listed rest follows => ?_) _
      · exact ⟨begins_write (each item listed) (.inl rfl) rest,
          Nat.lt_of_le_of_lt (Nat.le_add_left _ _) (length_write (each item listed) rest)⟩
      · -- An item may nest as deep as the levels that the array has left to it.
        have := depth_le_itemsDepth listed
        exact ih item listed (by omega) follows
    have bracket : skipSpace ((array items).write rest) =
        '[' :: joined write items (']' :: rest) := by
      rw [write, writeItems_eq]
      rfl
    unfold readValue
    simp only [bracket, read, Option.map_some]
  | @object members keys each ih =>
    rw [depth] at shallow
    obtain ⟨levels, rfl⟩ : ∃ fewer, levels = fewer + 1 := ⟨levels - 1, by omega⟩
    have read : readContainer (readMember (readValue levels)) '\x7d'
        (joined writeMember members ('\x7d' :: rest)) = some (members, rest) := by
      refine readContainer_joined (.inr rfl) (fun member listed rest => ?_)
        (fun member listed rest follows => ?_) _
      · exact ⟨begins_writeMember (keys member listed) (.inr rfl) rest,
          Nat.lt_of_le_of_lt (Nat.le_add_left _ _)
            (Nat.lt_trans (length_write (each member listed) rest)
              (length_writeMember (keys member listed) rest))⟩
      · obtain ⟨key, value⟩ := member
        obtain ⟨key, rfl⟩ := Option.isSome_iff_exists.mp (keys _ listed)
        have := depth_le_membersDepth listed
        exact readMember_write (ih _ listed (by omega) follows)
    have brace : skipSpace ((object members).write rest) =
        '\x7b' :: joined writeMember members ('\x7d' :: rest) := by
      rw [write, writeMembers_eq]
      rfl
    unfold readValue
    simp only [brace, read, Option.map_some]

/-- What is written is what its text spells. -/
theorem parse?_compact {json : Json} (plain : Plain json) : parse? json.compact = some json := by
  have long := length_write plain []
  -- A text is given as many levels as it has characters, which is more than enough.
  have shallow : json.depth ≤ (json.write []).length := by omega
  have read := readValue_write plain shallow follows_nil
  simp only [parse?, compact, String.toList_ofList, read]
  rfl

end SmbBrowser.Json
