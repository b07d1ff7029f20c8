import SmbBrowser.Json.Record
import SmbBrowser.Proofs.Json.RoundTrip

/-!
Records and variants are taken apart into what they were made of: a record has its members as fields,
a tagged record its tag and the rest, and a list its items.
-/

namespace SmbBrowser.Json

/-! Numbers and texts. -/

/-- Every text spells itself. -/
@[simp] theorem plain_string (content : String) : Plain (string content) := .text content

/-- Both truth values spell themselves. -/
@[simp] theorem plain_bool (value : Bool) : Plain (bool value) := .bool value

/-- A text is decoded as itself. -/
@[simp] theorem string?_string (content : String) : (string content).string? = some content := rfl

/-- A truth value is decoded as itself. -/
@[simp] theorem bool?_bool (value : Bool) : (bool value).bool? = some value := rfl

/-- A number of eight bits spells itself. -/
@[simp] theorem plain_uint8 (value : UInt8) : Plain (natural value.toNat) :=
  -- It fits eight bits, and so it fits sixty-four.
  .natural (Nat.lt_trans value.toNat_lt (by decide))

/-- A number of sixteen bits spells itself. -/
@[simp] theorem plain_uint16 (value : UInt16) : Plain (natural value.toNat) :=
  .natural (Nat.lt_trans value.toNat_lt (by decide))

/-- A number of thirty-two bits spells itself. -/
@[simp] theorem plain_uint32 (value : UInt32) : Plain (natural value.toNat) :=
  .natural (Nat.lt_trans value.toNat_lt (by decide))

/-- A number of sixty-four bits spells itself. -/
@[simp] theorem plain_uint64 (value : UInt64) : Plain (natural value.toNat) :=
  .natural value.toNat_lt

/-- A number below a bound is decoded as itself. -/
theorem below?_natural {value bound : Nat} (fits : value < bound) :
    (natural value).below? bound = some value :=
  if_pos fits

/-- A number of eight bits is decoded as itself. -/
@[simp] theorem uint8?_natural (value : UInt8) : (natural value.toNat).uint8? = some value := by
  -- It is below the bound of its type.
  simp [uint8?, below?_natural value.toNat_lt_size]

/-- A number of sixteen bits is decoded as itself. -/
@[simp] theorem uint16?_natural (value : UInt16) : (natural value.toNat).uint16? = some value := by
  simp [uint16?, below?_natural value.toNat_lt_size]

/-- A number of thirty-two bits is decoded as itself. -/
@[simp] theorem uint32?_natural (value : UInt32) : (natural value.toNat).uint32? = some value := by
  simp [uint32?, below?_natural value.toNat_lt_size]

/-- A number of sixty-four bits is decoded as itself. -/
@[simp] theorem uint64?_natural (value : UInt64) : (natural value.toNat).uint64? = some value := by
  simp [uint64?, below?_natural value.toNat_lt_size]

/-! Lists, and what may be missing. -/

section

variable {α : Type} {encode : α → Json} {decode : Json → Option α}

/-- A list is plain if its items are. -/
@[simp] theorem plain_array (items : List Json) : Plain (array items) ↔ ∀ item ∈ items, Plain item :=
  -- There is one way for a list to be plain.
  ⟨fun | .array each => each, .array⟩

/-- A list is decoded item by item. -/
theorem list?_map {values : List α} (each : ∀ value ∈ values, decode (encode value) = some value) :
    list? decode (array (values.map encode)) = some values := by
  rw [list?]
  -- The first item is decoded, and then the others are.
  induction values with
  | nil => rfl
  | cons value values ih =>
    have behind := ih fun value among => each value (List.mem_cons_of_mem _ among)
    simp only [List.map_cons, List.mapM_cons, each value List.mem_cons_self, behind,
      Option.bind_eq_bind, Option.bind_some]
    rfl

/-- What may be missing is plain if it is plain where it is there. -/
theorem plain_ofOption {value : Option α} (each : ∀ content ∈ value, Plain (encode content)) :
    Plain (ofOption encode value) := by
  -- What is missing is written as null.
  cases value with
  | none => exact .null
  | some content => exact each content rfl

/-- What may be missing is decoded as it was, as long as null is written for nothing else. -/
theorem option?_ofOption {value : Option α}
    (each : ∀ content ∈ value, encode content ≠ .null ∧ decode (encode content) = some content) :
    option? decode (ofOption encode value) = some value := by
  cases value with
  | none => rfl
  | some content =>
    -- Whatever is written as null would be decoded as missing.
    obtain ⟨isThere, decoded⟩ := each content rfl
    unfold ofOption option?
    split
    · exact absurd ‹_› isThere
    · rw [decoded, Option.map_some]

end

section Records

variable {members : List (String × Json)}

/-- A record is plain if its members are. -/
theorem plain_record : Plain (record members) ↔ ∀ member ∈ members, Plain member.2 := by
  -- A record is an object whose members all have names.
  constructor
  · rintro (_ | _ | _ | _ | _ | ⟨_, each⟩) member listed
    exact each _ (List.mem_map_of_mem listed)
  · intro each
    refine .object ?_ ?_ <;> intro member listed <;>
      obtain ⟨origin, among, rfl⟩ := List.mem_map.mp listed
    · rfl
    · exact each origin among

/-- A name that none of the members has is found nowhere. -/
theorem filter_fresh {name : String} (fresh : name ∉ members.map (·.1)) :
    (members.map fun (key, value) => (some key, value)).filter (·.1 = some name) = [] := by
  -- A member that were found would have the name.
  refine List.filter_eq_nil_iff.mpr fun member listed => ?_
  obtain ⟨origin, among, rfl⟩ := List.mem_map.mp listed
  simp only [Option.some.injEq, decide_eq_true_eq]
  rintro rfl
  exact fresh (List.mem_map_of_mem (f := (·.1)) among)

/-- A name that comes once has the value that stands beside it. -/
theorem member?_of_mem (distinct : (members.map (·.1)).Nodup) {name : String} {value : Json}
    (listed : (name, value) ∈ members) :
    member? (members.map fun (key, value) => (some key, value)) name = some (some value) := by
  have only : (members.map fun (key, value) => (some key, value)).filter (·.1 = some name) =
      [(some name, value)] := by
    induction members with
    | nil => simp at listed
    | cons first members ih =>
      obtain ⟨fresh, distinct⟩ := List.nodup_cons.mp distinct
      rcases List.mem_cons.mp listed with rfl | behind
      · -- The name is found at once, and no other member has it.
        rw [List.map_cons, List.filter_cons_of_pos (by simp), filter_fresh fresh]
      · have apart : first.1 ≠ name := by
          rintro rfl
          exact fresh (List.mem_map_of_mem (f := (·.1)) behind)
        rw [List.map_cons, List.filter_cons_of_neg (by simpa using apart)]
        exact ih distinct behind
  simp only [member?, only]

/-- The fields of a record are what it was made of. -/
@[simp] theorem fields?_record {names : List String} (declared : members.map (·.1) = names)
    (distinct : names.Nodup) :
    (record members).fields? names =
      some ⟨members.map fun (name, value) => (name, some value), false⟩ := by
  subst declared
  -- Every name is looked up in the whole record, so the induction is on some of its members.
  have each (front : List (String × Json)) (among : ∀ member ∈ front, member ∈ members) :
      (front.map (·.1)).mapM (member? (members.map fun (key, value) => (some key, value))) =
        some (front.map fun (_, value) => some value) := by
    induction front with
    | nil => rfl
    | cons first front ih =>
      have found := member?_of_mem distinct (among first List.mem_cons_self)
      have behind := ih fun member listed => among member (List.mem_cons_of_mem _ listed)
      simp only [List.map_cons, List.mapM_cons, found, behind, Option.bind_eq_bind,
        Option.bind_some]
      rfl
  have whole := each members fun _ listed => listed
  have named : (members.map fun (key, value) => (some key, value)).all (·.1.isSome) = true := by
    simp
  simp only [record, fields?, named, if_true, whole, Option.map_some, List.zip_map']

namespace Fields

variable {α : Type} {values : List (String × Option Json)} {positional : Bool} {name other : String}
  {value : Json} {found : Option Json} {default : α} {decode : Json → Option α}

/-- A required field that stands in front is decoded. -/
@[simp] theorem required_here :
    required ⟨(name, some value) :: values, positional⟩ name decode = decode value := by
  -- The front is where the search begins.
  simp [required]

/-- A required field is looked for behind a member with another name. -/
@[simp] theorem required_behind (apart : name ≠ other) :
    required ⟨(other, found) :: values, positional⟩ name decode =
      required ⟨values, positional⟩ name decode := by
  -- The other name does not match.
  simp [required, List.lookup_cons, beq_false_of_ne apart]

/-- A field with a default that stands in front is decoded. -/
@[simp] theorem defaulted_here :
    defaulted ⟨(name, some value) :: values, positional⟩ name default decode = decode value := by
  -- Where there is a value the default is not used.
  simp [defaulted]

/-- A field with a default is looked for behind a member with another name. -/
@[simp] theorem defaulted_behind (apart : name ≠ other) :
    defaulted ⟨(other, found) :: values, positional⟩ name default decode =
      defaulted ⟨values, positional⟩ name default decode := by
  simp [defaulted, List.lookup_cons, beq_false_of_ne apart]

/-- A field that may be null and stands in front is decoded unless it is null. -/
@[simp] theorem optional_here :
    optional ⟨(name, some value) :: values, positional⟩ name decode = value.option? decode := by
  simp [optional]

/-- A field that may be null is looked for behind a member with another name. -/
@[simp] theorem optional_behind (apart : name ≠ other) :
    optional ⟨(other, found) :: values, positional⟩ name decode =
      optional ⟨values, positional⟩ name decode := by
  simp [optional, List.lookup_cons, beq_false_of_ne apart]

end Fields

/-- Members that can stand beside a tag, and are decoded to what they were made of. -/
structure Body {α : Type} (members : List (String × Json)) (decode : Json → Option α) (value : α) :
    Prop where
  untagged : "kind" ∉ members.map (·.1)
  plain : Plain (record members)
  decoded : decode (record members) = some value

/-- A tagged record has its tag as its kind, and the rest beside it. -/
theorem tagged?_record (mode : Mode) {kinds : List String} {kind : String} (known : kind ∈ kinds)
    (fresh : "kind" ∉ members.map (·.1)) :
    tagged? mode kinds (record (("kind", string kind) :: members)) = some (kind, record members) := by
  have tag : member? ((("kind", string kind) :: members).map fun (key, value) => (some key, value))
      "kind" = some (some (string kind)) := by
    rw [member?, List.map_cons, List.filter_cons_of_pos (by simp), filter_fresh fresh]
  -- No other member is called as the tag is, so that all of them are left.
  have rest : ((("kind", string kind) :: members).map fun (key, value) => (some key, value)).filter
      (·.1 ≠ some "kind") = members.map fun (key, value) => (some key, value) := by
    rw [List.map_cons, List.filter_cons_of_neg (by simp)]
    refine List.filter_eq_self.mpr fun member listed => ?_
    obtain ⟨origin, among, rfl⟩ := List.mem_map.mp listed
    have apart : origin.1 ≠ "kind" := by
      intro same
      exact fresh (same ▸ List.mem_map_of_mem (f := (·.1)) among)
    simpa using apart
  have named : (string kind).tag? mode kinds = some kind := if_pos (List.contains_iff_mem.mpr known)
  rw [record, tagged?, tag, rest, Option.bind_eq_bind, Option.bind_some, Option.bind_eq_bind,
    Option.bind_some, named]
  rfl

end Records

/-- The values of a row are kept whole one by one. -/
theorem areWhole_eq (levels : Nat) (items : List Json) :
    areWhole levels items = items.all (isWhole levels) := by
  -- The recursion walks along the row.
  induction items with
  | nil => rfl
  | cons item items ih => rw [areWhole, ih, List.all_cons]

/-- The members of an object are kept whole one by one, if each of them has a name. -/
theorem membersAreWhole_eq (levels : Nat) (members : List (Option String × Json)) :
    membersAreWhole levels members =
      members.all fun member => member.1.isSome && isWhole levels member.2 := by
  -- The recursion walks along the members.
  induction members with
  | nil => rfl
  | cons member members ih => rw [membersAreWhole, ih, List.all_cons]

/-- A value that spells itself can be kept whole, if it nests no deeper than may be kept. -/
theorem isWhole_of_plain {json : Json} (plain : Plain json) {levels : Nat}
    (shallow : json.depth ≤ levels) : json.isWhole levels = true := by
  induction plain generalizing levels with
  | null => rfl
  | bool value => rfl
  | natural fits => rfl
  | text content => rfl
  | @array items each ih =>
    rw [depth] at shallow
    -- The array itself takes one of the levels.
    have whole : ∀ item ∈ items, item.isWhole (levels - 1) = true := fun item listed =>
      ih item listed (by have := depth_le_itemsDepth listed; omega)
    simp only [isWhole, areWhole_eq, Bool.and_eq_true, decide_eq_true_eq, List.all_eq_true]
    exact ⟨by omega, whole⟩
  | @object members keys each ih =>
    rw [depth] at shallow
    have whole : ∀ member ∈ members, member.2.isWhole (levels - 1) = true := fun member listed =>
      ih member listed (by have := depth_le_membersDepth listed; omega)
    simp only [isWhole, membersAreWhole_eq, Bool.and_eq_true, decide_eq_true_eq, List.all_eq_true]
    exact ⟨by omega, fun member listed => ⟨keys member listed, whole member listed⟩⟩

end SmbBrowser.Json
