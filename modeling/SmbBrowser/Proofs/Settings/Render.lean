import SmbBrowser.Proofs.Settings.Document
import SmbBrowser.Settings.File

/-!
Settings survive their own rendering: what is written is read back, in every width, and what a
document cannot hold is not written at all.
-/

namespace SmbBrowser.Settings

/-- What a document says of settings: each of them under its name, with its value. -/
def assignments (settings : Settings) : List (String × Value) :=
  [("list_count", .integer settings.listCount.toNat),
    ("list_size", .integer settings.listSize.toNat),
    ("max_buffer_size", .integer settings.maxBufferSize.toNat),
    ("buffer_cache_size", .integer settings.bufferCacheSize.toNat),
    ("trace_resource_usage", .boolean settings.traceResourceUsage)]

/-- A number keeps within the bound that it was below. -/
theorem below?_integer {bound value : Nat} (below : value < bound) :
    (Value.integer value).below? bound = some value := by
  -- The reader asks for both ends, for a document may hold negative numbers.
  have within : (0 : Int) ≤ value ∧ (value : Int) < bound := by omega
  rw [Value.below?, if_pos within, Int.toNat_natCast]

/-- Assigning every one of the settings makes them, whatever they were before. -/
theorem foldlM_assign?_assignments (settings before : Settings) :
    settings.assignments.foldlM assign? before = some settings := by
  -- Each number is below the bound of its own width.
  have count := below?_integer settings.listCount.toNat_lt
  have size := below?_integer settings.listSize.toNat_lt
  have buffer := below?_integer settings.maxBufferSize.toNat_lt
  have cache := below?_integer settings.bufferCacheSize.toNat_lt
  simp only [assignments, List.foldlM_cons, List.foldlM_nil, assign?, Value.boolean?, count, size,
    buffer, cache, Option.map_some, Option.bind_eq_bind, Option.bind_some, Nat.toUInt16_eq,
    Nat.toUInt32_eq, Nat.toUInt64_eq, UInt16.ofNat_toNat, UInt32.ofNat_toNat, UInt64.ofNat_toNat]
  rfl

/-- Settings whose numbers fit are written as one row each. -/
theorem render_rows {settings : Settings}
    (buffer : settings.maxBufferSize.toNat ≤ Document.maxInteger)
    (cache : settings.bufferCacheSize.toNat ≤ Document.maxInteger) :
    ∃ rows : List Document.Row, settings.render = .ok (String.join (rows.map (·.text))) ∧
      rows.map (fun row => (row.name, row.value)) = settings.assignments := by
  -- The two narrower numbers fit in any case.
  have count : settings.listCount.toNat ≤ Document.maxInteger := by
    have bound := settings.listCount.toNat_lt
    simp only [Document.maxInteger]
    omega
  have size : settings.listSize.toNat ≤ Document.maxInteger := by
    have bound := settings.listSize.toNat_lt
    simp only [Document.maxInteger]
    omega
  refine ⟨[.ofNat "list_count" (by decide) rfl _ count,
    .ofNat "list_size" (by decide) rfl _ size,
    .ofNat "max_buffer_size" (by decide) rfl _ buffer,
    .ofNat "buffer_cache_size" (by decide) rfl _ cache,
    .ofBool "trace_resource_usage" (by decide) rfl settings.traceResourceUsage], ?_, rfl⟩
  rw [render, if_neg (by omega)]
  refine congrArg Except.ok ?_
  simp [Document.Row.text, Document.Row.ofNat, Document.Row.ofBool, String.append_assoc]

/-- What was written says of the settings what they are. -/
theorem assignments?_render {settings : Settings} {text : String}
    (rendered : settings.render = .ok text) :
    Document.assignments? text = some settings.assignments := by
  -- Rendering refuses what is too large, so the sizes of what it rendered are not.
  have fits : ¬(Document.maxInteger < settings.maxBufferSize.toNat ∨
      Document.maxInteger < settings.bufferCacheSize.toNat) := by
    intro large
    rw [render, if_pos large] at rendered
    cases rendered
  obtain ⟨rows, written, same⟩ := @render_rows settings (by omega) (by omega)
  rw [written] at rendered
  obtain rfl := Except.ok.inj rendered
  rw [Document.assignments?_rows, same]

/-- A document that assigns to no name twice changes the defaults by what it assigns. -/
theorem read?_of_nodup {text : String} {assigned : List (String × Value)}
    (found : Document.assignments? text = some assigned) (distinct : (assigned.map (·.1)).Nodup) :
    read? text = assigned.foldlM assign? {} := by
  -- The check for repeated names passes, and the fold is what is left.
  rw [read?, found]
  simp only [Option.bind_eq_bind, Option.bind_some, guard, if_pos distinct]
  rfl

/-- Written settings are read back as what they are, and checked then. -/
theorem parse_of_render {settings : Settings} {text : String}
    (rendered : settings.render = .ok text) (path : Option String) :
    parse path text = settings.validate.map fun () => settings := by
  -- The names are fixed, and each is written once.
  have distinct : (settings.assignments.map (·.1)).Nodup := by simp [assignments]
  have read : read? text = some settings :=
    (read?_of_nodup (assignments?_render rendered) distinct).trans
      (settings.foldlM_assign?_assignments {})
  rw [parse, read]

/-- Whatever is read was checked. -/
theorem validate_of_parse {path : Option String} {text : String} {settings : Settings}
    (parsed : parse path text = .ok settings) : settings.validate = .ok () := by
  unfold parse at parsed
  split at parsed
  · cases parsed
  · -- The settings that were read are the ones that are handed out.
    rename_i read _
    cases checked : read.validate with
    | error fault =>
      rw [checked] at parsed
      cases parsed
    | ok =>
      rw [checked] at parsed
      cases parsed
      exact checked

/-- Settings that pass their check survive their own rendering if a document can hold their sizes:
every one of them is written with its own value, and all are read back. Otherwise nothing is
written. Whatever is read from any text passes the check. -/
theorem parse_render (settings : Settings) (usable : settings.validate = .ok ()) :
    (if settings.maxBufferSize.toNat ≤ 2 ^ 63 - 1 ∧ settings.bufferCacheSize.toNat ≤ 2 ^ 63 - 1 then
      ∃ text, settings.render = .ok text ∧
        Document.assignments? text = some settings.assignments ∧
        ∀ path, parse path text = .ok settings
    else settings.render = .error .unwritable) ∧
      ∀ path text other, parse path text = .ok other → other.validate = .ok () := by
  -- What is read is always checked, whatever the text; only the first half is about rendering.
  refine ⟨?_, fun path text other => validate_of_parse⟩
  have limit : Document.maxInteger = 2 ^ 63 - 1 := rfl
  split
  · rename_i fits
    obtain ⟨rows, rendered, _⟩ := render_rows (limit ▸ fits.1) (limit ▸ fits.2)
    refine ⟨_, rendered, assignments?_render rendered, fun path => ?_⟩
    rw [parse_of_render rendered path, usable]
    rfl
  · rename_i large
    rw [render, if_pos (by omega)]

/-- The largest size that a document can hold survives, and one more is not written. -/
theorem parse_render_largest :
    let largest : Settings := { maxBufferSize := 9223372036854775807, bufferCacheSize := 0 }
    let beyond : Settings := { maxBufferSize := 9223372036854775808 }
    (∃ text, largest.render = .ok text ∧ parse none text = .ok largest) ∧
      beyond.render = .error .unwritable := by
  intro largest beyond
  -- Both sizes are on the border, one on either side.
  obtain ⟨text, rendered, _, parsed⟩ := (if_pos (by decide)).mp (parse_render largest rfl).1
  exact ⟨⟨text, rendered, parsed none⟩, (parse_render beyond rfl).1⟩

/-- A file that holds rendered settings is loaded as them. -/
theorem load_render {settings : Settings} (usable : settings.validate = .ok ()) {text : String}
    (rendered : settings.render = .ok text) (path : String) :
    load path (.bytes text.toUTF8) = .ok settings := by
  -- The bytes of a text decode to it, so the file is text.
  have decoded : String.fromUTF8? text.toUTF8 = some text := by
    simp only [String.fromUTF8?, String.toUTF8_eq_toByteArray]
    exact dif_pos text.isValidUTF8
  rw [load]
  · simp only [FileContent.text, decoded]
    rw [parse_of_render rendered, usable]
    rfl
  · intro missing
    cases missing

end SmbBrowser.Settings
