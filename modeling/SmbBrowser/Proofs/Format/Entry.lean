import SmbBrowser.Format.Entry
import SmbBrowser.Proofs.Json.Record

/-! Entries, records, identifiers and statuses are read back from JSON as they were written. -/

namespace SmbBrowser

open Json

/-- A status is written as a number. -/
@[simp] theorem NtStatus.plain_toJson (status : NtStatus) : Plain status.toJson :=
  plain_uint32 status.code

/-- A status is read back as it was written. -/
@[simp] theorem NtStatus.ofJson?_toJson (status : NtStatus) : ofJson? status.toJson = some status := by
  -- A number of thirty-two bits is decoded as itself.
  simp [ofJson?, toJson]

/-- A status of the older interface is written as a number. -/
@[simp] theorem Win32Status.plain_toJson (status : Win32Status) : Plain status.toJson :=
  plain_uint32 status.code

/-- A status of the older interface is read back as it was written. -/
@[simp] theorem Win32Status.ofJson?_toJson (status : Win32Status) :
    ofJson? status.toJson = some status := by
  simp [ofJson?, toJson]

/-- A tree is written as its number. -/
@[simp] theorem TreeId.plain_toJson (tree : TreeId) : Plain tree.toJson := plain_uint32 tree.number

/-- The number of a tree is read back as it was written. -/
@[simp] theorem TreeId.ofJson?_toJson (tree : TreeId) : ofJson? tree.toJson = some tree := by
  simp [ofJson?, toJson]

/-- A search is written as its number. -/
@[simp] theorem SearchId.plain_toJson (search : SearchId) : Plain search.toJson :=
  plain_uint16 search.number

/-- The number of a search is read back as it was written. -/
@[simp] theorem SearchId.ofJson?_toJson (search : SearchId) : ofJson? search.toJson = some search := by
  simp [ofJson?, toJson]

/-- A dialect is written as its name. -/
@[simp] theorem Dialect.plain_toJson (dialect : Dialect) : Plain dialect.toJson :=
  plain_string dialect.name

/-- A dialect is read back from its name. -/
@[simp] theorem Dialect.ofJson?_toJson (dialect : Dialect) : ofJson? dialect.toJson = some dialect := by
  -- No two dialects have one name.
  cases dialect <;> rfl

/-- The kind of an entry is written as its name. -/
@[simp] theorem EntryKind.plain_toJson (kind : EntryKind) : Plain kind.toJson :=
  plain_string kind.name

/-- The kind of an entry is read back from its name. -/
@[simp] theorem EntryKind.ofJson?_toJson (mode : Mode) (kind : EntryKind) :
    ofJson? mode kind.toJson = some kind := by
  -- No two kinds have one name.
  cases kind <;> rfl

/-- The number of a file is plain, be it one number or a row of bytes. -/
@[simp] theorem FileId.plain_toJson (file : FileId) : Plain file.toJson := by
  -- The tag tells of which sort it is.
  cases file <;> simp [toJson, plain_record]

/-- Sixteen bytes are read back as they were written. -/
theorem FileId.bytes?_map (bytes : Vector UInt8 16) :
    bytes? (.array (bytes.toList.map fun byte => .natural byte.toNat)) = some bytes := by
  have items : list? uint8? (.array (bytes.toList.map fun byte => .natural byte.toNat)) =
      some bytes.toList := list?_map fun byte _ => uint8?_natural byte
  -- The items make up the array that the vector has, so there are sixteen of them.
  have whole : bytes.toList.toArray = bytes.toArray := Array.toArray_toList
  simp [bytes?, items, whole]

/-- The number of a file is read back as it was written. -/
@[simp] theorem FileId.ofJson?_toJson (file : FileId) : ofJson? file.toJson = some file := by
  -- The two sorts have tags of their own.
  cases file with
  | legacy number => simp [ofJson?, toJson, record, single?]
  | modern bytes => simp [ofJson?, toJson, record, single?, bytes?_map]

/-- An entry is plain. -/
@[simp] theorem Entry.plain_toJson (entry : Entry) : Plain entry.toJson := by
  -- Each of its fields is a text, a number or a kind.
  simp [toJson, plain_record]

/-- An entry is read back field by field, straight from its text or once it has been kept. -/
@[simp] theorem Entry.ofJson?_toJson (mode : Mode) (entry : Entry) :
    ofJson? mode entry.toJson = some entry := by
  -- Every field is found under its own name, behind those before it.
  simp [ofJson?, toJson]

/-- The record of a server is plain. -/
@[simp] theorem ServerRecord.plain_toJson (record : ServerRecord) : Plain record.toJson := by
  simp [toJson, plain_record]

/-- The record of a server is read back as it was written. -/
@[simp] theorem ServerRecord.ofJson?_toJson (record : ServerRecord) :
    ofJson? record.toJson = some record := by
  -- As with an entry, each field is found under its own name.
  simp [ofJson?, toJson]

/-- The record of a share is plain. -/
@[simp] theorem ShareRecord.plain_toJson (record : ShareRecord) : Plain record.toJson := by
  simp [toJson, plain_record]

/-- The record of a share is read back as it was written. -/
@[simp] theorem ShareRecord.ofJson?_toJson (record : ShareRecord) :
    ofJson? record.toJson = some record := by
  simp [ofJson?, toJson]

end SmbBrowser
