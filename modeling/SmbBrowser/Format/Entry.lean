import SmbBrowser.Entry
import SmbBrowser.Identifier
import SmbBrowser.Json.Record
import SmbBrowser.Status

/-! Entries, records, identifiers and statuses in JSON. -/

namespace SmbBrowser

/-- An NT status is written as its code. -/
def NtStatus.toJson (status : NtStatus) : Json := .natural status.code.toNat

/-- The NT status with a given code. -/
def NtStatus.ofJson? (json : Json) : Option NtStatus := json.uint32?.map (⟨·⟩)

/-- A Win32 error is written as its code. -/
def Win32Status.toJson (status : Win32Status) : Json := .natural status.code.toNat

/-- The Win32 error with a given code. -/
def Win32Status.ofJson? (json : Json) : Option Win32Status := json.uint32?.map (⟨·⟩)

/-- A tree is written as its number. -/
def TreeId.toJson (tree : TreeId) : Json := .natural tree.number.toNat

/-- The tree with a given number. -/
def TreeId.ofJson? (json : Json) : Option TreeId := json.uint32?.map (⟨·⟩)

/-- A search is written as its number. -/
def SearchId.toJson (search : SearchId) : Json := .natural search.number.toNat

/-- The search with a given number. -/
def SearchId.ofJson? (json : Json) : Option SearchId := json.uint16?.map (⟨·⟩)

/-- A dialect is written as its name. -/
def Dialect.toJson (dialect : Dialect) : Json := .string dialect.name

/-- The dialect with a given name. -/
def Dialect.ofJson? (json : Json) : Option Dialect :=
  json.variant? .direct ([Dialect.smb1, .smb2].map fun dialect => (dialect.name, dialect))

/-- A file is written as its number or its bytes, under the width's name. -/
def FileId.toJson : FileId → Json
  | .legacy number => .record [("legacy", .natural number.toNat)]
  | .modern bytes =>
    .record [("modern", .array (bytes.toList.map fun byte => .natural byte.toNat))]

/-- Exactly sixteen bytes. -/
def FileId.bytes? (json : Json) : Option (Vector UInt8 16) := do
  let bytes ← json.list? Json.uint8?
  if sized : bytes.toArray.size = 16 then some ⟨bytes.toArray, sized⟩ else none

/-- The file with a given number or bytes. -/
def FileId.ofJson? (json : Json) : Option FileId := do
  match ← json.single? with
  | ("legacy", number) => number.uint16?.map .legacy
  | ("modern", bytes) => (FileId.bytes? bytes).map .modern
  | _ => none

/-- A kind is written as its name. -/
def EntryKind.toJson (kind : EntryKind) : Json := .string kind.name

/-- The kind with a given name. -/
def EntryKind.ofJson? (mode : Json.Mode) (json : Json) : Option EntryKind :=
  json.variant? mode (EntryKind.all.map fun kind => (kind.name, kind))

/-- An entry is written with all of its fields. -/
def Entry.toJson (entry : Entry) : Json :=
  .record
    [("name", .string entry.name),
      ("kind", entry.kind.toJson),
      ("attributes", .natural entry.attributes.toNat),
      ("created", .natural entry.created.toNat),
      ("last_modified", .natural entry.lastModified.toNat),
      ("last_access", .natural entry.lastAccess.toNat),
      ("size", .natural entry.size.toNat),
      ("file_index", .natural entry.fileIndex.toNat)]

/-- An entry needs a name and a kind; every other field is zero unless given. -/
def Entry.ofJson? (mode : Json.Mode) (json : Json) : Option Entry := do
  let fields ← json.fields?
    ["name", "kind", "attributes", "created", "last_modified", "last_access", "size", "file_index"]
  return {
    name := ← fields.required "name" Json.string?
    kind := ← fields.required "kind" (EntryKind.ofJson? mode)
    attributes := ← fields.defaulted "attributes" 0 Json.uint32?
    created := ← fields.defaulted "created" 0 Json.uint64?
    lastModified := ← fields.defaulted "last_modified" 0 Json.uint64?
    lastAccess := ← fields.defaulted "last_access" 0 Json.uint64?
    size := ← fields.defaulted "size" 0 Json.uint64?
    fileIndex := ← fields.defaulted "file_index" 0 Json.uint32? }

/-- A server record is written with all of its fields. -/
def ServerRecord.toJson (record : ServerRecord) : Json :=
  .record
    [("name", .string record.name),
      ("server_type", .natural record.serverType.toNat),
      ("comment", .string record.comment)]

/-- A server record needs a name. -/
def ServerRecord.ofJson? (json : Json) : Option ServerRecord := do
  let fields ← json.fields? ["name", "server_type", "comment"]
  return {
    name := ← fields.required "name" Json.string?
    serverType := ← fields.defaulted "server_type" 0 Json.uint32?
    comment := ← fields.defaulted "comment" "" Json.string? }

/-- A share record is written with all of its fields. -/
def ShareRecord.toJson (record : ShareRecord) : Json :=
  .record
    [("name", .string record.name),
      ("share_type", .natural record.shareType.toNat),
      ("remark", .string record.remark)]

/-- A share record needs a name. -/
def ShareRecord.ofJson? (json : Json) : Option ShareRecord := do
  let fields ← json.fields? ["name", "share_type", "remark"]
  return {
    name := ← fields.required "name" Json.string?
    shareType := ← fields.defaulted "share_type" 0 Json.uint32?
    remark := ← fields.defaulted "remark" "" Json.string? }

end SmbBrowser
