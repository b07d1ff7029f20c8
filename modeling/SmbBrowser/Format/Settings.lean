import SmbBrowser.Json.Record
import SmbBrowser.Settings

/-! Settings in JSON. -/

namespace SmbBrowser.Settings

/-- The names of the settings, in the order of declaration. -/
def names : List String :=
  ["list_count", "list_size", "max_buffer_size", "buffer_cache_size", "trace_resource_usage"]

/-- Settings are written with all of their fields. -/
def toJson (settings : Settings) : Json :=
  .record
    [("list_count", .natural settings.listCount.toNat),
      ("list_size", .natural settings.listSize.toNat),
      ("max_buffer_size", .natural settings.maxBufferSize.toNat),
      ("buffer_cache_size", .natural settings.bufferCacheSize.toNat),
      ("trace_resource_usage", .bool settings.traceResourceUsage)]

/-- A missing setting has its default; a setting of another name is refused. -/
def ofJson? (json : Json) : Option Settings := do
  guard (json.hasOnly names)
  let fields ← json.fields? names
  let default : Settings := {}
  return {
    listCount := ← fields.defaulted "list_count" default.listCount Json.uint16?
    listSize := ← fields.defaulted "list_size" default.listSize Json.uint32?
    maxBufferSize := ← fields.defaulted "max_buffer_size" default.maxBufferSize Json.uint64?
    bufferCacheSize := ← fields.defaulted "buffer_cache_size" default.bufferCacheSize Json.uint64?
    traceResourceUsage :=
      ← fields.defaulted "trace_resource_usage" default.traceResourceUsage Json.bool? }

end SmbBrowser.Settings
