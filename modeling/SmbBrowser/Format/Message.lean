import SmbBrowser.Format.Entry
import SmbBrowser.Message

/-! Requests and responses in JSON: a tag names the kind, and the fields stand beside it. -/

namespace SmbBrowser

/-- The fields of a search that starts. -/
def FindFirst.members (query : FindFirst) : List (String × Json) :=
  [("path", .string query.path),
    ("pattern", .string query.pattern),
    ("search_attributes", .natural query.searchAttributes.toNat),
    ("max_items", .natural query.maxItems.toNat),
    ("max_buffer", .natural query.maxBuffer.toNat)]

/-- Every field of a search that starts must be there. -/
def FindFirst.ofJson? (json : Json) : Option FindFirst := do
  let fields ← json.fields? ["path", "pattern", "search_attributes", "max_items", "max_buffer"]
  return {
    path := ← fields.required "path" Json.string?
    pattern := ← fields.required "pattern" Json.string?
    searchAttributes := ← fields.required "search_attributes" Json.uint16?
    maxItems := ← fields.required "max_items" Json.uint16?
    maxBuffer := ← fields.required "max_buffer" Json.uint32? }

/-- The fields of a search that goes on. -/
def FindNext.members (query : FindNext) : List (String × Json) :=
  [("sid", query.sid.toJson),
    ("resume_key", .natural query.resumeKey.toNat),
    ("last_name", .string query.lastName),
    ("max_items", .natural query.maxItems.toNat),
    ("max_buffer", .natural query.maxBuffer.toNat)]

/-- Every field of a search that goes on must be there. -/
def FindNext.ofJson? (json : Json) : Option FindNext := do
  let fields ← json.fields? ["sid", "resume_key", "last_name", "max_items", "max_buffer"]
  return {
    sid := ← fields.required "sid" SearchId.ofJson?
    resumeKey := ← fields.required "resume_key" Json.uint32?
    lastName := ← fields.required "last_name" Json.string?
    maxItems := ← fields.required "max_items" Json.uint16?
    maxBuffer := ← fields.required "max_buffer" Json.uint32? }

/-- The fields of an opening. -/
def Create.members (file : Create) : List (String × Json) :=
  [("path", .string file.path),
    ("desired_access", .natural file.desiredAccess.toNat),
    ("file_attributes", .natural file.fileAttributes.toNat),
    ("share_access", .natural file.shareAccess.toNat),
    ("create_disposition", .natural file.createDisposition.toNat),
    ("create_options", .natural file.createOptions.toNat)]

/-- Every field of an opening must be there. -/
def Create.ofJson? (json : Json) : Option Create := do
  let fields ← json.fields?
    ["path", "desired_access", "file_attributes", "share_access", "create_disposition",
      "create_options"]
  return {
    path := ← fields.required "path" Json.string?
    desiredAccess := ← fields.required "desired_access" Json.uint32?
    fileAttributes := ← fields.required "file_attributes" Json.uint32?
    shareAccess := ← fields.required "share_access" Json.uint32?
    createDisposition := ← fields.required "create_disposition" Json.uint32?
    createOptions := ← fields.required "create_options" Json.uint32? }

/-- The fields of a directory query. -/
def QueryDirectory.members (query : QueryDirectory) : List (String × Json) :=
  [("fid", .ofOption FileId.toJson query.fid),
    ("pattern", .string query.pattern),
    ("flags", .natural query.flags.toNat),
    ("file_index", .natural query.fileIndex.toNat),
    ("output_buffer_length", .natural query.outputBufferLength.toNat)]

/-- A directory query may leave its directory open. -/
def QueryDirectory.ofJson? (json : Json) : Option QueryDirectory := do
  let fields ← json.fields? ["fid", "pattern", "flags", "file_index", "output_buffer_length"]
  return {
    fid := ← fields.optional "fid" FileId.ofJson?
    pattern := ← fields.required "pattern" Json.string?
    flags := ← fields.required "flags" Json.uint8?
    fileIndex := ← fields.required "file_index" Json.uint32?
    outputBufferLength := ← fields.required "output_buffer_length" Json.uint32? }

/-- A command is written as its name. -/
def ServerCommand.ofJson? (json : Json) : Option ServerCommand :=
  json.variant? .kept
    ([ServerCommand.netServerEnum2, .netServerEnum3].map fun command => (command.name, command))

/-- The fields of a query for servers. -/
def ServerQuery.members (query : ServerQuery) : List (String × Json) :=
  [("command", .string query.command.name),
    ("domain", .string query.domain),
    ("server_types", .natural query.serverTypes.toNat),
    ("last_name", .ofOption Json.string query.lastName),
    ("max_buffer", .natural query.maxBuffer.toNat)]

/-- A query for servers may lack the name to go on from. -/
def ServerQuery.ofJson? (json : Json) : Option ServerQuery := do
  let fields ← json.fields? ["command", "domain", "server_types", "last_name", "max_buffer"]
  return {
    command := ← fields.required "command" ServerCommand.ofJson?
    domain := ← fields.required "domain" Json.string?
    serverTypes := ← fields.required "server_types" Json.uint32?
    lastName := ← fields.optional "last_name" Json.string?
    maxBuffer := ← fields.required "max_buffer" Json.uint32? }

/-- The fields of a search page. -/
def FindPage.members (page : FindPage) : List (String × Json) :=
  [("status", page.status.toJson),
    ("sid", page.sid.toJson),
    ("end_of_search", .bool page.endOfSearch),
    ("resume_key", .natural page.resumeKey.toNat),
    ("last_name", .string page.lastName),
    ("entries", .array (page.entries.map Entry.toJson))]

/-- Any field of a search page may be missing. -/
def FindPage.ofJson? (json : Json) : Option FindPage := do
  let fields ← json.fields?
    ["status", "sid", "end_of_search", "resume_key", "last_name", "entries"]
  return {
    status := ← fields.defaulted "status" .success NtStatus.ofJson?
    sid := ← fields.defaulted "sid" ⟨0⟩ SearchId.ofJson?
    endOfSearch := ← fields.defaulted "end_of_search" false Json.bool?
    resumeKey := ← fields.defaulted "resume_key" 0 Json.uint32?
    lastName := ← fields.defaulted "last_name" "" Json.string?
    entries := ← fields.defaulted "entries" [] (Json.list? (Entry.ofJson? .kept)) }

/-- The fields of an opened file. -/
def Created.members (file : Created) : List (String × Json) :=
  [("fid", file.fid.toJson), ("attributes", .natural file.attributes.toNat)]

/-- An opened file needs a name. -/
def Created.ofJson? (json : Json) : Option Created := do
  let fields ← json.fields? ["fid", "attributes"]
  return {
    fid := ← fields.required "fid" FileId.ofJson?
    attributes := ← fields.defaulted "attributes" 0 Json.uint32? }

/-- The fields of a directory page. -/
def DirectoryPage.members (page : DirectoryPage) : List (String × Json) :=
  [("status", page.status.toJson), ("entries", .array (page.entries.map Entry.toJson))]

/-- Any field of a directory page may be missing. -/
def DirectoryPage.ofJson? (json : Json) : Option DirectoryPage := do
  let fields ← json.fields? ["status", "entries"]
  return {
    status := ← fields.defaulted "status" .success NtStatus.ofJson?
    entries := ← fields.defaulted "entries" [] (Json.list? (Entry.ofJson? .kept)) }

/-- The fields of a page of servers. -/
def ServerPage.members (page : ServerPage) : List (String × Json) :=
  [("status", page.status.toJson), ("entries", .array (page.entries.map ServerRecord.toJson))]

/-- Any field of a page of servers may be missing. -/
def ServerPage.ofJson? (json : Json) : Option ServerPage := do
  let fields ← json.fields? ["status", "entries"]
  return {
    status := ← fields.defaulted "status" .success Win32Status.ofJson?
    entries := ← fields.defaulted "entries" [] (Json.list? ServerRecord.ofJson?) }

/-- The fields of a list of shares. -/
def SharePage.members (page : SharePage) : List (String × Json) :=
  [("status", page.status.toJson), ("entries", .array (page.entries.map ShareRecord.toJson))]

/-- Any field of a list of shares may be missing. -/
def SharePage.ofJson? (json : Json) : Option SharePage := do
  let fields ← json.fields? ["status", "entries"]
  return {
    status := ← fields.defaulted "status" .success Win32Status.ofJson?
    entries := ← fields.defaulted "entries" [] (Json.list? ShareRecord.ofJson?) }

namespace Request

/-- The names of all kinds of request, in the order of declaration. -/
def kinds : List String :=
  ["tree_connect", "tree_disconnect", "find_first2", "find_next2", "find_close2", "create",
    "query_directory", "close", "chain", "net_server_enum", "net_share_enum"]

mutual
/-- A request is written with its kind in front of its fields. -/
def toJson : Request → Json
  | .treeConnect path => tag "tree_connect" [("path", .string path)]
  | .treeDisconnect => tag "tree_disconnect" []
  | .findFirst query => tag "find_first2" query.members
  | .findNext query => tag "find_next2" query.members
  | .findClose sid => tag "find_close2" [("sid", sid.toJson)]
  | .create file => tag "create" file.members
  | .queryDirectory query => tag "query_directory" query.members
  | .close fid => tag "close" [("fid", fid.toJson)]
  | .chain requests => tag "chain" [("requests", .array (listToJson requests))]
  | .serverEnum query => tag "net_server_enum" query.members
  | .shareEnum => tag "net_share_enum" []
where
  /-- An object whose first member is the kind. -/
  tag (kind : String) (members : List (String × Json)) : Json :=
    .record (("kind", .string kind) :: members)

/-- Requests one after the other. -/
def listToJson : List Request → List Json
  | [] => []
  | request :: requests => request.toJson :: listToJson requests
end

/-- The request of a tagged value that has been kept whole; chains nest less than `levels` deep. -/
def decode? : Nat → Json.Mode → Json → Option Request
  | 0, _, _ => none
  | levels + 1, mode, json => do
    let (kind, body) ← json.tagged? mode kinds
    match kind with
    | "tree_connect" => do
      return .treeConnect (← (← body.fields? ["path"]).required "path" Json.string?)
    | "tree_disconnect" => if body.isBare then some .treeDisconnect else none
    | "find_first2" => (FindFirst.ofJson? body).map .findFirst
    | "find_next2" => (FindNext.ofJson? body).map .findNext
    | "find_close2" => do
      return .findClose (← (← body.fields? ["sid"]).required "sid" SearchId.ofJson?)
    | "create" => (Create.ofJson? body).map .create
    | "query_directory" => (QueryDirectory.ofJson? body).map .queryDirectory
    | "close" => do
      return .close (← (← body.fields? ["fid"]).required "fid" FileId.ofJson?)
    | "chain" => do
      return .chain
        (← (← body.fields? ["requests"]).required "requests" (Json.list? (decode? levels .kept)))
    | "net_server_enum" => (ServerQuery.ofJson? body).map .serverEnum
    | "net_share_enum" => if body.isBare then some .shareEnum else none
    | _ => none

/-- The request a value spells; the value may nest at most `levels` deep. -/
def ofJson? (levels : Nat) (json : Json) : Option Request :=
  if json.isWhole levels then decode? levels .direct json else none

end Request

namespace Response

/-- The names of all kinds of response, in the order of declaration. -/
def kinds : List String :=
  ["tree_connect", "empty", "find", "create", "query_directory", "chain", "server_list",
    "share_list"]

mutual
/-- A response is written with its kind in front of its fields. -/
def toJson : Response → Json
  | .treeConnect tid => Request.toJson.tag "tree_connect" [("tid", tid.toJson)]
  | .empty => Request.toJson.tag "empty" []
  | .find page => Request.toJson.tag "find" page.members
  | .create file => Request.toJson.tag "create" file.members
  | .queryDirectory page => Request.toJson.tag "query_directory" page.members
  | .chain replies => Request.toJson.tag "chain" [("replies", .array (repliesToJson replies))]
  | .serverList page => Request.toJson.tag "server_list" page.members
  | .shareList page => Request.toJson.tag "share_list" page.members

/-- The outcomes of a chain, one after the other. -/
def repliesToJson : List (ChainedReply Response) → List Json
  | [] => []
  | ⟨status, response⟩ :: replies =>
    .record [("status", status.toJson), ("response", bodyToJson response)] :: repliesToJson replies

/-- A missing body is written as null. -/
def bodyToJson : Option Response → Json
  | none => .null
  | some response => response.toJson
end

/-- The response of a tagged value that has been kept whole; chains nest less than `levels` deep. -/
def decode? : Nat → Json.Mode → Json → Option Response
  | 0, _, _ => none
  | levels + 1, mode, json => do
    let (kind, body) ← json.tagged? mode kinds
    match kind with
    | "tree_connect" => do
      return .treeConnect (← (← body.fields? ["tid"]).required "tid" TreeId.ofJson?)
    | "empty" => if body.isBare then some .empty else none
    | "find" => (FindPage.ofJson? body).map .find
    | "create" => (Created.ofJson? body).map .create
    | "query_directory" => (DirectoryPage.ofJson? body).map .queryDirectory
    | "chain" => do
      return .chain
        (← (← body.fields? ["replies"]).required "replies" (Json.list? (reply? (decode? levels .kept))))
    | "server_list" => (ServerPage.ofJson? body).map .serverList
    | "share_list" => (SharePage.ofJson? body).map .shareList
    | _ => none
where
  /-- The outcome of one request of a chain; its body may be missing. -/
  reply? (body? : Json → Option Response) (json : Json) : Option (ChainedReply Response) := do
    let fields ← json.fields? ["status", "response"]
    return {
      status := ← fields.required "status" NtStatus.ofJson?
      response := ← fields.defaulted "response" none (Json.option? body?) }

/-- The response a value spells; the value may nest at most `levels` deep. -/
def ofJson? (levels : Nat) (json : Json) : Option Response :=
  if json.isWhole levels then decode? levels .direct json else none

end Response

end SmbBrowser
