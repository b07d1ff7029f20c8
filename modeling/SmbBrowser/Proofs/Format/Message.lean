import SmbBrowser.Format.Message
import SmbBrowser.Proofs.Format.Entry

/-!
Requests and responses are read back from JSON as they were written, however deep their chains nest.
-/

namespace SmbBrowser

open Json

/-- The body of a search's first request is read back as it was written. -/
theorem FindFirst.body (query : FindFirst) : Body query.members ofJson? query where
  -- No member has the name of the tag, each value is plain, and each is found under its own name.
  untagged := by simp [members]
  plain := by simp [members, plain_record]
  decoded := by simp [ofJson?, members]

/-- So is that of a request that continues a search. -/
theorem FindNext.body (query : FindNext) : Body query.members ofJson? query where
  untagged := by simp [members]
  plain := by simp [members, plain_record]
  decoded := by simp [ofJson?, members]

/-- The body of a request to open is read back as it was written. -/
theorem Create.body (file : Create) : Body file.members ofJson? file where
  untagged := by simp [members]
  plain := by simp [members, plain_record]
  decoded := by simp [ofJson?, members]

/-- The body of a query is read back, be its directory named or taken from the chain. -/
theorem QueryDirectory.body (query : QueryDirectory) : Body query.members ofJson? query where
  untagged := by simp [members]
  plain := by
    -- A directory that the chain supplies is written as null.
    have directory : Plain (ofOption FileId.toJson query.fid) :=
      plain_ofOption fun file _ => file.plain_toJson
    simp [members, plain_record, directory]
  decoded := by
    -- No written directory is null, so the two cannot be confused.
    have directory : option? FileId.ofJson? (ofOption FileId.toJson query.fid) = some query.fid :=
      option?_ofOption fun file _ => ⟨by cases file <;> nofun, file.ofJson?_toJson⟩
    simp [ofJson?, members, directory]

/-- A command is read back from its name. -/
@[simp] theorem ServerCommand.ofJson?_name (command : ServerCommand) :
    ofJson? (.string command.name) = some command := by
  -- No two commands have one name.
  cases command <;> rfl

/-- The body of a query for servers is read back, with the name behind which it resumes, or with
none. -/
theorem ServerQuery.body (query : ServerQuery) : Body query.members ofJson? query where
  untagged := by simp [members]
  plain := by
    have last : Plain (ofOption Json.string query.lastName) :=
      plain_ofOption fun name _ => plain_string name
    simp [members, plain_record, last]
  decoded := by
    -- A text is never null, so a name that is there is told from one that is missing.
    have last : option? string? (ofOption Json.string query.lastName) = some query.lastName :=
      option?_ofOption fun name _ => ⟨nofun, rfl⟩
    simp [ofJson?, members, last]

/-- The entries of a page are read back one by one. -/
@[simp] theorem list?_entries (entries : List Entry) :
    list? (Entry.ofJson? .kept) (.array (entries.map Entry.toJson)) = some entries :=
  -- Kept entries or fresh ones, each is read back as itself.
  list?_map fun entry _ => entry.ofJson?_toJson .kept

/-- The body of a page of a search is read back as it was written. -/
theorem FindPage.body (page : FindPage) : Body page.members ofJson? page where
  untagged := by simp [members]
  plain := by simp [members, plain_record]
  decoded := by simp [ofJson?, members]

/-- The body of an answer about an opened file is read back as it was written. -/
theorem Created.body (file : Created) : Body file.members ofJson? file where
  untagged := by simp [members]
  plain := by simp [members, plain_record]
  decoded := by simp [ofJson?, members]

/-- The body of a page of a directory is read back as it was written. -/
theorem DirectoryPage.body (page : DirectoryPage) : Body page.members ofJson? page where
  untagged := by simp [members]
  plain := by simp [members, plain_record]
  decoded := by simp [ofJson?, members]

/-- The body of a page of servers is read back, record by record. -/
theorem ServerPage.body (page : ServerPage) : Body page.members ofJson? page where
  untagged := by simp [members]
  plain := by simp [members, plain_record]
  decoded := by
    -- The page stands on what is known of one record.
    have records : list? ServerRecord.ofJson? (.array (page.entries.map ServerRecord.toJson)) =
        some page.entries := list?_map fun record _ => record.ofJson?_toJson
    simp [ofJson?, members, records]

/-- The body of a page of shares is read back in the same way. -/
theorem SharePage.body (page : SharePage) : Body page.members ofJson? page where
  untagged := by simp [members]
  plain := by simp [members, plain_record]
  decoded := by
    have records : list? ShareRecord.ofJson? (.array (page.entries.map ShareRecord.toJson)) =
        some page.entries := list?_map fun record _ => record.ofJson?_toJson
    simp [ofJson?, members, records]

/-- A tagged record is as plain as what stands beside the tag. -/
theorem plain_tag {kind : String} {members : List (String × Json)} (plain : Plain (.record members)) :
    Plain (Request.toJson.tag kind members) :=
  -- The tag is one more member, and it is a text.
  plain_record.mpr fun _ listed => by
    rcases List.mem_cons.mp listed with rfl | beside
    · exact plain_string kind
    · exact plain_record.mp plain _ beside

/-- A record of one member is as plain as that member. -/
theorem plain_single {name : String} {value : Json} (plain : Plain value) :
    Plain (.record [(name, value)]) :=
  plain_record.mpr (by simpa using plain)

/-- The tag takes no level. -/
theorem depth_tag (kind : String) (members : List (String × Json)) :
    (Request.toJson.tag kind members).depth = (Json.record members).depth := by
  -- Its value is a text, and a text has no level.
  simp [Request.toJson.tag, record, depth, membersDepth, Json.string]

/-- A tagged record has its kind and its body. -/
theorem tagged?_tag (mode : Mode) {kinds : List String} {kind : String} (known : kind ∈ kinds)
    {α : Type} {members : List (String × Json)} {decode : Json → Option α} {value : α}
    (body : Body members decode value) :
    tagged? mode kinds (Request.toJson.tag kind members) = some (kind, .record members) :=
  -- The body has no member of the tag's name, so the tag that is found is the one in front.
  tagged?_record mode known body.untagged

namespace Request

/-- The requests of a chain are written one by one. -/
theorem listToJson_eq (requests : List Request) : listToJson requests = requests.map toJson := by
  -- The writer recurses over the chain by itself, which is what makes it structural.
  induction requests with
  | nil => rfl
  | cons request requests ih => rw [listToJson, ih, List.map_cons]

/-- Every request takes a level. -/
theorem depth_pos (request : Request) : 0 < request.toJson.depth := by
  -- Whatever its kind, it is a record.
  cases request <;> simp [toJson, depth_tag, record, depth]

/-- A chain nests deeper than any request in it. -/
theorem depth_chain {requests : List Request} {request : Request} (listed : request ∈ requests) :
    request.toJson.depth < (chain requests).toJson.depth := by
  -- The list is as deep as its deepest request, and the chain wraps the list.
  have inside := depth_le_itemsDepth (List.mem_map_of_mem (f := toJson) listed)
  simp only [toJson, depth_tag, record, List.map_cons, List.map_nil, depth, membersDepth,
    listToJson_eq]
  omega

/-- A request spells itself: the induction is on how deep its chains nest. -/
theorem plain_toJson (request : Request) : Plain request.toJson := by
  generalize bound : request.toJson.depth = levels
  induction levels using Nat.strongRecOn generalizing request with
  | ind levels ih =>
    cases request with
    | treeConnect path => exact plain_tag (plain_single (plain_string path))
    | treeDisconnect => exact plain_tag (plain_record.mpr nofun)
    | findFirst query => exact plain_tag query.body.plain
    | findNext query => exact plain_tag query.body.plain
    | findClose sid => exact plain_tag (plain_single sid.plain_toJson)
    | create file => exact plain_tag file.body.plain
    | queryDirectory query => exact plain_tag query.body.plain
    | close fid => exact plain_tag (plain_single fid.plain_toJson)
    | chain requests =>
      -- The requests in a chain nest less deep than the chain.
      rw [toJson, listToJson_eq]
      refine plain_tag (plain_single (.array fun item listed => ?_))
      obtain ⟨request, among, rfl⟩ := List.mem_map.mp listed
      exact ih _ (bound ▸ depth_chain among) request rfl
    | serverEnum query => exact plain_tag query.body.plain
    | shareEnum => exact plain_tag (plain_record.mpr nofun)

/-- A request is read back from what has been kept, as long as levels are left for its chains. -/
theorem decode?_toJson {levels : Nat} (mode : Mode) (request : Request)
    (shallow : request.toJson.depth ≤ levels) : decode? levels mode request.toJson = some request := by
  induction levels generalizing mode request with
  | zero => have := request.depth_pos; omega
  | succ levels ih =>
    cases request with
    | treeConnect path =>
      simp [toJson, decode?, toJson.tag, tagged?_record, kinds]
    | treeDisconnect =>
      simp [toJson, decode?, toJson.tag, tagged?_record, kinds]
      rfl
    | findFirst query =>
      simp [toJson, decode?, tagged?_tag mode _ query.body, kinds, query.body.decoded]
    | findNext query =>
      simp [toJson, decode?, tagged?_tag mode _ query.body, kinds, query.body.decoded]
    | findClose sid =>
      simp [toJson, decode?, toJson.tag, tagged?_record, kinds]
    | create file =>
      simp [toJson, decode?, tagged?_tag mode _ file.body, kinds, file.body.decoded]
    | queryDirectory query =>
      simp [toJson, decode?, tagged?_tag mode _ query.body, kinds, query.body.decoded]
    | close fid =>
      simp [toJson, decode?, toJson.tag, tagged?_record, kinds]
    | chain requests =>
      -- Whatever the chain is read from, its requests have been kept.
      have each : list? (decode? levels .kept) (.array (requests.map toJson)) = some requests :=
        list?_map fun request among =>
          ih .kept request (by have := depth_chain among; omega)
      simp [toJson, listToJson_eq, decode?, toJson.tag, tagged?_record, kinds, each]
    | serverEnum query =>
      simp [toJson, decode?, tagged?_tag mode _ query.body, kinds, query.body.decoded]
    | shareEnum =>
      simp [toJson, decode?, toJson.tag, tagged?_record, kinds]
      rfl

end Request

namespace Response

/-- The outcome of one request of a chain, with its body or with null in its place. -/
def replyToJson (reply : ChainedReply Response) : Json :=
  .record [("status", reply.status.toJson), ("response", .ofOption toJson reply.response)]

/-- A body that is missing is written as null. -/
theorem bodyToJson_eq (body : Option Response) : bodyToJson body = .ofOption toJson body := by
  cases body <;> rfl

/-- The outcomes of a chain are written one by one. -/
theorem repliesToJson_eq (replies : List (ChainedReply Response)) :
    repliesToJson replies = replies.map replyToJson := by
  induction replies with
  | nil => rfl
  | cons reply replies ih =>
    -- One outcome is written as `replyToJson` has it, which unfolding shows.
    rw [repliesToJson, ih, bodyToJson_eq, List.map_cons]
    rfl

/-- Every response takes a level. -/
theorem depth_pos (response : Response) : 0 < response.toJson.depth := by
  -- As with requests, each is a record.
  cases response <;> simp [toJson, depth_tag, record, depth]

/-- A chain nests deeper than any body in it. -/
theorem depth_chain {replies : List (ChainedReply Response)} {reply : ChainedReply Response}
    (listed : reply ∈ replies) {body : Response} (answered : reply.response = some body) :
    body.toJson.depth < (chain replies).toJson.depth := by
  -- A body lies two levels below its outcome's list: in its record, under its name.
  have inside := depth_le_itemsDepth (List.mem_map_of_mem (f := replyToJson) listed)
  simp only [replyToJson, answered, ofOption, record, List.map_cons, List.map_nil, depth,
    membersDepth] at inside
  simp only [toJson, depth_tag, record, List.map_cons, List.map_nil, depth, membersDepth,
    repliesToJson_eq]
  omega

/-- A response spells itself: the induction is on how deep its chains nest. -/
theorem plain_toJson (response : Response) : Plain response.toJson := by
  generalize bound : response.toJson.depth = levels
  induction levels using Nat.strongRecOn generalizing response with
  | ind levels ih =>
    cases response with
    | treeConnect tid => exact plain_tag (plain_single tid.plain_toJson)
    | empty => exact plain_tag (plain_record.mpr nofun)
    | find page => exact plain_tag page.body.plain
    | create file => exact plain_tag file.body.plain
    | queryDirectory page => exact plain_tag page.body.plain
    | chain replies =>
      -- The bodies in a chain nest less deep than the chain.
      rw [toJson, repliesToJson_eq]
      refine plain_tag (plain_single (.array fun item listed => ?_))
      obtain ⟨reply, among, rfl⟩ := List.mem_map.mp listed
      have body : Plain (.ofOption toJson reply.response) := plain_ofOption fun body answered =>
        ih _ (bound ▸ depth_chain among answered) body rfl
      simp [replyToJson, plain_record, body]
    | serverList page => exact plain_tag page.body.plain
    | shareList page => exact plain_tag page.body.plain

/-- A response is read back from what has been kept, as long as levels are left for its chains. -/
theorem decode?_toJson {levels : Nat} (mode : Mode) (response : Response)
    (shallow : response.toJson.depth ≤ levels) :
    decode? levels mode response.toJson = some response := by
  induction levels generalizing mode response with
  | zero => have := response.depth_pos; omega
  | succ levels ih =>
    cases response with
    | treeConnect tid =>
      simp [toJson, decode?, Request.toJson.tag, tagged?_record, kinds]
    | empty =>
      simp [toJson, decode?, Request.toJson.tag, tagged?_record, kinds]
      rfl
    | find page =>
      simp [toJson, decode?, tagged?_tag mode _ page.body, kinds, page.body.decoded]
    | create file =>
      simp [toJson, decode?, tagged?_tag mode _ file.body, kinds, file.body.decoded]
    | queryDirectory page =>
      simp [toJson, decode?, tagged?_tag mode _ page.body, kinds, page.body.decoded]
    | chain replies =>
      have each : list? (decode?.reply? (decode? levels .kept)) (.array (replies.map replyToJson)) =
          some replies := by
        refine list?_map fun reply among => ?_
        -- A missing body is null, and no body there is is written as null.
        have body : option? (decode? levels .kept) (.ofOption toJson reply.response) =
            some reply.response := option?_ofOption fun body answered =>
          ⟨by cases body <;> nofun,
            ih .kept body (by have := depth_chain among answered; omega)⟩
        simp [decode?.reply?, replyToJson, body]
      simp [toJson, repliesToJson_eq, decode?, Request.toJson.tag, tagged?_record, kinds, each]
    | serverList page =>
      simp [toJson, decode?, tagged?_tag mode _ page.body, kinds, page.body.decoded]
    | shareList page =>
      simp [toJson, decode?, tagged?_tag mode _ page.body, kinds, page.body.decoded]

end Response

end SmbBrowser
