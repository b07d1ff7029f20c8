import SmbBrowser.Format.Transcript
import SmbBrowser.Proofs.Format.Message

/-! Transcripts are read back from their text as they were written. -/

namespace SmbBrowser

open Json

/-- A request is read back, if it nests no deeper than may be read. -/
theorem Request.ofJson?_toJson {levels : Nat} (request : Request)
    (shallow : request.toJson.depth ≤ levels) : ofJson? levels request.toJson = some request := by
  -- The reader looks at the whole value first: it is plain and shallow enough, so nothing is
  -- refused.
  rw [ofJson?, if_pos (isWhole_of_plain request.plain_toJson shallow),
    decode?_toJson .direct request shallow]

/-- A response is read back, if it nests no deeper than may be read. -/
theorem Response.ofJson?_toJson {levels : Nat} (response : Response)
    (shallow : response.toJson.depth ≤ levels) : ofJson? levels response.toJson = some response := by
  -- The same check stands in front of a response.
  rw [ofJson?, if_pos (isWhole_of_plain response.plain_toJson shallow),
    decode?_toJson .direct response shallow]

/-- An outcome is plain, be it an answer, a status or a failure of the connection. -/
theorem Outcome.plain_toJson (outcome : Outcome) : Plain outcome.toJson := by
  -- Each is a record of one member, named for its sort.
  cases outcome with
  | ok response => exact plain_single response.plain_toJson
  | status code => exact plain_single code.plain_toJson
  | io text => exact plain_single (plain_string text)

/-- An outcome is read back; its sort takes a level. -/
theorem Outcome.ofJson?_toJson {levels : Nat} (outcome : Outcome)
    (shallow : outcome.toJson.depth ≤ levels) : ofJson? levels outcome.toJson = some outcome := by
  cases outcome with
  | ok response =>
    -- The response stands in a record of its own.
    have inside : response.toJson.depth ≤ levels - 1 := by
      simp only [toJson, record, List.map_cons, List.map_nil, depth, membersDepth] at shallow
      omega
    simp [ofJson?, toJson, record, single?, response.ofJson?_toJson inside]
  | status code => simp [ofJson?, toJson, record, single?]
  | io text => simp [ofJson?, toJson, record, single?]

/-- An exchange is as plain as its outcome. -/
theorem Exchange.plain_toJson (exchange : Exchange) : Plain exchange.toJson := by
  simp [toJson, plain_record, exchange.reply.plain_toJson]

/-- An exchange is read back; it takes a level around its outcome. -/
theorem Exchange.ofJson?_toJson {levels : Nat} (exchange : Exchange)
    (shallow : exchange.toJson.depth ≤ levels) : ofJson? levels exchange.toJson = some exchange := by
  -- The record of the exchange has used up a level, so one less is left for the outcome.
  have inside : exchange.reply.toJson.depth ≤ levels - 1 := by
    simp only [toJson, record, List.map_cons, List.map_nil, depth, membersDepth] at shallow
    omega
  simp [ofJson?, toJson, exchange.reply.ofJson?_toJson inside]

namespace Transcript

/-- A transcript is plain, however many exchanges it has. -/
theorem plain_toJson (transcript : Transcript) : Plain transcript.toJson := by
  simp only [toJson, plain_record, List.forall_mem_cons, plain_array, List.forall_mem_map]
  -- Its dialect is a name, and each exchange is plain by itself.
  exact ⟨transcript.dialect.plain_toJson, fun exchange _ => exchange.plain_toJson, by simp⟩

/-- A transcript is read back; it takes two levels around its exchanges. -/
theorem ofJson?_toJson {levels : Nat} (transcript : Transcript)
    (shallow : transcript.toJson.depth ≤ levels) :
    ofJson? levels transcript.toJson = some transcript := by
  have each : list? (Exchange.ofJson? (levels - 2))
      (.array (transcript.exchanges.map Exchange.toJson)) = some transcript.exchanges := by
    refine list?_map fun exchange listed => exchange.ofJson?_toJson ?_
    -- Around an exchange stand the list and the transcript.
    have inside := depth_le_itemsDepth (List.mem_map_of_mem (f := Exchange.toJson) listed)
    simp only [toJson, record, List.map_cons, List.map_nil, depth, membersDepth] at shallow
    omega
  simp [ofJson?, toJson, each]

end Transcript

/-- Whatever is written is read back from its text as it was, with every number of its fields' types,
every text, every field that may be missing, and chains within chains; the text may nest as deep as a
reader goes. -/
theorem readBack_written :
    (∀ request : Request, request.toJson.depth ≤ maxLevels →
      (Json.parse? request.toJson.compact).bind (Request.ofJson? maxLevels) = some request) ∧
    (∀ response : Response, response.toJson.depth ≤ maxLevels →
      (Json.parse? response.toJson.compact).bind (Response.ofJson? maxLevels) = some response) ∧
    (∀ outcome : Outcome, outcome.toJson.depth ≤ maxLevels →
      (Json.parse? outcome.toJson.compact).bind (Outcome.ofJson? maxLevels) = some outcome) ∧
    (∀ exchange : Exchange, exchange.toJson.depth ≤ maxLevels →
      (Json.parse? exchange.toJson.compact).bind (Exchange.ofJson? maxLevels) = some exchange) ∧
    (∀ transcript : Transcript, transcript.toJson.depth ≤ maxLevels →
      Transcript.parse transcript.toJson.compact = .ok transcript) ∧
    (∀ entry : Entry,
      (Json.parse? entry.toJson.compact).bind (Entry.ofJson? .direct) = some entry) ∧
    (∀ file : FileId, (Json.parse? file.toJson.compact).bind FileId.ofJson? = some file) := by
  -- Text and value part here: a plain value is parsed from its text, and each type decodes its
  -- value.
  refine ⟨fun request shallow => ?_, fun response shallow => ?_, fun outcome shallow => ?_,
    fun exchange shallow => ?_, fun transcript shallow => ?_, fun entry => ?_, fun file => ?_⟩
  · rw [parse?_compact request.plain_toJson, Option.bind_some, request.ofJson?_toJson shallow]
  · rw [parse?_compact response.plain_toJson, Option.bind_some, response.ofJson?_toJson shallow]
  · rw [parse?_compact outcome.plain_toJson, Option.bind_some, outcome.ofJson?_toJson shallow]
  · rw [parse?_compact exchange.plain_toJson, Option.bind_some, exchange.ofJson?_toJson shallow]
  · rw [Transcript.parse, parse?_compact transcript.plain_toJson, Option.bind_some,
      transcript.ofJson?_toJson shallow]
  · rw [parse?_compact entry.plain_toJson, Option.bind_some, entry.ofJson?_toJson]
  · rw [parse?_compact file.plain_toJson, Option.bind_some, file.ofJson?_toJson]

/-- A chain within a chain and an answer with a missing body, alone and in a transcript. -/
theorem readBack_chains :
    let request : Request := .chain [.chain [.treeConnect "a\"\n\u0001\\"], .close (.legacy 0xFFFF)]
    let response : Response := .chain [⟨.success, some (.chain [⟨.noMoreFiles, none⟩])⟩]
    let outcome : Outcome := .ok response
    let exchange : Exchange := { expect := "chain", reply := outcome }
    let transcript : Transcript := { dialect := .smb2, exchanges := [exchange, ⟨"", .io "\t"⟩] }
    (request.toJson.depth ≤ maxLevels ∧
      (Json.parse? request.toJson.compact).bind (Request.ofJson? maxLevels) = some request) ∧
    (response.toJson.depth ≤ maxLevels ∧
      (Json.parse? response.toJson.compact).bind (Response.ofJson? maxLevels) = some response) ∧
    (outcome.toJson.depth ≤ maxLevels ∧
      (Json.parse? outcome.toJson.compact).bind (Outcome.ofJson? maxLevels) = some outcome) ∧
    (exchange.toJson.depth ≤ maxLevels ∧
      (Json.parse? exchange.toJson.compact).bind (Exchange.ofJson? maxLevels) = some exchange) ∧
    (transcript.toJson.depth ≤ maxLevels ∧
      Transcript.parse transcript.toJson.compact = .ok transcript) := by
  intro request response outcome exchange transcript
  -- The depth of a fixed value is computed.
  have asked : request.toJson.depth ≤ maxLevels := by decide
  have answered : response.toJson.depth ≤ maxLevels := by decide
  have ended : outcome.toJson.depth ≤ maxLevels := by decide
  have exchanged : exchange.toJson.depth ≤ maxLevels := by decide
  have told : transcript.toJson.depth ≤ maxLevels := by decide
  exact ⟨⟨asked, readBack_written.1 request asked⟩, ⟨answered, readBack_written.2.1 response answered⟩,
    ⟨ended, readBack_written.2.2.1 outcome ended⟩,
    ⟨exchanged, readBack_written.2.2.2.1 exchange exchanged⟩,
    ⟨told, readBack_written.2.2.2.2.1 transcript told⟩⟩

end SmbBrowser
