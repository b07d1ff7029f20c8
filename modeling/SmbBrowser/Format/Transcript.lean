import SmbBrowser.Fault
import SmbBrowser.Format.Message
import SmbBrowser.Transcript

/-! Transcripts in JSON. -/

namespace SmbBrowser

/-- How deep the containers of a JSON text may nest. -/
def maxLevels : Nat := 127

/-- An outcome is written under the name of its sort. -/
def Outcome.toJson : Outcome → Json
  | .ok response => .record [("ok", response.toJson)]
  | .status code => .record [("status", code.toJson)]
  | .io text => .record [("io", .string text)]

/-- The outcome a value spells; the value may nest at most `levels` deep. -/
def Outcome.ofJson? (levels : Nat) (json : Json) : Option Outcome := do
  match ← json.single? with
  | ("ok", response) => (Response.ofJson? (levels - 1) response).map .ok
  | ("status", code) => (NtStatus.ofJson? code).map .status
  | ("io", text) => text.string?.map .io
  | _ => none

/-- An exchange is written with both of its fields. -/
def Exchange.toJson (exchange : Exchange) : Json :=
  .record [("expect", .string exchange.expect), ("reply", exchange.reply.toJson)]

/-- The exchange a value spells; the value may nest at most `levels` deep. -/
def Exchange.ofJson? (levels : Nat) (json : Json) : Option Exchange := do
  let fields ← json.fields? ["expect", "reply"]
  return {
    expect := ← fields.required "expect" Json.string?
    reply := ← fields.required "reply" (Outcome.ofJson? (levels - 1)) }

namespace Transcript

/-- A transcript is written with both of its fields. -/
def toJson (transcript : Transcript) : Json :=
  .record
    [("dialect", transcript.dialect.toJson),
      ("exchanges", .array (transcript.exchanges.map Exchange.toJson))]

/-- A transcript needs a dialect; without exchanges it is empty. -/
def ofJson? (levels : Nat) (json : Json) : Option Transcript := do
  let fields ← json.fields? ["dialect", "exchanges"]
  return {
    dialect := ← fields.required "dialect" Dialect.ofJson?
    -- The list of exchanges takes a level, and so does the transcript around it.
    exchanges := ← fields.defaulted "exchanges" [] (Json.list? (Exchange.ofJson? (levels - 2))) }

/-- The transcript a text spells. -/
def parse (text : String) : Except Fault Transcript :=
  match (Json.parse? text).bind (ofJson? maxLevels) with
  | some transcript => .ok transcript
  | none => .error (.invalid "bad transcript")

end Transcript

end SmbBrowser
