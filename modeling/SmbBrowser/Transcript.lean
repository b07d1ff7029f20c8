import SmbBrowser.Message

/-! Transcripts: the conversation a server is expected to have, request by request. -/

namespace SmbBrowser

/-- How a scripted request turns out. -/
inductive Outcome where
  /-- The server answers. -/
  | ok (response : Response)
  /-- The server refuses. -/
  | status (code : NtStatus)
  /-- The transport fails. -/
  | io (text : String)
  deriving Inhabited

/-- One scripted request: the kind that must come, and how it turns out. -/
structure Exchange where
  /-- The kind of the request that must come. -/
  expect : String
  /-- How it turns out. -/
  reply : Outcome
  deriving Inhabited

/-- How many entries an answer brings to a listing that goes on. -/
def Response.entryCount : Response → Nat
  | .find page => page.entries.length
  | .queryDirectory page => page.entries.length
  | .serverList page => page.entries.length
  | .shareList page => page.entries.length
  | _ => 0

/-- How much an exchange can still add to a listing: itself, and the entries that it brings. -/
def Exchange.weight (exchange : Exchange) : Nat :=
  match exchange.reply with
  | .ok response => 1 + response.entryCount
  | _ => 1

/-- How much a script can still add to a listing. -/
def scriptWeight : List Exchange → Nat
  | [] => 0
  | exchange :: script => exchange.weight + scriptWeight script

/-- A scripted conversation. -/
structure Transcript where
  /-- The dialect that is spoken. -/
  dialect : Dialect
  /-- The requests in the order they must come in. -/
  exchanges : List Exchange := []

end SmbBrowser
