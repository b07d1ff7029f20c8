import SmbBrowser.Proofs.Session.LiveTree
import SmbBrowser.Proofs.Session.Standing
import SmbBrowser.Workbench.Script

/-!
Playing a script back, request by request: what is taken off the script and what is left of it are
always the script as it was written, and each request is answered with what it took.
-/

namespace SmbBrowser

/-- A request to a scripted server, as it went. -/
structure ScriptCall where
  /-- What was sent. -/
  sent : SentRequest
  /-- The script before the request. -/
  before : List Exchange
  /-- What came of the request. -/
  answer : Except Fault Response
  /-- The script behind the request. -/
  after : List Exchange

namespace ScriptCall

/-- How a request to a server goes. -/
def ofSent (server : Playback) (sent : SentRequest) : ScriptCall :=
  let outcome := server.exchange sent.tid sent.request sent.delivery sent.scratch
  { sent, before := server.script, answer := outcome.1.1, after := outcome.2.script }

/-- What a request took off the front of the script. -/
def taken (call : ScriptCall) : List Exchange :=
  call.before.take (call.before.length - call.after.length)

variable {call : ScriptCall}

end ScriptCall

namespace Playback

variable (server : Playback) (sent : SentRequest)

end Playback

namespace ScriptBench

/-- How a request went, if the step sends one. -/
def call? (bench : ScriptBench) : ScriptStep → Option ScriptCall
  | .send tid request delivery scratch => some (.ofSent bench.server { tid, request, delivery, scratch })
  | _ => none

/-- How the requests went that were sent in some steps. -/
def calls : List ScriptStep → ScriptBench → List ScriptCall
  | [], _ => []
  | step :: steps, bench => (bench.call? step).toList ++ calls steps (bench.step step).2

variable (bench : ScriptBench)

end ScriptBench

end SmbBrowser
