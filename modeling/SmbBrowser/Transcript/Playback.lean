import SmbBrowser.Event
import SmbBrowser.Transcript

/-!
Playing a transcript back: each request takes the next scripted outcome, and tree connects and
disconnects that the transcript does not mention are answered on their own.
-/

namespace SmbBrowser

/-- A request as it was sent. -/
structure SentRequest where
  /-- The tree it was sent on, if any. -/
  tid : Option TreeId
  /-- The request. -/
  request : Request
  /-- How it was to be delivered. -/
  delivery : Delivery
  /-- The size of the scratch buffer that came with it. -/
  scratch : Nat

/-- A server that follows a script. -/
structure Playback where
  /-- The dialect it speaks. -/
  dialect : Dialect
  /-- What is still to come. -/
  script : List Exchange := []
  /-- What was sent, in order. -/
  sent : Array SentRequest := #[]
  /-- The number of the next tree that is connected without a script. -/
  nextTree : UInt32 := 1

namespace Playback

/-- A server that follows a transcript. -/
def ofTranscript (transcript : Transcript) : Playback :=
  { dialect := transcript.dialect, script := transcript.exchanges }

/-- The same server with one more exchange at the end of its script. -/
def expect (server : Playback) (exchange : Exchange) : Playback :=
  { server with script := server.script ++ [exchange] }

/-- How many exchanges are still to come. -/
def remaining (server : Playback) : Nat := server.script.length

/-- The kinds of the requests sent, in order. -/
def sentKinds (server : Playback) : List String := server.sent.toList.map (·.request.kind)

/-- How many requests of a kind were sent. -/
def count (server : Playback) (kind : String) : Nat :=
  server.sent.countP (·.request.kind = kind)

/-- An outcome as the sender of the request sees it. -/
def result : Outcome → Except Fault Response
  | .ok response => .ok response
  | .status code => .error (.status code)
  | .io text => .error (.io text)

/-- What a request gives that the script does not expect now. -/
def unscripted (server : Playback) (request : Request) (tid : Option TreeId) :
    (Except Fault Response × Event) × Playback :=
  match request with
  | .treeConnect _ =>
    ((.ok (.treeConnect ⟨server.nextTree⟩), .exchanged request.kind tid),
      { server with nextTree := server.nextTree + 1 })
  | .treeDisconnect => ((.ok .empty, .exchanged request.kind tid), server)
  | _ =>
    match server.script with
    | [] =>
      ((.error (.protocol "transcript exhausted"), .transcriptExhausted request.kind), server)
    | exchange :: _ =>
      -- The exchange stays in place, for the request that it waits for.
      ((.error (.protocol "request does not match transcript"),
        .exchangeMismatch exchange.expect request.kind), server)

/-- Sends a request: it is recorded, answered, and an event tells how. -/
def exchange (server : Playback) (tid : Option TreeId) (request : Request) (delivery : Delivery)
    (scratch : Nat) : (Except Fault Response × Event) × Playback :=
  let server := { server with sent := server.sent.push { tid, request, delivery, scratch } }
  match server.script with
  | [] => server.unscripted request tid
  | next :: script =>
    if next.expect = request.kind then
      ((result next.reply, .exchanged request.kind tid), { server with script })
    else server.unscripted request tid

end Playback

end SmbBrowser
