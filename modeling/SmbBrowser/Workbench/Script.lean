import SmbBrowser.Transcript.Playback

/-! Working with a scripted server by hand: writing its script, and sending it requests. -/

namespace SmbBrowser

/-- A scripted server and what happened to it. -/
structure ScriptBench where
  /-- The server. -/
  server : Playback
  /-- What happened so far. -/
  log : Array Event := #[]

/-- What can be done with a scripted server. -/
inductive ScriptStep where
  /-- Adds to the script. -/
  | expect (exchange : Exchange)
  /-- Sends a request. -/
  | send (tid : Option TreeId) (request : Request) (delivery : Delivery) (scratch : Nat)
  /-- Counts the requests of a kind. -/
  | count (kind : String)

/-- What comes of it. -/
inductive ScriptAnswer where
  /-- It is done. -/
  | done
  /-- The server's answer. -/
  | answered (answer : Except Fault Response)
  /-- How many there were. -/
  | counted (count : Nat)

/-- Does one thing. -/
def ScriptBench.step (bench : ScriptBench) : ScriptStep → ScriptAnswer × ScriptBench
  | .expect exchange => (.done, { bench with server := bench.server.expect exchange })
  | .send tid request delivery scratch =>
    let ((answer, event), server) := bench.server.exchange tid request delivery scratch
    (.answered answer, { server, log := bench.log.push event })
  | .count kind => (.counted (bench.server.count kind), bench)

/-- The bench behind some steps, taken one after the other. -/
def ScriptBench.run (steps : List ScriptStep) (bench : ScriptBench) : ScriptBench :=
  steps.foldl (fun bench step => (bench.step step).2) bench

end SmbBrowser
