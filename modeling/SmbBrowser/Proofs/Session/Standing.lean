import SmbBrowser.Proofs.Session.Tables

/-!
A session on the first tree that it connected, while the connection holds. What was asked, what is
still scripted and who holds the tree tells what each further use of such a session comes to.
-/

namespace SmbBrowser

/-- What the other side was asked so far: on which tree, what, and how it was to be delivered. -/
def Session.asked (session : Session) : List (Option TreeId × Request × Delivery) :=
  session.server.sent.toList.map fun sent => (sent.tid, sent.request, sent.delivery)

/-- The handle on the first tree of a session. -/
def Handle.first (traced : Bool) (refs keepers : Nat) : Handle ConnectedTree :=
  { resource := { tid := ⟨1⟩, generation := 1, epoch := 0 }
    refs
    generation := some 1
    traced
    keepers }

/-- The handle on a file that was opened on the first tree. -/
def Handle.opened (traced : Bool) (file : OpenFile) : Handle OpenFile :=
  { resource := file, generation := some 1, traced }

/-- What there is to tell of a session on its first tree. -/
structure Standing where
  /-- The references to the tree. -/
  refs : Nat := 1
  /-- The places that know the tree. -/
  keepers : Nat := 1
  /-- The files. -/
  files : Array (Handle OpenFile) := #[]
  /-- What was asked. -/
  asked : List (Option TreeId × Request × Delivery)
  /-- What is still scripted. -/
  script : List Exchange

/-- One more request on the tree, and what is scripted behind it. -/
def Standing.ask (standing : Standing) (request : Request) (delivery : Delivery)
    (script : List Exchange) : Standing :=
  { standing with asked := standing.asked ++ [(some ⟨1⟩, request, delivery)], script }

/-- A session on its first tree. -/
structure Stands (session : Session) (standing : Standing) : Prop where
  trees : ∃ traced, session.trees = #[Handle.first traced standing.refs standing.keepers]
  files : session.files = standing.files
  current : session.current = some ⟨0⟩
  link : session.link = ⟨1, true⟩
  resets : session.resets = 0
  asked : session.asked = standing.asked
  script : session.server.script = standing.script

/-- A request that the script expects takes the front of the script. -/
theorem Playback.exchange_expected {server : Playback} {tid : Option TreeId} {request : Request}
    {delivery : Delivery} {scratch : Nat} {reply : Outcome} {rest : List Exchange}
    (front : server.script = ⟨request.kind, reply⟩ :: rest) :
    server.exchange tid request delivery scratch =
      ((result reply, .exchanged request.kind tid),
        { server with
          script := rest
          sent := server.sent.push { tid, request, delivery, scratch } }) := by
  -- The kinds are the same, which is all that the server compares.
  simp only [exchange, front, if_true]

/-- The front of the script is for requests of this kind, or nothing there is. -/
theorem Playback.front_cases (server : Playback) (request : Request) :
    (∃ reply rest, server.script = ⟨request.kind, reply⟩ :: rest) ∨
      ∀ next ∈ server.script.head?, next.expect ≠ request.kind := by
  -- An empty script has no front that could be for this kind.
  cases server.script with
  | nil => exact .inr (by simp)
  | cons next rest =>
    obtain ⟨expect, reply⟩ := next
    by_cases expected : expect = request.kind
    · exact .inl ⟨reply, rest, by rw [expected]⟩
    · exact .inr (by simpa using expected)

/-- A request that the script does not expect now leaves the script alone. -/
theorem Playback.exchange_unexpected (server : Playback) (tid : Option TreeId) (request : Request)
    (delivery : Delivery) (scratch : Nat)
    (other : ∀ next ∈ server.script.head?, next.expect ≠ request.kind) :
    server.exchange tid request delivery scratch =
      unscripted { server with sent := server.sent.push { tid, request, delivery, scratch } }
        request tid := by
  unfold exchange
  -- With nothing left, or something else next, the script is not consulted.
  cases front : server.script with
  | nil => rfl
  | cons next rest =>
    have different : next.expect ≠ request.kind := other next (by simp [front])
    simp only [if_neg different]

/-- A request that is not scripted leaves the script as it is. -/
theorem Playback.script_unscripted (server : Playback) (request : Request) (tid : Option TreeId) :
    (server.unscripted request tid).2.script = server.script := by
  unfold unscripted
  -- Tree requests are answered without the script, and all others fail.
  split
  · rfl
  · rfl
  · split <;> rfl

/-- An exchange over which the connection holds changes nothing but the two sides' records. -/
theorem Session.exchange_kept {session : Session} {tid : Option TreeId} {request : Request}
    {delivery : Delivery} {answer : Except Fault Response} {event : Event} {server : Playback}
    (answered : session.server.exchange tid request delivery session.pool.take.1.size =
      ((answer, event), server))
    (keeps : ∀ fault, answer = .error fault → fault.losesConnection = false) :
    ∃ pool log passages, session.exchange tid request delivery =
      (answer, { session with pool, server, log, passages }) := by
  -- The connection is given up for a transport failure and for the statuses that say so.
  have heeded (session : Session) : session.heed request answer = session := by
    unfold heed
    split
    · have lost := keeps _ rfl
      simp [Fault.losesConnection] at lost
    · have holds := keeps _ rfl
      simp only [Fault.losesConnection] at holds
      simp [holds]
    · rfl
  unfold exchange
  simp only [answered, heeded]
  exact ⟨_, _, _, rfl⟩

/-- The first tree is given back to the server on the connection that it was connected on. -/
theorem Session.disconnect_first {session : Session} (generation : session.generation = 1)
    (kept : session.resets = 0)
    (other : ∀ next ∈ session.server.script.head?, next.expect ≠ "tree_disconnect") :
    ∃ after, disconnect { tid := ⟨1⟩, generation := 1, epoch := 0 } session = (.ok (), after) ∧
      after.asked = session.asked ++ [(some ⟨1⟩, .treeDisconnect, .cleanup)] ∧
      after.server.script = session.server.script ∧ after.current = none := by
  -- Giving a tree back is answered well when nothing is scripted for it.
  have unscripted := session.server.exchange_unexpected (some ⟨1⟩) .treeDisconnect .cleanup
    session.pool.take.1.size other
  obtain ⟨pool, log, passages, exchanged⟩ := exchange_kept unscripted (by simp)
  simp only [disconnect, kept, if_true, exchanged, detach, generation]
  refine ⟨_, rfl, ?_, rfl, rfl⟩
  simp [asked, note]

namespace Stands

variable {session : Session} {standing : Standing}

/-- What is written down does not matter. -/
theorem written (stands : Stands session standing) (log : Array Event) (hooks : Array HookCall) :
    Stands { session with log, hooks } standing :=
  -- Nothing that is told of the session stands in the log or among the hooks.
  ⟨stands.trees, stands.files, stands.current, stands.link, stands.resets, stands.asked,
    stands.script⟩

/-- Writing an event down leaves a session on its first tree. -/
theorem note (stands : Stands session standing) (event : Event) :
    Stands (session.note event) standing :=
  -- It is logged, and nothing else.
  stands.written _ session.hooks

/-- Writing events down leaves a session on its first tree. -/
theorem noteAll (stands : Stands session standing) (events : List Event) :
    Stands (session.noteAll events) standing :=
  -- They are logged, and nothing else.
  stands.written _ session.hooks

/-- Writing down the call of a listing leaves a session on its first tree. -/
theorem noteHook (stands : Stands session standing) (listing : String) (hook : Hook) :
    Stands (session.noteHook listing hook) standing :=
  -- It is put among the hooks, and nothing else.
  stands.written session.log _

/-- The tree of the session is there. -/
theorem tree?_eq (stands : Stands session standing) :
    ∃ traced, session.tree? ⟨0⟩ = some (Handle.first traced standing.refs standing.keepers) := by
  -- The table of trees has this one handle.
  obtain ⟨traced, trees⟩ := stands.trees
  exact ⟨traced, by simp [Session.tree?, trees]⟩

/-- The tree is valid while somebody holds it. -/
theorem isTreeValid (stands : Stands session standing) (held : 0 < standing.refs) :
    session.isTreeValid ⟨0⟩ = true := by
  -- It is open because it is held, and of the generation of the link.
  obtain ⟨traced, found⟩ := stands.tree?_eq
  have some : standing.refs ≠ 0 := by omega
  simp [Session.isTreeValid, found, Handle.isValid, Handle.first, stands.link, some]

/-- An answered request is recorded, and takes its answer off the script. -/
theorem exchange (stands : Stands session standing) (request : Request) (delivery : Delivery)
    {reply : Outcome} {rest : List Exchange}
    (front : standing.script = ⟨request.kind, reply⟩ :: rest)
    (keeps : ∀ fault, Playback.result reply = .error fault → fault.losesConnection = false) :
    ∃ after, session.exchange (some ⟨1⟩) request delivery = (Playback.result reply, after) ∧
      Stands after (standing.ask request delivery rest) := by
  obtain ⟨pool, log, passages, exchanged⟩ := Session.exchange_kept
    (Playback.exchange_expected (stands.script.trans front)) keeps
  refine ⟨_, exchanged, stands.trees, stands.files, stands.current, stands.link, stands.resets,
    ?_, rfl⟩
  -- The request comes last in the record.
  simp only [Session.asked, Standing.ask, Array.toList_push, List.map_append, List.map_cons,
    List.map_nil]
  rw [← stands.asked]
  rfl

/-- A request on the tree is sent while somebody holds the tree. -/
theorem send (stands : Stands session standing) (held : 0 < standing.refs) (request : Request)
    (delivery : Delivery) {reply : Outcome} {rest : List Exchange}
    (front : standing.script = ⟨request.kind, reply⟩ :: rest)
    (keeps : ∀ fault, Playback.result reply = .error fault → fault.losesConnection = false) :
    ∃ after, session.send ⟨0⟩ request delivery = (Playback.result reply, after) ∧
      Stands after (standing.ask request delivery rest) := by
  obtain ⟨traced, found⟩ := stands.tree?_eq
  obtain ⟨after, exchanged, still⟩ := stands.exchange request delivery front keeps
  refine ⟨after, ?_, still⟩
  have some : standing.refs ≠ 0 := by omega
  -- The handle lets the request through because it is open and valid.
  have usable : (Handle.first traced standing.refs standing.keepers).ensureValid session.link =
      .ok () := by
    simp [Handle.ensureValid, Handle.isValid, Handle.first, stands.link, some]
  simp only [Session.send, found, usable]
  exact exchanged

/-- A session that has not connected yet connects its first tree unless the script says otherwise. -/
theorem acquire_new (settings : Settings) (transcript : Transcript) (sharePath oemDomain : String)
    (other : ∀ next ∈ transcript.exchanges.head?, next.expect ≠ "tree_connect") :
    ∃ held,
      (Session.new settings (.ofTranscript transcript) sharePath oemDomain).acquire =
        (.ok ⟨0⟩, held) ∧
      Stands held
        { asked := [(none, .treeConnect sharePath, .plain)], script := transcript.exchanges } := by
  let fresh := Session.new settings (.ofTranscript transcript) sharePath oemDomain
  have unscripted := fresh.server.exchange_unexpected none (.treeConnect sharePath) .plain
    fresh.pool.take.1.size other
  obtain ⟨pool, log, passages, exchanged⟩ := Session.exchange_kept unscripted (by simp)
  -- There is no tree yet that could be shared.
  have connects : fresh.acquire = fresh.connect := rfl
  have share : fresh.sharePath = sharePath := rfl
  change ∃ held, fresh.acquire = _ ∧ _
  simp only [connects, Session.connect, share, exchanged]
  exact ⟨_, rfl, ⟨settings.traceResourceUsage, rfl⟩, rfl, rfl, rfl, rfl, rfl, rfl⟩

/-- A change of the handle on the tree changes who holds and knows the tree. -/
theorem modifyTree (stands : Stands session standing) (refs keepers : Nat)
    {change : Handle ConnectedTree → Handle ConnectedTree}
    (changed : ∀ traced, change (.first traced standing.refs standing.keepers) =
      .first traced refs keepers) :
    Stands { session with trees := session.trees.modify 0 change }
      { standing with refs, keepers } := by
  obtain ⟨traced, trees⟩ := stands.trees
  refine ⟨⟨traced, ?_⟩, stands.files, stands.current, stands.link, stands.resets, stands.asked,
    stands.script⟩
  -- The handle is the only one in the table.
  simp only [trees, ← changed traced]
  rfl

/-- A file that the server has opened is adopted, and is one more holder of the tree. -/
theorem adoptFile (stands : Stands session standing) (fid : FileId) (path : String)
    (mode : OpenMode) :
    ∃ traced after, session.adoptFile ⟨0⟩ fid path mode = (.ok ⟨standing.files.size⟩, after) ∧
      Stands after { standing with
        refs := standing.refs + 1
        keepers := standing.keepers + 1
        files := standing.files.push (.opened traced { tree := ⟨0⟩, fid, path, mode }) } := by
  obtain ⟨traced, found⟩ := stands.tree?_eq
  -- The tree is open, so that it can be shared.
  have taken : session.acquireTree ⟨0⟩ =
      (.ok (), { session with trees := session.trees.modify 0 Handle.shared }) := by
    rw [← Table.setIfInBounds_eq_modify Handle.shared found]
    simp [Session.acquireTree, found, Handle.acquire, Handle.first, Session.putTree, Handle.shared]
  have shared := stands.modifyTree (standing.refs + 1) (standing.keepers + 1)
    fun traced => (rfl : (Handle.first traced standing.refs standing.keepers).shared = _)
  have generation : session.generation = 1 := congrArg Link.generation stands.link
  -- The handle is made on the connection of the tree.
  have adopted : session.adoptFile ⟨0⟩ fid path mode =
      (.ok ⟨standing.files.size⟩,
        { session with
          trees := session.trees.modify 0 Handle.shared
          log := session.log.push (.fileOpened path fid)
          files := standing.files.push
            (.opened session.settings.traceResourceUsage { tree := ⟨0⟩, fid, path, mode }) }) := by
    simp only [Session.adoptFile, taken, ← stands.files, Session.note, Handle.opened, generation]
  exact ⟨_, _, adopted, shared.trees, rfl, shared.current, shared.link, shared.resets,
    shared.asked, shared.script⟩

/-- A reference to the tree that is not the last one is given back. -/
theorem releaseTree (stands : Stands session standing) (more : 1 < standing.refs) :
    ∃ after, session.releaseTree ⟨0⟩ = (.ok (), after) ∧
      Stands after { standing with refs := standing.refs - 1 } := by
  obtain ⟨traced, found⟩ := stands.tree?_eq
  have held : standing.refs ≠ 0 := by omega
  have others : standing.refs ≠ 1 := by omega
  -- With another reference left the handle is only counted down.
  have released (traced : Bool) : (Handle.first traced standing.refs standing.keepers).released =
      .first traced (standing.refs - 1) standing.keepers := by
    simp [Handle.released, Handle.first, others]
  have counted := stands.modifyTree _ _ released
  rw [← Table.setIfInBounds_eq_modify Handle.released found] at counted
  refine ⟨_, ?_, counted⟩
  simp [Session.releaseTree, found, Handle.release, Handle.first, Session.treeHome,
    Session.putTree, Handle.released, held, others]

/-- One place fewer that knows the tree. -/
theorem forgetTree (stands : Stands session standing) :
    Stands (session.forgetTree ⟨0⟩) { standing with keepers := standing.keepers - 1 } := by
  -- The log may be written to, which does not matter.
  obtain ⟨log, forgotten⟩ := session.forgetTree_eq ⟨0⟩
  rw [forgotten]
  exact (stands.modifyTree _ _ fun _ => rfl).written log session.hooks

/-- The last release of a file on the tree closes it, and gives its reference to the tree back. -/
theorem releaseFile (stands : Stands session standing) (shared : 1 < standing.refs)
    (file : FileRef) {traced : Bool} {opened : OpenFile} (onTree : opened.tree = ⟨0⟩)
    (found : standing.files[file.index]? = some (.opened traced opened))
    {response : Response} {rest : List Exchange}
    (front : standing.script = ⟨"close", .ok response⟩ :: rest) :
    ∃ after, session.releaseFile file = (.ok (), after) ∧
      Stands after { standing.ask (.close opened.fid) .cleanup rest with
        refs := standing.refs - 1
        files := standing.files.modify file.index Handle.released } := by
  have place : session.file? file = some (.opened traced opened) := by
    rw [← found, ← stands.files]
    rfl
  -- The handle is closed before the server is asked.
  have closing : Stands
      (((Session.fileHome file).put (Handle.opened traced opened).released session).note
        (.handleClosing (Session.describeFile opened)))
      { standing with files := standing.files.modify file.index Handle.released } := by
    have files := Table.setIfInBounds_eq_modify Handle.released found
    rw [← stands.files] at files
    exact ⟨stands.trees, by rw [← stands.files, ← files]; rfl, stands.current, stands.link,
      stands.resets, stands.asked, stands.script⟩
  obtain ⟨asked, sent, after⟩ := closing.send (by simp only; omega) (.close opened.fid) .cleanup
    front (by simp [Playback.result])
  obtain ⟨freed, released, last⟩ := after.releaseTree (by simpa [Standing.ask] using shared)
  have valid := closing.isTreeValid (by simp only; omega)
  have closed : Session.closeFile opened
      (((Session.fileHome file).put (Handle.opened traced opened).released session).note
        (.handleClosing (Session.describeFile opened))) = (.ok (), freed) := by
    simp only [Session.closeFile, onTree, valid, if_true, sent, Playback.result, released]
    rfl
  refine ⟨freed, ?_, last⟩
  simp only [Session.releaseFile, place]
  exact closed

/-- The last place that knew a file on the tree knows the tree no more either. -/
theorem forgetFile (stands : Stands session standing) (file : FileRef) {handle : Handle OpenFile}
    (onTree : handle.resource.tree = ⟨0⟩) (last : handle.keepers = 1)
    (found : standing.files[file.index]? = some handle) :
    Stands (session.forgetFile file) { standing with
      keepers := standing.keepers - 1
      files := standing.files.modify file.index Handle.forget } := by
  have place : session.file? file = some handle := by
    rw [← found, ← stands.files]
    rfl
  obtain ⟨log, forgotten⟩ := Session.forgetFile_eq place
  -- The tree is forgotten with the last place that knew the file.
  have counted := stands.modifyTree standing.refs (standing.keepers - 1)
    fun traced => (rfl : (Handle.first traced standing.refs standing.keepers).forget = _)
  rw [forgotten, if_pos (by omega), onTree]
  exact ⟨counted.trees, congrArg (·.modify file.index Handle.forget) stands.files,
    counted.current, counted.link, counted.resets, counted.asked, counted.script⟩

/-- The last reference to the tree gives the tree back to the server, and nobody shares it then. -/
theorem leave (stands : Stands session standing) (last : standing.refs = 1)
    (other : ∀ next ∈ standing.script.head?, next.expect ≠ "tree_disconnect") :
    ∃ after, session.releaseTree ⟨0⟩ = (.ok (), after) ∧
      after.asked = standing.asked ++ [(some ⟨1⟩, .treeDisconnect, .cleanup)] ∧
      after.server.script = standing.script ∧ after.current = none := by
  obtain ⟨traced, found⟩ := stands.tree?_eq
  -- The handle is closed before the server is asked.
  let handle := Handle.first traced standing.refs standing.keepers
  let closing := ((Session.treeHome ⟨0⟩).put { handle with refs := 0, closed := true } session).note
    (.handleClosing (session.describeTree handle.resource))
  have generation : closing.generation = 1 := congrArg Link.generation stands.link
  obtain ⟨after, disconnected, asked, script, current⟩ :=
    Session.disconnect_first generation stands.resets
      (fun next front => other next (by rw [← stands.script]; exact front))
  refine ⟨after, ?_, ?_, script.trans stands.script, current⟩
  · simp only [Session.releaseTree, found, Handle.release, Handle.first, last]
    exact disconnected
  · rw [asked, ← stands.asked]
    rfl

end Stands

end SmbBrowser
