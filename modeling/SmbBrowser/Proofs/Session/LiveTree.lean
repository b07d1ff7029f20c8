import SmbBrowser.Proofs.Session.Keepers

/-!
Live trees: a request on a tree is only ever sent while that tree is the one connected last, and
neither given back nor lost since. The invariant ties the handles to what passed between the sides.
-/

namespace SmbBrowser

/-- A request that connects a tree. -/
def Request.isTreeConnect : Request → Bool
  | .treeConnect _ => true
  | _ => false

/-- A request that gives a tree back. -/
def Request.isTreeDisconnect : Request → Bool
  | .treeDisconnect => true
  | _ => false

namespace Passage

/-- The request that was sent. -/
def sent? : Passage → Option SentRequest
  | .asked sent _ => some sent
  | .lost => none

/-- The tree that was connected. -/
def connected? : Passage → Option TreeId
  | .asked sent (.ok (.treeConnect tid)) => if sent.request.isTreeConnect then some tid else none
  | _ => none

/-- The connection was given up, or the exchange lost it. -/
def loses : Passage → Bool
  | .asked _ (.error fault) => fault.losesConnection
  | .asked _ (.ok _) => false
  | .lost => true

/-- A tree was given back, whatever the server said to that. -/
def disconnects : Passage → Bool
  | .asked sent _ => sent.request.isTreeDisconnect
  | .lost => false

/-- Whatever tree was connected before is still the one connected last, and was not given back. -/
def spares (passage : Passage) : Prop :=
  passage.connected? = none ∧ passage.loses = false ∧ passage.disconnects = false

end Passage

/-- The requests that were sent, in order. -/
def requestsOf (passages : List Passage) : List SentRequest := passages.filterMap Passage.sent?

/-- A request that was sent comes last. -/
@[simp]
theorem requestsOf_asked (passages : List Passage) (sent : SentRequest)
    (answer : Except Fault Response) :
    requestsOf (passages ++ [.asked sent answer]) = requestsOf passages ++ [sent] := by
  -- The last passage is a request, and goes behind the others.
  simp [requestsOf, List.filterMap_append, Passage.sent?]

/-- A loss is no request. -/
@[simp]
theorem requestsOf_lost (passages : List Passage) :
    requestsOf (passages ++ [.lost]) = requestsOf passages := by
  -- The last passage is passed over.
  simp [requestsOf, List.filterMap_append, List.filterMap_cons, Passage.sent?]

/-- The tree that was connected last, and neither given back nor lost since. -/
def LiveTree (passages : List Passage) (tid : TreeId) : Prop :=
  ∃ before connecting after, passages = before ++ connecting :: after ∧
    connecting.connected? = some tid ∧ ∀ passage ∈ after, passage.spares

namespace LiveTree

/-- A tree that is just connected is live. -/
theorem connected {passage : Passage} {tid : TreeId} (passages : List Passage)
    (connects : passage.connected? = some tid) : LiveTree (passages ++ [passage]) tid :=
  -- Nothing came behind the connecting yet.
  ⟨passages, passage, [], rfl, connects, by simp⟩

/-- A tree that is spared stays live. -/
theorem spared {passages : List Passage} {passage : Passage} {tid : TreeId}
    (live : LiveTree passages tid) (spares : passage.spares) :
    LiveTree (passages ++ [passage]) tid := by
  obtain ⟨before, connecting, after, rfl, connects, spared⟩ := live
  refine ⟨before, connecting, after ++ [passage], by simp, connects, ?_⟩
  intro later listed
  -- The passage that came last spares the tree as those before it.
  rcases List.mem_append.mp listed with early | last
  · exact spared later early
  · rw [List.mem_singleton.mp last]
    exact spares

end LiveTree

/-- Every request but those that connect a tree is sent on the tree that is live by then. -/
def AsksLiveTrees (passages : List Passage) : Prop :=
  ∀ before sent answer after, passages = before ++ .asked sent answer :: after →
    sent.request.isTreeConnect = false → ∃ tid, sent.tid = some tid ∧ LiveTree before tid

/-- A passage that comes last matters to none before it. -/
theorem AsksLiveTrees.push {passages : List Passage} {passage : Passage}
    (asks : AsksLiveTrees passages)
    (last : ∀ sent answer, passage = .asked sent answer → sent.request.isTreeConnect = false →
      ∃ tid, sent.tid = some tid ∧ LiveTree passages tid) :
    AsksLiveTrees (passages ++ [passage]) := by
  intro before sent answer after split plain
  -- The request that is looked at is the last passage, or was there before.
  rcases List.eq_nil_or_concat' after with rfl | ⟨early, final, rfl⟩
  · obtain ⟨rfl, same⟩ := List.append_inj' split rfl
    exact last sent answer (List.singleton_inj.mp same) plain
  · have regrouped :
        passages ++ [passage] = (before ++ .asked sent answer :: early) ++ [final] := by
      simpa using split
    obtain ⟨same, _⟩ := List.append_inj' regrouped rfl
    exact asks before sent answer early same plain

/-- Losing the connection asks nothing. -/
theorem AsksLiveTrees.lose {passages : List Passage} (asks : AsksLiveTrees passages) :
    AsksLiveTrees (passages ++ [.lost]) :=
  -- What comes last is no request.
  asks.push (by simp)

/-- A request that connects a tree, or is sent on the live one, may follow. -/
theorem AsksLiveTrees.ask {passages : List Passage} (asks : AsksLiveTrees passages)
    (sent : SentRequest) (answer : Except Fault Response)
    (addressed : sent.request.isTreeConnect = false →
      ∃ tid, sent.tid = some tid ∧ LiveTree passages tid) :
    AsksLiveTrees (passages ++ [.asked sent answer]) := by
  refine asks.push fun other _ same plain => ?_
  -- The only request that comes in addition is the one that is asked.
  simp only [Passage.asked.injEq] at same
  obtain ⟨rfl, _⟩ := same
  exact addressed plain

/-- A server records what it is asked. -/
theorem Playback.sent_exchange (server : Playback) (tid : Option TreeId) (request : Request)
    (delivery : Delivery) (scratch : Nat) :
    (server.exchange tid request delivery scratch).2.sent =
      server.sent.push { tid, request, delivery, scratch } := by
  -- Answers that are not scripted leave the record as it is by then.
  have kept (server : Playback) : (server.unscripted request tid).2.sent = server.sent := by
    unfold unscripted
    split
    · rfl
    · rfl
    · split <;> rfl
  unfold exchange
  simp only
  split
  · exact kept _
  · split
    · rfl
    · exact kept _

namespace Session

/-- The server's record ends with what was sent, and with the size of the buffer that was lent. -/
theorem sent_exchange (session : Session) (tid : Option TreeId) (request : Request)
    (delivery : Delivery) :
    (session.exchange tid request delivery).2.server.sent =
      session.server.sent.push { tid, request, delivery, scratch := session.pool.take.1.size } := by
  -- Neither heeding the answer nor writing it down reaches the server.
  simp only [exchange, server_heed, note, pass]
  exact session.server.sent_exchange tid request delivery session.pool.take.1.size

/-- Giving a tree back asks the server once or not at all, and does nothing else to the server or to
the pool. -/
theorem disconnect_asks (tree : ConnectedTree) (session : Session) :
    ∃ asked, (asked = (session.exchange (some tree.tid) .treeDisconnect .cleanup).2 ∨
        asked = session) ∧
      (disconnect tree session).2.server = asked.server ∧
      (disconnect tree session).2.pool = asked.pool := by
  have detached (session : Session) : (session.detach tree.generation).server = session.server ∧
      (session.detach tree.generation).pool = session.pool := by
    unfold detach
    split <;> exact ⟨rfl, rfl⟩
  simp only [disconnect]
  -- A tree of a lost connection is only written about.
  split
  · exact ⟨_, .inl rfl, detached _⟩
  · exact ⟨session, .inr rfl, detached _⟩

/-- Losing the connection is counted and recorded, and may be logged. -/
theorem invalidate_eq (session : Session) :
    ∃ log, session.invalidate = { session with
      log
      resets := session.resets + 1
      connected := false
      passages := session.passages.push .lost } := by
  unfold invalidate
  simp only
  -- The loss is only logged if the connection was up.
  split
  · exact ⟨_, rfl⟩
  · exact ⟨session.log, rfl⟩

/-- Sending a request is recorded on both sides; losing the connection is recorded as well. -/
theorem exchange_cases (session : Session) (tid : Option TreeId) (request : Request)
    (delivery : Delivery) :
    ∃ pool server log sent, sent.tid = tid ∧ sent.request = request ∧ sent.delivery = delivery ∧
      server.sent = session.server.sent.push sent ∧
      ((Passage.asked sent (session.exchange tid request delivery).1).loses = false ∧
          (session.exchange tid request delivery).2 = { session with
            pool, server, log
            passages := session.passages.push
              (.asked sent (session.exchange tid request delivery).1) } ∨
        (Passage.asked sent (session.exchange tid request delivery).1).loses = true ∧
          (session.exchange tid request delivery).2 = { session with
            pool, server, log
            resets := session.resets + 1
            connected := false
            passages := (session.passages.push
              (.asked sent (session.exchange tid request delivery).1)).push .lost }) := by
  -- What an answer says about the connection decides whether it is lost.
  have heeded (session : Session) (answer : Except Fault Response) (sent : SentRequest) :
      (Passage.asked sent answer).loses = false ∧ session.heed request answer = session ∨
        (Passage.asked sent answer).loses = true ∧ ∃ log, session.heed request answer =
          { session with
            log
            resets := session.resets + 1
            connected := false
            passages := session.passages.push .lost } := by
    unfold heed
    split
    · exact .inr ⟨rfl, invalidate_eq _⟩
    · rename_i status
      split
      · rename_i drops
        exact .inr ⟨drops, invalidate_eq _⟩
      · rename_i stays
        exact .inl ⟨by simpa [Passage.loses, Fault.losesConnection] using stays, rfl⟩
    · rename_i noIo noStatus
      refine .inl ⟨?_, rfl⟩
      rcases answer with fault | response
      · cases fault with
        | io text => exact (noIo text rfl).elim
        | status status => exact (noStatus status rfl).elim
        | _ => rfl
      · rfl
  have recorded := session.server.sent_exchange tid request delivery session.pool.take.1.size
  unfold exchange
  simp only
  rcases outcome : session.server.exchange tid request delivery session.pool.take.1.size with
    ⟨⟨answer, event⟩, server⟩
  rw [outcome] at recorded
  rcases heeded ((({ session with pool := session.pool.take.2, server } : Session).pass
      (.asked { tid, request, delivery, scratch := session.pool.take.1.size } answer)).note event)
      answer { tid, request, delivery, scratch := session.pool.take.1.size } with
    ⟨keeps, same⟩ | ⟨loses, log, same⟩
  · exact ⟨_, server, _, _, rfl, rfl, rfl, recorded, .inl ⟨keeps, by rw [same]; rfl⟩⟩
  · exact ⟨_, server, _, _, rfl, rfl, rfl, recorded, .inr ⟨loses, by rw [same]; rfl⟩⟩

end Session

end SmbBrowser
