import SmbBrowser.Proofs.Session.LiveTree

/-!
What passes between the two sides at one time: a loss, or a request with its answer and the loss
that the answer may tell of. A session that goes through that changes its records and its link.
-/

namespace SmbBrowser

/-- The connection was given up. -/
def Passage.isLost : Passage → Bool
  | .lost => true
  | .asked _ _ => false

/-- How often the connection was given up in the course of some passages. -/
def lossesIn (passages : List Passage) : Nat := passages.countP Passage.isLost

/-- What passes when a request is answered: behind an answer that tells of a loss comes the loss. -/
def exchanged (sent : SentRequest) (answer : Except Fault Response) : List Passage :=
  if (Passage.asked sent answer).loses then [.asked sent answer, .lost] else [.asked sent answer]

/-- Passages in which every loss that was told of was counted. -/
def Attentive (passages : List Passage) : Prop :=
  lossesIn passages = 0 ↔ ∀ passage ∈ passages, passage.loses = false

/-- Where nothing passes no loss is missed. -/
theorem attentive_nil : Attentive [] := by
  -- There is neither a loss nor an answer that tells of one.
  simp [Attentive, lossesIn]

/-- A loss that is recorded without a request was told of by nobody. -/
theorem attentive_lost : Attentive [.lost] := by
  -- The one passage is a loss, and no answer before it asks for one.
  simp [Attentive, lossesIn, Passage.isLost, Passage.loses]

section Exchanged

variable (sent : SentRequest) (answer : Except Fault Response)

/-- An exchange records the loss that its answer tells of, and no other. -/
theorem attentive_exchanged : Attentive (exchanged sent answer) := by
  unfold Attentive exchanged
  -- A loss is told of exactly when it is recorded behind the answer.
  by_cases loses : (Passage.asked sent answer).loses = true
  · rw [if_pos loses]
    simp [lossesIn, Passage.isLost, loses]
  · rw [if_neg loses]
    simpa [lossesIn, Passage.isLost] using loses

/-- In an exchange one request is sent. -/
theorem requestsOf_exchanged : requestsOf (exchanged sent answer) = [sent] := by
  -- The loss behind the answer is no request.
  unfold exchanged
  split <;> rfl

/-- Whatever an exchange comes to, the request and its answer are among what passed. -/
theorem mem_exchanged {passage : Passage} (listed : passage ∈ exchanged sent answer) :
    passage = .asked sent answer ∨
      passage = .lost ∧ (Passage.asked sent answer).loses = true := by
  unfold exchanged at listed
  -- Only an answer that tells of a loss is followed by one.
  split at listed
  · rename_i loses
    rcases List.mem_pair.mp listed with asked | lost
    · exact .inl asked
    · exact .inr ⟨lost, loses⟩
  · exact .inl (List.mem_singleton.mp listed)

/-- The request that an exchange tells of comes first. -/
theorem exchanged_eq_append {front late : List Passage} {other : SentRequest}
    {result : Except Fault Response}
    (told : exchanged sent answer = front ++ .asked other result :: late) :
    front = [] ∧ other = sent ∧ result = answer := by
  cases front with
  | nil =>
    unfold exchanged at told
    split at told <;> simp_all
  | cons first front =>
    -- Behind the first there is at most a loss.
    unfold exchanged at told
    split at told
    · cases front <;> simp at told
    · simp at told

/-- The request and its answer are among what passes in the exchange. -/
theorem asked_mem_exchanged : Passage.asked sent answer ∈ exchanged sent answer := by
  -- It is the first passage, whatever follows it.
  unfold exchanged
  split <;> simp

end Exchanged

namespace Session

/-- A session that went through some passages, with the losses among them counted. -/
def undergo (session : Session) (pool : ScratchPool) (server : Playback) (log : Array Event)
    (fresh : List Passage) : Session :=
  { session with
    pool, server, log
    resets := session.resets + lossesIn fresh
    connected := session.connected && lossesIn fresh = 0
    passages := session.passages ++ fresh.toArray }

/-- Giving the connection up is going through one loss. -/
theorem invalidate_undergo (session : Session) :
    ∃ log, session.invalidate = session.undergo session.pool session.server log [.lost] := by
  obtain ⟨log, lost⟩ := session.invalidate_eq
  refine ⟨log, ?_⟩
  -- The loss is counted once and leaves the connection unusable.
  rw [lost]
  simp [undergo, lossesIn, Passage.isLost]

/-- An exchange is going through what passes in it. -/
theorem exchange_undergo (session : Session) (tid : Option TreeId) (request : Request)
    (delivery : Delivery) :
    ∃ pool server log scratch, (session.exchange tid request delivery).2 =
      session.undergo pool server log
        (exchanged ⟨tid, request, delivery, scratch⟩
          (session.exchange tid request delivery).1) := by
  obtain ⟨pool, server, log, ⟨_, _, _, scratch⟩, rfl, rfl, rfl, _, outcome⟩ :=
    session.exchange_cases tid request delivery
  refine ⟨pool, server, log, scratch, ?_⟩
  rcases outcome with ⟨holds, after⟩ | ⟨loses, after⟩
  · -- The connection holds.
    rw [after]
    simp [exchanged, holds, undergo, lossesIn, Passage.isLost]
  · -- The connection is lost, and the loss is recorded behind the answer.
    rw [after]
    have both (passages : Array Passage) (passage : Passage) :
        (passages.push passage).push .lost = passages ++ #[passage, .lost] := by
      apply Array.toList_inj.mp
      simp
    simp [exchanged, loses, undergo, lossesIn, Passage.isLost, both]

/-- Giving a tree back asks the server while the tree's connection was never lost, and nothing
otherwise; behind that the tree is given up. -/
theorem disconnect_undergo (tree : ConnectedTree) (session : Session) :
    ∃ pool server log fresh,
      (disconnect tree session).2 =
        (session.undergo pool server log fresh).detach tree.generation ∧
      (session.resets = tree.epoch ∧ (∃ scratch answer, fresh =
          exchanged ⟨some tree.tid, .treeDisconnect, .cleanup, scratch⟩ answer) ∨
        session.resets ≠ tree.epoch ∧ fresh = []) := by
  -- The note behind the giving up may as well be written before it.
  have noted (session : Session) (event : Event) : ∃ log,
      (session.detach tree.generation).note event =
        ({ session with log } : Session).detach tree.generation := by
    refine ⟨session.log.push event, ?_⟩
    unfold detach
    simp only
    split <;> rfl
  unfold disconnect
  simp only
  by_cases seen : session.resets = tree.epoch
  · rw [if_pos seen]
    obtain ⟨pool, server, log, scratch, after⟩ :=
      session.exchange_undergo (some tree.tid) .treeDisconnect .cleanup
    simp only [after]
    obtain ⟨later, written⟩ := noted _ (.treeDisconnected _ tree.tid)
    exact ⟨pool, server, later, _, written, .inl ⟨seen, scratch, _, rfl⟩⟩
  · rw [if_neg seen]
    obtain ⟨later, written⟩ := noted _ (.treeDisconnected _ tree.tid)
    refine ⟨session.pool, session.server, later, [], ?_, .inr ⟨seen, rfl⟩⟩
    rw [written]
    simp [undergo, lossesIn, note]

/-- Connecting asks the server for a tree; only an answer that names one makes a handle. -/
theorem connect_undergo (session : Session) :
    ∃ pool server log scratch answer fresh,
      fresh = exchanged ⟨none, .treeConnect session.sharePath, .plain, scratch⟩ answer ∧
      ((∃ fault, session.connect = (.error fault, session.undergo pool server log fresh) ∧
          ∀ tid, answer ≠ .ok (.treeConnect tid)) ∨
        ∃ tid, answer = .ok (.treeConnect tid) ∧
          session.connect = (.ok ⟨session.trees.size⟩,
            { session.undergo pool server log fresh with
              generation := session.generation + 1
              connected := true
              current := some ⟨session.trees.size⟩
              trees := session.trees.push
                { resource := { tid, generation := session.generation + 1, epoch := session.resets }
                  generation := some (session.generation + 1)
                  traced := session.settings.traceResourceUsage } })) := by
  obtain ⟨pool, server, log, scratch, after⟩ :=
    session.exchange_undergo none (.treeConnect session.sharePath) .plain
  rcases outcome : session.connect with ⟨result, later⟩
  cases result with
  | error fault =>
    obtain ⟨answer, answered, noTree⟩ := connect_error outcome
    rw [answered] at after
    simp only at after
    subst after
    exact ⟨pool, server, log, scratch, answer, _, rfl, .inl ⟨fault, rfl, noTree⟩⟩
  | ok tree =>
    obtain ⟨tid, asked, written, answered, rfl, rfl⟩ := connect_ok outcome
    rw [answered] at after
    simp only at after
    subst after
    refine ⟨pool, server, written, scratch, _, _, rfl, .inr ⟨tid, rfl, ?_⟩⟩
    -- An answer that names a tree tells of no loss.
    simp [undergo, exchanged, Passage.loses, lossesIn, Passage.isLost]

end Session

end SmbBrowser
