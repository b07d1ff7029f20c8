import SmbBrowser.Proofs.Resource.Refinement
import SmbBrowser.Proofs.Session.Cleanup

/-!
Giving things back never changes what a listing brings. What comes of a listing is settled by the
requests that give nothing back, in a listing of entries as in one of resources; how the server takes
what it is given back is only logged.
-/

namespace SmbBrowser

/-- Openings that come to the same for whoever reads: both fail with the same failure, or both
succeed, and what is opened brings the same however it is read. -/
inductive SameReading {Source Pulls Answer : Type} (brings : Source → Pulls → Session → Answer) :
    Except Fault Source × Session → Except Fault Source × Session → Prop where
  /-- Both fail. -/
  | failed {mine others : Except Fault Source × Session} {fault : Fault}
    (first : mine.1 = .error fault) (second : others.1 = .error fault) :
    SameReading brings mine others
  /-- Both succeed. -/
  | opened {source other : Source} {session later : Session}
    (same : ∀ pulls, brings other pulls later = brings source pulls session) :
    SameReading brings (.ok source, session) (.ok other, later)

namespace Session

variable {one other : Session} {locator : Locator} {options : ListOptions}

/-- Whatever a place cannot be listed for, its resources cannot be listed for either. -/
theorem listResources_failed {session held : Session} {tree : TreeRef} {fault : Fault}
    (acquired : session.acquire = (.ok tree, held))
    (failed : (held.list locator options).1 = .error fault)
    (filter : Option (Resource → Except Fault Bool)) :
    (session.listResources locator options filter).1 = .error fault := by
  -- The failure is the listing's own; what is released behind it does not change the answer.
  rcases listed : held.list locator options with ⟨answer, beside⟩
  obtain rfl : answer = .error fault := by rw [listed] at failed; exact failed
  simp only [listResources, acquired, listed]

/-- A place that is called for a listing in vain, or whose tree cannot be acquired, is not listed. -/
theorem list_refused {session : Session} {fault : Fault}
    (refused : session.listingOf locator options = .error fault ∨
      (∃ listing, session.listingOf locator options = .ok listing) ∧ session.acquire.1 = .error fault) :
    (session.list locator options).1 = .error fault := by
  unfold list
  rcases refused with refused | ⟨⟨listing, called⟩, refused⟩
  · -- Without a listing nothing is asked at all.
    rw [refused]
  · rcases acquired : session.acquire with ⟨answer, after⟩
    obtain rfl : answer = .error fault := by rw [acquired] at refused; exact refused
    simp only [called, Cursor.ofListing, acquired]

namespace Apart

/-- Where the tree is acquired in sessions that differ in what comes of giving something back, both
fail to list a place, also beside somebody who holds the tree, or the same comes of both listings. -/
theorem list_cases {tree : TreeRef} {held heldToo : Session} (apart : Apart one other)
    (acquired : one.acquire = (.ok tree, held)) (acquiredToo : other.acquire = (.ok tree, heldToo))
    (locator : Locator) (options : ListOptions) :
    (∃ fault, (one.list locator options).1 = .error fault ∧
        (other.list locator options).1 = .error fault ∧
        (held.list locator options).1 = .error fault ∧
        (heldToo.list locator options).1 = .error fault) ∨
      ∃ items cursor alone beside cursorToo aloneToo besideToo,
        one.list locator options = (.ok cursor, alone) ∧
        other.list locator options = (.ok cursorToo, aloneToo) ∧
        held.list locator options = (.ok cursor, beside) ∧
        heldToo.list locator options = (.ok cursorToo, besideToo) ∧
        Cursor.Abreast tree items 0 cursor alone beside ∧
        Cursor.Abreast tree items 0 cursorToo aloneToo besideToo := by
  have calledToo := apart.listingOf_eq locator options
  have again := one.listingOf_acquire locator options
  have againToo := other.listingOf_acquire locator options
  rw [acquired] at again
  rw [acquiredToo] at againToo
  cases called : one.listingOf locator options with
  | error fault =>
    -- A place that calls for no listing calls for none beside a tree that is held.
    rw [called] at calledToo again
    rw [calledToo] at againToo
    exact .inl ⟨fault, list_refused (.inl called), list_refused (.inl calledToo),
      list_refused (.inl again), list_refused (.inl againToo)⟩
  | ok listing =>
    rw [called] at calledToo
    have still : Apart held heldToo := by
      have outcome := apart.acquire.apart
      rwa [acquired, acquiredToo] at outcome
    -- What comes of the listing is settled before anything is given back.
    have course := Cursor.course_congr (apart_resemblance tree) options.nameFilter listing still
    have others := Session.list_cases calledToo acquiredToo
    simp only [course] at others
    rcases Session.list_cases called acquired with
      ⟨fault, noEntry, failure, failed, failedBeside⟩ |
        ⟨cursor, alone, beside, brings, listed, listedBeside, abreast⟩
    · rcases others with ⟨faultToo, _, failureToo, failedToo, failedBesideToo⟩ | ⟨_, _, _, brings, _⟩
      · obtain rfl : fault = faultToo := by simpa [failure] using failureToo
        exact .inl ⟨fault, failed, failedToo, failedBeside, failedBesideToo⟩
      · -- A failure that comes first is no end without a failure.
        simp [noEntry, failure] at brings
    · -- Nor is an entry, or an end without a failure, a failure that comes first.
      rcases others with
        ⟨_, noEntry, failure, _⟩ | ⟨cursorToo, aloneToo, besideToo, _, listedToo, listedBesideToo, abreastToo⟩
      · simp [noEntry, failure] at brings
      · exact .inr ⟨_, cursor, alone, beside, cursorToo, aloneToo, besideToo, listed, listedToo,
          listedBeside, listedBesideToo, abreast, abreastToo⟩

/-- Such sessions list the entries of a place the same. -/
theorem list_same (apart : Apart one other) (locator : Locator) (options : ListOptions) :
    SameReading (fun (cursor : Cursor Listing) pulls session => cursor.answers pulls session)
      (one.list locator options) (other.list locator options) := by
  have calledToo := apart.listingOf_eq locator options
  obtain ⟨answer, held, heldToo, acquired, acquiredToo, _⟩ := apart.acquire.both
  cases answer with
  | error fault =>
    -- Without a tree the place is refused, if not already for what it is.
    cases called : one.listingOf locator options with
    | error refused =>
      rw [called] at calledToo
      exact .failed (list_refused (.inl called)) (list_refused (.inl calledToo))
    | ok listing =>
      rw [called] at calledToo
      exact .failed (list_refused (.inr ⟨⟨listing, called⟩, by rw [acquired]⟩))
        (list_refused (.inr ⟨⟨listing, calledToo⟩, by rw [acquiredToo]⟩))
  | ok tree =>
    rcases apart.list_cases acquired acquiredToo locator options with
      ⟨fault, failed, failedToo, _⟩ |
        ⟨items, cursor, alone, beside, cursorToo, aloneToo, besideToo, listed, listedToo, _, _,
          abreast, abreastToo⟩
    · exact .failed failed failedToo
    · -- Both cursors bring the same items.
      rw [listed, listedToo]
      apply SameReading.opened
      intro pulls
      exact (abreastToo.brings pulls).trans (abreast.brings pulls).symm

/-- And so they list its resources. -/
theorem listResources_same (apart : Apart one other) (locator : Locator) (options : ListOptions)
    (filter : Option (Resource → Except Fault Bool)) :
    SameReading
      (fun (stream : ResourceStream (Cursor Listing) Resource) pulls session =>
        (stream.answers pulls session).1)
      (one.listResources locator options filter) (other.listResources locator options filter) := by
  obtain ⟨answer, held, heldToo, acquired, acquiredToo, _⟩ := apart.acquire.both
  cases answer with
  | error fault =>
    exact .failed (by rw [listResources, acquired]) (by rw [listResources, acquiredToo])
  | ok tree =>
    rcases apart.list_cases acquired acquiredToo locator options with
      ⟨fault, _, _, failed, failedToo⟩ |
        ⟨items, cursor, alone, beside, cursorToo, aloneToo, besideToo, _, _, listed, listedToo,
          abreast, abreastToo⟩
    · exact .failed (listResources_failed acquired failed filter)
        (listResources_failed acquiredToo failedToo filter)
    · -- Both streams bring the images of the same items.
      obtain ⟨stream, shared, opened, read⟩ :=
        listResources_of_list acquired listed abreast filter
      obtain ⟨streamToo, sharedToo, openedToo, readToo⟩ :=
        listResources_of_list acquiredToo listedToo abreastToo filter
      rw [opened, openedToo]
      apply SameReading.opened
      intro pulls
      exact (readToo pulls).1.trans (read pulls).1.symm

end Apart

/--
How a server takes what it is given back changes nothing of what a listing brings.

Take two scripts that expect the same requests in the same order and differ in nothing but the
outcomes of closing a search, of closing a file and of giving a tree back. Whoever lists a place on a
fresh connection gets the same from both: the same failure to list it at all, or else the same
entries and the same failure behind them, however often is pulled, in a listing of entries as in
one of resources.
-/
theorem list_despiteCleanup {one other : List Exchange} (apart : CleanupApart one other)
    (dialect : Dialect) (settings : Settings) (sharePath oemDomain : String) (locator : Locator)
    (options : ListOptions) (filter : Option (Resource → Except Fault Bool)) :
    let mine := new settings (.ofTranscript { dialect, exchanges := one }) sharePath oemDomain
    let others := new settings (.ofTranscript { dialect, exchanges := other }) sharePath oemDomain
    SameReading (fun (cursor : Cursor Listing) pulls session => cursor.answers pulls session)
        (mine.list locator options) (others.list locator options) ∧
      SameReading
        (fun (stream : ResourceStream (Cursor Listing) Resource) pulls session =>
          (stream.answers pulls session).1)
        (mine.listResources locator options filter)
        (others.listResources locator options filter) := by
  intro mine others
  -- On a fresh connection the scripts are all in which the two sessions differ.
  have sessions : Apart mine others := ⟨other, apart, rfl⟩
  exact ⟨sessions.list_same locator options, sessions.listResources_same locator options filter⟩

/-- The transport breaks down while the search is closed, two entries before the end: they come all
the same, since they come where the search is closed as it should be. -/
theorem list_despiteCleanup_brokenDown :
    let script (closing : Outcome) : List Exchange :=
      [⟨"find_first2", .ok (.find { sid := ⟨7⟩, entries := [{ name := "A" }] })⟩,
        ⟨"find_next2",
          .ok (.find { endOfSearch := true, entries := [{ name := "B" }, { name := "C" }] })⟩,
        ⟨"find_close2", closing⟩]
    let session (closing : Outcome) := new {}
      (.ofTranscript { dialect := .smb1, exchanges := script closing }) "\\\\srv\\data" ""
    CleanupApart (script (.ok .empty)) (script (.io "broken pipe")) ∧
      ∃ cursor after,
        (session (.io "broken pipe")).list (.ofShare "srv" "data") {} = (.ok cursor, after) ∧
        cursor.answers 4 after =
          [.ok (some { name := "A" }), .ok (some { name := "B" }), .ok (some { name := "C" }),
            .ok none] := by
  intro script session
  have apart : CleanupApart (script (.ok .empty)) (script (.io "broken pipe")) := by
    simp [CleanupApart, script, cleanupKinds]
  have read : ((session (.ok .empty)).list (.ofShare "srv" "data") {}).1.toOption.map
        (fun cursor => cursor.answers 4
          ((session (.ok .empty)).list (.ofShare "srv" "data") {}).2) =
      some [.ok (some { name := "A" }), .ok (some { name := "B" }), .ok (some { name := "C" }),
        .ok none] := by
    decide +kernel
  refine ⟨apart, ?_⟩
  have same := (list_despiteCleanup apart .smb1 {} "\\\\srv\\data" "" (.ofShare "srv" "data") {}
    none).1
  change SameReading _ ((session (.ok .empty)).list _ _) ((session (.io "broken pipe")).list _ _)
    at same
  -- From here on only what the listing brought in the one session matters.
  clear_value session
  rcases listed : (session (.ok .empty)).list (.ofShare "srv" "data") {} with ⟨answer, alone⟩
  rcases listedToo : (session (.io "broken pipe")).list (.ofShare "srv" "data") {} with
    ⟨answerToo, after⟩
  rw [listed, listedToo] at same
  rw [listed] at read
  cases same with
  | failed first second =>
    obtain rfl : answer = .error _ := first
    simp [Except.toOption] at read
  | opened same =>
    refine ⟨_, after, rfl, (same 4).trans ?_⟩
    simpa [Except.toOption] using read

end Session

end SmbBrowser
