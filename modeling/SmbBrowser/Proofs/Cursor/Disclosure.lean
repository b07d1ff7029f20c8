import SmbBrowser.Proofs.Cursor.Finality
import SmbBrowser.Proofs.Listing.Disclosure

/-!
What becomes of the failures that a cursor meets: those of its reader's choice of names, of its
listing, and of giving its tree back. A cursor goes on, or gives up, or has ended already; whatever
it does not answer at once it writes down.
-/

namespace SmbBrowser.Cursor

/-- What a choice of names fails with at some entries. -/
def choiceFailures (filter : Option NameFilter) (entries : List Entry) : List Fault :=
  entries.filterMap fun entry =>
    if entry.isSelfOrParent then none else filter.bind fun wants => failureOf (wants entry.name)

/-- A choice that fails is written down with each entry that is looked at. -/
theorem scan_tells (filter : Option NameFilter) (entries : List Entry) :
    ∀ fault ∈ choiceFailures filter (entries.take (scan filter entries).read),
      ∃ event ∈ (scan filter entries).events, event.Tells fault := by
  induction entries with
  | nil => simp [scan, choiceFailures]
  | cons entry entries ih =>
    have told : ∀ fault ∈ choiceFailures filter [entry],
        ∃ event ∈ (judge filter entry).2, event.Tells fault := by
      intro fault listed
      unfold judge
      cases special : entry.isSelfOrParent
      · cases filter with
        | none => simp [choiceFailures] at listed
        | some wants =>
          cases choice : wants entry.name with
          | ok wanted => simp [choiceFailures, special, choice, failureOf] at listed
          | error why =>
            obtain rfl : fault = why := by
              simpa [choiceFailures, special, choice, failureOf] using listed
            exact ⟨.nameFilterFailed entry.name fault, by simp [choice], .of_fault? rfl⟩
      · simp [choiceFailures, special] at listed
    have both (read : Nat) : choiceFailures filter ((entry :: entries).take (read + 1)) =
        choiceFailures filter [entry] ++ choiceFailures filter (entries.take read) :=
      List.filterMap_append (l := [entry])
    simp only [scan]
    split <;> rename_i verdict <;> rw [verdict] at told <;> intro fault listed <;>
      rw [both, List.mem_append] at listed
    · -- The entry is wanted, and nothing behind it is looked at.
      refine told fault (listed.resolve_right ?_)
      simp [choiceFailures]
    · rcases listed with here | behind
      · obtain ⟨event, among, tells⟩ := told fault here
        exact ⟨event, List.mem_append_left _ among, tells⟩
      · obtain ⟨event, among, tells⟩ := ih fault behind
        exact ⟨event, List.mem_append_right _ among, tells⟩

variable {Listing : Type} [PagedListing Listing]

/-- What a cursor meets while it turns the page. -/
def turnPageFailures (cursor : Cursor Listing) (session : Session) : List Fault :=
  if PagedListing.isDone cursor.listing then []
  else
    match cursor.tree with
    | none => []
    | some tree =>
      (failureOf (PagedListing.fetchMore cursor.listing tree
        ((session.noteHook cursor.label .isDone).noteHook cursor.label .fetchMore)).1).toList

/-- What a cursor meets while it reads a page to the first entry that is wanted, or turns it. -/
def readPageFailures (cursor : Cursor Listing) (session : Session) : List Fault :=
  let look := scan cursor.filter cursor.unread
  choiceFailures cursor.filter (cursor.unread.take look.read) ++
    match look.found with
    | some _ => []
    | none =>
      { cursor with index := cursor.index + look.read }.turnPageFailures
        (session.noteAll look.events)

/-- What a cursor meets while it reads on. -/
def advanceFailures (cursor : Cursor Listing) (session : Session) : List Fault :=
  cursor.readPageFailures session ++
    match _ : cursor.readPage session with
    | (some _, _, _) => []
    | (none, turned, later) => turned.advanceFailures later
termination_by cursor.supply session
decreasing_by exact supply_readPage_lt (by assumption)

section Advance

variable {cursor ahead : Cursor Listing} {session after : Session}

/-- When the page ends the reading, all that was met was met on this page. -/
theorem advanceFailures_read {result : Except Fault (Option Entry)}
    (page : cursor.readPage session = (some result, ahead, after)) :
    cursor.advanceFailures session = cursor.readPageFailures session := by
  -- The recursion stops at this page.
  rw [advanceFailures]
  split <;> simp_all

/-- When the page is turned, more may be met behind what was met on it. -/
theorem advanceFailures_turned (page : cursor.readPage session = (none, ahead, after)) :
    cursor.advanceFailures session =
      cursor.readPageFailures session ++ ahead.advanceFailures after := by
  -- The recursion goes on behind this page.
  rw [advanceFailures]
  split <;> simp_all

end Advance

variable [DisclosingListing Listing]

/-- What a cursor meets while it gives everything back. -/
def closeFailures (cursor : Cursor Listing) (session : Session) : List Fault :=
  if cursor.state = .closed then []
  else
    match cursor.tree with
    | none => []
    | some tree =>
      let session := session.noteHook cursor.label .finish
      let (finished, _, after) := PagedListing.finish cursor.listing tree session
      let after := after.noteFailure (.cursorFinishFailed cursor.label) finished
      DisclosingListing.finishFailures cursor.listing tree session ++
        (failureOf finished).toList ++ (failureOf (after.releaseTree tree).1).toList

/-- What a cursor meets in a pull. -/
def pullFailures (cursor : Cursor Listing) (session : Session) : List Fault :=
  if cursor.deferred.isSome ∨ cursor.state = .closed then []
  else
    { cursor with next := none }.advanceFailures session ++
      match { cursor with next := none }.advance session with
      | (.ok (some _), _, _) => []
      | (.ok none, cursor, session) => cursor.closeFailures session
      | (.error fault, cursor, session) =>
        cursor.closeFailures (session.note (.cursorAdvanceFailed cursor.label fault))

/-- What a cursor meets while it begins. -/
def beginFailures (cursor : Cursor Listing) (tree : TreeRef) (session : Session) : List Fault :=
  let session := session.noteHook cursor.label .start
  let started := PagedListing.start cursor.listing tree session
  DisclosingListing.startFailures cursor.listing tree session ++ (failureOf started.1).toList ++
    match started with
    | (.error _, _, _) => []
    | (.ok false, listing, session) =>
      { cursor with listing }.closeFailures
        (session.note (.cursorEmpty (PagedListing.label listing)))
    | (.ok true, listing, session) =>
      let cursor := { cursor with listing, state := .hasResult }
      cursor.advanceFailures session ++
        match cursor.advance session with
        | (.ok none, cursor, session) => cursor.closeFailures session
        | _ => []

/-- What is met while a cursor over a listing is opened. -/
def openFailures (listing : Listing) (filter : Option NameFilter) (session : Session) :
    List Fault :=
  match session.acquire with
  | (.error fault, _) => [fault]
  | (.ok tree, session) =>
    let cursor : Cursor Listing := { listing, tree := some tree, filter }
    cursor.beginFailures tree session ++
      match cursor.begin tree session with
      | (.ok (), _, _) => []
      | (.error fault, cursor, session) =>
        cursor.closeFailures (session.note (.cursorOpenFailed cursor.label fault))

variable (cursor : Cursor Listing) (session : Session)

/-- A failure that is met while the page is turned is answered. -/
theorem turnPage_discloses :
    session.Discloses (cursor.turnPage session).2.2 ((cursor.turnPage session).1.bind failureOf)
      (cursor.turnPageFailures session) := by
  have hooked : session.KeepsLog (session.noteHook cursor.label .isDone) := .refl session
  unfold turnPage turnPageFailures
  simp only
  -- A listing that is done meets nothing; any other asks for a page, and answers what that fails
  -- with.
  split
  · exact .nothing hooked
  · cases cursor.tree with
    | none => exact .nothing hooked
    | some tree =>
      have fetched := DisclosingListing.fetchMore_keepsLog cursor.listing tree
        ((session.noteHook cursor.label .isDone).noteHook cursor.label .fetchMore)
      simp only
      generalize PagedListing.fetchMore cursor.listing tree
        ((session.noteHook cursor.label .isDone).noteHook cursor.label .fetchMore) = outcome
        at fetched ⊢
      obtain ⟨fault | _ | _, more, later⟩ := outcome
      · exact .answered _ (hooked.trans fetched)
      · exact .nothing (hooked.trans fetched)
      · exact .nothing (hooked.trans fetched)

/-- A failure that is met on a page is written down if it is the choice's, and answered if the page
cannot be turned. -/
theorem readPage_discloses :
    session.Discloses (cursor.readPage session).2.2 ((cursor.readPage session).1.bind failureOf)
      (cursor.readPageFailures session) := by
  -- What the choice of names fails with is among the remarks.
  have looked (answer : Option Fault) : session.Discloses
      (session.noteAll (scan cursor.filter cursor.unread).events) answer
      (choiceFailures cursor.filter
        (cursor.unread.take (scan cursor.filter cursor.unread).read)) := by
    refine ⟨.noteAll session _, fun fault listed => .inr ?_⟩
    rw [Session.WritesDown, Session.written_noteAll]
    exact scan_tells cursor.filter cursor.unread fault listed
  unfold readPage readPageFailures
  simp only
  -- The page is turned only when nothing was found on it.
  cases (scan cursor.filter cursor.unread).found with
  | some entry => exact (looked none).followed (.nothing (.refl _))
  | none => exact (looked none).followed (turnPage_discloses _ _)

/-- Reading on tells of every choice that fails, and answers why there is no further page. -/
theorem advance_discloses :
    session.Discloses (cursor.advance session).2.2 (failureOf (cursor.advance session).1)
      (cursor.advanceFailures session) := by
  -- Only the last page has an answer; those before it are told in the log.
  fun_induction advance cursor session with
  | case1 cursor session result ahead after page =>
    have read := cursor.readPage_discloses session
    rw [page] at read
    rwa [advanceFailures_read page]
  | case2 cursor session turned later page ih =>
    have read := cursor.readPage_discloses session
    rw [page] at read
    rw [advanceFailures_turned page]
    exact read.followed ih

/-- Whatever closing meets is written down, so that nothing of it need be answered. -/
theorem close_discloses (answer : Option Fault) :
    session.Discloses (cursor.close session).2 answer (cursor.closeFailures session) := by
  unfold close closeFailures
  split
  · exact .nothing (.refl session)
  · simp only
    cases cursor.tree with
    | none => exact .nothing (.refl session)
    | some tree =>
      have hooked : session.KeepsLog (session.noteHook cursor.label .finish) := .refl session
      -- What the listing keeps to itself is told already; what it answers is told behind it.
      have given := DisclosingListing.finish_discloses cursor.listing tree
        (session.noteHook cursor.label .finish)
      simp only [label] at given ⊢
      generalize PagedListing.finish cursor.listing tree
        (session.noteHook (PagedListing.label cursor.listing) .finish) = outcome at given ⊢
      obtain ⟨result, _, later⟩ := outcome
      have both := (given (failureOf result)).also (.answered _ (given none).keeps)
      have finished := both.noteFailure
        (.cursorFinishFailed (PagedListing.label cursor.listing)) (fun _ => .of_fault? rfl) none
      have released := Session.releaseTree_discloses
        (later.noteFailure (.cursorFinishFailed (PagedListing.label cursor.listing)) result) tree
        (.cursorReleaseFailed (PagedListing.label cursor.listing)) (fun _ => .of_fault? rfl) answer
      exact .behind hooked ((finished.followed released).kept
        ((Session.KeepsLog.note _ _).trans (Session.forgetTree_keepsLog _ _)))

/-- A pull that meets a failure answers it or writes it down. -/
theorem pull_discloses :
    session.Discloses (cursor.pull session).2.2 (failureOf (cursor.pull session).1)
      (cursor.pullFailures session) := by
  unfold pull pullFailures
  split
  · rename_i waiting
    rw [if_pos (by simp [waiting])]
    exact .nothing (.refl session)
  · rename_i settled
    by_cases ended : cursor.state = .closed
    · rw [if_pos ended, if_pos (.inr ended)]
      exact .nothing (.refl session)
    · rw [if_neg ended, if_neg (by simp [settled, ended])]
      have advances := advance_discloses { cursor with next := none } session
      simp only
      generalize { cursor with next := none }.advance session = outcome at advances ⊢
      obtain ⟨fault | _ | entry, ahead, after⟩ := outcome
      · -- The failure is written down at once, whether or not it is answered at once.
        have closed := ahead.close_discloses (after.note (.cursorAdvanceFailed ahead.label fault))
        simp only
        cases cursor.next with
        | none => exact (advances.note (.of_fault? rfl)).followed (closed _)
        | some entry => exact (advances.note (.of_fault? rfl)).followed (closed _)
      · exact advances.followed (ahead.close_discloses after _)
      · rw [List.append_nil]
        exact advances

/-- Whatever is met while a cursor begins is answered or written down. -/
theorem begin_discloses (tree : TreeRef) :
    session.Discloses (cursor.begin tree session).2.2 (failureOf (cursor.begin tree session).1)
      (cursor.beginFailures tree session) := by
  have hooked : session.KeepsLog (session.noteHook cursor.label .start) := .refl session
  have given := DisclosingListing.start_discloses cursor.listing tree
    (session.noteHook cursor.label .start)
  refine .behind hooked ?_
  unfold begin beginFailures
  simp only
  generalize PagedListing.start cursor.listing tree (session.noteHook cursor.label .start) =
    outcome at given ⊢
  have started := (given (failureOf outcome.1)).also (.answered _ (given none).keeps)
  -- A start that fails is answered; without a page the cursor is closed; with one it reads on.
  obtain ⟨fault | _ | _, listing, after⟩ := outcome
  · rw [List.append_nil]
    exact started
  · exact started.followed (.behind (.note after _) (close_discloses _ _ _))
  · refine started.followed ?_
    simp only
    have advances := advance_discloses { cursor with listing, state := .hasResult } after
    generalize { cursor with listing, state := .hasResult }.advance after = outcome at advances ⊢
    obtain ⟨fault | _ | entry, ahead, later⟩ := outcome
    · rw [List.append_nil]
      exact advances
    · exact advances.followed (ahead.close_discloses later _)
    · rw [List.append_nil]
      exact advances

/-- Whatever is met while a cursor is opened is answered or written down. -/
theorem ofListing_discloses (listing : Listing) (filter : Option NameFilter) (session : Session) :
    session.Discloses (ofListing listing filter session).2
      (failureOf (ofListing listing filter session).1) (openFailures listing filter session) := by
  have keeps := session.acquire_keepsLog
  unfold ofListing openFailures
  generalize session.acquire = outcome at keeps ⊢
  obtain ⟨fault | tree, held⟩ := outcome
  · exact .answered (some fault) keeps
  · refine .behind keeps ?_
    simp only
    have begins := begin_discloses { listing, tree := some tree, filter } held tree
    generalize begin { listing, tree := some tree, filter } tree held = outcome at begins ⊢
    obtain ⟨fault | _, cursor, after⟩ := outcome
    · -- A cursor that cannot begin writes down why, and is closed.
      exact (begins.note (.of_fault? rfl)).followed (cursor.close_discloses _ _)
    · rw [List.append_nil]
      exact begins

omit [DisclosingListing Listing] in
/-- What turning the page fails with is what it meets. -/
theorem turnPage_failed {fault : Fault}
    (failed : (cursor.turnPage session).1 = some (.error fault)) :
    fault ∈ cursor.turnPageFailures session := by
  unfold turnPage at failed
  unfold turnPageFailures
  -- Only asking for a page can fail, and a listing that is done is not asked.
  by_cases done : PagedListing.isDone cursor.listing = true
  · simp [done] at failed
  · cases holds : cursor.tree with
    | none => simp [done, holds] at failed
    | some tree =>
      simp only [done, holds, Bool.false_eq_true, if_false] at failed ⊢
      split at failed <;> rename_i fetched
      · obtain rfl : _ = fault := by simpa using failed
        rw [fetched]
        exact List.mem_singleton_self _
      · simp at failed
      · simp at failed

omit [DisclosingListing Listing] in
/-- A page can only fail to be read when it is turned. -/
theorem readPage_failed {fault : Fault}
    (failed : (cursor.readPage session).1 = some (.error fault)) :
    fault ∈ cursor.readPageFailures session := by
  unfold readPage at failed
  unfold readPageFailures
  simp only at failed ⊢
  -- An entry that is found is no failure, so the page was turned.
  cases found : (scan cursor.filter cursor.unread).found with
  | some entry => simp [found] at failed
  | none =>
    simp only [found] at failed
    exact List.mem_append_right _ (turnPage_failed _ _ failed)

omit [DisclosingListing Listing] in
/-- What reading on fails with is among what it meets. -/
theorem advance_failed {fault : Fault} (failed : (cursor.advance session).1 = .error fault) :
    fault ∈ cursor.advanceFailures session := by
  -- Whichever page fails, what was met on it is among the rest.
  fun_induction advance cursor session with
  | case1 cursor session result ahead after page =>
    obtain rfl : result = .error fault := failed
    rw [advanceFailures_read page]
    exact readPage_failed cursor session (by rw [page])
  | case2 cursor session turned later page ih =>
    rw [advanceFailures_turned page]
    exact List.mem_append_right _ (ih failed)

omit [DisclosingListing Listing] in
/-- A failure that was left to the next pull to report is what that pull answers. -/
theorem pull_of_deferred {fault : Fault} (waits : cursor.deferred = some fault) :
    (cursor.pull session).1 = .error fault := by
  -- What waits is looked at before anything else.
  unfold pull
  rw [waits]

/-- A failure that is left to the next pull to report was met in this one, and written down. -/
theorem pull_deferred {fault : Fault}
    (waits : (cursor.pull session).2.1.deferred = some fault) :
    fault ∈ cursor.pullFailures session ∧ session.WritesDown (cursor.pull session).2.2 fault := by
  obtain ⟨listing, tree, filter, index, next, deferred, state⟩ := cursor
  unfold pull at waits ⊢
  unfold pullFailures
  cases deferred with
  | some earlier => simp at waits
  | none =>
    by_cases ended : state = .closed
    · simp [ended] at waits
    · simp only [ended, if_false, Option.isSome_none, Bool.false_eq_true, or_self] at waits ⊢
      -- Reading on itself leaves nothing to be reported.
      have settled :
          (advance { listing, tree, filter, index, state } session).2.1.deferred = none :=
        (sameReader_advance { listing, tree, filter, index, state } session).deferred
      have keeps := (advance_discloses { listing, tree, filter, index, state } session).keeps
      have met (why : Fault)
          (failed : (advance { listing, tree, filter, index, state } session).1 = .error why) :=
        advance_failed { listing, tree, filter, index, state } session failed
      generalize advance { listing, tree, filter, index, state } session = outcome
        at settled keeps met waits ⊢
      obtain ⟨result, ahead, after⟩ := outcome
      replace settled : ahead.deferred = none := settled
      rcases result with why | _ | entry
      · have noted := Session.writesDown_note after
          (.of_fault? rfl : (Event.cursorAdvanceFailed ahead.label why).Tells why)
        have closing := (ahead.close_discloses (after.note (.cursorAdvanceFailed ahead.label why))
          none).keeps
        cases next with
        | none => simp [deferred_close, settled] at waits
        | some entry =>
          obtain rfl : why = fault := Option.some.inj waits
          exact ⟨List.mem_append_left _ (met why rfl),
            (noted.late keeps (.note _ _)).early (keeps.trans (.note _ _)) closing⟩
      · simp [deferred_close, settled] at waits
      · simp [settled] at waits

end SmbBrowser.Cursor
