import SmbBrowser.Proofs.Cursor.Deeds
import SmbBrowser.Proofs.Cursor.Reads

/-!
What is kept all through the life of a cursor: whatever each page that comes keeps of the listing and
of all that has passed, and whatever is left of it when no other page comes.
-/

namespace SmbBrowser

namespace Cursor

variable {Listing : Type} [PagedListing Listing]

/-- What holds of a listing and of all that has passed in its life, behind a request for a page: one
thing when a page came, and another when none comes any more. -/
def Asked (Reading Ended : Listing → List Passage → Prop) (passed : List Passage)
    (before : Session) : Except Fault Bool × Listing × Session → Prop
  | (.ok true, listing, after) => Reading listing (passed ++ before.since after)
  | (.ok false, listing, after) | (.error _, listing, after) =>
    Ended listing (passed ++ before.since after)

/-- Something that holds while a listing is read, and something that holds from then on, whatever a
cursor calls. -/
structure Keeps (tree : TreeRef) (listing : Listing)
    (Reading Ended : Listing → List Passage → Prop) : Prop where
  /-- The start brings the first page, or none. -/
  start : ∀ session, Asked Reading Ended [] session (PagedListing.start listing tree session)
  /-- The listing is asked for further pages while it is not done. -/
  fetchMore : ∀ {more : Listing} {passed : List Passage} (session : Session), Reading more passed →
    PagedListing.isDone more = false →
      Asked Reading Ended passed session (PagedListing.fetchMore more tree session)
  /-- Nobody has to read a listing out. -/
  ended : ∀ {more : Listing} {passed : List Passage}, Reading more passed → Ended more passed
  /-- At the end everything is given back. -/
  closing : ∀ {more : Listing} {passed : List Passage} (call : Call) (session : Session),
    Ended more passed → call ∈ [.finish, .release, .forget] →
      Ended (call.make tree (more, session)).1
        (passed ++ session.since (call.make tree (more, session)).2)

variable {tree : TreeRef} {filter : Option NameFilter} {listing : Listing}
  {Reading Ended : Listing → List Passage → Prop} {origin place : Place Listing}
  {found : List Entry} {pages turns : List Turn} {passed : List Passage}

/-- What holds at a place, when so much has passed. -/
def At (listing : Listing) (Reading : Listing → List Passage → Prop) (passed : List Passage)
    (place : Place Listing) : Prop :=
  if place.begun then Reading place.listing passed else place.listing = listing ∧ passed = []

/-- Wherever a page is asked for, it keeps what holds there. -/
theorem Keeps.ask (keeps : Keeps tree listing Reading Ended) (holds : At listing Reading passed place)
    (isMore : place.isDone = false) :
    Asked Reading Ended passed place.session (place.ask tree) := by
  unfold At at holds
  unfold Place.ask
  -- Asking is for a further page once the listing has begun, and for the first one before.
  split at holds <;> rename_i begun
  · rw [if_pos begun]
    rw [Place.isDone, begun, Bool.true_and] at isMore
    exact keeps.fetchMore place.session holds isMore
  · obtain ⟨same, rfl⟩ := holds
    rw [if_neg begun, same]
    exact keeps.start place.session

section Staked

variable [StakedListing Listing] {last given : Listing × Session}

/-- Asking for a page leaves what has passed. -/
theorem ask_passages (place : Place Listing) (tree : TreeRef) :
    ∃ fresh, (place.ask tree).2.2.passages.toList = place.session.passages.toList ++ fresh := by
  unfold Place.ask
  -- Either call is a chain of strokes, by which passages are only added.
  split
  · exact (Call.make_strokes tree .fetchMore place.listing place.session).passages
  · exact (Call.make_strokes tree .start place.listing place.session).passages

/-- Reading on keeps what holds of the listing. -/
theorem Reads.keeps (reads : Reads tree filter origin found pages place)
    (keeps : Keeps tree listing Reading Ended) (holds : At listing Reading passed origin) :
    ∃ fresh, place.session.passages.toList = origin.session.passages.toList ++ fresh ∧
      At listing Reading (passed ++ fresh) place := by
  induction reads with
  | none => exact ⟨[], by simp, by rwa [List.append_nil]⟩
  | note _ _ _ ih => exact ih
  | look _ _ ih => exact ih
  | @turn _ _ place more after _ _ isMore came ih =>
    obtain ⟨early, begins, here⟩ := ih
    obtain ⟨late, further⟩ := ask_passages place tree
    -- What passed before this page and what passed with it add up.
    have asked := keeps.ask here isMore
    simp only [came, Asked] at further asked
    refine ⟨early ++ late, by rw [further, begins, List.append_assoc], ?_⟩
    rw [Session.since_eq further, List.append_assoc] at asked
    exact asked

/-- Reading out leads to what holds when a listing was read out. -/
theorem ReadsOut.keeps (reads : ReadsOut tree filter origin found turns last)
    (keeps : Keeps tree listing Reading Ended) (holds : At listing Reading passed origin) :
    ∃ fresh, last.2.passages.toList = origin.session.passages.toList ++ fresh ∧
      Ended last.1 (passed ++ fresh) := by
  cases reads with
  | @done _ place before _ isDone =>
    obtain ⟨fresh, further, here⟩ := before.keeps keeps holds
    -- Only a listing that has begun is done.
    rw [Place.isDone, Bool.and_eq_true] at isDone
    rw [At, if_pos isDone.1] at here
    exact ⟨fresh, further, keeps.ended here⟩
  | @last _ place result listing session before _ isMore came noPage =>
    obtain ⟨early, begins, here⟩ := before.keeps keeps holds
    obtain ⟨late, further⟩ := ask_passages place tree
    have asked := keeps.ask here isMore
    rw [came] at further asked
    refine ⟨early ++ late, by rw [further, begins, List.append_assoc], ?_⟩
    rw [← List.append_assoc, ← Session.since_eq further]
    rcases result with fault | _ | _
    · exact asked
    · exact asked
    · exact absurd rfl noPage

/-- Whatever is given back keeps what holds at the end. -/
theorem Calls.keeps {calls : List Call} (made : Calls tree last calls given)
    (keeps : Keeps tree listing Reading Ended)
    (closing : ∀ call ∈ calls, call ∈ [Call.finish, .release, .forget])
    (holds : Ended last.1 passed) :
    ∃ fresh, given.2.passages.toList = last.2.passages.toList ++ fresh ∧
      Ended given.1 (passed ++ fresh) := by
  -- The calls are of the three that give something back, each of which keeps it.
  induction made with
  | none => exact ⟨[], by simp, by rwa [List.append_nil]⟩
  | note log hooks _ ih => exact ih closing
  | @next calls place call _ ih =>
    obtain ⟨early, begins, here⟩ := ih fun call listed => closing call (List.mem_append_left _ listed)
    obtain ⟨late, further⟩ := (call.make_strokes tree place.1 place.2).passages
    have gave := keeps.closing call place.2 here (closing call (by simp))
    refine ⟨early ++ late, by rw [further, begins, List.append_assoc], ?_⟩
    rwa [Session.since_eq further, List.append_assoc] at gave

/-- Reading out and giving everything back keeps what holds at the end. -/
theorem GivesBack.keeps (gives : GivesBack tree filter origin found turns given)
    (keeps : Keeps tree listing Reading Ended) (holds : At listing Reading passed origin) :
    Ended given.1 (passed ++ origin.session.since given.2) := by
  -- The listing is read to its end, and then the calls behind that end are made.
  obtain ⟨last, out, made⟩ := gives
  obtain ⟨early, begins, here⟩ := out.keeps keeps holds
  obtain ⟨late, further, gone⟩ := made.keeps keeps (fun _ => id) here
  rw [begins, List.append_assoc] at further
  rwa [Session.since_eq further, ← List.append_assoc]

/-- What holds of a cursor when so much has passed in its life. -/
inductive Holds (Reading Ended : Listing → List Passage → Prop) (tree : TreeRef)
    (cursor : Cursor Listing) (passed : List Passage) : Prop where
  /-- It reads its listing. -/
  | reading (ahead : cursor.Ahead tree) (holds : Reading cursor.listing passed)
  /-- It has given everything back. -/
  | closed (spent : cursor.Spent) (holds : Ended cursor.listing passed)

/-- Reading on to the next entry keeps what holds of a cursor. -/
theorem Steps.keeps {left : List Turn} {outcome : Cursor Listing × Session}
    (steps : Steps tree filter origin left outcome) (keeps : Keeps tree listing Reading Ended)
    (holds : At listing Reading passed origin) :
    outcome.1.Holds Reading Ended tree (passed ++ origin.session.since outcome.2) := by
  -- The cursor has found an entry, or has come to the end and given everything back.
  cases steps with
  | found reading _ reads _ _ =>
    obtain ⟨fresh, further, here⟩ := reads.keeps keeps holds
    exact .reading reading (Session.since_eq further ▸ here)
  | ended spent gives => exact .closed spent (gives.keeps keeps holds)

/-- Closing a cursor that reads keeps what holds of it. -/
theorem Open.close_keeps {cursor : Cursor Listing} (opened : cursor.Open tree)
    (keeps : Keeps tree listing Reading Ended) (holds : Ended cursor.listing passed)
    (session : Session) :
    (cursor.close session).1.Holds Reading Ended tree
      (passed ++ session.since (cursor.close session).2) := by
  -- Closing makes the calls that give everything back, from where the cursor is.
  have here : Calls tree (cursor.listing, session) [] (cursor.listing, session) := .none
  obtain ⟨fresh, further, gone⟩ := (opened.close_calls here).keeps keeps (fun _ => id) holds
  exact .closed (opened.close session) (Session.since_eq further ▸ gone)

/-- Whatever is done with a cursor keeps what holds of it. -/
theorem Holds.move {cursor : Cursor Listing} (holds : cursor.Holds Reading Ended tree passed)
    (keeps : Keeps tree listing Reading Ended) (session : Session) (move : Move) :
    (cursor.move session move).1.Holds Reading Ended tree
      (passed ++ session.since (cursor.move session move).2) := by
  cases holds with
  | reading ahead holds =>
    cases move with
    | pull => exact (ahead.pull_steps session).keeps keeps holds
    | close | closer | drop => exact ahead.opened.close_keeps keeps (keeps.ended holds) session
  | closed spent holds =>
    -- Behind the end nothing passes any more.
    have same : session.since session = [] := Session.since_eq (List.append_nil _).symm
    cases move with
    | pull =>
      simp only [Cursor.move, spent.pull_eq session, same, List.append_nil]
      exact .closed (spent.withDeferred none) holds
    | close | closer | drop =>
      simp only [Cursor.move, spent.close_eq session, same, List.append_nil]
      exact .closed spent holds

/-- What is kept holds all through the life of a cursor. -/
theorem Lives.keeps {cursor : Option (Cursor Listing)}
    (lives : Lives listing filter tree cursor passed) (keeps : Keeps tree listing Reading Ended) :
    ∃ last, Ended last passed := by
  suffices holds : (∀ opened ∈ cursor, opened.Holds Reading Ended tree passed) ∧
      (cursor = none → ∃ last, Ended last passed) by
    cases cursor with
    | none => exact holds.2 rfl
    | some cursor =>
      cases holds.1 cursor rfl with
      | reading _ holds => exact ⟨_, keeps.ended holds⟩
      | closed _ holds => exact ⟨_, holds⟩
  induction lives with
  | @refused session held after _ acquired failed =>
    -- A cursor that cannot begin gives everything back.
    have steps := ofListing_steps listing acquired filter
    rw [failed] at steps
    obtain ⟨_, gives⟩ := steps
    exact ⟨by simp, fun _ => ⟨_, gives.keeps keeps ⟨rfl, rfl⟩⟩⟩
  | @opened session held after cursor acquired succeeded =>
    have steps := ofListing_steps listing acquired filter
    rw [succeeded] at steps
    have holds := Steps.keeps steps keeps ⟨rfl, rfl⟩
    exact ⟨fun _ same => Option.some.inj same ▸ holds, by simp⟩
  | @moved cursor passed lives session move ih =>
    have moved := (ih.1 cursor rfl).move keeps session move
    exact ⟨by simpa using moved, by simp⟩

end Staked

end Cursor

end SmbBrowser
