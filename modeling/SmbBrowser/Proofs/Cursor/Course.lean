import SmbBrowser.Listing.Rehearsed
import SmbBrowser.Proofs.Cursor.Sound

/-!
The course of a listing: the pages that come when it is read to its end at one go, and the failure
that ends the reading. Whoever pulls at a cursor gets the wanted entries of exactly these pages.
-/

namespace SmbBrowser

/-- What comes of a listing. -/
structure Course where
  /-- The pages, in their order. -/
  pages : List (List Entry) := []
  /-- The failure that ends the reading, if one does. -/
  failure : Option Fault := none

namespace Course

/-- What comes of a listing that brings one page more before. -/
def behind (page : List Entry) (course : Course) : Course :=
  { course with pages := page :: course.pages }

/-- The entries that are wanted, in the order of the pages. -/
def entries (filter : Option NameFilter) (course : Course) : List Entry :=
  course.pages.flatten.filter (Cursor.wants filter)

/-- What is answered behind the last entry: the failure once, if there is one, and then nothing as
often as it is asked for. -/
def ending (failure : Option Fault) (pulls : Nat) : List (Except Fault (Option Entry)) :=
  failure.toList.map Except.error ++ List.replicate pulls (Except.ok none)

/-- What the first pulls are to answer: every wanted entry, then the end. -/
def answers (filter : Option NameFilter) (course : Course) (pulls : Nat) :
    List (Except Fault (Option Entry)) :=
  ((course.entries filter).map (fun entry => Except.ok (some entry)) ++
    ending course.failure pulls).take pulls

/-- Two courses that bring the same wanted entries and end alike. -/
def Alike (filter : Option NameFilter) (course other : Course) : Prop :=
  course.entries filter = other.entries filter ∧ course.failure = other.failure

/-- The wanted entries of a page come before those of the pages behind it. -/
theorem entries_behind (filter : Option NameFilter) (page : List Entry) (course : Course) :
    (course.behind page).entries filter =
      page.filter (Cursor.wants filter) ++ course.entries filter := by
  -- The page goes in front of the others, and the choice is made entry by entry.
  simp [entries, behind]

/-- The first answers do not depend on how often it is asked behind the last entry. -/
theorem take_ending_succ (first : List (Except Fault (Option Entry))) (failure : Option Fault)
    (pulls : Nat) :
    (first ++ ending failure (pulls + 1)).take pulls =
      (first ++ ending failure pulls).take pulls := by
  -- One nothing more at the end is not among the first answers.
  rw [ending, List.replicate_succ', ← List.append_assoc, ← List.append_assoc,
    List.take_append_of_le_length]
  · rw [ending, List.append_assoc]
  · simp only [List.length_append, List.length_replicate]
    omega

/-- The first answer is the first wanted entry. -/
theorem answers_cons {filter : Option NameFilter} {course rest : Course} {entry : Entry}
    (first : course.entries filter = entry :: rest.entries filter)
    (same : course.failure = rest.failure) (pulls : Nat) :
    course.answers filter (pulls + 1) = .ok (some entry) :: rest.answers filter pulls := by
  -- The entry is taken off the front of both lists.
  rw [answers, first, same, List.map_cons, List.cons_append, List.take_succ_cons,
    take_ending_succ, answers]

/-- Behind the last wanted entry there is only the end. -/
theorem answers_ended {filter : Option NameFilter} {course : Course}
    (noEntry : course.entries filter = []) (pulls : Nat) :
    course.answers filter pulls = (ending course.failure pulls).take pulls := by
  -- There are no entries to be answered first.
  rw [answers, noEntry, List.map_nil, List.nil_append]

end Course

/-- Events may be written down at one go or in parts. -/
theorem Session.noteAll_append (session : Session) (first rest : List Event) :
    session.noteAll (first ++ rest) = (session.noteAll first).noteAll rest := by
  -- Only the log is written to, and it is written to in the same order.
  have log : session.log ++ (first ++ rest) = session.log ++ first ++ rest := by
    apply Array.toList_inj.mp
    simp only [Array.toList_appendList, List.append_assoc]
  simp only [noteAll, log]

namespace Cursor

variable {Listing : Type} [PagedListing Listing]

/-- What comes of a listing behind its page. The session is used as a cursor uses it. -/
def pagesBehind (tree : TreeRef) (filter : Option NameFilter) (listing : Listing)
    (session : Session) : Course :=
  let label := PagedListing.label listing
  let asked := session.noteHook label .isDone
  if PagedListing.isDone listing then {}
  else
    match _ : PagedListing.fetchMore listing tree (asked.noteHook label .fetchMore) with
    | (.error fault, _, _) => { failure := some fault }
    | (.ok false, _, _) => {}
    | (.ok true, more, after) =>
      let page := PagedListing.results more
      (pagesBehind tree filter more (after.noteAll (remarks filter page))).behind page
termination_by PagedListing.stock listing + session.weight
decreasing_by
  rename_i fetched
  have fewer := PagedListing.fetchMore_lt fetched
  simp only [Session.weight_noteHook, Session.weight_noteAll, asked] at fewer ⊢
  omega

/-- While a listing is not done, what comes behind its page is what comes of asking for more. -/
theorem pagesBehind_more {tree : TreeRef} {filter : Option NameFilter} {listing : Listing}
    {session : Session} (more : ¬PagedListing.isDone listing = true) :
    pagesBehind tree filter listing session =
      match PagedListing.fetchMore listing tree
          ((session.noteHook (PagedListing.label listing) .isDone).noteHook
            (PagedListing.label listing) .fetchMore) with
      | (.error fault, _, _) => { failure := some fault }
      | (.ok false, _, _) => {}
      | (.ok true, turned, after) =>
        (pagesBehind tree filter turned
          (after.noteAll (remarks filter (PagedListing.results turned)))).behind
            (PagedListing.results turned) := by
  rw [pagesBehind, if_neg more]
  -- The three outcomes of the request are those of the recursion.
  split <;> rename_i fetched <;> rw [fetched]

/-- What comes of a listing from its start on. -/
def course (tree : TreeRef) (filter : Option NameFilter) (listing : Listing)
    (session : Session) : Course :=
  match PagedListing.start listing tree
      (session.noteHook (PagedListing.label listing) .start) with
  | (.error fault, _, _) => { failure := some fault }
  | (.ok false, _, _) => {}
  | (.ok true, started, after) =>
    let page := PagedListing.results started
    (pagesBehind tree filter started (after.noteAll (remarks filter page))).behind page

/-- Of a listing whose start fails only the failure comes. -/
theorem course_failed {tree : TreeRef} {filter : Option NameFilter} {listing : Listing}
    {session : Session} {fault : Fault}
    (failed : (PagedListing.start listing tree
      (session.noteHook (PagedListing.label listing) .start)).1 = .error fault) :
    course tree filter listing session = { failure := some fault } := by
  unfold course
  -- Of the outcomes of the start only one is a failure.
  split <;> rename_i started <;> rw [started] at failed <;> simp_all

/-- What is still to come of the listing that a cursor reads. -/
def remaining (tree : TreeRef) (cursor : Cursor Listing) (session : Session) : Course :=
  (pagesBehind tree cursor.filter cursor.listing
    (session.noteAll (remarks cursor.filter cursor.unread))).behind cursor.unread

/-- The answers to the first pulls of somebody who does nothing else. -/
def answers : Nat → Cursor Listing → Session → List (Except Fault (Option Entry))
  | 0, _, _ => []
  | pulls + 1, cursor, session =>
    let (answer, cursor, session) := cursor.pull session
    answer :: answers pulls cursor session

variable {cursor ahead : Cursor Listing} {tree : TreeRef} {session after : Session}

/-- What reading on comes to, as far as it can be told from what is still to come. -/
def Foretold (tree : TreeRef) (course : Course) (filter : Option NameFilter) :
    Except Fault (Option Entry) × Cursor Listing × Session → Prop
  | (.ok (some entry), ahead, after) =>
    course.entries filter = entry :: (ahead.remaining tree after).entries filter ∧
      course.failure = (ahead.remaining tree after).failure
  | (.ok none, _, _) => course.entries filter = [] ∧ course.failure = none
  | (.error fault, _, _) => course.entries filter = [] ∧ course.failure = some fault

/-- What is foretold of a course is foretold of any that is alike. -/
theorem Foretold.of_alike {course other : Course} {filter : Option NameFilter}
    {outcome : Except Fault (Option Entry) × Cursor Listing × Session}
    (foretold : Foretold tree course filter outcome) (alike : other.Alike filter course) :
    Foretold tree other filter outcome := by
  -- Nothing but the entries and the failure is foretold.
  obtain ⟨entries, failure⟩ := alike
  rcases outcome with ⟨fault | _ | entry, ahead, after⟩ <;>
    simpa only [Foretold, entries, failure] using foretold

/-- Turning the page brings the next page to come, or ends the reading as it was to end. -/
theorem turnPage_foretold (cursor : Cursor Listing) (session : Session)
    (holds : cursor.tree = some tree) :
    match cursor.turnPage session with
    | (some result, ahead, after) =>
      Foretold tree (pagesBehind tree cursor.filter cursor.listing session) cursor.filter
        (result, ahead, after)
    | (none, turned, after) =>
      pagesBehind tree cursor.filter cursor.listing session = turned.remaining tree after := by
  -- Both ask the same listing in the same session.
  rw [pagesBehind, turnPage]
  by_cases done : PagedListing.isDone cursor.listing = true
  · -- The listing says that it is done, and nothing more comes.
    simp only [done, if_true]
    exact ⟨rfl, rfl⟩
  · simp only [done, Bool.false_eq_true, if_false, holds, label]
    rcases PagedListing.fetchMore cursor.listing tree
        ((session.noteHook (PagedListing.label cursor.listing) .isDone).noteHook
          (PagedListing.label cursor.listing) .fetchMore) with ⟨fault | found, more, later⟩
    · exact ⟨rfl, rfl⟩
    · cases found with
      | false => exact ⟨rfl, rfl⟩
      | true => simp only [remaining, unread, List.drop_zero]

/-- Reading a page finds the first entry to come, or turns to the next page to come, or ends the
reading as it was to end. -/
theorem readPage_foretold (cursor : Cursor Listing) (session : Session)
    (holds : cursor.tree = some tree) :
    match cursor.readPage session with
    | (some result, ahead, after) =>
      Foretold tree (cursor.remaining tree session) cursor.filter (result, ahead, after)
    | (none, turned, after) =>
      (cursor.remaining tree session).Alike cursor.filter (turned.remaining tree after) := by
  unfold readPage
  simp only
  cases found : (scan cursor.filter cursor.unread).found with
  | some entry =>
    -- What was looked at before the entry is not wanted and is left out of both.
    obtain ⟨wanted, noted⟩ := scan_found found
    have rest : cursor.unread.drop (scan cursor.filter cursor.unread).read =
        unread { cursor with index := cursor.index + (scan cursor.filter cursor.unread).read } :=
      List.drop_drop
    rw [rest] at wanted noted
    simp only [Foretold, remaining, Course.entries_behind, wanted, noted, Session.noteAll_append]
    exact ⟨rfl, rfl⟩
  | none =>
    -- Nothing on the page is wanted, so what comes is what is behind it.
    obtain ⟨nothing, noted⟩ := scan_ended found
    have alike : (cursor.remaining tree session).Alike cursor.filter
        (pagesBehind tree cursor.filter cursor.listing
          (session.noteAll (scan cursor.filter cursor.unread).events)) := by
      rw [noted]
      refine ⟨?_, rfl⟩
      rw [remaining, Course.entries_behind, nothing, List.nil_append]
    have turned := turnPage_foretold
      { cursor with index := cursor.index + (scan cursor.filter cursor.unread).read }
      (session.noteAll (scan cursor.filter cursor.unread).events) holds
    simp only at turned ⊢
    split <;> rename_i outcome <;> rw [outcome] at turned
    · exact turned.of_alike alike
    · simp only at turned
      rwa [turned] at alike

/-- Reading on comes to what was foretold. -/
theorem advance_foretold (cursor : Cursor Listing) (session : Session)
    (holds : cursor.tree = some tree) :
    Foretold tree (cursor.remaining tree session) cursor.filter (cursor.advance session) := by
  -- Each page that is turned brings what was to come behind the page before it.
  fun_induction advance cursor session with
  | case1 cursor session result ahead after page =>
    have read := cursor.readPage_foretold session holds
    rwa [page] at read
  | case2 cursor session turned later page ih =>
    have read := cursor.readPage_foretold session holds
    have same := cursor.sameReader_readPage session
    rw [page] at read same
    have reads := ih (same.tree.trans holds)
    rw [same.filter] at reads
    exact reads.of_alike read

/-- A cursor that gave everything back answers the failure that waits, if there is one, and then
nothing for ever. -/
theorem Spent.answers_eq (spent : cursor.Spent) (session : Session) (pulls : Nat) :
    answers pulls cursor session = (Course.ending cursor.deferred pulls).take pulls := by
  -- Once the failure is reported, every pull leaves the cursor as it is.
  induction pulls generalizing cursor with
  | zero => rfl
  | succ pulls ih =>
    simp only [answers, spent.pull_eq session, ih (spent.withDeferred none)]
    cases cursor.deferred with
    | none => rfl
    | some fault =>
      -- The failure is taken away by the pull that reports it.
      rw [← List.nil_append (Course.ending none pulls), ← Course.take_ending_succ]
      rfl

/-- Closing leaves a failure that waits to be reported. -/
theorem deferred_close (cursor : Cursor Listing) (session : Session) :
    (cursor.close session).1.deferred = cursor.deferred := by
  -- Closing touches the state, the entry in hand, the listing and the tree.
  unfold close
  split
  · rfl
  · simp only
    split <;> rfl

/-- A pull hands out the entry in hand. Behind it either the next entry to come is read ahead, or
nothing is to come, and the failure that ends the listing waits to be reported. -/
theorem Ahead.pull_eq (reading : cursor.Ahead tree) {entry : Entry}
    (inHand : cursor.next = some entry) (session : Session) :
    ∃ used after, cursor.pull session = (.ok (some entry), used, after) ∧
      ((used.Ahead tree ∧ used.filter = cursor.filter ∧ ∃ found, used.next = some found ∧
          (cursor.remaining tree session).entries cursor.filter =
            found :: (used.remaining tree after).entries cursor.filter ∧
          (cursor.remaining tree session).failure = (used.remaining tree after).failure) ∨
        (used.Spent ∧ (cursor.remaining tree session).entries cursor.filter = [] ∧
          (cursor.remaining tree session).failure = used.deferred)) := by
  -- What the pull reads ahead was foretold.
  have foretold := advance_foretold { cursor with next := none } session reading.holds
  have same := sameReader_advance { cursor with next := none } session
  have pulled := reading.pulled inHand session
  generalize cursor.pull session = outcome at pulled ⊢
  cases pulled with
  | found advanced still =>
    rw [advanced] at foretold same
    exact ⟨_, _, rfl, .inl ⟨still, same.filter, _, rfl, foretold⟩⟩
  | @ended ahead later advanced opened =>
    rw [advanced] at foretold same
    obtain ⟨noEntry, noFailure⟩ := foretold
    have settled : (ahead.close later).1.deferred = none :=
      (deferred_close ahead later).trans (same.deferred.trans reading.settled)
    exact ⟨_, _, rfl, .inr ⟨opened.close later, noEntry, noFailure.trans settled.symm⟩⟩
  | failed advanced opened =>
    rw [advanced] at foretold
    obtain ⟨noEntry, failure⟩ := foretold
    exact ⟨_, _, rfl, .inr ⟨(opened.close _).withDeferred _, noEntry, failure⟩⟩

/-- A cursor with an entry in hand answers that entry first, and then what is still to come. -/
theorem Ahead.answers_succ (reading : cursor.Ahead tree) {entry : Entry}
    (inHand : cursor.next = some entry) (session : Session) (pulls : Nat) :
    answers (pulls + 1) cursor session =
      .ok (some entry) :: (cursor.remaining tree session).answers cursor.filter pulls := by
  -- The induction is on the pulls; each of them reads one entry ahead.
  induction pulls generalizing cursor session entry with
  | zero =>
    obtain ⟨used, after, pulled, _⟩ := reading.pull_eq inHand session
    simp only [answers, pulled, Course.answers, List.take_zero]
  | succ pulls ih =>
    obtain ⟨used, after, pulled, comes⟩ := reading.pull_eq inHand session
    rw [answers, pulled]
    simp only
    rcases comes with ⟨still, chosen, found, inHand, entries, failure⟩ | ⟨spent, noEntry, failure⟩
    · rw [ih still inHand after, chosen, Course.answers_cons entries failure]
    · rw [spent.answers_eq after, Course.answers_ended noEntry, failure]

/-- Once a listing is started, reading on comes to what was to come of it. -/
theorem foretold_started {listing : Listing} (cursor : Cursor Listing)
    (holds : cursor.tree = some tree) (start : cursor.index = 0)
    (started : PagedListing.start cursor.listing tree (session.noteHook cursor.label .start) =
      (.ok true, listing, after)) :
    Foretold tree (course tree cursor.filter cursor.listing session) cursor.filter
      ({ cursor with listing, state := .hasResult }.advance after) := by
  -- Right behind the start the whole first page is unread.
  have comes : course tree cursor.filter cursor.listing session =
      remaining tree { cursor with listing, state := .hasResult } after := by
    rw [label] at started
    simp only [course, started, remaining, unread, start, List.drop_zero]
  rw [comes]
  exact advance_foretold { cursor with listing, state := .hasResult } after holds

/-- A cursor that begins answers what comes of its listing; if a failure is all that comes, it does
not begin. -/
theorem Begun.answered {outcome : Except Fault Unit × Cursor Listing × Session}
    (begun : Begun tree cursor session outcome) (holds : cursor.tree = some tree)
    (start : cursor.index = 0) (settled : cursor.deferred = none) :
    match outcome.1 with
    | .error fault =>
      (course tree cursor.filter cursor.listing session).entries cursor.filter = [] ∧
        (course tree cursor.filter cursor.listing session).failure = some fault
    | .ok () =>
      ((course tree cursor.filter cursor.listing session).entries cursor.filter ≠ [] ∨
        (course tree cursor.filter cursor.listing session).failure = none) ∧
      ∀ pulls, answers pulls outcome.2.1 outcome.2.2 =
        (course tree cursor.filter cursor.listing session).answers cursor.filter pulls := by
  cases begun with
  | refused started opened =>
    rw [label] at started
    simp only [course, started]
    exact ⟨rfl, trivial⟩
  | @empty listing after started opened =>
    -- Nothing comes at all, and the cursor is closed at once.
    rw [label] at started
    have spent := opened.close (after.note (.cursorEmpty (PagedListing.label listing)))
    simp only [course, started]
    refine ⟨.inr trivial, fun pulls => ?_⟩
    rw [spent.answers_eq, deferred_close, Course.answers_ended rfl]
    simp only [settled]
  -- The entry that was read ahead is the first that is answered.
  | @found listing next ahead later after started advanced reading =>
    have foretold := cursor.foretold_started holds start started
    have same := sameReader_advance { cursor with listing, state := .hasResult } later
    rw [advanced] at foretold same
    obtain ⟨entries, failure⟩ := foretold
    have chosen : ahead.filter = cursor.filter := same.filter
    refine ⟨.inl ?_, fun pulls => ?_⟩
    · rw [entries]
      exact List.cons_ne_nil _ _
    · cases pulls with
      | zero => rfl
      | succ pulls =>
        rw [reading.answers_succ rfl after, Course.answers_cons entries failure pulls, ← chosen]
        rfl
  -- The cursor was closed before its first pull.
  | @ended listing ahead later after started advanced opened =>
    have foretold := cursor.foretold_started holds start started
    have same := sameReader_advance { cursor with listing, state := .hasResult } later
    rw [advanced] at foretold same
    obtain ⟨noEntry, noFailure⟩ := foretold
    refine ⟨.inr noFailure, fun pulls => ?_⟩
    rw [(opened.close after).answers_eq, deferred_close, Course.answers_ended noEntry, noFailure,
      same.deferred.trans settled]
  -- A failure before the first entry is the answer to the opening itself.
  | @failed fault listing ahead later after started advanced opened =>
    have foretold := cursor.foretold_started holds start started
    rw [advanced] at foretold
    exact foretold

/-- Whoever only pulls at an opened cursor gets the wanted entries of the pages that come, in their
order and each of them once, then the failure that ends the listing once, if one does, and then
nothing for ever. A listing of which only a failure comes is not opened at all. -/
theorem answers_ofListing (listing : Listing) (filter : Option NameFilter) (session : Session) :
    match session.acquire with
    | (.error fault, refused) => ofListing listing filter session = (.error fault, refused)
    | (.ok tree, held) =>
      match ofListing listing filter session with
      | (.error fault, _) =>
        (course tree filter listing held).entries filter = [] ∧
          (course tree filter listing held).failure = some fault
      | (.ok cursor, after) =>
        ((course tree filter listing held).entries filter ≠ [] ∨
          (course tree filter listing held).failure = none) ∧
        ∀ pulls, answers pulls cursor after =
          (course tree filter listing held).answers filter pulls := by
  -- Without a tree nothing is asked of the listing.
  rcases acquired : session.acquire with ⟨fault | tree, held⟩
  · simp only [ofListing, acquired]
  · have opened := (begun_fresh listing tree filter held).answered rfl rfl rfl
    simp only [ofListing, acquired]
    rcases began : begin { listing, tree := some tree, filter } tree held with
      ⟨fault | _, cursor, after⟩ <;> rw [began] at opened <;> exact opened

end Cursor

namespace RehearsedListing

/-- What comes of turns that are taken one by one. -/
def laidDown : List Turn → Course
  | [] => {}
  | .fail fault :: _ => { failure := some fault }
  | .nothing :: _ => {}
  | .page entries true :: _ => { pages := [entries] }
  | .page entries false :: turns => (laidDown turns).behind entries

/-- What comes from the page of a rehearsed listing on is what was laid down. -/
theorem pagesBehind_eq (tree : TreeRef) (filter : Option NameFilter) (listing : RehearsedListing)
    (session : Session) :
    (Cursor.pagesBehind tree filter listing session).behind listing.page =
      laidDown (.page listing.page listing.last :: listing.turns) := by
  obtain ⟨opening, turns, closing, page, last⟩ := listing
  -- Each page that comes uses up the turn that brings it.
  induction turns generalizing page last session with
  | nil =>
    rw [Cursor.pagesBehind]
    cases last <;> rfl
  | cons turn turns ih =>
    rw [Cursor.pagesBehind]
    cases last with
    | true => rfl
    | false =>
      cases turn with
      | fail fault => rfl
      | nothing => rfl
      | page entries last => exact congrArg (Course.behind page) (ih _ entries last)

/-- What comes of a rehearsed listing is what was laid down. -/
theorem course_eq (tree : TreeRef) (filter : Option NameFilter) (listing : RehearsedListing)
    (session : Session) :
    Cursor.course tree filter listing session = laidDown (listing.opening :: listing.turns) := by
  obtain ⟨opening, turns, closing, page, last⟩ := listing
  -- The opening turn is taken as every other.
  cases opening with
  | fail fault => rfl
  | nothing => rfl
  | page entries last =>
    exact pagesBehind_eq tree filter ⟨.page entries last, turns, closing, entries, last⟩ _

/-- A page without entries stands between a reader and an entry as little as the parent's entry
does, and the failure comes behind the entry. -/
example (entry : Entry) (fault : Fault) :
    (laidDown [.page [] false,
        .page [{ entry with name := ".." }, { entry with name := "kept" }] false,
        .fail fault]).answers none 3 =
      [.ok (some { entry with name := "kept" }), .error fault, .ok none] := by
  rfl

end RehearsedListing

end SmbBrowser
