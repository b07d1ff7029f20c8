import SmbBrowser.Proofs.Cursor.Lifetime

/-!
Draining a cursor: whoever only pulls at a cursor leaves the session, from the last entry on, as it
is left when the listing is read to its end at one go and then given back.
-/

namespace SmbBrowser.Cursor

/-- Where the reading of a listing has come to at its end. -/
structure Finale (Listing : Type) where
  /-- The failure that ended the reading, if one did. -/
  failure : Option Fault
  /-- The listing as it is by then. -/
  listing : Listing
  /-- The session as it is by then. -/
  session : Session

/-- The reading of a listing to its end. -/
structure Reading (Listing : Type) extends Finale Listing where
  /-- The pages that came. -/
  pages : List (List Entry)

namespace Reading

variable {Listing : Type}

/-- What came of the listing. -/
def course (reading : Reading Listing) : Course := ⟨reading.pages, reading.failure⟩

/-- The reading with one page more before. -/
def behind (page : List Entry) (reading : Reading Listing) : Reading Listing :=
  { reading with pages := page :: reading.pages }

end Reading

variable {Listing : Type} [PagedListing Listing]

/-- Reads a listing to its end behind its page, as a cursor does that wants every entry. -/
def readOutBehind (tree : TreeRef) (filter : Option NameFilter) (listing : Listing)
    (session : Session) : Reading Listing :=
  let label := PagedListing.label listing
  let asked := session.noteHook label .isDone
  if PagedListing.isDone listing then
    { failure := none, listing, session := asked, pages := [] }
  else
    match _ : PagedListing.fetchMore listing tree (asked.noteHook label .fetchMore) with
    | (.error fault, listing, session) => { failure := some fault, listing, session, pages := [] }
    | (.ok false, listing, session) => { failure := none, listing, session, pages := [] }
    | (.ok true, more, after) =>
      let page := PagedListing.results more
      (readOutBehind tree filter more (after.noteAll (remarks filter page))).behind page
termination_by PagedListing.stock listing + session.weight
decreasing_by
  -- A further page uses up more than it brings.
  rename_i fetched
  have fewer := PagedListing.fetchMore_lt fetched
  simp only [Session.weight_noteHook, Session.weight_noteAll, asked] at fewer ⊢
  omega

/-- Reads a listing to its end from its start on. -/
def readOut (tree : TreeRef) (filter : Option NameFilter) (listing : Listing)
    (session : Session) : Reading Listing :=
  match PagedListing.start listing tree
      (session.noteHook (PagedListing.label listing) .start) with
  | (.error fault, listing, session) => { failure := some fault, listing, session, pages := [] }
  | (.ok false, listing, session) =>
    { failure := none
      listing
      session := session.note (.cursorEmpty (PagedListing.label listing))
      pages := [] }
  | (.ok true, started, after) =>
    let page := PagedListing.results started
    (readOutBehind tree filter started (after.noteAll (remarks filter page))).behind page

/-- Gives a listing back, and the tree that it was read through. -/
def giveBack (tree : TreeRef) (listing : Listing) (session : Session) : Listing × Session :=
  let label := PagedListing.label listing
  let (finished, listing, session) :=
    PagedListing.finish listing tree (session.noteHook label .finish)
  let session := session.noteFailure (.cursorFinishFailed label) finished
  let (released, session) := session.releaseTree tree
  let session := session.noteFailure (.cursorReleaseFailed label) released
  (listing, (session.note (.cursorClosed label)).forgetTree tree)

/-- Gives a listing back that was read to its end; a failure of the reading is noted before. -/
def Finale.settled (finale : Finale Listing) (tree : TreeRef) : Listing × Session :=
  giveBack tree finale.listing
    (match finale.failure with
      | none => finale.session
      | some fault =>
        finale.session.note (.cursorAdvanceFailed (PagedListing.label finale.listing) fault))

/-- Where a cursor comes to when everything that it has not looked at is read. -/
def finale (tree : TreeRef) (cursor : Cursor Listing) (session : Session) : Finale Listing :=
  (readOutBehind tree cursor.filter cursor.listing
    (session.noteAll (remarks cursor.filter cursor.unread))).toFinale

variable {cursor ahead : Cursor Listing} {tree : TreeRef} {session after : Session}

/-- A listing that is not done is read on by what it fetches. -/
theorem readOutBehind_eq {filter : Option NameFilter} {listing : Listing}
    (more : PagedListing.isDone listing = false) :
    readOutBehind tree filter listing session =
      match PagedListing.fetchMore listing tree
        ((session.noteHook (PagedListing.label listing) .isDone).noteHook
          (PagedListing.label listing) .fetchMore) with
      | (.error fault, listing, session) => { failure := some fault, listing, session, pages := [] }
      | (.ok false, listing, session) => { failure := none, listing, session, pages := [] }
      | (.ok true, more, after) =>
        (readOutBehind tree filter more
          (after.noteAll (remarks filter (PagedListing.results more)))).behind
            (PagedListing.results more) := by
  rw [readOutBehind, if_neg (by simp [more])]
  -- The reading is told by what comes of the fetch alone.
  rcases PagedListing.fetchMore listing tree
      ((session.noteHook (PagedListing.label listing) .isDone).noteHook
        (PagedListing.label listing) .fetchMore) with ⟨fault | found, more, later⟩
  · rfl
  · cases found <;> rfl

/-- A request for a page that fails ends the reading with its failure. -/
theorem readOutBehind_failed {filter : Option NameFilter} {listing left : Listing} {fault : Fault}
    (more : PagedListing.isDone listing = false)
    (fetched : PagedListing.fetchMore listing tree
      ((session.noteHook (PagedListing.label listing) .isDone).noteHook
        (PagedListing.label listing) .fetchMore) = (.error fault, left, after)) :
    readOutBehind tree filter listing session =
      { failure := some fault, listing := left, session := after, pages := [] } := by
  -- It is the first of the outcomes of the request.
  rw [readOutBehind_eq more, fetched]

/-- A request for a page that brings none ends the reading without a failure. -/
theorem readOutBehind_ended {filter : Option NameFilter} {listing left : Listing}
    (more : PagedListing.isDone listing = false)
    (fetched : PagedListing.fetchMore listing tree
      ((session.noteHook (PagedListing.label listing) .isDone).noteHook
        (PagedListing.label listing) .fetchMore) = (.ok false, left, after)) :
    readOutBehind tree filter listing session =
      { failure := none, listing := left, session := after, pages := [] } := by
  -- It is the second of the outcomes of the request.
  rw [readOutBehind_eq more, fetched]

/-- A page that comes is read behind the one before, and the reading goes on. -/
theorem readOutBehind_page {filter : Option NameFilter} {listing turned : Listing}
    (more : PagedListing.isDone listing = false)
    (fetched : PagedListing.fetchMore listing tree
      ((session.noteHook (PagedListing.label listing) .isDone).noteHook
        (PagedListing.label listing) .fetchMore) = (.ok true, turned, after)) :
    readOutBehind tree filter listing session =
      (readOutBehind tree filter turned
        (after.noteAll (remarks filter (PagedListing.results turned)))).behind
          (PagedListing.results turned) := by
  -- It is the third of the outcomes of the request.
  rw [readOutBehind_eq more, fetched]

/-- What comes of a listing behind its page is what is read there. -/
theorem course_readOutBehind (tree : TreeRef) (filter : Option NameFilter) (listing : Listing)
    (session : Session) :
    (readOutBehind tree filter listing session).course =
      pagesBehind tree filter listing session := by
  -- The induction is on the reading; both ask the same listing in the same sessions.
  fun_induction readOutBehind tree filter listing session with
  | case1 listing session label asked done =>
    rw [pagesBehind, if_pos done]
    rfl
  | case2 listing session label asked more fault left last fetched =>
    rw [pagesBehind, if_neg more]
    split <;> simp_all [asked, label, Reading.course]
  | case3 listing session label asked more left last fetched =>
    rw [pagesBehind, if_neg more]
    split <;> simp_all [asked, label, Reading.course]
  | case4 listing session label asked isMore more after fetched page ih =>
    rw [pagesBehind, if_neg isMore]
    split
    · simp_all [asked, label]
    · simp_all [asked, label]
    · rename_i same
      rw [fetched] at same
      simp only [Prod.mk.injEq, true_and] at same
      obtain ⟨rfl, rfl⟩ := same
      exact congrArg (Course.behind page) ih

/-- What comes of a listing from its start on is what is read. -/
theorem course_readOut (tree : TreeRef) (filter : Option NameFilter) (listing : Listing)
    (session : Session) :
    (readOut tree filter listing session).course = course tree filter listing session := by
  simp only [readOut, course]
  rcases PagedListing.start listing tree
      (session.noteHook (PagedListing.label listing) .start) with ⟨fault | found, started, after⟩
  · rfl
  · cases found with
    | false => rfl
    | true =>
      -- The first page comes before those that are read behind it.
      exact congrArg (Course.behind _) (course_readOutBehind _ _ _ _)

/-- Closing an open cursor gives the listing and the tree back. -/
theorem Open.close_eq (opened : cursor.Open tree) (session : Session) :
    ((cursor.close session).1.listing, (cursor.close session).2) =
      giveBack tree cursor.listing session := by
  -- The tree is there, so the whole of closing is run.
  unfold Cursor.close
  rw [if_neg opened.isOpen]
  simp only [opened.holds]
  rfl

/-- Whatever reading on comes to, the end of the listing stays where it is. -/
def Leads (tree : TreeRef) (finale : Finale Listing) :
    Except Fault (Option Entry) × Cursor Listing × Session → Prop
  | (.ok (some _), ahead, after) => ahead.finale tree after = finale
  | (.ok none, ahead, after) => finale = ⟨none, ahead.listing, after⟩
  | (.error fault, ahead, after) => finale = ⟨some fault, ahead.listing, after⟩

/-- Turning the page leaves the end of the listing where it is. -/
theorem turnPage_leads (cursor : Cursor Listing) (session : Session)
    (holds : cursor.tree = some tree) :
    match cursor.turnPage session with
    | (some result, ahead, after) =>
      Leads tree (readOutBehind tree cursor.filter cursor.listing session).toFinale
        (result, ahead, after)
    | (none, turned, after) =>
      turned.finale tree after =
        (readOutBehind tree cursor.filter cursor.listing session).toFinale := by
  unfold turnPage
  by_cases done : PagedListing.isDone cursor.listing = true
  · -- A listing that says it is done has come to its end.
    simp only [done, if_true]
    rw [readOutBehind, if_pos done]
    rfl
  · -- Otherwise the reading goes on with what the listing fetches, as the cursor does.
    rw [readOutBehind_eq (by simpa using done)]
    simp only [done, Bool.false_eq_true, if_false, holds, label]
    rcases PagedListing.fetchMore cursor.listing tree
        ((session.noteHook (PagedListing.label cursor.listing) .isDone).noteHook
          (PagedListing.label cursor.listing) .fetchMore) with ⟨fault | found, more, later⟩
    · rfl
    · cases found with
      | false => rfl
      | true =>
        simp only [finale, unread, List.drop_zero]
        rfl

/-- Reading a page leaves the end of the listing where it is. -/
theorem readPage_leads (cursor : Cursor Listing) (session : Session)
    (holds : cursor.tree = some tree) :
    match cursor.readPage session with
    | (some result, ahead, after) =>
      Leads tree (cursor.finale tree session) (result, ahead, after)
    | (none, turned, after) => turned.finale tree after = cursor.finale tree session := by
  unfold readPage
  simp only
  cases found : (scan cursor.filter cursor.unread).found with
  | some entry =>
    -- What there is to log about the page is only parted in two.
    obtain ⟨_, noted⟩ := scan_found found
    have rest : cursor.unread.drop (scan cursor.filter cursor.unread).read =
        unread { cursor with index := cursor.index + (scan cursor.filter cursor.unread).read } :=
      List.drop_drop
    rw [rest] at noted
    simp only [Leads, finale, noted, Session.noteAll_append]
  | none =>
    -- Everything on the page was looked at, so the end is the one behind it.
    obtain ⟨_, noted⟩ := scan_ended found
    have turned := turnPage_leads
      { cursor with index := cursor.index + (scan cursor.filter cursor.unread).read }
      (session.noteAll (scan cursor.filter cursor.unread).events) holds
    simp only [noted] at turned ⊢
    exact turned

/-- Reading on leaves the end of the listing where it is. -/
theorem advance_leads (cursor : Cursor Listing) (session : Session)
    (holds : cursor.tree = some tree) :
    Leads tree (cursor.finale tree session) (cursor.advance session) := by
  -- Each page that is turned leaves the end where it is.
  fun_induction advance cursor session with
  | case1 cursor session result ahead after page =>
    have read := cursor.readPage_leads session holds
    rwa [page] at read
  | case2 cursor session turned later page ih =>
    have read := cursor.readPage_leads session holds
    have same := cursor.sameReader_readPage session
    rw [page] at read same
    rw [← read]
    exact ih (same.tree.trans holds)

/-- A pull at a cursor that has read ahead leads on to the end, or settles it. -/
theorem Ahead.pull_leads (reading : cursor.Ahead tree) (session : Session) :
    (cursor.pull session).2.1.Ahead tree ∧
        (cursor.pull session).2.1.finale tree (cursor.pull session).2.2 =
          cursor.finale tree session ∨
      (cursor.pull session).2.1.Spent ∧
        ((cursor.pull session).2.1.listing, (cursor.pull session).2.2) =
          (cursor.finale tree session).settled tree := by
  obtain ⟨entry, inHand, _⟩ := reading.inHand
  -- The entry in hand matters as little for the end as what is read ahead.
  have leads := advance_leads { cursor with next := none } session reading.holds
  have same : finale tree { cursor with next := none } session = cursor.finale tree session := rfl
  rw [same] at leads
  have pulled := reading.pulled inHand session
  generalize cursor.pull session = outcome at pulled ⊢
  cases pulled with
  | found advanced still =>
    rw [advanced] at leads
    exact .inl ⟨still, leads⟩
  | @ended ahead later advanced opened =>
    rw [advanced] at leads
    refine .inr ⟨opened.close later, ?_⟩
    rw [opened.close_eq, leads]
    rfl
  | @failed fault ahead later advanced opened =>
    rw [advanced] at leads
    refine .inr ⟨(opened.close _).withDeferred _, ?_⟩
    rw [leads]
    exact opened.close_eq _

/-- However often it is pulled at, a cursor that has read ahead is on its way to the end of the
listing or has settled it, and it is settled with the last entry. -/
theorem Ahead.play_pulls (reading : cursor.Ahead tree) (session : Session) (pulls : Nat) :
    let (used, after) := cursor.play session (List.replicate pulls .pull)
    used.Ahead tree ∧ used.finale tree after = cursor.finale tree session ∧
        pulls ≤ ((cursor.remaining tree session).entries cursor.filter).length ∨
      used.Spent ∧ (used.listing, after) = (cursor.finale tree session).settled tree := by
  -- The induction is on the pulls; each of them uses up one entry that is still to come.
  induction pulls generalizing cursor session with
  | zero => exact .inl ⟨reading, rfl, Nat.zero_le _⟩
  | succ pulls ih =>
    rw [List.replicate_succ, play, move]
    obtain ⟨entry, inHand, _⟩ := reading.inHand
    obtain ⟨used, after, pulled, comes⟩ := reading.pull_eq inHand session
    have leads := reading.pull_leads session
    rw [pulled] at leads ⊢
    simp only at leads ⊢
    rcases comes with ⟨still, chosen, found, _, entries, _⟩ | ⟨spent, _⟩
    · have kept : used.finale tree after = cursor.finale tree session := by
        rcases leads with ⟨_, kept⟩ | ⟨gone, _⟩
        · exact kept
        · -- A cursor that has read ahead is not closed.
          exact (still.opened.isOpen gone.state).elim
      have later := ih still after
      rw [kept, chosen] at later
      rw [entries, List.length_cons]
      rcases later with ⟨ahead, same, bound⟩ | settled
      · exact .inl ⟨ahead, same, by omega⟩
      · exact .inr settled
    · obtain ⟨deferred, unchanged⟩ := spent.play_eq after (List.replicate pulls .pull)
      rw [unchanged]
      rcases leads with ⟨still, _⟩ | ⟨_, settled⟩
      · exact (still.opened.isOpen spent.state).elim
      · exact .inr ⟨spent.withDeferred deferred, settled⟩

/-- A listing that starts with a page is read on behind that page. -/
theorem readOut_page {filter : Option NameFilter} {listing started : Listing}
    (page : PagedListing.start listing tree (session.noteHook (PagedListing.label listing) .start) =
      (.ok true, started, after)) :
    readOut tree filter listing session =
      (readOutBehind tree filter started
        (after.noteAll (remarks filter (PagedListing.results started)))).behind
          (PagedListing.results started) := by
  -- It is the outcome of the start in which there is a page.
  rw [readOut, page]

/-- What is read from the start of a listing on is what a cursor that has started it has before
it. -/
theorem readOut_started {listing : Listing} (start : cursor.index = 0)
    (started : PagedListing.start cursor.listing tree (session.noteHook cursor.label .start) =
      (.ok true, listing, after)) :
    (readOut tree cursor.filter cursor.listing session).toFinale =
      finale tree { cursor with listing, state := .hasResult } after := by
  -- Nothing of the page was looked at yet.
  rw [label] at started
  simp only [readOut, started, finale, unread, start, List.drop_zero]
  rfl

/-- A cursor that begins is on its way to the end of its listing or has settled it, however often
it is pulled at; one that cannot begin has come to the end of its listing. -/
theorem Begun.drained {outcome : Except Fault Unit × Cursor Listing × Session}
    (begun : Begun tree cursor session outcome) (holds : cursor.tree = some tree)
    (start : cursor.index = 0) :
    match outcome.1 with
    | .error fault =>
      (readOut tree cursor.filter cursor.listing session).toFinale =
        ⟨some fault, outcome.2.1.listing, outcome.2.2⟩
    | .ok () => ∀ pulls,
      let (used, after) := outcome.2.1.play outcome.2.2 (List.replicate pulls .pull)
      used.Ahead tree ∧
          used.finale tree after = (readOut tree cursor.filter cursor.listing session).toFinale ∧
          pulls < ((course tree cursor.filter cursor.listing session).entries cursor.filter).length ∨
        used.Spent ∧ (used.listing, after) =
          (readOut tree cursor.filter cursor.listing session).settled tree := by
  -- A cursor that is closed from the beginning stays as it is.
  have closes {ended : Cursor Listing} {later : Session} (opened : ended.Open tree)
      (finished : (readOut tree cursor.filter cursor.listing session).toFinale =
        ⟨none, ended.listing, later⟩) (pulls : Nat) :
      let (used, after) := (ended.close later).1.play (ended.close later).2
        (List.replicate pulls .pull)
      used.Spent ∧ (used.listing, after) =
        (readOut tree cursor.filter cursor.listing session).settled tree := by
    have spent := opened.close later
    obtain ⟨deferred, unchanged⟩ := spent.play_eq (ended.close later).2 (List.replicate pulls .pull)
    rw [unchanged, finished]
    exact ⟨spent.withDeferred deferred, opened.close_eq later⟩
  cases begun with
  | refused started opened =>
    rw [label] at started
    simp only [readOut, started]
  | empty started opened =>
    refine fun pulls => .inr (closes opened ?_ pulls)
    rw [label] at started
    simp only [readOut, started]
  | @found listing next ahead later after started advanced reading =>
    have leads := advance_leads { cursor with listing, state := .hasResult } later holds
    have foretold := cursor.foretold_started holds start started
    have same := sameReader_advance { cursor with listing, state := .hasResult } later
    rw [advanced] at leads foretold same
    have chosen : ahead.filter = cursor.filter := same.filter
    -- The entry that was read ahead is the first of those that come.
    intro pulls
    have played := reading.play_pulls after pulls
    have count : ((course tree cursor.filter cursor.listing session).entries
        cursor.filter).length = ((ahead.remaining tree after).entries ahead.filter).length + 1 := by
      rw [foretold.1, List.length_cons, chosen]
    rw [readOut_started start started, count, ← leads]
    rcases played with ⟨still, kept, bound⟩ | settled
    · exact .inl ⟨still, kept, Nat.lt_succ_of_le bound⟩
    · exact .inr settled
  | @ended listing ahead later after started advanced opened =>
    have leads := advance_leads { cursor with listing, state := .hasResult } later holds
    rw [advanced] at leads
    refine fun pulls => .inr (closes opened ?_ pulls)
    rw [readOut_started start started, leads]
  | @failed fault listing ahead later after started advanced opened =>
    have leads := advance_leads { cursor with listing, state := .hasResult } later holds
    rw [advanced] at leads
    exact (readOut_started start started).trans leads

/-- Whoever only pulls at a cursor over a listing that can be read to its end gets what is read, and
with the last entry the session is left as it is when the listing is given back then. -/
theorem ofListing_readOut {listing : Listing} {filter : Option NameFilter} {held : Session}
    (acquired : session.acquire = (.ok tree, held))
    (whole : (readOut tree filter listing held).failure = none) :
    ∃ cursor opened, ofListing listing filter session = (.ok cursor, opened) ∧
      ∀ pulls,
        answers pulls cursor opened =
            (readOut tree filter listing held).course.answers filter pulls ∧
          (((readOut tree filter listing held).course.entries filter).length ≤ pulls →
            (cursor.play opened (List.replicate pulls .pull)).2 =
              ((readOut tree filter listing held).settled tree).2) := by
  have answered := (begun_fresh listing tree filter held).answered rfl rfl rfl
  have drained := (begun_fresh listing tree filter held).drained rfl rfl
  simp only [ofListing, acquired]
  rcases began : begin { listing, tree := some tree, filter } tree held with
    ⟨fault | _, cursor, opened⟩ <;> rw [began] at answered drained
  · -- A cursor that cannot begin has met a failure.
    simp only at drained
    rw [drained] at whole
    simp at whole
  · refine ⟨cursor, opened, rfl, fun pulls => ?_⟩
    rw [course_readOut]
    refine ⟨answered.2 pulls, fun enough => ?_⟩
    rcases drained pulls with ⟨_, _, early⟩ | ⟨_, settled⟩
    · exact (Nat.not_lt.mpr enough early).elim
    · exact congrArg Prod.snd settled

end SmbBrowser.Cursor
