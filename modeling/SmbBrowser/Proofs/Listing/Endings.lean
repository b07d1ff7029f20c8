import SmbBrowser.Proofs.Listing.Alarms
import SmbBrowser.Proofs.Listing.Likeness
import SmbBrowser.Proofs.Listing.Search

/-!
Endings: the answers by which a server tells that there is nothing more in a directory. An end that
is told where it is looked for ends the listing without a failure; an end that is missed is the only
thing that makes a listing fail as if it had come to its end.
-/

namespace SmbBrowser

/-- A request for entries of a directory. -/
def Request.listsEntries : Request → Bool
  | .findFirst _ | .findNext _ | .chain _ | .queryDirectory _ => true
  | _ => false

/-- A request for entries behind those of an earlier page. -/
def Request.goesOn : Request → Bool
  | .findNext _ | .queryDirectory _ => true
  | _ => false

/-- The page of a directory that an answer brings. -/
def entriesTold : Except Fault Response → Option (List Entry)
  | .ok (.find page) => some page.entries
  | .ok (.queryDirectory page) => some page.entries
  | .ok (.chain (_ :: query :: _)) =>
    match query.response with
    | some (.queryDirectory page) => some page.entries
    | _ => none
  | _ => none

/-- The answers that tell the end of a directory: with a status that ends a listing the request
fails, or one of the two requests of a chain, or the page that comes is marked. Of a chain the first
request that goes wrong is the one that tells. -/
inductive EndTold : Request → Except Fault Response → Prop where
  /-- The request fails. -/
  | refused {request : Request} {status : NtStatus} (lists : request.listsEntries = true)
    (ends : status.endsListing = true) : EndTold request (.error (.status status))
  /-- The first page of a search. -/
  | found {search : FindFirst} {page : FindPage} (ends : page.status.endsListing = true) :
    EndTold (.findFirst search) (.ok (.find page))
  /-- A further page of a search. -/
  | foundMore {search : FindNext} {page : FindPage} (ends : page.status.endsListing = true) :
    EndTold (.findNext search) (.ok (.find page))
  /-- A further page of an open directory. -/
  | queried {query : QueryDirectory} {page : DirectoryPage}
    (ends : page.status.endsListing = true) :
    EndTold (.queryDirectory query) (.ok (.queryDirectory page))
  /-- The directory is not opened. -/
  | unopened {requests : List Request} {opened : ChainedReply Response}
    {rest : List (ChainedReply Response)} (ends : opened.status.endsListing = true) :
    EndTold (.chain requests) (.ok (.chain (opened :: rest)))
  /-- The directory is opened, and the query for its first page fails. -/
  | unmatched {requests : List Request} {opened query : ChainedReply Response} {file : Created}
    {rest : List (ChainedReply Response)} (opens : opened.status.isSuccess = true)
    (gives : opened.response = some (.create file)) (ends : query.status.endsListing = true) :
    EndTold (.chain requests) (.ok (.chain (opened :: query :: rest)))
  /-- The first page of a directory that is opened. -/
  | firstPage {requests : List Request} {opened query : ChainedReply Response} {file : Created}
    {page : DirectoryPage} {rest : List (ChainedReply Response)}
    (opens : opened.status.isSuccess = true) (gives : opened.response = some (.create file))
    (answers : query.status.isError = false) (brings : query.response = some (.queryDirectory page))
    (ends : page.status.endsListing = true) :
    EndTold (.chain requests) (.ok (.chain (opened :: query :: rest)))

/-- The ends that are missed: that there is no such file, if a request that goes on fails with it or
gets a page with entries that is marked with it, and any end with which the whole chain fails or the
opening of the directory. -/
inductive EndMissed : Request → Except Fault Response → Prop where
  /-- The request for a further page fails. -/
  | refused {request : Request} (further : request.goesOn = true) :
    EndMissed request (.error (.status .noSuchFile))
  /-- A further page of a search. -/
  | found {search : FindNext} {page : FindPage} (missing : page.status = .noSuchFile)
    (filled : page.entries ≠ []) : EndMissed (.findNext search) (.ok (.find page))
  /-- A further page of an open directory. -/
  | queried {query : QueryDirectory} {page : DirectoryPage} (missing : page.status = .noSuchFile)
    (filled : page.entries ≠ []) :
    EndMissed (.queryDirectory query) (.ok (.queryDirectory page))
  /-- The whole chain fails. -/
  | unchained {requests : List Request} {status : NtStatus} (ends : status.endsListing = true) :
    EndMissed (.chain requests) (.error (.status status))
  /-- The directory is not opened. -/
  | unopened {requests : List Request} {opened : ChainedReply Response}
    {rest : List (ChainedReply Response)} (ends : opened.status.endsListing = true) :
    EndMissed (.chain requests) (.ok (.chain (opened :: rest)))

/-- What a call of a listing makes of the answer it got, and the page it leaves. -/
inductive Heard (request : Request) (answer : Except Fault Response) :
    Except Fault Bool → List Entry → Prop where
  /-- The listing ends. -/
  | ended {page : List Entry} : Heard request answer (.ok false) page
  /-- There is a page, which the answer brought; if that told an end it was missed. -/
  | page {page : List Entry} (brings : entriesTold answer = some page)
    (quiet : EndTold request answer → EndMissed request answer) :
    Heard request answer (.ok true) page
  /-- The call fails; it only fails with an end if that was missed. -/
  | failed {fault : Fault} {page : List Entry}
    (quiet : EndTold request answer → EndMissed request answer)
    (missed : fault.endsListing = true → EndMissed request answer) :
    Heard request answer (.error fault) page

/-- A call of a listing says one word more about pages and makes something of the answer, or it says
nothing. -/
inductive Tells (talk : List (Request × Except Fault Response)) (after : Session)
    (result : Except Fault Bool) (page : List Entry) : Prop where
  /-- It says one word. -/
  | word {request : Request} {answer : Except Fault Response}
    (said : after.talk = talk ++ [(request, answer)]) (heard : Heard request answer result page) :
    Tells talk after result page
  /-- It says nothing, and ends or fails. -/
  | silent (quiet : after.talk = talk)
    (halts : result = .ok false ∨ ∃ fault, result = .error fault ∧ fault.endsListing = false) :
    Tells talk after result page

/-- Of the two statuses that end a listing, what is not the one is the other. -/
theorem NtStatus.eq_noSuchFile_of_endsListing {status : NtStatus}
    (ends : status.endsListing = true) (other : status ≠ noMoreFiles) : status = noSuchFile := by
  -- There are no others that end a listing.
  simpa [endsListing, other] using ends

/-- A failure with which a listing could have ended is a status that ends listings. -/
theorem Fault.exists_status_of_endsListing {fault : Fault} (ends : fault.endsListing = true) :
    ∃ status, fault = .status status ∧ status.endsListing = true := by
  -- No other failure is looked at as an end.
  cases fault with
  | status status => exact ⟨status, rfl, ends⟩
  | _ => simp [endsListing, status?] at ends

/-- A valid tree takes a file. -/
theorem Session.exists_adoptFile_of_valid {session : Session} {tree : TreeRef}
    (valid : session.isTreeValid tree = true) (fid : FileId) (path : String) (mode : OpenMode) :
    ∃ file after, session.adoptFile tree fid path mode = (.ok file, after) := by
  obtain ⟨handle, found, valid⟩ := isTreeValid_iff.mp valid
  -- A valid tree is open, which is all that a share of it asks.
  have isOpen : handle.closed = false := by
    simp only [Handle.isValid, Bool.and_eq_true, Bool.not_eq_true'] at valid
    exact valid.1.1
  simp [adoptFile, acquireTree, found, Handle.acquire, isOpen]

section Calls

variable {session after later : Session} {tree : TreeRef} {request : Request} {delivery : Delivery}
  {answer : Except Fault Response} {result : Except Fault Bool} {page : List Entry}

/-- A call that sends one request makes something of what came of it. -/
theorem tells_of_send (sent : session.send tree request delivery = (answer, later))
    (asks : request.asksForPage = true) (quiet : after.talk = later.talk)
    (heard : Heard request answer result page) : Tells session.talk after result page := by
  rcases Session.talk_send asks sent with said | ⟨unsaid, why, rfl⟩
  · exact .word (quiet.trans said) heard
  · -- A worthless handle brings no page and is no end.
    refine .silent (quiet.trans unsaid) ?_
    cases heard with
    | ended => exact .inl rfl
    | page brings => simp [entriesTold] at brings
    | @failed fault _ _ missed =>
      refine .inr ⟨fault, rfl, Bool.eq_false_iff.mpr fun ends => ?_⟩
      cases missed ends

/-- A page ends the listing if it is empty; otherwise it may have told an end that was missed. -/
theorem heard_page (brings : entriesTold answer = some page)
    (quiet : page ≠ [] → EndTold request answer → EndMissed request answer) :
    Heard request answer (.ok !page.isEmpty) page := by
  -- An empty page brings nothing, so the listing ends there.
  cases page with
  | nil => exact .ended
  | cons entry page => exact .page brings (quiet (List.cons_ne_nil entry page))

/-- What is no answer to the request tells no end and is a failure. -/
theorem heard_unexpected {text : String} (quiet : ¬EndTold request answer) :
    Heard request answer (.error (.protocol text)) page :=
  -- A failure of the protocol has no status that could end a listing.
  .failed (fun told => (quiet told).elim) fun ends => absurd ends (by simp [Fault.endsListing,
    Fault.status?])

/-- A request that goes on and fails ends the listing, or fails it as it failed itself. -/
theorem heard_asEnd (further : request.goesOn = true) (fault : Fault) :
    Heard request (.error fault) fault.asEnd page := by
  by_cases noMore : fault.status? = some .noMoreFiles
  · simp only [Fault.asEnd, noMore, if_true]
    exact .ended
  · simp only [Fault.asEnd, noMore, if_false]
    -- Of the two ends the other one is missed.
    have missed (ends : fault.endsListing = true) : EndMissed request (.error fault) := by
      obtain ⟨status, rfl, ends⟩ := Fault.exists_status_of_endsListing ends
      have other : status ≠ .noMoreFiles := fun same => noMore (congrArg some same)
      rw [NtStatus.eq_noSuchFile_of_endsListing ends other]
      exact .refused further
    refine .failed (fun told => ?_) missed
    cases told with
    | refused _ ends => exact missed ends

end Calls

namespace SearchListing

/-- What beginning a search makes of the answer: both ends are looked for. -/
theorem start_tells (listing : SearchListing) (tree : TreeRef) (session : Session) :
    Tells session.talk (listing.start tree session).2.2 (listing.start tree session).1
      (listing.start tree session).2.1.page := by
  rcases sent : session.send tree listing.first .plain with ⟨answer, later⟩
  refine tells_of_send sent rfl (talk_start sent) ?_
  rcases answer with fault | response
  · -- A search that is refused with either end has come to it.
    by_cases ends : fault.endsListing = true
    · simp only [start, sent, ends, if_true]
      exact .ended
    · simp only [start, sent, ends, Bool.false_eq_true, if_false]
      refine .failed (fun told => ?_) fun ended => (ends ended).elim
      cases told with
      | refused _ ended => exact (ends ended).elim
  · cases response with
    | find page =>
      -- So has one whose first page is marked with either.
      by_cases ends : page.status.endsListing = true
      · simp only [start, sent, ends, if_true]
        exact .ended
      · simp only [start, sent, ends, Bool.false_eq_true, if_false]
        refine heard_page rfl fun _ told => ?_
        cases told with
        | found ended => exact (ends ended).elim
    | _ =>
      -- Anything else is no answer to a search.
      simp only [start, sent]
      exact heard_unexpected (by rintro ⟨⟩)

/-- What going on with a search makes of the answer: one of the ends is looked for. -/
theorem fetchMore_tells (listing : SearchListing) (tree : TreeRef) (session : Session) :
    Tells session.talk (listing.fetchMore tree session).2.2 (listing.fetchMore tree session).1
      (listing.fetchMore tree session).2.1.page := by
  cases begun : listing.sid with
  | none =>
    simp only [fetchMore, begun]
    exact .silent rfl (.inl rfl)
  | some sid =>
    rcases sent : session.send tree (listing.next sid) .plain with ⟨answer, later⟩
    refine tells_of_send sent rfl (talk_fetchMore begun sent) ?_
    rcases answer with fault | response
    · simp only [fetchMore, begun, sent]
      exact heard_asEnd rfl fault
    · cases response with
      | find page =>
        -- On a further page only one of the two ends is looked for.
        by_cases noMore : page.status = .noMoreFiles
        · simp only [fetchMore, begun, sent, noMore, if_true]
          exact .ended
        · simp only [fetchMore, begun, sent, noMore, if_false]
          refine heard_page rfl fun filled told => ?_
          cases told with
          | foundMore ends =>
            exact .found (NtStatus.eq_noSuchFile_of_endsListing ends noMore) filled
      | _ =>
        simp only [fetchMore, begun, sent]
        exact heard_unexpected (by rintro ⟨⟩)

end SearchListing

namespace DirectoryListing

/-- The first page of a directory that was opened is read as the answer to its query tells. -/
theorem firstPage_heard (listing : DirectoryListing) {requests : List Request}
    {opened : ChainedReply Response} {rest : List (ChainedReply Response)}
    (opens : opened.status.isSuccess = true) (session : Session) :
    Heard (.chain requests) (.ok (.chain (opened :: rest)))
      (listing.firstPage rest.head? session).1 (listing.firstPage rest.head? session).2.1.page := by
  -- A directory that was opened was not opened with an end.
  have goes := NtStatus.endsListing_of_isSuccess opens
  cases rest with
  | nil =>
    refine heard_unexpected fun told => ?_
    cases told with
    | unopened ends => simp [goes] at ends
  | cons query rest =>
    simp only [List.head?_cons, firstPage]
    -- The query may have come to either end, and so may the page that it brought.
    by_cases ended : query.status.endsListing = true
    · simp only [ended, if_true]
      exact .ended
    · by_cases fails : query.status.isError = true
      · simp only [ended, fails, Bool.false_eq_true, if_false, if_true]
        refine .failed (fun told => ?_) fun ends => (ended ends).elim
        cases told with
        | unopened ends => simp [goes] at ends
        | unmatched _ _ ends => exact (ended ends).elim
        | firstPage _ _ answers => simp [fails] at answers
      · simp only [ended, fails, Bool.false_eq_true, if_false]
        split
        · rename_i page brings
          by_cases last : page.status.endsListing = true
          · simp only [last, if_true]
            exact .ended
          · simp only [last, Bool.false_eq_true, if_false]
            refine heard_page (by simp only [entriesTold, brings]) fun _ told => ?_
            cases told with
            | unopened ends => simp [goes] at ends
            | unmatched _ _ ends => exact (ended ends).elim
            | firstPage _ _ _ same ends =>
              rw [brings] at same
              cases same
              exact (last ends).elim
        · rename_i nothing
          refine heard_unexpected fun told => ?_
          cases told with
          | unopened ends => simp [goes] at ends
          | unmatched _ _ ends => exact (ended ends).elim
          | firstPage _ _ _ brings => exact (nothing _ brings).elim

/-- Whether or not the directory is given back, what was heard is reported. -/
theorem firstOrRelease_heard (listing : DirectoryListing) {request : Request}
    {answer : Except Fault Response} {reply : Option (ChainedReply Response)} {session : Session}
    (heard : Heard request answer (listing.firstPage reply session).1
      (listing.firstPage reply session).2.1.page) :
    Heard request answer (listing.firstOrRelease reply session).1
      (listing.firstOrRelease reply session).2.1.page := by
  unfold firstOrRelease
  split <;> rename_i read <;> rw [read] at heard
  · exact heard
  · -- A failure is passed on, whatever the closing comes to.
    cases heard with
    | failed quiet missed => split <;> exact .failed quiet missed

/-- What opening a directory makes of the answer: both ends are looked for in the query, not in the
opening. -/
theorem start_tells (listing : DirectoryListing) (tree : TreeRef) (session : Session) :
    Tells session.talk (listing.start tree session).2.2 (listing.start tree session).1
      (listing.start tree session).2.1.page := by
  rcases sent : session.send tree (listing.opening session) .plain with ⟨answer, later⟩
  refine tells_of_send sent rfl (talk_start sent) ?_
  unfold opening at sent ⊢
  rcases answer with fault | response
  · -- Whatever end the whole chain comes to is missed.
    simp only [start, sent]
    refine .failed (fun told => ?_) fun ends => ?_
    · cases told with
      | refused _ ends => exact .unchained ends
    · obtain ⟨status, rfl, ends⟩ := Fault.exists_status_of_endsListing ends
      exact .unchained ends
  · rcases response with _ | _ | _ | _ | _ | replies | _ | _
    -- Only an answer to the chain is read on.
    case chain =>
      rcases replies with _ | ⟨opened, rest⟩
      · simp only [start, sent]
        exact heard_unexpected (by rintro ⟨⟩)
      · by_cases opens : opened.status.isSuccess = true
        · have goes := NtStatus.endsListing_of_isSuccess opens
          simp only [start, sent, opens, Bool.not_true, Bool.false_eq_true, if_false]
          split
          · rename_i file gives
            -- The tree on which the chain was answered takes the directory.
            obtain ⟨dir, after, adopted⟩ := Session.exists_adoptFile_of_valid
              (Session.isTreeValid_of_answered sent).2 file.fid listing.path .directory
            simp only [adopted]
            exact firstOrRelease_heard _ (firstPage_heard _ opens _)
          · rename_i nothing
            refine heard_unexpected fun told => ?_
            cases told with
            | unopened ends => simp [goes] at ends
            | unmatched _ gives => exact (nothing _ gives).elim
            | firstPage _ gives => exact (nothing _ gives).elim
        · -- The failure of the opening is passed on even if it is an end.
          simp only [start, sent, opens, Bool.not_false, if_true]
          refine .failed (fun told => ?_) .unopened
          cases told with
          | unopened ends => exact .unopened ends
          | unmatched success => exact (opens success).elim
          | firstPage success => exact (opens success).elim
    all_goals
      simp only [start, sent]
      exact heard_unexpected (by rintro ⟨⟩)

/-- What going on with a directory makes of the answer: one of the ends is looked for. -/
theorem fetchMore_tells (listing : DirectoryListing) (tree : TreeRef) (session : Session) :
    Tells session.talk (listing.fetchMore tree session).2.2 (listing.fetchMore tree session).1
      (listing.fetchMore tree session).2.1.page := by
  cases held : listing.dir with
  | none =>
    simp only [fetchMore, held]
    exact .silent rfl (.inl rfl)
  | some dir =>
    cases isLast : listing.page.getLast? with
    | none =>
      simp only [fetchMore, held, isLast]
      exact .silent rfl (.inl rfl)
    | some last =>
      rcases sent : session.send tree
          (listing.query session last.fileIndex QueryFlags.indexSpecified) .plain
        with ⟨answer, later⟩
      refine tells_of_send sent rfl (talk_fetchMore held isLast sent) ?_
      rcases answer with fault | response
      · simp only [fetchMore, held, isLast, sent]
        exact heard_asEnd rfl fault
      · cases response with
        | queryDirectory page =>
          -- Here, too, only one of the two ends is looked for.
          by_cases noMore : page.status = .noMoreFiles
          · simp only [fetchMore, held, isLast, sent, noMore, if_true]
            exact .ended
          · simp only [fetchMore, held, isLast, sent, noMore, if_false]
            refine heard_page rfl fun filled told => ?_
            cases told with
            | queried ends =>
              exact .queried (NtStatus.eq_noSuchFile_of_endsListing ends noMore) filled
        | _ =>
          simp only [fetchMore, held, isLast, sent]
          exact heard_unexpected (by rintro ⟨⟩)

end DirectoryListing

namespace Listing

/-- The listing is one of a directory. -/
def OfEntries : Listing → Prop
  | .search _ | .directory _ => True
  | _ => False

/-- What the start of a listing of a directory makes of the answer, and it stays one of a
directory. -/
theorem OfEntries.start_tells {listing : Listing} (ofEntries : listing.OfEntries) (tree : TreeRef)
    (session : Session) :
    let outcome := PagedListing.start listing tree session
    Tells session.talk outcome.2.2 outcome.1 (PagedListing.results outcome.2.1) ∧
      outcome.2.1.OfEntries := by
  -- There are two sorts of listings of directories.
  cases listing with
  | search listing => exact ⟨listing.start_tells tree session, trivial⟩
  | directory listing => exact ⟨listing.start_tells tree session, trivial⟩
  | network | host | rehearsed => exact ofEntries.elim

/-- What going on with a listing of a directory makes of the answer, and it stays one of a
directory. -/
theorem OfEntries.fetchMore_tells {listing : Listing} (ofEntries : listing.OfEntries)
    (tree : TreeRef) (session : Session) :
    let outcome := PagedListing.fetchMore listing tree session
    Tells session.talk outcome.2.2 outcome.1 (PagedListing.results outcome.2.1) ∧
      outcome.2.1.OfEntries := by
  -- There are two sorts of listings of directories.
  cases listing with
  | search listing => exact ⟨listing.fetchMore_tells tree session, trivial⟩
  | directory listing => exact ⟨listing.fetchMore_tells tree session, trivial⟩
  | network | host | rehearsed => exact ofEntries.elim

end Listing

/-- The pages that the answers to some requests brought. -/
def pagesTold (talk : List (Request × Except Fault Response)) : List (List Entry) :=
  talk.filterMap fun (_, answer) => entriesTold answer

/-- What comes of a directory is what was said about it: an end that was told and not missed is the
last word, behind which there is no failure, and the pages are those that came before; a failure
with which a listing could have ended comes of an end that was missed. -/
structure Accounts (talk : List (Request × Except Fault Response)) (course : Course) : Prop where
  ended : ∀ before request answer later, talk = before ++ (request, answer) :: later →
    EndTold request answer → ¬EndMissed request answer →
    later = [] ∧ course = { pages := pagesTold before }
  failed : ∀ fault, course.failure = some fault → fault.endsListing = true →
    ∃ before request answer, talk = before ++ [(request, answer)] ∧ EndMissed request answer

namespace Accounts

variable {request : Request} {answer : Except Fault Response} {page : List Entry}
  {talk : List (Request × Except Fault Response)} {course : Course}

/-- Where nothing is said the listing is at its end, or fails for another reason. -/
theorem nothing {failure : Option Fault}
    (other : ∀ fault, failure = some fault → fault.endsListing = false) :
    Accounts [] { failure } where
  -- There is no word that could tell an end.
  ended before request answer later split := by simp at split
  failed fault failed ends := by
    rw [other fault failed] at ends
    exact absurd ends (by decide)

/-- One word can only be the last. -/
theorem single {before later : List (Request × Except Fault Response)}
    {heard : Request × Except Fault Response} {word : Request × Except Fault Response}
    (split : [word] = before ++ heard :: later) : before = [] ∧ heard = word ∧ later = [] := by
  -- A list of one has nothing before its member and nothing behind it.
  cases before with
  | nil => simpa [eq_comm] using split
  | cons first before => simp at split

/-- A listing that ends with a word has no pages and no failure behind it. -/
theorem last (request : Request) (answer : Except Fault Response) :
    Accounts [(request, answer)] {} where
  -- The word is the only one, and nothing fails.
  ended before _ _ later split _ _ := by
    obtain ⟨rfl, _, rfl⟩ := single split
    exact ⟨rfl, rfl⟩
  failed _ failed := by simp at failed

/-- A word at which the listing fails tells no end, unless it was missed. -/
theorem failure {fault : Fault} (heard : Heard request answer (.error fault) page) :
    Accounts [(request, answer)] { failure := some fault } := by
  -- The listing failed at this word, so an end in it was missed, and only then looks like one.
  cases heard with
  | failed quiet missed =>
    refine ⟨fun before _ _ later split told heeded => ?_, fun other failed ends => ?_⟩
    · obtain ⟨_, same, _⟩ := single split
      cases same
      exact (heeded (quiet told)).elim
    · obtain rfl := Option.some.inj failed
      exact ⟨[], request, answer, rfl, missed ends⟩

/-- A word that brings a page comes before what is said behind it. -/
theorem behind (heard : Heard request answer (.ok true) page) (accounts : Accounts talk course) :
    Accounts ((request, answer) :: talk) (course.behind page) := by
  cases heard with
  | page brings quiet =>
    refine ⟨fun before other told later split isEnd heeded => ?_, fun fault failed ends => ?_⟩
    · cases before with
      | nil =>
        -- The first word tells no end but one that is missed.
        obtain ⟨same, _⟩ := List.cons_eq_cons.mp split
        cases same
        exact (heeded (quiet isEnd)).elim
      | cons first before =>
        -- Any other word was said behind the page.
        obtain ⟨rfl, rest⟩ := List.cons_eq_cons.mp split
        obtain ⟨none, rfl⟩ := accounts.ended before other told later rest isEnd heeded
        refine ⟨none, ?_⟩
        simp only [Course.behind, pagesTold, List.filterMap_cons, brings]
    · obtain ⟨before, other, told, split, missed⟩ := accounts.failed fault failed ends
      exact ⟨(request, answer) :: before, other, told, by rw [split]; rfl, missed⟩

end Accounts

namespace Cursor

variable {tree : TreeRef} {filter : Option NameFilter} {listing more : Listing}
  {session after later : Session} {page : List Entry}

/-- What is read is accounted for by what was said since a session. -/
def Reading.AccountsFor (reading : Reading Listing) (session : Session) : Prop :=
  ∃ talk, reading.session.talk = session.talk ++ talk ∧ Accounts talk reading.course

/-- A reading that fails is accounted for by the word at which it fails. -/
theorem accounts_failed {fault : Fault} (tells : Tells session.talk after (.error fault) page) :
    Reading.AccountsFor { failure := some fault, listing := more, session := after, pages := [] }
      session := by
  cases tells with
  | word said heard => exact ⟨_, said, .failure heard⟩
  | silent quiet halts =>
    refine ⟨[], by simpa using quiet, .nothing fun other same => ?_⟩
    -- A call that says nothing and fails does so for another reason than an end.
    obtain halted | ⟨_, halted, ordinary⟩ := halts
    · simp at halted
    · obtain rfl := Option.some.inj same
      obtain rfl := Except.error.inj halted
      exact ordinary

/-- A reading that ends is accounted for by the word at which it ends. -/
theorem accounts_ended (tells : Tells session.talk after (.ok false) page)
    (same : later.talk = after.talk) :
    Reading.AccountsFor { failure := none, listing := more, session := later, pages := [] }
      session := by
  -- The word is the last one, or nothing was said.
  cases tells with
  | word said heard => exact ⟨_, same.trans said, .last _ _⟩
  | silent quiet => exact ⟨[], by simpa using same.trans quiet, .nothing (by simp)⟩

/-- A page that comes is accounted for by its word, and the reading behind it by what is said
then. -/
theorem accounts_page (tells : Tells session.talk after (.ok true) page)
    (same : later.talk = after.talk)
    (behind : (readOutBehind tree filter more later).AccountsFor later) :
    ((readOutBehind tree filter more later).behind page).AccountsFor session := by
  obtain ⟨talk, went, accounts⟩ := behind
  -- A page cannot come without a word.
  cases tells with
  | @word request answer said heard =>
    refine ⟨(request, answer) :: talk, ?_, accounts.behind heard⟩
    rw [List.append_cons, ← said]
    exact went.trans (congrArg (· ++ talk) same)
  | silent quiet halts => simp at halts

/-- Behind any page of a directory what comes is what is said. -/
theorem accounts_readOutBehind (ofEntries : listing.OfEntries) (tree : TreeRef)
    (filter : Option NameFilter) (session : Session) :
    (readOutBehind tree filter listing session).AccountsFor session := by
  -- The induction is on the reading; each page is asked for with one word.
  fun_induction readOutBehind tree filter listing session with
  | case1 listing session label asked done => exact ⟨[], by simp [asked], .nothing (by simp)⟩
  | case2 listing session label asked more fault left last fetched =>
    have tells := (ofEntries.fetchMore_tells tree (asked.noteHook label .fetchMore)).1
    rw [fetched] at tells
    exact accounts_failed tells
  | case3 listing session label asked more left last fetched =>
    have tells := (ofEntries.fetchMore_tells tree (asked.noteHook label .fetchMore)).1
    rw [fetched] at tells
    exact accounts_ended tells rfl
  | case4 listing session label asked isMore more after fetched page ih =>
    obtain ⟨tells, still⟩ := ofEntries.fetchMore_tells tree (asked.noteHook label .fetchMore)
    rw [fetched] at tells still
    exact accounts_page tells rfl (ih still)

/-- So it is from the start of the listing on. -/
theorem accounts_readOut (ofEntries : listing.OfEntries) (tree : TreeRef)
    (filter : Option NameFilter) (session : Session) :
    (readOut tree filter listing session).AccountsFor session := by
  obtain ⟨tells, still⟩ := ofEntries.start_tells tree
    (session.noteHook (PagedListing.label listing) .start)
  unfold readOut
  -- The start fails, ends the listing or brings a page, behind which the listing is read out.
  split <;> rename_i started <;> rw [started] at tells still
  · exact accounts_failed tells
  · exact accounts_ended tells rfl
  · exact accounts_page tells rfl (accounts_readOutBehind still tree filter _)

/-- Whoever pulls at a cursor over a directory meets what comes of it; by then nothing was said but
what is said of the whole of it, and all of that once the last entry and the failure were met. One
that cannot begin was told all of it. -/
theorem ofListing_accounts (ofEntries : listing.OfEntries) (filter : Option NameFilter)
    (acquired : session.acquire = (.ok tree, after)) :
    ∃ talk course, Accounts talk course ∧
      match ofListing listing filter session with
      | (.error fault, refused) =>
        refused.talk = session.talk ++ talk ∧ course.failure = some fault
      | (.ok cursor, opened) => ∀ pulls,
        answers pulls cursor opened = course.answers filter pulls ∧
          ∃ more, (cursor.play opened (List.replicate pulls .pull)).2.talk ++ more =
            session.talk ++ talk ∧ ((course.entries filter).length ≤ pulls → more = []) := by
  have begun := begun_fresh listing tree filter after
  have answered := begun.answered rfl rfl rfl
  have drained := begun.drained rfl rfl
  obtain ⟨talk, said, accounts⟩ := accounts_readOut ofEntries tree filter after
  rw [Session.talk_acquire acquired] at said
  refine ⟨talk, _, accounts, ?_⟩
  simp only [ofListing, acquired]
  rcases began : begin { listing, tree := some tree, filter } tree after with
    ⟨fault | _, cursor, opened⟩ <;> rw [began] at begun answered drained
  · -- A cursor that cannot begin is at the end of its listing, and is closed there.
    simp only at drained ⊢
    have given := congrArg (fun given : Listing × Session => given.2.talk)
      ((begun.opened rfl).close_eq (opened.note (.cursorOpenFailed cursor.label fault)))
    simp only [talk_giveBack, Session.talk_note] at given
    refine ⟨?_, congrArg Finale.failure drained⟩
    rw [given, ← said]
    exact (congrArg (fun finale => finale.session.talk) drained).symm
  · rw [course_readOut]
    refine fun pulls => ⟨answered.2 pulls, ?_⟩
    obtain ⟨more, whole, settled⟩ := begun.talk_played rfl rfl rfl pulls
    exact ⟨more, whole.symm.trans said, settled⟩

end Cursor

/-- An address that lacks a separator at its end is invalid. -/
theorem Locator.checkSeparators_cases (locator : Locator) :
    locator.checkSeparators = .ok () ∨ ∃ why, locator.checkSeparators = .error (.invalid why) := by
  unfold checkSeparators
  -- The path is looked at before the address, and either failure says what is missing.
  split
  · exact .inr ⟨_, rfl⟩
  · split
    · exact .inr ⟨_, rfl⟩
    · exact .inl rfl

namespace Session

variable {session : Session} {locator : Locator} {options : ListOptions}

/-- A share or a directory calls for a listing of a directory, and if there is none that is for
another reason than that there is nothing in it. -/
theorem listingOf_place (place : locator.kind = .share ∨ locator.kind = .directory) :
    match session.listingOf locator options with
    | .ok listing => listing.OfEntries
    | .error fault => fault.endsListing = false := by
  -- In either dialect the listing is made if the address has its separators.
  unfold listingOf
  rcases locator.checkSeparators_cases with checked | ⟨why, checked⟩
  · rcases place with kind | kind <;> rw [kind] <;> cases session.server.dialect <;>
      simp only [SearchListing.new, DirectoryListing.new, checked] <;> trivial
  · rcases place with kind | kind <;> rw [kind] <;> cases session.server.dialect <;>
      simp only [SearchListing.new, DirectoryListing.new, checked] <;> rfl

/-- What is met by whoever lists a place and pulls: why it cannot be listed, or what is answered, and
the session behind that. -/
def met (session : Session) (locator : Locator) (options : ListOptions) (pulls : Nat) :
    List (Except Fault (Option Entry)) × Session :=
  match session.list locator options with
  | (.error fault, refused) => ([.error fault], refused)
  | (.ok cursor, opened) =>
    (Cursor.answers pulls cursor opened,
      (cursor.play opened (List.replicate pulls .pull)).2)

end Session

/-- A failure is only answered behind the last entry, and is that of the course. -/
theorem Course.failure_of_answers {course : Course} {filter : Option NameFilter} {pulls : Nat}
    {fault : Fault} (answered : .error fault ∈ course.answers filter pulls) :
    course.failure = some fault ∧ (course.entries filter).length ≤ pulls := by
  unfold Course.answers at answered
  rw [List.take_append] at answered
  -- The first answers are entries, so a failure is one of those behind them.
  rcases List.mem_append.mp answered with early | late
  · have isEntry := List.mem_of_mem_take early
    simp at isEntry
  · refine ⟨?_, ?_⟩
    · have isEnd := List.mem_of_mem_take late
      simpa [Course.ending, eq_comm] using isEnd
    · by_contra few
      have none : pulls - (course.entries filter).length = 0 := by omega
      simp [none] at late

/-- Whoever lists a share or a directory and pulls, however often: when an end is told that is not
missed, it is the last word, the place can be listed, and what is answered are the wanted entries of
all pages before and then nothing for ever. A failure with which a listing could have ended is met
only when the share could not be connected, or behind an end that was missed. -/
theorem Session.list_ended (session : Session) {locator : Locator}
    (place : locator.kind = .share ∨ locator.kind = .directory) (options : ListOptions)
    (pulls : Nat) :
    let (met, after) := session.met locator options pulls
    (∀ before request answer later,
      after.talk = session.talk ++ before ++ (request, answer) :: later →
      EndTold request answer → ¬EndMissed request answer →
      later = [] ∧ ∃ cursor opened, session.list locator options = (.ok cursor, opened) ∧
        ∀ pulls, Cursor.answers pulls cursor opened =
          Course.answers options.nameFilter { pages := pagesTold before } pulls) ∧
    ∀ fault, .error fault ∈ met → fault.endsListing = true →
      session.acquire.1 = .error fault ∨
        ∃ before request answer, after.talk = session.talk ++ before ++ [(request, answer)] ∧
          EndMissed request answer := by
  have made := @listingOf_place session locator options place
  rcases called : session.listingOf locator options with fault | listing <;> rw [called] at made
  · -- A place that is refused unasked is refused for another reason.
    simp only [met, list, called]
    refine ⟨fun before request answer later said => ?_, fun other met ends => ?_⟩
    · simp at said
    · obtain rfl := Except.error.inj (List.mem_singleton.mp met)
      exact absurd ends (by simp [made])
  · rcases acquired : session.acquire with ⟨fault | tree, held⟩
    · -- Without a tree nothing is said about pages.
      have quiet := talk_acquire_refused acquired
      simp only [met, list, called, Cursor.ofListing, acquired, quiet]
      refine ⟨fun before request answer later said => ?_, fun other met _ => .inl ?_⟩
      · simp at said
      · rw [Except.error.inj (List.mem_singleton.mp met)]
    · obtain ⟨talk, course, accounts, comes⟩ :=
        Cursor.ofListing_accounts made options.nameFilter acquired
      rcases begun : Cursor.ofListing listing options.nameFilter session with
        ⟨fault | cursor, opened⟩ <;> rw [begun] at comes
      · obtain ⟨said, failure⟩ := comes
        simp only [met, list, called, begun, said, List.append_assoc, List.append_cancel_left_eq]
        refine ⟨fun before request answer later split told heeded => ?_,
          fun other met ends => .inr ?_⟩
        · -- Behind an end that is not missed there is no failure.
          obtain ⟨_, rfl⟩ := accounts.ended before request answer later split told heeded
          simp at failure
        · obtain rfl := Except.error.inj (List.mem_singleton.mp met)
          exact accounts.failed other failure ends
      · obtain ⟨answered, more, whole, settled⟩ := comes pulls
        simp only [met, list, called, begun]
        refine ⟨fun before request answer later said told heeded => ?_,
          fun fault met ends => .inr ?_⟩
        · have split : talk = before ++ (request, answer) :: (later ++ more) := by
            simpa [said] using whole.symm
          obtain ⟨last, rfl⟩ := accounts.ended before request answer _ split told heeded
          exact ⟨(List.append_eq_nil_iff.mp last).1, cursor, opened, rfl,
            fun pulls => (comes pulls).1⟩
        · -- A failure that was answered is behind all that is said.
          rw [answered] at met
          obtain ⟨failure, enough⟩ := Course.failure_of_answers met
          obtain ⟨before, request, answer, split, missed⟩ := accounts.failed fault failure ends
          rw [settled enough, List.append_nil, split, ← List.append_assoc] at whole
          exact ⟨before, request, answer, whole, missed⟩

/-- The second page is refused with the end that is looked for, so that only the entry of the first
is answered. -/
theorem Session.list_ended_secondPage :
    let session := new { maxBufferSize := 1024 }
      (.ofTranscript
        { dialect := .smb2
          exchanges :=
            [⟨"chain", .ok (.chain [⟨.success, some (.create { fid := .legacy 5 })⟩,
                ⟨.success, some (.queryDirectory { entries := [{ name := "A" }] })⟩])⟩,
              ⟨"query_directory", .status .noMoreFiles⟩, ⟨"close", .ok .empty⟩] })
      "\\\\srv\\data" ""
    ∃ cursor opened first request,
      session.list (.ofShare "srv" "data") {} = (.ok cursor, opened) ∧
      (session.met (.ofShare "srv" "data") {} 1).2.talk =
        [first, (request, .error (.status .noMoreFiles))] ∧
      request.goesOn = true ∧
      ∀ pulls, Cursor.answers pulls cursor opened =
        Course.answers none { pages := [[{ name := "A" }]] } pulls := by
  intro session
  have heard : (session.met (.ofShare "srv" "data") {} 1).2.talk.map
        (fun word => (entriesTold word.2, word.1.goesOn, refusal? word.2)) =
      [(some [{ name := "A" }], false, none), (none, true, some .noMoreFiles)] := by
    decide +kernel
  have silent : session.talk = [] := rfl
  have place : (Locator.ofShare "srv" "data").kind = .share := rfl
  -- From here on only what was said matters.
  clear_value session
  obtain ⟨first, rest, said, isFirst, heard⟩ := List.map_eq_cons_iff.mp heard
  obtain ⟨⟨request, answer⟩, rest, rfl, isSecond, nothing⟩ := List.map_eq_cons_iff.mp heard
  obtain rfl := List.map_eq_nil_iff.mp nothing
  simp only [Prod.mk.injEq] at isFirst isSecond
  obtain ⟨_, further, refused⟩ := isSecond
  obtain rfl := eq_of_refusal? refused
  have lists : request.listsEntries = true := by
    cases request <;> simp_all [Request.goesOn, Request.listsEntries]
  have looked : ¬EndMissed request (.error (.status .noMoreFiles)) := by
    intro missed
    cases missed with
    | unchained => simp [Request.goesOn] at further
  obtain ⟨_, cursor, opened, listed, answered⟩ := (list_ended session (.inl place) {} 1).1 [first]
    request _ [] (by rw [silent]; exact said) (.refused lists rfl) looked
  have pages : pagesTold [first] = [[{ name := "A" }]] := by simp [pagesTold, isFirst.1]
  rw [pages] at answered
  exact ⟨cursor, opened, first, request, listed, said, further, answered⟩

/-- The second page is refused with the other end, and a pull fails with it. -/
theorem Session.list_missed_secondPage :
    let session := new { maxBufferSize := 1024 }
      (.ofTranscript
        { dialect := .smb1
          exchanges :=
            [⟨"find_first2", .ok (.find { sid := ⟨7⟩, entries := [{ name := "A" }] })⟩,
              ⟨"find_next2", .status .noSuchFile⟩, ⟨"find_close2", .ok .empty⟩] })
      "\\\\srv\\data" ""
    ∃ cursor opened first request,
      session.list (.ofShare "srv" "data") {} = (.ok cursor, opened) ∧
      (session.met (.ofShare "srv" "data") {} 1).2.talk =
        [first, (request, .error (.status .noSuchFile))] ∧
      EndTold request (.error (.status .noSuchFile)) ∧
      Cursor.answers 2 cursor opened =
        [.ok (some { name := "A" }), .error (.status .noSuchFile)] := by
  intro session
  -- The script fixes what is said and answered; only then the session is taken as it is.
  have heard : (session.met (.ofShare "srv" "data") {} 1).2.talk.map
        (fun word => (word.1.listsEntries, refusal? word.2)) =
      [(true, none), (true, some .noSuchFile)] := by
    decide +kernel
  have answered : (session.list (.ofShare "srv" "data") {}).1.toOption.map
        (fun cursor => Cursor.answers 2 cursor (session.list (.ofShare "srv" "data") {}).2) =
      some [.ok (some { name := "A" }), .error (.status .noSuchFile)] := by
    decide +kernel
  clear_value session
  rcases listed : session.list (.ofShare "srv" "data") {} with ⟨fault | cursor, opened⟩
  · simp [listed, Except.toOption] at answered
  · simp only [listed, Except.toOption, Option.map_some, Option.some.injEq] at answered
    obtain ⟨first, rest, said, _, heard⟩ := List.map_eq_cons_iff.mp heard
    obtain ⟨⟨request, answer⟩, rest, rfl, isSecond, nothing⟩ := List.map_eq_cons_iff.mp heard
    obtain rfl := List.map_eq_nil_iff.mp nothing
    simp only [Prod.mk.injEq] at isSecond
    obtain rfl := eq_of_refusal? isSecond.2
    exact ⟨cursor, opened, first, request, rfl, said, .refused isSecond.1 rfl, answered⟩

end SmbBrowser
