import SmbBrowser.Proofs.Listing.Network
import SmbBrowser.Proofs.Session.Talk

/-!
Alarms: the answers to requests for pages that are no end of a listing. An alarm that is told where
it is looked for is the last word about pages, and whoever pulls meets a failure before the end.
-/

namespace SmbBrowser

/-- An error other than that there is no such file. -/
def NtStatus.isAlarm (status : NtStatus) : Bool := status.isError && status ≠ noSuchFile

/-- The answers that tell of a failure where it is looked for: a request that fails, one of the two
requests of a chain that fails, a page of servers or shares that is not given, and a further page of
servers that says there is more but names no server to go on from. What a page of a directory says
of itself is not among them. -/
inductive Alarm : Request → Except Fault Response → Prop where
  /-- The request fails. -/
  | refused {request : Request} {status : NtStatus} (error : status.isAlarm = true) :
    Alarm request (.error (.status status))
  /-- One of the requests of a chain fails. -/
  | element {requests : List Request} {replies : List (ChainedReply Response)}
    {reply : ChainedReply Response} (among : reply ∈ replies.take 2)
    (error : reply.status.isAlarm = true) : Alarm (.chain requests) (.ok (.chain replies))
  /-- The servers are not given. -/
  | noServers {query : ServerQuery} {page : ServerPage} (whole : page.status ≠ .success)
    (split : page.status ≠ .moreData) : Alarm (.serverEnum query) (.ok (.serverList page))
  /-- The shares are not given. -/
  | noShares {page : SharePage} (whole : page.status ≠ .success) :
    Alarm .shareEnum (.ok (.shareList page))
  /-- A further page says that there is more, and is empty. -/
  | nameless {query : ServerQuery} {page : ServerPage} (further : query.command = .netServerEnum3)
    (more : page.status = .moreData) (empty : page.entries = []) :
    Alarm (.serverEnum query) (.ok (.serverList page))

/-- An alarm is the last word, and what is read comes to a failure. -/
def Heeded (talk : List (Request × Except Fault Response)) (failure : Option Fault) : Prop :=
  ∀ before request answer later, talk = before ++ (request, answer) :: later →
    Alarm request answer → later = [] ∧ failure.isSome = true

namespace NtStatus

variable {status : NtStatus}

/-- An alarm is an error. -/
theorem isError_of_isAlarm (alarm : status.isAlarm = true) : status.isError = true := by
  -- That it is no lack of a file is said besides.
  simp only [isAlarm, Bool.and_eq_true] at alarm
  exact alarm.1

/-- An alarm ends no listing. -/
theorem endsListing_of_isAlarm (alarm : status.isAlarm = true) : status.endsListing = false := by
  simp only [isAlarm, Bool.and_eq_true, decide_eq_true_eq] at alarm
  simp only [endsListing, Bool.or_eq_false_iff, decide_eq_false_iff_not]
  refine ⟨?_, alarm.2⟩
  -- That there are no more files is a warning.
  rintro rfl
  exact absurd alarm.1 (by decide)

/-- An alarm is no success. -/
theorem isSuccess_of_isAlarm (alarm : status.isAlarm = true) : status.isSuccess = false := by
  have error := isError_of_isAlarm alarm
  simp only [isError, isSuccess, decide_eq_true_eq, decide_eq_false_iff_not] at error ⊢
  -- An error lies in the last quarter of the codes, a success below the second one.
  exact fun below => absurd (UInt32.lt_of_le_of_lt error below) (by decide)

end NtStatus

/-- A failure with an alarm is passed on where the end of a listing is looked for. -/
theorem Fault.asEnd_of_isAlarm {status : NtStatus} (alarm : status.isAlarm = true) :
    (Fault.status status).asEnd = .error (.status status) := by
  have more := NtStatus.endsListing_of_isAlarm alarm
  simp only [NtStatus.endsListing, Bool.or_eq_false_iff, decide_eq_false_iff_not] at more
  -- Only that there are no more files would be taken for the end.
  simp [Fault.asEnd, Fault.status?, more.1]

/-- What a listing comes to that does not go on: a failure, or a page behind which it is stuck. -/
def Halts {Kind : Type} (stuck : Kind → Prop) : Except Fault Bool × Kind × Session → Prop
  | (.error _, _, _) => True
  | (.ok found, listing, _) => found = true ∧ stuck listing

/-- A call of a listing says one word about pages at most, and does not go on after an alarm. -/
def Speaks {Kind : Type} (stuck : Kind → Prop) (session : Session)
    (outcome : Except Fault Bool × Kind × Session) : Prop :=
  ∃ word : Option (Request × Except Fault Response),
    outcome.2.2.talk = session.talk ++ word.toList ∧
      ∀ request answer, word = some (request, answer) → Alarm request answer → Halts stuck outcome

section Calls

variable {Kind : Type} {stuck : Kind → Prop} {session later : Session} {tree : TreeRef}
  {request : Request} {delivery : Delivery} {answer : Except Fault Response}
  {outcome : Except Fault Bool × Kind × Session}

/-- A call behind which the talk is as before says nothing. -/
theorem speaks_nothing (quiet : outcome.2.2.talk = session.talk) : Speaks stuck session outcome :=
  -- Without a word there is no alarm to be heeded.
  ⟨none, by simp [quiet], by simp⟩

/-- A call that sends one request says what came of it. -/
theorem speaks_of_send (sent : session.send tree request delivery = (answer, later))
    (asks : request.asksForPage = true) (quiet : outcome.2.2.talk = later.talk)
    (halts : Alarm request answer → Halts stuck outcome) : Speaks stuck session outcome := by
  -- Either the request reached the other side, and is the word, or nothing was said.
  rcases Session.talk_send asks sent with said | ⟨unsaid, _⟩
  · refine ⟨some (request, answer), quiet.trans said, ?_⟩
    rintro _ _ ⟨⟩
    exact halts
  · exact speaks_nothing (quiet.trans unsaid)

end Calls

namespace SearchListing

variable {listing : SearchListing} {tree : TreeRef} {session later : Session}
  {answer : Except Fault Response}

/-- Beginning a search says nothing but the request. -/
theorem talk_start (sent : session.send tree listing.first .plain = (answer, later)) :
    (listing.start tree session).2.2.talk = later.talk := by
  simp only [start, sent]
  -- Whatever the answer is, the session is the one behind the request, with a log at most.
  repeat' split
  all_goals first | rfl | simp_all

/-- So does going on with it. -/
theorem talk_fetchMore {sid : SearchId} (begun : listing.sid = some sid)
    (sent : session.send tree (listing.next sid) .plain = (answer, later)) :
    (listing.fetchMore tree session).2.2.talk = later.talk := by
  simp only [fetchMore, begun, sent]
  -- Here, too, the answer is only read.
  repeat' split
  all_goals first | rfl | simp_all

/-- Beginning a search says one word at most, and fails at an alarm. -/
theorem start_speaks (listing : SearchListing) (tree : TreeRef) (session : Session) :
    Speaks (fun _ => False) session (listing.start tree session) := by
  rcases sent : session.send tree listing.first .plain with ⟨answer, later⟩
  refine speaks_of_send sent rfl (talk_start sent) fun alarm => ?_
  -- A search that is refused ends without a failure only for the lack of files.
  cases alarm with
  | @refused _ status error =>
    have fails : (Fault.status status).endsListing = false :=
      NtStatus.endsListing_of_isAlarm error
    simp only [start, sent, fails, Bool.false_eq_true, if_false, Halts]

/-- Going on with a search says one word at most, and fails at an alarm. -/
theorem fetchMore_speaks (listing : SearchListing) (tree : TreeRef) (session : Session) :
    Speaks (fun _ => False) session (listing.fetchMore tree session) := by
  cases begun : listing.sid with
  | none => exact speaks_nothing (by simp only [fetchMore, begun])
  | some sid =>
    rcases sent : session.send tree (listing.next sid) .plain with ⟨answer, later⟩
    refine speaks_of_send sent rfl (talk_fetchMore begun sent) fun alarm => ?_
    -- The only alarm that can answer this request is that it is refused.
    cases alarm with
    | @refused _ status error =>
      have fails := Fault.asEnd_of_isAlarm error
      simp only [fetchMore, begun, sent, fails, Halts]

end SearchListing

namespace DirectoryListing

/-- Giving the open directory back is no word about pages. -/
theorem talk_releaseDir (listing : DirectoryListing) (session : Session) :
    (listing.releaseDir session).2.2.talk = session.talk := by
  unfold releaseDir
  -- There may be no directory to be given back.
  split
  · rfl
  · simp only [Session.talk_forgetFile, Session.talk_releaseFile]

/-- Holding a directory is no word about pages. -/
theorem talk_hold (listing : DirectoryListing) (dir : FileRef) (session : Session) :
    (listing.hold dir session).2.talk = session.talk := by
  unfold hold
  simp only
  -- The directory that was held before, if any, is forgotten.
  split
  · rfl
  · exact session.talk_forgetFile _

/-- Reading the first page is no word about pages: it came with the opening. -/
theorem talk_firstPage (listing : DirectoryListing) (reply : Option (ChainedReply Response))
    (session : Session) : (listing.firstPage reply session).2.2.talk = session.talk := by
  unfold firstPage
  repeat' split
  -- Whatever the reply is, nothing passes.
  all_goals rfl

/-- Reading the first page, or giving the directory back for it, is no word about pages. -/
theorem talk_firstOrRelease (listing : DirectoryListing) (reply : Option (ChainedReply Response))
    (session : Session) : (listing.firstOrRelease reply session).2.2.talk = session.talk := by
  have read := listing.talk_firstPage reply session
  unfold firstOrRelease
  split <;> rename_i page <;> rw [page] at read
  · exact read
  · rename_i fault turned after
    -- Without a first page the directory is given back.
    have released := turned.talk_releaseDir after
    split <;> rename_i given <;> rw [given] at released
    · exact released.trans read
    · exact released.trans read

/-- A query that failed with an alarm makes the first page fail. -/
theorem firstOrRelease_alarmed {listing : DirectoryListing} {reply : ChainedReply Response}
    (error : reply.status.isAlarm = true) (session : Session) :
    Halts (fun _ => False) (listing.firstOrRelease (some reply) session) := by
  have fails : listing.firstPage (some reply) session =
      (.error (.status reply.status), listing, session) := by
    simp only [firstPage, NtStatus.endsListing_of_isAlarm error, NtStatus.isError_of_isAlarm error,
      Bool.false_eq_true, if_false, if_true]
  unfold firstOrRelease
  rw [fails]
  -- The failure is reported whether or not the directory could be closed.
  simp only
  split <;> trivial

/-- The chain that opens a directory and asks for its first page. -/
def opening (listing : DirectoryListing) (session : Session) : Request :=
  .chain [.create (OpenMode.directory.toCreate listing.path), listing.query session 0 0]

/-- Opening a directory says nothing but the chain. -/
theorem talk_start {listing : DirectoryListing} {tree : TreeRef} {session later : Session}
    {answer : Except Fault Response}
    (sent : session.send tree (listing.opening session) .plain = (answer, later)) :
    (listing.start tree session).2.2.talk = later.talk := by
  unfold opening at sent
  simp only [start, sent]
  split
  · simp_all
  · simp_all
  · rename_i opened rest same
    simp only [Prod.mk.injEq] at same
    obtain ⟨_, rfl⟩ := same
    split
    · rfl
    · split
      · rename_i file _
        -- Neither the handle on the directory nor its release is a word about pages.
        have adopts := later.talk_adoptFile tree file.fid listing.path .directory
        split <;> rename_i adopted <;> rw [adopted] at adopts
        · exact adopts
        · simp only [talk_firstOrRelease, talk_hold]
          exact adopts
      · rfl
  · simp_all

/-- Asking for a further page says nothing but the request. -/
theorem talk_fetchMore {listing : DirectoryListing} {tree : TreeRef} {session later : Session}
    {answer : Except Fault Response} {dir : FileRef} {last : Entry} (held : listing.dir = some dir)
    (isLast : listing.page.getLast? = some last)
    (sent : session.send tree (listing.query session last.fileIndex QueryFlags.indexSpecified)
      .plain = (answer, later)) :
    (listing.fetchMore tree session).2.2.talk = later.talk := by
  simp only [fetchMore, held, isLast, sent]
  -- The answer is only read, whatever it is.
  repeat' split
  all_goals first | rfl | simp_all

/-- Opening a directory says one word at most, and fails at an alarm in its place. -/
theorem start_speaks (listing : DirectoryListing) (tree : TreeRef) (session : Session) :
    Speaks (fun _ => False) session (listing.start tree session) := by
  rcases sent : session.send tree (listing.opening session) .plain with ⟨answer, later⟩
  refine speaks_of_send sent rfl (talk_start sent) fun alarm => ?_
  unfold opening at sent alarm
  cases alarm with
  | refused error => simp only [start, sent, Halts]
  | @element _ replies reply among error =>
    match replies, among with
    | opened :: rest, among =>
      simp only [start, sent]
      split
      · trivial
      · -- The opening succeeded; a handle on the directory may still be refused.
        rename_i opens
        split
        · split
          · trivial
          · -- What fails is not the opening, so that it is the query.
            match rest, among with
            | queried :: _, among =>
              rcases List.mem_cons.mp among with rfl | isQuery
              · simp [NtStatus.isSuccess_of_isAlarm error] at opens
              · obtain rfl : reply = queried := by simpa using isQuery
                exact firstOrRelease_alarmed error _
            | [], among =>
              obtain rfl : reply = opened := by simpa using among
              simp [NtStatus.isSuccess_of_isAlarm error] at opens
        · trivial

/-- Going on with a directory says one word at most, and fails at an alarm. -/
theorem fetchMore_speaks (listing : DirectoryListing) (tree : TreeRef) (session : Session) :
    Speaks (fun _ => False) session (listing.fetchMore tree session) := by
  cases held : listing.dir with
  | none => exact speaks_nothing (by simp only [fetchMore, held])
  | some dir =>
    cases isLast : listing.page.getLast? with
    | none => exact speaks_nothing (by simp only [fetchMore, held, isLast])
    | some last =>
      rcases sent : session.send tree
          (listing.query session last.fileIndex QueryFlags.indexSpecified) .plain
        with ⟨answer, later⟩
      refine speaks_of_send sent rfl (talk_fetchMore held isLast sent) fun alarm => ?_
      -- The only alarm that can answer this request is that it is refused.
      cases alarm with
      | @refused _ status error =>
        simp only [fetchMore, held, isLast, sent, Fault.asEnd_of_isAlarm error, Halts]

end DirectoryListing

namespace NetworkListing

/-- The page says that there is more, and names no server to go on from. -/
def Stuck (listing : NetworkListing) : Prop := listing.isPartial = true ∧ listing.page = []

variable {listing : NetworkListing} {tree : TreeRef} {session later : Session}
  {answer : Except Fault Response}

/-- Asking for a page says nothing but the request. -/
theorem talk_ask (sent : session.send tree (.serverEnum listing.query) .plain = (answer, later)) :
    (listing.ask tree session).2.2.talk = later.talk := by
  simp only [ask, sent]
  -- The answer is only read, and a page that is accepted is logged.
  repeat' split
  all_goals first | rfl | simp_all

/-- An alarm fails the request for a page, or leaves the listing stuck behind a further page. -/
theorem ask_alarmed (sent : session.send tree (.serverEnum listing.query) .plain = (answer, later))
    (alarm : Alarm (.serverEnum listing.query) answer) :
    (∃ fault left after, listing.ask tree session = (.error fault, left, after)) ∨
      listing.query.command = .netServerEnum3 ∧
        ∃ left after, listing.ask tree session = (.ok (), left, after) ∧ left.Stuck := by
  -- A refusal and a page that is not given fail the request; a page without names gets through.
  cases alarm with
  | refused error => exact .inl ⟨_, _, _, by simp only [ask, sent]; rfl⟩
  | @noServers _ page whole split =>
    have given : ¬(page.status = .success ∨ page.status = .moreData) := by simp [whole, split]
    left
    simp only [ask, sent, if_neg given]
    split <;> exact ⟨_, _, _, rfl⟩
  | @nameless _ page further more empty =>
    have installed : page.status ≠ .serviceNotInstalled := by
      rw [more]
      decide
    refine .inr ⟨further, { listing with status := page.status, page := [] }, ?_⟩
    simp only [ask, sent, if_neg installed, if_pos (Or.inr more), empty, List.map_nil]
    exact ⟨_, rfl, by simp [isPartial, more], rfl⟩

/-- Asking for the first servers says one word at most, and fails at an alarm. -/
theorem start_speaks (first : listing.query.command = .netServerEnum2) (tree : TreeRef)
    (session : Session) : Speaks Stuck session (listing.start tree session) := by
  rcases sent : session.send tree (.serverEnum listing.query) .plain with ⟨answer, later⟩
  refine speaks_of_send sent rfl ?_ fun alarm => ?_
  · rw [← talk_ask sent]
    unfold start
    split <;> rename_i asked <;> rw [asked]
  · rcases ask_alarmed sent alarm with ⟨fault, left, after, failed⟩ | ⟨further, _⟩
    · simp only [start, failed, Halts]
    · -- The first request is none for a further page.
      rw [first] at further
      contradiction

/-- Asking for further servers says one word at most, and at an alarm fails or leaves the listing
stuck. -/
theorem fetchMore_speaks (listing : NetworkListing) (tree : TreeRef) (session : Session) :
    Speaks Stuck session (listing.fetchMore tree session) := by
  cases continues : listing.workgroup with
  | false => exact speaks_nothing (by simp [fetchMore, continues])
  | true =>
    cases isLast : listing.page.getLast? with
    | none => exact speaks_nothing (by simp [fetchMore, continues, isLast])
    | some last =>
      rcases sent : session.send tree (.serverEnum (listing.resumed last.name).query) .plain
        with ⟨answer, later⟩
      refine speaks_of_send sent rfl ?_ fun alarm => ?_
      · rw [fetchMore_eq continues isLast, ← talk_ask sent]
        split <;> rename_i asked <;> rw [asked]
        split <;> rfl
      · rw [fetchMore_eq continues isLast]
        rcases ask_alarmed sent alarm with
          ⟨fault, left, after, failed⟩ | ⟨_, left, after, came, stuck⟩
        · simp only [failed, Halts]
        · -- Without a name the page is not seen to make no progress.
          have goes : left.isStalled last.name = false := by simp [isStalled, stuck.2]
          simp only [came, goes, Bool.false_eq_true, if_false, Halts]
          exact ⟨trivial, stuck⟩

end NetworkListing

/-- Asking for the shares of a host says one word at most, and fails at an alarm. -/
theorem HostListing.start_speaks (listing : HostListing) (tree : TreeRef) (session : Session) :
    Speaks (fun _ => False) session (listing.start tree session) := by
  rcases sent : session.send tree .shareEnum .plain with ⟨answer, later⟩
  refine speaks_of_send sent rfl ?_ fun alarm => ?_
  · simp only [start, sent]
    repeat' split
    all_goals first | rfl | simp_all
  · -- The request is refused, or the page of shares is not given.
    cases alarm with
    | refused error => simp only [start, sent, Halts]
    | noShares whole =>
      simp only [start, sent, if_neg whole]
      split <;> trivial

/-- A rehearsed listing talks to nobody. -/
theorem RehearsedListing.fetchMore_speaks (listing : RehearsedListing) (tree : TreeRef)
    (session : Session) : Speaks (fun _ => False) session (listing.fetchMore tree session) := by
  apply speaks_nothing
  unfold fetchMore
  -- A turn is taken from the rehearsal, and the session is left alone.
  split <;> rfl

namespace Listing

/-- A listing of servers may be stuck, and no other. -/
def Stuck : Listing → Prop
  | .network listing => listing.Stuck
  | _ => False

/-- The listing has not asked for a further page yet. -/
def Fresh : Listing → Prop
  | .network listing => listing.query.command = .netServerEnum2
  | _ => True

/-- What a listing of one sort says, it says as a listing of any sort. -/
theorem speaks_lift {Kind : Type} {stuck : Kind → Prop} {wrap : Kind → Listing} {session : Session}
    {outcome : Except Fault Bool × Kind × Session}
    (same : ∀ listing, stuck listing → (wrap listing).Stuck)
    (speaks : Speaks stuck session outcome) : Speaks Stuck session (lift wrap outcome) := by
  obtain ⟨word, said, halts⟩ := speaks
  refine ⟨word, said, fun request answer isWord alarm => ?_⟩
  have halted := halts request answer isWord alarm
  -- Only an outcome without a failure has to be stuck, and it is stuck as its sort is.
  rcases outcome with ⟨fault | found, listing, after⟩
  · trivial
  · exact ⟨halted.1, same _ halted.2⟩

/-- A listing of any sort says one word at most when it starts, and halts at an alarm. -/
theorem start_speaks {listing : Listing} (fresh : listing.Fresh) (tree : TreeRef)
    (session : Session) : Speaks Stuck session (PagedListing.start listing tree session) := by
  -- Only a listing of servers can be stuck, and only behind a further page.
  cases listing with
  | search listing => exact speaks_lift (fun _ => False.elim) (listing.start_speaks tree session)
  | directory listing => exact speaks_lift (fun _ => False.elim) (listing.start_speaks tree session)
  | network listing =>
    exact speaks_lift (fun _ => id) (NetworkListing.start_speaks fresh tree session)
  | host listing => exact speaks_lift (fun _ => False.elim) (listing.start_speaks tree session)
  | rehearsed listing => exact speaks_nothing rfl

/-- A listing of any sort says one word at most when it goes on, and halts at an alarm. -/
theorem fetchMore_speaks (listing : Listing) (tree : TreeRef) (session : Session) :
    Speaks Stuck session (PagedListing.fetchMore listing tree session) := by
  -- A host has no further pages, and a rehearsed listing talks to nobody.
  cases listing with
  | search listing =>
    exact speaks_lift (fun _ => False.elim) (listing.fetchMore_speaks tree session)
  | directory listing =>
    exact speaks_lift (fun _ => False.elim) (listing.fetchMore_speaks tree session)
  | network listing => exact speaks_lift (fun _ => id) (listing.fetchMore_speaks tree session)
  | host listing => exact speaks_nothing rfl
  | rehearsed listing =>
    exact speaks_lift (fun _ => False.elim) (listing.fetchMore_speaks tree session)

/-- What a listing gives back is no word about pages. -/
theorem talk_finish (listing : Listing) (tree : TreeRef) (session : Session) :
    (PagedListing.finish listing tree session).2.2.talk = session.talk := by
  -- Searches and directories are given back, and servers and shares leave nothing to be.
  cases listing with
  | search listing =>
    change (listing.finish tree session).2.2.talk = session.talk
    cases begun : listing.sid with
    | none => simp only [SearchListing.finish, begun]
    | some sid =>
      have closes := session.talk_send_other tree .cleanup
        (show (Request.findClose sid).asksForPage = false from rfl)
      simp only [SearchListing.finish, begun]
      split <;> rename_i sent <;> rw [sent] at closes
      · exact closes
      · exact closes
  | directory listing => exact listing.talk_releaseDir session
  | network listing => rfl
  | host listing => rfl
  | rehearsed listing =>
    change (listing.finish tree session).2.2.talk = session.talk
    unfold RehearsedListing.finish
    split <;> rfl

/-- A listing that is stuck asks for nothing more and fails. -/
theorem readOutBehind_stuck {listing : Listing} (stuck : listing.Stuck) (tree : TreeRef)
    (filter : Option NameFilter) (session : Session) :
    (Cursor.readOutBehind tree filter listing session).session.talk = session.talk ∧
      (Cursor.readOutBehind tree filter listing session).failure.isSome = true := by
  cases listing with
  | network listing =>
    obtain ⟨isPartial, noEntry⟩ := stuck
    have going : PagedListing.isDone (Listing.network listing) = false := by
      simp [PagedListing.isDone, isDone, isPartial]
    -- Either the listing cannot go on at all, or it lacks the name to go on from.
    have fails (session : Session) : ∃ fault,
        PagedListing.fetchMore (Listing.network listing) tree session =
          (.error fault, .network listing, session) := by
      change ∃ fault, lift .network (listing.fetchMore tree session) = _
      unfold NetworkListing.fetchMore
      rw [noEntry]
      split <;> exact ⟨_, rfl⟩
    obtain ⟨fault, fetched⟩ := fails _
    rw [Cursor.readOutBehind_failed going fetched]
    exact ⟨rfl, rfl⟩
  | search | directory | host | rehearsed => exact stuck.elim

end Listing

/-- Whatever a call says, it says no alarm unless the listing does not go on. -/
theorem Speaks.quiet_or_halts {Kind : Type} {stuck : Kind → Prop} {session : Session}
    {outcome : Except Fault Bool × Kind × Session} (speaks : Speaks stuck session outcome) :
    ∃ word : Option (Request × Except Fault Response),
      outcome.2.2.talk = session.talk ++ word.toList ∧
        ((∀ request answer, word = some (request, answer) → ¬Alarm request answer) ∨
          Halts stuck outcome) := by
  obtain ⟨word, said, halts⟩ := speaks
  refine ⟨word, said, ?_⟩
  -- The word is an alarm, at which the listing halts, or it is none.
  by_cases alarmed : ∃ request answer, word = some (request, answer) ∧ Alarm request answer
  · obtain ⟨request, answer, isWord, alarm⟩ := alarmed
    exact .inr (halts request answer isWord alarm)
  · exact .inl fun request answer isWord alarm => alarmed ⟨request, answer, isWord, alarm⟩

namespace Heeded

variable {word : Option (Request × Except Fault Response)}
  {talk : List (Request × Except Fault Response)} {failure : Option Fault}

/-- Where there is a failure, one word can only be the last. -/
theorem last (failed : failure.isSome = true) : Heeded word.toList failure := by
  intro before request answer later split _
  refine ⟨?_, failed⟩
  -- There is no room for a word before or behind it.
  have once : (before ++ (request, answer) :: later).length ≤ 1 := by
    rw [← split]
    cases word <;> simp
  simp only [List.length_append, List.length_cons] at once
  exact List.length_eq_zero_iff.mp (by omega)

/-- A word that is no alarm may come before. -/
theorem behind (quiet : ∀ request answer, word = some (request, answer) → ¬Alarm request answer)
    (heeded : Heeded talk failure) : Heeded (word.toList ++ talk) failure := by
  cases word with
  | none => exact heeded
  | some word =>
    rintro (_ | ⟨first, before⟩) request answer later split alarm
    · -- The first word is no alarm.
      obtain ⟨rfl, _⟩ := List.cons_eq_cons.mp split
      exact (quiet request answer rfl alarm).elim
    · exact heeded before request answer later (List.cons_eq_cons.mp split).2 alarm

/-- Where nothing is said there is no alarm to be heeded. -/
theorem nothing (failure : Option Fault) : Heeded [] failure := by
  -- There is no word to look at.
  intro before request answer later split
  simp at split

end Heeded

namespace Cursor

variable {tree : TreeRef} {filter : Option NameFilter} {listing more : Listing}
  {session after later : Session}

/-- What is read has heeded every alarm since a session. -/
def Reading.Heeds (reading : Reading Listing) (session : Session) : Prop :=
  ∃ talk, reading.session.talk = session.talk ++ talk ∧ Heeded talk reading.failure

/-- A call that fails may have said an alarm. -/
theorem heeds_failed {fault : Fault}
    (speaks : Speaks Listing.Stuck session (.error fault, more, after)) :
    Reading.Heeds { failure := some fault, listing := more, session := after, pages := [] }
      session := by
  -- The failure is what the alarm calls for.
  obtain ⟨word, said, _⟩ := speaks
  exact ⟨word.toList, said, .last rfl⟩

/-- A call that ends the listing said no alarm. -/
theorem heeds_ended (speaks : Speaks Listing.Stuck session (.ok false, more, after))
    (same : later.talk = after.talk) :
    Reading.Heeds { failure := none, listing := more, session := later, pages := [] } session := by
  obtain ⟨word, said, quiet | halts⟩ := speaks.quiet_or_halts
  · refine ⟨word.toList, same.trans said, ?_⟩
    rw [← List.append_nil word.toList]
    exact .behind quiet (.nothing none)
  · -- An end without a failure would not have halted at an alarm.
    exact absurd halts.1 (by simp)

/-- A call that brings a page said no alarm, or the reading fails behind the page. -/
theorem heeds_page {page : List Entry}
    (speaks : Speaks Listing.Stuck session (.ok true, more, after))
    (same : later.talk = after.talk)
    (behind : (readOutBehind tree filter more later).Heeds later) :
    ((readOutBehind tree filter more later).behind page).Heeds session := by
  obtain ⟨word, said, quiet | ⟨_, stuck⟩⟩ := speaks.quiet_or_halts
  · -- The word that brought the page comes before all that is said behind it.
    obtain ⟨talk, went, heeded⟩ := behind
    refine ⟨word.toList ++ talk, ?_, heeded.behind quiet⟩
    rw [← List.append_assoc, ← said]
    exact went.trans (congrArg (· ++ talk) same)
  · -- Nothing is said behind a page at which the listing is stuck.
    obtain ⟨silent, failed⟩ := Listing.readOutBehind_stuck stuck tree filter later
    exact ⟨word.toList, (silent.trans same).trans said, .last failed⟩

/-- Behind any page of a listing every alarm is heeded. -/
theorem heeds_readOutBehind (tree : TreeRef) (filter : Option NameFilter) (listing : Listing)
    (session : Session) : (readOutBehind tree filter listing session).Heeds session := by
  -- The induction is on the reading; each page is asked for with one word.
  fun_induction readOutBehind tree filter listing session with
  | case1 listing session label asked done => exact ⟨[], by simp [asked], .nothing _⟩
  | case2 listing session label asked more fault left last fetched =>
    have speaks := listing.fetchMore_speaks tree (asked.noteHook label .fetchMore)
    rw [fetched] at speaks
    exact heeds_failed speaks
  | case3 listing session label asked more left last fetched =>
    have speaks := listing.fetchMore_speaks tree (asked.noteHook label .fetchMore)
    rw [fetched] at speaks
    exact heeds_ended speaks rfl
  | case4 listing session label asked isMore more after fetched page ih =>
    have speaks := listing.fetchMore_speaks tree (asked.noteHook label .fetchMore)
    rw [fetched] at speaks
    exact heeds_page speaks rfl ih

/-- From the start of a listing on every alarm is heeded. -/
theorem heeds_readOut (fresh : listing.Fresh) (tree : TreeRef) (filter : Option NameFilter)
    (session : Session) : (readOut tree filter listing session).Heeds session := by
  have speaks := Listing.start_speaks fresh tree
    (session.noteHook (PagedListing.label listing) .start)
  unfold readOut
  -- The start fails, ends the listing or brings a page, behind which the listing is read out.
  split <;> rename_i started <;> rw [started] at speaks
  · exact heeds_failed speaks
  · exact heeds_ended speaks rfl
  · exact heeds_page speaks rfl (heeds_readOutBehind tree filter _ _)

/-- Giving a listing back says nothing about pages. -/
theorem talk_giveBack (tree : TreeRef) (listing : Listing) (session : Session) :
    (giveBack tree listing session).2.talk = session.talk := by
  -- Neither the listing nor the tree asks for a page when it is given back.
  unfold giveBack
  simp only [Session.talk_forgetTree, Session.talk_note, Session.talk_noteFailure,
    Session.talk_releaseTree]
  exact (listing.talk_finish tree _).trans (session.talk_noteHook _ _)

/-- However often it is pulled at a cursor, nothing was said that is not said when its listing is
read to the end, and with the last entry everything was said. -/
theorem Begun.talk_played {cursor : Cursor Listing}
    {outcome : Except Fault Unit × Cursor Listing × Session}
    (begun : Begun tree cursor session outcome) (holds : cursor.tree = some tree)
    (start : cursor.index = 0) (began : outcome.1 = .ok ()) (pulls : Nat) :
    ∃ more, (readOut tree cursor.filter cursor.listing session).session.talk =
        (outcome.2.1.play outcome.2.2 (List.replicate pulls .pull)).2.talk ++ more ∧
      (((course tree cursor.filter cursor.listing session).entries cursor.filter).length ≤ pulls →
        more = []) := by
  have drained := begun.drained holds start
  rw [began] at drained
  rcases drained pulls with ⟨_, leads, early⟩ | ⟨_, settled⟩
  · -- What is still to be said is said behind the page at which the cursor is.
    obtain ⟨more, said, _⟩ := heeds_readOutBehind tree _ _ _
    refine ⟨more, ?_, fun enough => (Nat.not_lt.mpr enough early).elim⟩
    rw [← congrArg (fun finale => finale.session.talk) leads]
    exact said
  · have after := congrArg (fun settled => settled.2.talk) settled
    simp only [Finale.settled, talk_giveBack] at after
    refine ⟨[], ?_, fun _ => rfl⟩
    rw [List.append_nil, after]
    split <;> rfl

/-- However often it is pulled at a cursor, what was said is the beginning of what is said when its
listing is read to the end. -/
theorem Begun.talk_prefix {cursor : Cursor Listing}
    {outcome : Except Fault Unit × Cursor Listing × Session}
    (begun : Begun tree cursor session outcome) (holds : cursor.tree = some tree)
    (start : cursor.index = 0) (began : outcome.1 = .ok ()) (pulls : Nat) :
    ∃ more, (readOut tree cursor.filter cursor.listing session).session.talk =
      (outcome.2.1.play outcome.2.2 (List.replicate pulls .pull)).2.talk ++ more := by
  -- What was said up to the pulls is a part of what is said to the end.
  obtain ⟨more, said, _⟩ := begun.talk_played holds start began pulls
  exact ⟨more, said⟩

end Cursor

/-- A listing that was made for a place has not asked for anything yet. -/
theorem Session.fresh_listingOf {session : Session} {locator : Locator} {options : ListOptions}
    {listing : Listing} (called : session.listingOf locator options = .ok listing) :
    listing.Fresh := by
  -- A listing of a directory does not ask for servers at all.
  have made {Kind : Type} {kind : Except Fault Kind} {wrap : Kind → Listing}
      (wrapped : kind.map wrap = .ok listing) (fresh : ∀ listing, (wrap listing).Fresh) :
      listing.Fresh := by
    cases kind with
    | error fault => simp [Except.map] at wrapped
    | ok kind =>
      obtain rfl := Except.ok.inj wrapped
      exact fresh kind
  unfold listingOf at called
  split at called
  · obtain rfl := Except.ok.inj called
    rfl
  · obtain rfl := Except.ok.inj called
    rfl
  · obtain rfl := Except.ok.inj called
    trivial
  · split at called <;> exact made called fun _ => trivial
  · split at called <;> exact made called fun _ => trivial
  · simp at called

/-- An alarm is the last word about pages, and whoever pulls on gets entries, then a failure, and
only then nothing for ever. -/
theorem Session.list_alarmed {session opened : Session} {locator : Locator} {options : ListOptions}
    {cursor : Cursor Listing} (listed : session.list locator options = (.ok cursor, opened))
    (pulls : Nat) {before later : List (Request × Except Fault Response)} {request : Request}
    {answer : Except Fault Response}
    (said : (cursor.play opened (List.replicate pulls .pull)).2.talk =
      session.talk ++ before ++ (request, answer) :: later)
    (alarm : Alarm request answer) :
    later = [] ∧ ∃ (entries : List Entry) (fault : Fault), ∀ pulls,
      Cursor.answers pulls cursor opened =
        (entries.map (fun entry => Except.ok (some entry)) ++
          Except.error fault :: List.replicate pulls (Except.ok none)).take pulls := by
  unfold list at listed
  split at listed
  · simp at listed
  · rename_i listing called
    unfold Cursor.ofListing at listed
    split at listed
    · simp at listed
    · rename_i tree held acquired
      have begun := Cursor.begun_fresh listing tree options.nameFilter held
      split at listed
      · rename_i began
        rw [began] at begun
        simp only [Prod.mk.injEq, Except.ok.injEq] at listed
        obtain ⟨rfl, rfl⟩ := listed
        obtain ⟨more, rest⟩ := begun.talk_prefix rfl rfl rfl pulls
        obtain ⟨talk, whole, heeded⟩ :=
          Cursor.heeds_readOut (fresh_listingOf called) tree options.nameFilter held
        -- What was said until then is the beginning of all that is said.
        have isAll : talk = before ++ (request, answer) :: (later ++ more) := by
          simp only [said, whole, talk_acquire acquired, List.append_assoc, List.cons_append,
            List.append_cancel_left_eq] at rest
          exact rest
        obtain ⟨last, failed⟩ := heeded _ _ _ _ isAll alarm
        obtain ⟨fault, failure⟩ := Option.isSome_iff_exists.mp failed
        refine ⟨(List.append_eq_nil_iff.mp last).1,
          (Cursor.course tree options.nameFilter listing held).entries options.nameFilter, fault,
          fun pulls => ?_⟩
        have answered := (begun.answered rfl rfl rfl).2 pulls
        have fails : (Cursor.course tree options.nameFilter listing held).failure = some fault := by
          rw [← Cursor.course_readOut]
          exact failure
        rw [Course.answers, fails] at answered
        exact answered
      · simp at listed

/-- The second page is refused, so that the failure follows the entry of the first. -/
theorem Session.list_alarmed_secondPage :
    let session := new { maxBufferSize := 1024 }
      (.ofTranscript
        { dialect := .smb1
          exchanges :=
            [⟨"find_first2", .ok (.find { sid := ⟨7⟩, entries := [{ name := "A" }] })⟩,
              ⟨"find_next2", .status .accessDenied⟩, ⟨"find_close2", .ok .empty⟩] })
      "\\\\srv\\data" ""
    ∃ cursor opened first request,
      session.list (.ofShare "srv" "data") {} = (.ok cursor, opened) ∧
      (cursor.play opened [.pull]).2.talk = [first, (request, .error (.status .accessDenied))] ∧
      ∃ (entries : List Entry) (fault : Fault), ∀ pulls,
        Cursor.answers pulls cursor opened =
          (entries.map (fun entry => Except.ok (some entry)) ++
            Except.error fault :: List.replicate pulls (Except.ok none)).take pulls := by
  intro session
  have heard : (session.list (.ofShare "srv" "data") {}).1.toOption.map
        (fun cursor => (cursor.play (session.list (.ofShare "srv" "data") {}).2 [.pull]).2.talk.map
          fun word => refusal? word.2) =
      some [none, some .accessDenied] := by
    decide +kernel
  rcases listed : session.list (.ofShare "srv" "data") {} with ⟨fault | cursor, opened⟩
  · simp [listed, Except.toOption] at heard
  · simp only [listed, Except.toOption, Option.map_some, Option.some.injEq] at heard
    -- Of the two words the second one is a refusal, which is an alarm.
    obtain ⟨first, rest, said, _, heard⟩ := List.map_eq_cons_iff.mp heard
    obtain ⟨⟨request, answer⟩, rest, rfl, refused, nothing⟩ := List.map_eq_cons_iff.mp heard
    obtain rfl := List.map_eq_nil_iff.mp nothing
    obtain rfl := eq_of_refusal? refused
    have alarmed := @list_alarmed session opened _ _ cursor listed 1 [first] [] request _ said
      (.refused (by decide))
    exact ⟨cursor, opened, first, request, rfl, said, alarmed.2⟩

/-- What a further page says of itself is not heeded: a page whose status is an error ends the
listing as if there were no more. -/
theorem Session.list_unheeded_secondPage :
    let session := new { maxBufferSize := 1024 }
      (.ofTranscript
        { dialect := .smb1
          exchanges :=
            [⟨"find_first2", .ok (.find { sid := ⟨7⟩, entries := [{ name := "A" }] })⟩,
              ⟨"find_next2", .ok (.find { status := .accessDenied })⟩,
              ⟨"find_close2", .ok .empty⟩] })
      "\\\\srv\\data" ""
    ∃ cursor opened first request page,
      session.list (.ofShare "srv" "data") {} = (.ok cursor, opened) ∧
      (cursor.play opened [.pull]).2.talk = [first, (request, .ok (.find page))] ∧
      page.status.isAlarm = true ∧
      ∀ pulls, Cursor.answers pulls cursor opened =
        (.ok (some { name := "A" }) :: List.replicate pulls (.ok none)).take pulls := by
  intro session
  let listing : Listing := .search
    { path := "\\", pattern := "*", searchAttributes := 22, maxItems := 200, maxBuffer := 65435 }
  have called : session.listingOf (.ofShare "srv" "data") {} = .ok listing := rfl
  have acquired : session.acquire = (.ok ⟨0⟩, session.acquire.2) := rfl
  -- Read to its end the listing brings the entry and no failure.
  have whole : (Cursor.readOut ⟨0⟩ none listing session.acquire.2).failure = none := by
    decide +kernel
  have brought : (Cursor.readOut ⟨0⟩ none listing session.acquire.2).course.entries none =
      [{ name := "A" }] := by
    decide +kernel
  obtain ⟨cursor, opened, begun, drained⟩ := Cursor.ofListing_readOut acquired whole
  have listed : session.list (.ofShare "srv" "data") {} = (.ok cursor, opened) := by
    simp only [list, called, begun]
  have heard : (session.list (.ofShare "srv" "data") {}).1.toOption.map
        (fun cursor => (cursor.play (session.list (.ofShare "srv" "data") {}).2 [.pull]).2.talk.map
          fun word => (foundPage? word.2).map FindPage.status) =
      some [some .success, some .accessDenied] := by
    decide +kernel
  simp only [listed, Except.toOption, Option.map_some, Option.some.injEq] at heard
  obtain ⟨first, rest, said, _, heard⟩ := List.map_eq_cons_iff.mp heard
  obtain ⟨⟨request, answer⟩, rest, rfl, came, nothing⟩ := List.map_eq_cons_iff.mp heard
  obtain rfl := List.map_eq_nil_iff.mp nothing
  obtain ⟨page, found, marked⟩ := Option.map_eq_some_iff.mp came
  obtain rfl := eq_of_foundPage? found
  refine ⟨cursor, opened, first, request, page, listed, said, by rw [marked]; decide,
    fun pulls => ?_⟩
  rw [(drained pulls).1, Course.answers, brought, Cursor.Reading.course, whole]
  rfl

end SmbBrowser
