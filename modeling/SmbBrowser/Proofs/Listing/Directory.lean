import SmbBrowser.Proofs.Listing.Search

/-! Listing a directory that is kept open, whatever pages the server cuts it into. -/

namespace SmbBrowser

/-- A success is no error. -/
theorem NtStatus.isError_of_isSuccess {status : NtStatus} (success : status.isSuccess = true) :
    status.isError = false := by
  simp only [isSuccess, isError, decide_eq_true_eq, decide_eq_false_iff_not] at success ⊢
  -- A success lies below the second quarter of the codes, an error in the last one.
  exact UInt32.not_le.mpr (UInt32.lt_trans success (by decide))

/-- The position of the last entry of a page, from which the listing goes on. -/
def DirectoryPage.position (page : DirectoryPage) : UInt32 :=
  (page.entries.getLastD default).fileIndex

namespace DirectoryListing

/-- The answers to a further query that say only that there are no more pages. -/
inductive Ends : Outcome → Prop where
  /-- The query fails for the lack of further files. -/
  | refused : Ends (.status .noMoreFiles)
  /-- A page says that there are no further files. -/
  | told {page : DirectoryPage} (status : page.status = .noMoreFiles) :
    Ends (.ok (.queryDirectory page))
  /-- A page without entries comes. -/
  | empty {page : DirectoryPage} (status : page.status.isSuccess = true)
    (noEntry : page.entries = []) : Ends (.ok (.queryDirectory page))

/-- The pages behind a page of a directory, and the answers that bring them and end the listing. -/
inductive Recorded : List DirectoryPage → List Exchange → Prop where
  /-- There are no more pages, which only a further answer says. -/
  | ended {answer : Outcome} (ends : Ends answer) : Recorded [] [⟨"query_directory", answer⟩]
  /-- A further page comes. -/
  | page {next : DirectoryPage} {pages : List DirectoryPage} {script : List Exchange}
    (status : next.status.isSuccess = true) (filled : next.entries ≠ [])
    (behind : Recorded pages script) :
    Recorded (next :: pages) (⟨"query_directory", .ok (.queryDirectory next)⟩ :: script)

/-- The query for the page behind a page of an open directory. -/
def further (listing : DirectoryListing) (fid : FileId) (page : DirectoryPage) : Request :=
  .queryDirectory
    { fid := some fid
      pattern := listing.pattern
      flags := QueryFlags.indexSpecified
      fileIndex := page.position
      outputBufferLength := listing.outputBufferLength }

/-- The listing with a directory open, at a page. -/
def turned (listing : DirectoryListing) (page : DirectoryPage) : DirectoryListing :=
  { listing with dir := some ⟨0⟩, page := page.entries }

/-- What there is to tell of a session with one directory open on its tree. -/
def standing (traced : Bool) (directory : OpenFile)
    (asked : List (Option TreeId × Request × Delivery)) (script : List Exchange) : Standing :=
  { refs := 2, keepers := 2, files := #[.opened traced directory], asked, script }

variable {listing : DirectoryListing} {session : Session} {traced : Bool} {directory : OpenFile}
  {asked : List (Option TreeId × Request × Delivery)} {closing : Response}

/-- The query behind a page names the open directory and the last entry of the page. -/
theorem query_turned {page : DirectoryPage} {last : Entry} {script : List Exchange}
    (isLast : page.entries.getLast? = some last)
    (stands : Stands session (standing traced directory asked script)) :
    (listing.turned page).query session last.fileIndex QueryFlags.indexSpecified =
      listing.further directory.fid page := by
  have opened : session.file? ⟨0⟩ = some (.opened traced directory) := by
    simp [Session.file?, stands.files, standing]
  -- The last entry gives the position, and the page is not empty.
  have position : page.position = last.fileIndex := by
    rw [DirectoryPage.position, List.getLastD_eq_getLast?, isLast]
    rfl
  simp [query, turned, further, opened, position, Handle.opened]

/-- The directory is closed first, and then its reference to the tree is given back. -/
theorem completes_ended (holds : listing.dir = some ⟨0⟩) (onTree : directory.tree = ⟨0⟩)
    (stands : Stands session (standing traced directory asked [⟨"close", .ok closing⟩])) :
    Cursor.Reading.Completes
      { failure := none, listing := Listing.directory listing, session, pages := [] } []
      (asked ++ [(some ⟨1⟩, .close directory.fid, .cleanup)]) := by
  obtain ⟨released, freed, still⟩ := (stands.noteHook "modern" .finish).releaseFile
    (Nat.lt_succ_self 1) ⟨0⟩ onTree rfl rfl
  -- The last reference closes the file, and its handle stays in the table.
  have isReleased : (#[Handle.opened traced directory].modify 0 Handle.released)[0]? =
      some (Handle.opened traced directory).released := rfl
  have forgotten := still.forgetFile ⟨0⟩ onTree rfl isReleased
  refine ⟨rfl, rfl, .directory { listing with dir := none }, _, _, ?_, forgotten⟩
  have finished : listing.finish ⟨0⟩ (session.noteHook "modern" .finish) =
      (.ok (), { listing with dir := none }, released.forgetFile ⟨0⟩) := by
    simp only [finish, releaseDir, holds, freed]
  exact congrArg (Listing.lift Listing.directory) finished

/-- Behind the last page one answer is asked for that ends the listing. -/
theorem fetchMore_ends {page : DirectoryPage} {answer : Outcome} {rest : List Exchange}
    (filled : page.entries ≠ []) (ends : Ends answer)
    (stands : Stands session
      (standing traced directory asked (⟨"query_directory", answer⟩ :: rest))) :
    ∃ left after, (listing.turned page).fetchMore ⟨0⟩ session = (.ok false, left, after) ∧
      left.dir = some ⟨0⟩ ∧
      Stands after (standing traced directory
        (asked ++ [(some ⟨1⟩, listing.further directory.fid page, .plain)]) rest) := by
  obtain ⟨last, isLast⟩ := List.getLast?_isSome.mpr filled |> Option.isSome_iff_exists.mp
  -- None of the three answers loses the connection.
  have keeps : ∀ fault, Playback.result answer = .error fault → fault.losesConnection = false := by
    cases ends with
    | refused => rintro fault ⟨⟩; decide
    | told | empty => simp [Playback.result]
  obtain ⟨after, sent, still⟩ := stands.send Nat.two_pos (listing.further directory.fid page)
    .plain rfl keeps
  rw [← query_turned isLast stands] at sent
  have holds : (listing.turned page).dir = some ⟨0⟩ := rfl
  have isLast : (listing.turned page).page.getLast? = some last := isLast
  simp only [fetchMore, holds, isLast, sent]
  -- The status is looked for in the failure, then on the page, and an empty page ends as well.
  cases ends with
  | refused => exact ⟨listing.turned page, after, rfl, rfl, still⟩
  | told status =>
    simp only [Playback.result, status, if_true]
    exact ⟨listing.turned page, after, rfl, rfl, still⟩
  | @empty next success noEntry =>
    have going := NtStatus.ne_noMoreFiles_of_isSuccess success
    simp only [Playback.result, if_neg going, noEntry]
    exact ⟨_, after, rfl, rfl, still⟩

/-- A further page is asked for from the last entry of the page before it on. -/
theorem fetchMore_page {page next : DirectoryPage} {rest : List Exchange}
    (filled : page.entries ≠ []) (success : next.status.isSuccess = true)
    (nextFilled : next.entries ≠ [])
    (stands : Stands session
      (standing traced directory asked
        (⟨"query_directory", .ok (.queryDirectory next)⟩ :: rest))) :
    ∃ after,
      (listing.turned page).fetchMore ⟨0⟩ session = (.ok true, listing.turned next, after) ∧
      Stands after (standing traced directory
        (asked ++ [(some ⟨1⟩, listing.further directory.fid page, .plain)]) rest) := by
  obtain ⟨last, isLast⟩ := List.getLast?_isSome.mpr filled |> Option.isSome_iff_exists.mp
  obtain ⟨after, sent, still⟩ := stands.send Nat.two_pos (listing.further directory.fid page)
    .plain rfl (by simp [Playback.result])
  refine ⟨after, ?_, still⟩
  rw [← query_turned isLast stands] at sent
  have holds : (listing.turned page).dir = some ⟨0⟩ := rfl
  have isLast : (listing.turned page).page.getLast? = some last := isLast
  -- A page that succeeds is not marked as the end, and it has entries.
  have going := NtStatus.ne_noMoreFiles_of_isSuccess success
  have found : next.entries.isEmpty = false := by simpa using nextFilled
  simp only [fetchMore, holds, isLast, sent, Playback.result, if_neg going, found, Bool.not_false]
  rfl

/-- Behind a page of a directory come the recorded pages, each asked for from the last entry of the
page before it on, and the directory is closed at the end. -/
theorem completes_behind (filter : Option NameFilter) {page : DirectoryPage}
    {pages : List DirectoryPage} {script : List Exchange} (filled : page.entries ≠ [])
    (recorded : Recorded pages script) (onTree : directory.tree = ⟨0⟩)
    (stands : Stands session
      (standing traced directory asked (script ++ [⟨"close", .ok closing⟩]))) :
    (Cursor.readOutBehind ⟨0⟩ filter (Listing.directory (listing.turned page)) session).Completes
      (pages.flatMap (·.entries))
      (asked ++ (page :: pages).map
          (fun page => (some ⟨1⟩, listing.further directory.fid page, .plain)) ++
        [(some ⟨1⟩, .close directory.fid, .cleanup)]) := by
  -- A directory listing never knows that it is done.
  have going (page : DirectoryPage) :
      PagedListing.isDone (Listing.directory (listing.turned page)) = false := rfl
  -- The induction is on what was recorded behind the page.
  induction recorded generalizing page asked session with
  | @ended answer ends =>
    obtain ⟨left, after, fetched, stays, still⟩ := fetchMore_ends filled ends
      ((stands.noteHook "modern" .isDone).noteHook "modern" .fetchMore)
    rw [Cursor.readOutBehind_ended (going page) (congrArg (Listing.lift Listing.directory) fetched)]
    exact completes_ended stays onTree still
  | @page next pages script success nextFilled behind ih =>
    obtain ⟨after, fetched, still⟩ := fetchMore_page filled success nextFilled
      ((stands.noteHook "modern" .isDone).noteHook "modern" .fetchMore)
    rw [Cursor.readOutBehind_page (going page) (congrArg (Listing.lift Listing.directory) fetched),
      List.map_cons, List.append_cons asked]
    exact (ih nextFilled (still.noteAll (Cursor.remarks filter next.entries))).behind next.entries

/-- A directory is opened and comes with its first page and every recorded page behind it. -/
theorem completes_readOut (filter : Option NameFilter) {first : DirectoryPage}
    {pages : List DirectoryPage} {script : List Exchange} {created queried : NtStatus}
    {file : Created} (unopened : listing.dir = none) (opens : created.isSuccess = true)
    (answers : queried.isSuccess = true) (success : first.status.isSuccess = true)
    (filled : first.entries ≠ []) (recorded : Recorded pages script)
    (stands : Stands session
      { asked
        script :=
          ⟨"chain", .ok (.chain [⟨created, some (.create file)⟩,
              ⟨queried, some (.queryDirectory first)⟩])⟩ ::
            (script ++ [⟨"close", .ok closing⟩]) }) :
    (Cursor.readOut ⟨0⟩ filter (Listing.directory listing) session).Completes
      ((first :: pages).flatMap (·.entries))
      (asked ++
        [(some ⟨1⟩,
          .chain
            [.create (OpenMode.directory.toCreate listing.path),
              .queryDirectory
                { fid := none
                  pattern := listing.pattern
                  flags := 0
                  fileIndex := 0
                  outputBufferLength := listing.outputBufferLength }],
          .plain)] ++
        (first :: pages).map (fun page => (some ⟨1⟩, listing.further file.fid page, .plain)) ++
        [(some ⟨1⟩, .close file.fid, .cleanup)]) := by
  obtain ⟨asked, sent, still⟩ := (stands.noteHook "modern" .start).send Nat.one_pos
    (.chain
      [.create (OpenMode.directory.toCreate listing.path),
        .queryDirectory ⟨none, listing.pattern, 0, 0, listing.outputBufferLength⟩])
    .plain rfl (by simp [Playback.result])
  -- The directory is one more holder of the tree from the moment it is open.
  obtain ⟨traced, after, adopted, opened⟩ := still.adoptFile file.fid listing.path .directory
  have started : listing.start ⟨0⟩ (session.noteHook "modern" .start) =
      (.ok true, listing.turned first, after) := by
    have going := NtStatus.endsListing_of_isSuccess answers
    have fine := NtStatus.isError_of_isSuccess answers
    have goingOn := NtStatus.endsListing_of_isSuccess success
    have found : first.entries.isEmpty = false := by simpa using filled
    simp only [start, query, unopened, Option.bind_none, Option.map_none, sent, Playback.result,
      opens, Bool.not_true, Bool.false_eq_true, if_false, adopted, hold, firstOrRelease, firstPage,
      List.head?_cons, going, fine, goingOn, found]
    rfl
  rw [Cursor.readOut_page (congrArg (Listing.lift Listing.directory) started)]
  exact (completes_behind filter filled recorded rfl
    (opened.noteAll (Cursor.remarks filter first.entries))).behind first.entries

end DirectoryListing

/-- Listing a directory that is kept open gives the wanted entries of every page, whatever the pages
are. The listing goes on behind the last entry of each page, wanted or not, and the directory is
closed once. -/
theorem Session.list_directory {settings : Settings} {sharePath oemDomain : String}
    {locator : Locator} {options : ListOptions} {created queried : NtStatus} {file : Created}
    {first : DirectoryPage} {pages : List DirectoryPage} {script : List Exchange}
    {closing : Response} (place : locator.kind = .share ∨ locator.kind = .directory)
    (separated : locator.checkSeparators = .ok ()) (opens : created.isSuccess = true)
    (answers : queried.isSuccess = true) (success : first.status.isSuccess = true)
    (filled : first.entries ≠ []) (recorded : DirectoryListing.Recorded pages script) :
    (new settings
        (.ofTranscript
          { dialect := .smb2
            exchanges :=
              ⟨"chain", .ok (.chain [⟨created, some (.create file)⟩,
                  ⟨queried, some (.queryDirectory first)⟩])⟩ ::
                (script ++ [⟨"close", .ok closing⟩]) })
        sharePath oemDomain).Lists locator options
      ((first :: pages).flatMap (·.entries))
      ([(none, .treeConnect sharePath, .plain),
          (some ⟨1⟩,
            .chain
              [.create
                  (OpenMode.directory.toCreate
                    (String.ofList (Text.trimBoth (· = '\\') locator.uncPath.toList))),
                .queryDirectory
                  { fid := none
                    pattern := options.pattern
                    flags := 0
                    fileIndex := 0
                    outputBufferLength := DirectoryListing.pageBytes settings }],
            .plain)] ++
        (first :: pages).map (fun page =>
          (some ⟨1⟩,
            .queryDirectory
              { fid := some file.fid
                pattern := options.pattern
                flags := QueryFlags.indexSpecified
                fileIndex := page.position
                outputBufferLength := DirectoryListing.pageBytes settings },
            .plain)) ++
        [(some ⟨1⟩, .close file.fid, .cleanup)] ++
        [(some ⟨1⟩, .treeDisconnect, .cleanup)]) := by
  let listing : DirectoryListing :=
    { path := String.ofList (Text.trimBoth (· = '\\') locator.uncPath.toList)
      pattern := options.pattern
      outputBufferLength := DirectoryListing.pageBytes settings }
  -- A share is listed as the directory at its top.
  have called (server : Playback) (dialect : server.dialect = .smb2) :
      (new settings server sharePath oemDomain).listingOf locator options =
        .ok (.directory listing) := by
    rcases place with isShare | isDirectory
    · simp [listingOf, isShare, new, dialect, DirectoryListing.new, separated, Except.map, listing]
    · simp [listingOf, isDirectory, new, dialect, DirectoryListing.new, separated, Except.map,
        listing]
  refine lists_new (called _ rfl) (by simp) fun held stands => ?_
  exact DirectoryListing.completes_readOut options.nameFilter rfl opens answers success filled
    recorded stands

/-- The second query goes on from the last entry of the first page, which is not wanted, although
the entry before it has a higher position. -/
theorem Session.list_directory_twoPages :
    let fid : FileId := .modern (.replicate 16 9)
    let first : DirectoryPage :=
      { entries := [{ name := "found", fileIndex := 8 }, { name := "..", fileIndex := 3 }] }
    let last : DirectoryPage := { entries := [{ name := "kept", fileIndex := 5 }] }
    (new {}
        (.ofTranscript
          { dialect := .smb2
            exchanges :=
              [⟨"chain", .ok (.chain [⟨.success, some (.create { fid })⟩,
                  ⟨.success, some (.queryDirectory first)⟩])⟩,
                ⟨"query_directory", .ok (.queryDirectory last)⟩,
                ⟨"query_directory", .ok (.queryDirectory {})⟩, ⟨"close", .ok .empty⟩] })
        "\\\\srv\\data" "").Lists (.ofShare "srv" "data") {}
      [{ name := "found", fileIndex := 8 }, { name := "..", fileIndex := 3 },
        { name := "kept", fileIndex := 5 }]
      [(none, .treeConnect "\\\\srv\\data", .plain),
        (some ⟨1⟩,
          .chain
            [.create (OpenMode.directory.toCreate ""), .queryDirectory ⟨none, "*", 0, 0, 65435⟩],
          .plain),
        (some ⟨1⟩, .queryDirectory ⟨some fid, "*", 4, 3, 65435⟩, .plain),
        (some ⟨1⟩, .queryDirectory ⟨some fid, "*", 4, 5, 65435⟩, .plain),
        (some ⟨1⟩, .close fid, .cleanup),
        (some ⟨1⟩, .treeDisconnect, .cleanup)] := by
  intro fid first last
  -- There is one further page, and an empty answer ends the listing behind it.
  have recorded : DirectoryListing.Recorded [last]
      [⟨"query_directory", .ok (.queryDirectory last)⟩,
        ⟨"query_directory", .ok (.queryDirectory {})⟩] :=
    .page (by decide) (by simp [last]) (.ended (.empty (by decide) rfl))
  have listed := @list_directory {} "\\\\srv\\data" "" (.ofShare "srv" "data") {} .success .success
    { fid } first [last] _ .empty (.inl rfl) (by decide) (by decide) (by decide) (by decide)
    (by simp [first]) recorded
  exact listed

end SmbBrowser
