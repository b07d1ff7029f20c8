import SmbBrowser.Proofs.Listing.Closing
import SmbBrowser.Proofs.Workbench.Moments

/-!
What is closed in the run of a workbench: each file at the last release of its handle, each search
at the end of its cursor, each once, and neither is used behind that.
-/

namespace SmbBrowser

/-- Anything but requests of one's own that give files back. -/
def Licence.leavingFiles : Licence := ⟨True, True, True, False, True, True⟩

instance : Licence.leavingFiles.Works where
  calls := trivial
  abandon := trivial

/-- An operation that puts no request through by hand that gives a file back. -/
def Operation.leavesFiles : Operation → Bool
  | .send _ request _ => !request.isClose
  | _ => true

/-- Whoever leaves giving files back to the handles needs no licence for it. -/
theorem Operation.permits_of_leavesFiles {operation : Operation}
    (leaves : operation.leavesFiles = true) : Licence.leavingFiles.Permits operation := by
  -- Of all operations only a request by hand could give a file back.
  cases operation with
  | closeTree name => trivial
  | send name request delivery =>
    refine ⟨fun _ => trivial, fun isClose => ?_⟩
    simp [leavesFiles, isClose] at leaves
  | _ => trivial

namespace Account

open Cursor

/-- Whatever is done without requests of one's own that give files back, at every moment the last
release of a file asks to close it if its tree is valid then, and nothing else does, for no file
twice. Every cursor that was opened on the way has its life in the session: each of its deeds was
done in a session on the way, and what passed in it has passed there. If it is a cursor over a
directory, it asks for what it opened to be closed when it ends, if that was opened and the tree is
valid then, and for no page before that was opened or behind its end; and so does a cursor that
cannot be opened, at whatever moment. -/
theorem run_closesOnce (settings : Settings) (server : Playback) (sharePath oemDomain : String)
    (operations more : List Operation)
    (own : ∀ operation ∈ operations ++ more, operation.leavesFiles = true) :
    let origin := Session.new settings server sharePath oemDomain
    let bench := ((new settings server sharePath oemDomain).run operations).bench
    let after := sessionAfter settings server sharePath oemDomain (operations ++ more)
    Strokes .leavingFiles bench.session after ∧
    (∀ moment, Strokes .leavingFiles bench.session moment → moment.ReleasesFiles ∧
      (∀ next, Stroke .leavingFiles moment next → moment.ClosesAtLast next) ∧
      ∀ later, Strokes .leavingFiles moment later → moment.ClosesOnce later) ∧
    (∀ cursor ∈ bench.cursors, ∃ listing tree deeds, listing.Unbegun ∧
      Resides origin listing tree cursor bench.session deeds ∧
      (∀ deed ∈ deeds, origin.LeadsTo deed.session ∧
        (deed.outcome tree).2.LeadsTo bench.session) ∧
      (deeds.flatMap (Deed.passed tree)).Sublist bench.session.passages.toList ∧
      listing.Tidies tree cursor.isClosed deeds cursor.listing) ∧
    ∀ moment, Strokes .leavingFiles bench.session moment →
      ∀ (listing : Listing) filter tree held fault refused, listing.Unbegun →
        moment.acquire = (.ok tree, held) →
        ofListing listing filter moment = (.error fault, refused) →
          ∃ deeds given, Acts tree (listing, held) deeds (given, refused) ∧
            listing.Tidies tree true deeds given := by
  intro origin bench after
  have permitted : ∀ operation ∈ operations ++ more, Licence.leavingFiles.Permits operation :=
    fun operation listed => Operation.permits_of_leavesFiles (own operation listed)
  have early : ∀ operation ∈ operations, Licence.leavingFiles.Permits operation :=
    fun operation listed => permitted operation (List.mem_append_left more listed)
  have ranked : Ranked bench.session :=
    sessionAfter_keeps settings server sharePath oemDomain trivial Stroke.ranked early
      (.new settings server sharePath oemDomain)
  obtain ⟨_, fits⟩ := run_strokes trivial (fits_new settings server sharePath oemDomain) early
  refine ⟨sessionAfter_strokes settings server sharePath oemDomain trivial permitted, ?_, ?_, ?_⟩
  · intro moment reached
    have still : Ranked moment := reached.keeps Stroke.ranked ranked
    exact ⟨moment.releasesFiles, fun next stroke => stroke.closesAtLast not_false still,
      fun later strokes => Strokes.closesOnce strokes not_false⟩
  · -- Whatever the operations did, the cursors in the table have lived on meanwhile.
    intro cursor listed
    obtain ⟨listing, tree, deeds, unbegun, resides, calls⟩ := fits.cursors cursor listed
    exact ⟨listing, tree, deeds, unbegun, resides, resides.within.2, resides.passages,
      resides.tidies unbegun calls⟩
  · intro moment _ listing filter tree held fault refused unbegun acquired failed
    exact tidies_refused unbegun acquired failed

/-- A file that is opened on the share, a listing of the share in which there is nothing, and a search
that is closed before its end. -/
def opening : List Operation :=
  [.connect "tree", .expect ⟨"create", .ok (.create { fid := .legacy 9 })⟩,
    .openFile "tree" "file" "readme" .directory,
    .expect ⟨"chain", .ok (.chain [⟨.success, some (.create { fid := .legacy 5 })⟩,
      ⟨.noMoreFiles, none⟩])⟩,
    .list "entries" (.ofShare "srv" "data") {},
    .expect ⟨"find_first2", .ok (.find { sid := ⟨7⟩, entries := [{ name := "a" }] })⟩,
    .openCursor "search" (.search (.ofShare "srv" "data") "*" 0) none none, .close "search"]

/-- The directory is closed with the first cursor at once, the search when the second is closed, and
the file by its release, although the server does not answer. -/
theorem run_closesOnce_opening :
    let server := Playback.ofTranscript { dialect := .smb2 }
    let bench := ((new { maxBufferSize := 1 } server "" "").run opening).bench
    let after := sessionAfter { maxBufferSize := 1 } server "" "" (opening ++ [.release "file"])
    (∀ operation ∈ opening ++ [.release "file"], operation.leavesFiles = true) ∧
      (bench.session.file? ⟨0⟩).map (·.refs) = some 1 ∧ bench.session.isTreeValid ⟨0⟩ = true ∧
      after.server.sentKinds = ["tree_connect", "create", "chain", "close", "find_first2",
        "find_close2", "close"] ∧
      bench.session.ReleasesFiles ∧ bench.session.ClosesOnce after ∧
      bench.cursors.toList.map Cursor.isClosed = [true, true] ∧
      ∀ cursor ∈ bench.cursors, ∃ listing tree deeds,
        Resides (.new { maxBufferSize := 1 } server "" "") listing tree cursor bench.session deeds ∧
        listing.Tidies tree true deeds cursor.listing := by
  intro server bench after
  obtain ⟨further, each, live, _⟩ := run_closesOnce { maxBufferSize := 1 } server "" "" opening
    [.release "file"] (by decide)
  obtain ⟨releases, _, once⟩ := each bench.session .refl
  have closed : bench.cursors.toList.map Cursor.isClosed = [true, true] := by decide +kernel
  refine ⟨by decide, by decide +kernel, by decide +kernel, by decide +kernel, releases,
    once after further, closed, fun cursor listed => ?_⟩
  -- Each cursor has come to its end, so that it has given everything back.
  obtain ⟨listing, tree, deeds, _, resides, _, _, tidies⟩ := live cursor listed
  have isClosed : cursor.isClosed ∈ bench.cursors.toList.map Cursor.isClosed :=
    List.mem_map_of_mem (Array.mem_toList_iff.mpr listed)
  rw [closed] at isClosed
  have isTrue : cursor.isClosed = true := by simpa using isClosed
  rw [isTrue] at tidies
  exact ⟨listing, tree, deeds, resides, tidies⟩

end Account

end SmbBrowser
