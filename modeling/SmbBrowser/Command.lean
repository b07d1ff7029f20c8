import SmbBrowser.Browse
import SmbBrowser.Format.Transcript
import SmbBrowser.Json.Writer
import SmbBrowser.LogFilter
import SmbBrowser.Settings.File
import SmbBrowser.Locator.Target
import SmbBrowser.Text.Column

/-!
The commands of the program, without the world around them: what is found in the files comes in, and
what is to be written goes out.
-/

namespace SmbBrowser

/-- How a listing is written. -/
inductive RowFormat where
  /-- One line of columns for each resource. -/
  | text
  /-- One indented array of all resources. -/
  | json
  deriving DecidableEq, Inhabited

/-- What can be asked of a replay. -/
structure ReplayOptions where
  /-- What is found at the transcript's path. -/
  transcript : FileContent
  /-- The address to list. -/
  target : String := "smb://"
  /-- A lone host in the address is a workgroup. -/
  workgroup : Bool := false
  /-- The wildcard that the server matches names against. -/
  pattern : String := "*"
  /-- The domain the server reports. -/
  oemDomain : String := "WORKGROUP"
  /-- Tell which requests were sent. -/
  trace : Bool := false
  /-- How the listing is written. -/
  format : RowFormat := .text

/-- What the program can do. -/
inductive Command where
  /-- Write the settings in force. -/
  | settings
  /-- List an address, with a transcript for a server. -/
  | replay (options : ReplayOptions)

/-- All that a run of the program depends on. -/
structure Invocation where
  /-- Where the settings are looked for. -/
  settingsPath : String
  /-- What is found there. -/
  settings : FileContent
  /-- What is to be logged. -/
  logFilter : String := "warn"
  /-- What is to be done. -/
  command : Command

/-- What a run of the program leaves behind. -/
structure RunResult where
  /-- It did not do what it was asked to. -/
  failed : Bool
  /-- What it wrote. -/
  output : String
  /-- What it had to say about its work, message by message. -/
  messages : List String

namespace RunResult

/-- A run that failed after it wrote something. -/
def failure (output cause : String) : RunResult := ⟨true, output, ["error: " ++ cause]⟩

/-- The exit code. -/
def code (result : RunResult) : UInt32 := if result.failed then 1 else 0

end RunResult

/-- What is written of a resource. -/
structure Row where
  /-- Its address. -/
  url : String
  /-- Its entry. -/
  entry : Entry

namespace Row

/-- The row of a resource. -/
def ofResource (resource : Resource) : Row := ⟨resource.locator.url, resource.entry⟩

/-- The kind, the size and the address, in columns. -/
def toText (row : Row) : String :=
  Text.alignLeft 10 row.entry.kind.title.toLower ++ " "
    ++ Text.alignRight 12 (toString row.entry.size.toNat) ++ " " ++ row.url ++ "\n"

/-- The entry and the address, with every key in its place. -/
def toJson (row : Row) : Json :=
  .record [("entry", row.entry.toJson.sortKeys), ("url", .string row.url)]

end Row

/-- The rows of a stream up to its end or its first failure, each resource given back at once. -/
def readRows (stream : ResourceStream (Cursor Listing) Resource) (session : Session) :
    (List Row × Option Fault) × ResourceStream (Cursor Listing) Resource × Session :=
  match _ : stream.next session with
  | (.error fault, stream, session) => (([], some fault), stream, session)
  | (.ok none, stream, session) => (([], none), stream, session)
  | (.ok (some resource), stream, session) =>
    let ((rows, fault), rest) := readRows stream (resource.discard session)
    ((.ofResource resource :: rows, fault), rest)
termination_by EntrySource.left stream.source session
decreasing_by
  rename_i read
  exact Nat.lt_of_le_of_lt (EntrySource.left_mono (resource.weight_discard_le session))
    (ResourceStream.left_next_lt read)

namespace ReplayOptions

/-- The share to connect: administration calls go to the share made for them. -/
def sharePath (locator : Locator) : String :=
  "\\\\" ++ locator.host ++ "\\" ++ locator.share.getD "IPC$"

/-- What there is to say about a session that came to its end. -/
def messages (options : ReplayOptions) (session : Session) : List String :=
  let sent := session.server.sent.toList.map fun sent =>
    "-> " ++ sent.request.kind ++ " " ++ sent.request.toJson.compact
  let remaining := session.server.remaining
  let unused := "warning: " ++ toString remaining ++ " scripted exchanges were not used"
  (if options.trace then sent else []) ++ if 0 < remaining then [unused] else []

/-- Lists an address through a session that has not connected yet. -/
def list (options : ReplayOptions) (locator : Locator) (session : Session) : RunResult :=
  match session.listResources locator { pattern := options.pattern } none with
  | (.error fault, _) => .failure "" fault.message
  | (.ok stream, session) =>
    let ((rows, fault), stream, session) := readRows stream session
    let lines := match options.format with
      | .text => String.join (rows.map Row.toText)
      | .json => ""
    match fault with
    | some fault => .failure lines fault.message
    | none =>
      -- The stream goes first, so that its last requests are among those that are told.
      let (_, session) := stream.drop session
      let array := match options.format with
        | .text => ""
        | .json => (Json.array (rows.map Row.toJson)).pretty ++ "\n"
      ⟨false, lines ++ array, options.messages session⟩

/-- The transcript that was found, or why there is none. -/
def readTranscript (options : ReplayOptions) : Except Fault Transcript :=
  match options.transcript.text with
  | .error cause => .error (.io cause)
  | .ok text => Transcript.parse text

/-- Lists an address, with a transcript for a server. -/
def run (options : ReplayOptions) (settings : Settings) : RunResult :=
  match Locator.parse options.target options.workgroup with
  | .error fault => .failure "" fault.message
  | .ok locator =>
    match options.readTranscript with
    | .error fault => .failure "" fault.message
    | .ok transcript =>
      options.list locator
        (.new settings (.ofTranscript transcript) (sharePath locator) options.oemDomain)

end ReplayOptions

namespace Invocation

/-- Does what is to be done, once the settings are there. -/
def perform (invocation : Invocation) : RunResult :=
  match Settings.load invocation.settingsPath invocation.settings with
  | .error fault => .failure "" fault.message
  | .ok settings =>
    match invocation.command with
    | .settings =>
      match settings.render with
      | .error fault => .failure "" fault.message
      | .ok text => ⟨false, text, []⟩
    | .replay options => options.run settings

/-- Runs the program; a log filter that cannot be used is complained of, and is no reason to stop. -/
def run (invocation : Invocation) : RunResult :=
  let result := invocation.perform
  match LogFilter.check invocation.logFilter with
  | .ok _ => result
  | .error fault => { result with messages := ("warning: " ++ fault.message) :: result.messages }

end Invocation

end SmbBrowser
