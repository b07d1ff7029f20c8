/-! The settings a client runs with, and what makes them unusable. -/

namespace SmbBrowser

/-- Everything about a client that can be tuned. -/
structure Settings where
  /-- The most entries a directory page may hold. -/
  listCount : UInt16 := 200
  /-- The most bytes a listing page may take. -/
  listSize : UInt32 := 65435
  /-- The size of a scratch buffer. -/
  maxBufferSize : UInt64 := 0x10000
  /-- How many idle scratch buffers are kept. -/
  bufferCacheSize : UInt64 := 16
  /-- Whether a handle remembers where it was made. -/
  traceResourceUsage : Bool := false
  deriving DecidableEq, Inhabited

/-- Why settings could not be had or written. -/
inductive SettingsFault where
  /-- The file is there but its text could not be read. -/
  | unreadable (path cause : String)
  /-- The text is no settings document; the path tells where it came from, if from a file. -/
  | malformed (path : Option String)
  /-- A value is too large for a document. -/
  | unwritable
  /-- A value makes listing impossible. -/
  | rejected (field reason : String)
  deriving DecidableEq

/-- The wording of a fault of the settings. -/
def SettingsFault.message : SettingsFault → String
  | .unreadable path cause => "failed to read config " ++ path ++ ": " ++ cause
  | .malformed none => "failed to parse config"
  | .malformed (some path) => "failed to parse config " ++ path
  | .unwritable => "failed to serialize config"
  | .rejected field reason => "invalid config value for " ++ field ++ ": " ++ reason

namespace Settings

/-- The first of the three sizes that is zero is refused: pages and buffers must hold something. -/
def validate (settings : Settings) : Except SettingsFault Unit :=
  let tooSmall := "must be at least 1"
  if settings.listCount = 0 then .error (.rejected "list_count" tooSmall)
  else if settings.listSize = 0 then .error (.rejected "list_size" tooSmall)
  else if settings.maxBufferSize = 0 then .error (.rejected "max_buffer_size" tooSmall)
  else .ok ()

end Settings

end SmbBrowser
