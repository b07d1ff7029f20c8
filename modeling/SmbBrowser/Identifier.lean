import SmbBrowser.Text.Hex

/-! The names a server gives out: tree connects, searches and open files, in either dialect. -/

namespace SmbBrowser

/-- The two generations of the protocol. -/
inductive Dialect where
  /-- Transactions and server-side searches. -/
  | smb1
  /-- Compound requests and open directories. -/
  | smb2
  deriving DecidableEq, Inhabited

/-- The dialect's name in a transcript. -/
def Dialect.name : Dialect → String
  | .smb1 => "smb1"
  | .smb2 => "smb2"

/-- The number of one tree connect. -/
structure TreeId where
  /-- The raw number. -/
  number : UInt32
  deriving DecidableEq, Inhabited

/-- The number of one server-side search. -/
structure SearchId where
  /-- The raw number. -/
  number : UInt16
  deriving DecidableEq, Inhabited

/-- The name of an open file; its width depends on the dialect. -/
inductive FileId where
  /-- Sixteen bits in the older dialect. -/
  | legacy (number : UInt16)
  /-- Sixteen bytes in the newer dialect. -/
  | modern (bytes : Vector UInt8 16)
  deriving DecidableEq

/-- A tree number is shown in decimal. -/
def TreeId.display (tree : TreeId) : String := toString tree.number.toNat

/-- A search number is shown in decimal. -/
def SearchId.display (search : SearchId) : String := toString search.number.toNat

/-- A file is shown as four hexadecimal digits behind `0x`, or as its sixteen bytes. -/
def FileId.display : FileId → String
  | .legacy number => "0x" ++ Text.hex 4 number.toNat
  | .modern bytes => String.join (bytes.toList.map fun byte => Text.hex 2 byte.toNat)

end SmbBrowser
