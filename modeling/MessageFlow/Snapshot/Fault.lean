import MessageFlow.Text.Utf8

/-!
# Why bytes are no snapshot

The causes for which bytes are refused as a stored graph, from the outside in: the envelope
(`SnapshotFault`), the payload inside it (`PayloadFault`), and the graph that the payload describes
(`Corruption`).  Each has one wording.
-/

namespace MessageFlow

/-- widths of integers, as the wordings name them -/
inductive IntegerWidth where
  | bits32
  | bits64
  | size
  | bits128
  | reserved
  deriving DecidableEq

namespace IntegerWidth

def label : IntegerWidth → String
  | bits32 => "U32"
  | bits64 => "U64"
  | size => "Usize"
  | bits128 => "U128"
  | reserved => "Reserved"

end IntegerWidth

inductive PayloadFault where
  /-- the bytes end, and so many are missing for the item being read -/
  | unexpectedEnd (missing : Nat)
  /-- a byte that says neither absent nor present -/
  | unknownOption (found : Nat)
  /-- an integer wider than its field -/
  | tooWide (expected found : IntegerWidth)
  /-- a text that is not UTF-8 -/
  | malformedText (fault : Text.Utf8Fault)
  deriving DecidableEq

namespace PayloadFault

def message : PayloadFault → String
  | unexpectedEnd missing => "UnexpectedEnd \x7b additional: " ++ toString missing ++ " \x7d"
  | unknownOption found =>
    "UnexpectedVariant \x7b type_name: \"Option<T>\", allowed: Range \x7b min: 0, max: 1 \x7d, found: "
      ++ toString found ++ " \x7d"
  | tooWide expected found =>
    "InvalidIntegerType \x7b expected: " ++ expected.label ++ ", found: " ++ found.label ++ " \x7d"
  | malformedText fault =>
    "Utf8 \x7b inner: Utf8Error \x7b valid_up_to: " ++ toString fault.validUpTo ++ ", error_len: "
      ++ (match fault.length? with
        | none => "None"
        | some n => "Some(" ++ toString n ++ ")")
      ++ " \x7d \x7d"

end PayloadFault

inductive Corruption where
  | duplicateVertex (name : String)
  /-- an edge between positions of which one has no vertex -/
  | missingVertex (source target : Nat)
  | duplicateEdge (message : String)
  deriving DecidableEq

namespace Corruption

def message : Corruption → String
  | duplicateVertex name => "duplicate vertex " ++ name
  | missingVertex source target =>
    "edge " ++ toString source ++ " -> " ++ toString target ++ " references a missing vertex"
  | duplicateEdge m => "duplicate edge tagged " ++ m

end Corruption

inductive SnapshotFault where
  | truncated (expected found : Nat)
  | badMagic
  | unsupportedVersion (found : Nat)
  | checksumMismatch
  | trailingBytes (count : Nat)
  | tooLarge (limit : Nat)
  /-- the payload length leaves no room for the digest in 64 bits -/
  | lengthOverflow
  /-- the payload goes on after the graph -/
  | unread (count : Nat)
  | payload (fault : PayloadFault)
  | corrupt (fault : Corruption)
  deriving DecidableEq

namespace SnapshotFault

def message : SnapshotFault → String
  | truncated expected found =>
    "input truncated: need " ++ toString expected ++ " bytes, found " ++ toString found
  | badMagic => "not a message flow graph (bad magic bytes)"
  | unsupportedVersion found =>
    "unsupported format version " ++ toString found ++ " (expected 1)"
  | checksumMismatch => "payload checksum mismatch"
  | trailingBytes count => toString count ++ " unexpected trailing bytes"
  | tooLarge limit => "input exceeds " ++ toString limit ++ " bytes"
  | lengthOverflow => "malformed payload: payload length overflows"
  | unread count => "malformed payload: " ++ toString count ++ " unread payload bytes"
  | payload fault => "malformed payload: " ++ fault.message
  | corrupt fault => "corrupt graph: " ++ fault.message

end SnapshotFault

end MessageFlow
