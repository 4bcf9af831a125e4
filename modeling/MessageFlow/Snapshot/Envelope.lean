import MessageFlow.Snapshot.Digest
import MessageFlow.Snapshot.Payload

/-!
# Snapshots

A snapshot is a stored graph: the letters `MFGR`, the version of the format in two bytes, the length
of the payload in eight, the payload, and its SHA-256 digest.  `Snapshot.encode` writes one and
`Snapshot.decode` reads one; nothing may follow it.  Reading gives the whole graph or tells why the
bytes are refused.
-/

namespace MessageFlow.Snapshot

open Text (Bytes)

/-- the signature, the letters `MFGR` -/
def magic : Bytes := [0x4D, 0x46, 0x47, 0x52]

def version : Nat := 1

def headerLength : Nat := 14

def digestLength : Nat := 32

/-- the payload between its header and its digest -/
def envelope (payload : Bytes) : Bytes :=
  magic ++ littleEndian 2 version ++ littleEndian 8 payload.length ++ payload
    ++ Sha256.digest payload

/-- the snapshot of a graph -/
def encode (g : Graph) : Bytes := envelope (writePayload g)

/-- the payload of a snapshot, if its header and its digest are right -/
def openEnvelope (bytes : Bytes) : Except SnapshotFault Bytes :=
  if bytes.length < headerLength then .error (.truncated headerLength bytes.length)
  else if bytes.take 4 ≠ magic then .error .badMagic
  else
    let found := ofLittleEndian ((bytes.drop 4).take 2)
    let length := ofLittleEndian ((bytes.drop 6).take 8)
    let rest := bytes.drop headerLength
    let expected := length + digestLength
    if found ≠ version then .error (.unsupportedVersion found)
    else if 2 ^ 64 ≤ expected then .error .lengthOverflow
    else if rest.length < expected then
      .error (.truncated (min (headerLength + expected) (2 ^ 64 - 1)) bytes.length)
    else if expected < rest.length then .error (.trailingBytes (rest.length - expected))
    else if Sha256.digest (rest.take length) ≠ rest.drop length then .error .checksumMismatch
    else .ok (rest.take length)

/-- the graph of a payload -/
def decodePayload (payload : Bytes) : Except SnapshotFault Graph :=
  match readPayload payload with
  | .error fault => .error (.payload fault)
  | .ok ((vertices, edges), rest) =>
    if rest ≠ [] then .error (.unread rest.length)
    else match restore vertices edges with
      | .error fault => .error (.corrupt fault)
      | .ok g => .ok g

/-- the graph of a snapshot -/
def decode (bytes : Bytes) : Except SnapshotFault Graph := do
  decodePayload (← openEnvelope bytes)

/-- the largest snapshot that is read from a file -/
def maxLength : Nat := 256 * 1024 * 1024

/-- the graph of a snapshot of bounded size -/
def decodeBounded (bytes : Bytes) : Except SnapshotFault Graph :=
  if maxLength < bytes.length then .error (.tooLarge maxLength) else decode bytes

end MessageFlow.Snapshot
