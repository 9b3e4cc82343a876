import Mathlib.Algebra.Group.Int.Defs
import Mathlib.Algebra.GroupWithZero.Nat
import Mathlib.Data.List.Basic

/-! Values shared by the relay, its storage and its HTTP surface. -/
namespace Hypeterm

abbrev Bytes := List UInt8

/-- Server-generated identifiers of devices and terminals. -/
abbrev Uuid := BitVec 128

/-- A SHA-256 digest; the source keeps its hexadecimal text. -/
abbrev Digest := BitVec 256

inductive ProtocolVersion where
  | v1
  | v2
  deriving DecidableEq

/-- Version 2 adds terminal input; a version 1 peer has no frame to carry it. -/
def ProtocolVersion.supportsInput : ProtocolVersion → Bool
  | .v1 => false
  | .v2 => true

inductive DeviceRole where
  | publisher
  | client
  | both
  deriving DecidableEq

def DeviceRole.mayPublish : DeviceRole → Bool
  | .publisher | .both => true
  | .client => false

def DeviceRole.mayMirror : DeviceRole → Bool
  | .client | .both => true
  | .publisher => false

inductive TerminalState where
  | opened
  | closed
  deriving DecidableEq

end Hypeterm
