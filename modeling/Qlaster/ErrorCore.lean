import Mathlib.Algebra.Group.Nat.Defs

/-! The error values of the crate, and how a call can end without an `Ok`. -/

namespace Qlaster

abbrev Bytes := List UInt8

instance decidableMemBytes (bytes : Bytes) (list : List Bytes) : Decidable (bytes ∈ list) :=
  List.instDecidableMemOfLawfulBEq bytes list

inductive IoErrorKind
  | unexpectedEof
  | wouldBlock
  | interrupted
  | unsupported
  | writeZero
  | other
  deriving DecidableEq, Repr

inductive QlasterError
  | connectionFailed
  | io (kind : IoErrorKind)
  | frameTooLarge (size : Nat)
  | payloadTooLarge (found max : Nat)
  | invalidWireVersion (found expected : UInt8)
  | invalidMessageTag (found expected : UInt8)
  | decodeError (text : String)
  | timeout (text : String)
  | configError (text : String)
  | malformedPayload (text : String)
  | incomingClosed
  | shmError (text : String)
  | shmFull
  | udsError (text : String)
  deriving DecidableEq, Repr

/-- A call that does not answer `Ok` returns an error or panics. -/
inductive Abort
  | error (error : QlasterError)
  | panic
  deriving DecidableEq, Repr

abbrev Outcome := Except Abort

def fail {α : Type} (error : QlasterError) : Outcome α := .error (.error error)

/-- `bytes[index]`. -/
def indexByte (bytes : Bytes) (index : Nat) : Outcome UInt8 :=
  match bytes[index]? with
  | some byte => .ok byte
  | none => .error .panic

/-- `&bytes[first..last]`. -/
def indexRange (bytes : Bytes) (first last : Nat) : Outcome Bytes :=
  if first ≤ last ∧ last ≤ bytes.length then .ok ((bytes.drop first).take (last - first))
  else .error .panic

/-- `Bytes::slice(first..last)`, which asserts its bounds and shares the buffer. -/
def bytesSlice (bytes : Bytes) (first last : Nat) : Outcome Bytes :=
  if last < first then .error .panic
  else if bytes.length < last then .error .panic
  else if last = first then .ok []
  else .ok ((bytes.take last).drop first)

/-- `TryFrom<usize> for u32`, with the error the caller maps a failure to. -/
def tryIntoU32 (value : Nat) (error : QlasterError) : Outcome UInt32 :=
  if value < 2 ^ 32 then .ok (UInt32.ofNat value) else fail error

end Qlaster
