import Qlaster.ControlCore
import Qlaster.PrefixCode
import Qlaster.SenderCore

/-!
The handshake of `shm/uds.rs`, `sender/shm.rs` and `consumer/shm.rs`: the sender announces
the ring it created in one message with the eventfd attached, the consumer reads it into a
fixed buffer and opens what it names.
-/

namespace Qlaster

open LittleEndian PrefixCode

def ancillaryRecvBuf : Nat := 1024

/-- `send_frame_with_fd` up to its `sendmsg`: the bytes of the one message. -/
def sendFrameWithFd (payload : Bytes) : Outcome Bytes :=
  if 2 ^ 32 - 1 < payload.length then fail (.frameTooLarge payload.length)
  else .ok (u32ToLeBytes (UInt32.ofNat payload.length) ++ payload)

def ancillaryTooLarge (needed n : Nat) : QlasterError :=
  .udsError s!"ancillary frame larger than buffer ({needed} > {n})"

/-- `recv_frame_with_fd` after a `recvmsg` that wrote `received` to the front of the buffer. -/
def recvFrameWithFd (received : Bytes) : Outcome Bytes :=
  let n := received.length
  let buf := received ++ List.replicate (ancillaryRecvBuf - n) 0
  if n = 0 then fail (.udsError "peer closed UDS before sending ready frame")
  else if n < 4 then fail (.udsError s!"short recvmsg ({n} bytes)")
  else
    let needed := 4 + (u32FromLeBytes (buf.take 4)).toNat
    if n < needed then fail (ancillaryTooLarge needed n)
    else indexRange buf 4 needed

/-- The `Created` branch of `handle_uds_connection`; `toStringLossy` is that of `Path`. -/
def announceRing (toStringLossy : Bytes → String) (wincode : WincodeFormat) (slotToken : SlotToken)
    (ringPath : Bytes) (ringCapacity : UInt64) : Outcome Bytes := do
  let ready : ConnectionReadyShm := ⟨slotToken, toStringLossy ringPath, ringCapacity⟩
  let encoded ← ready.encode wincode
  sendFrameWithFd encoded

/-- The ring as it was announced; of the capacity the consumer keeps nothing. -/
structure OpenedRing where
  slotToken : SlotToken
  ringPath : Bytes
  ringCapacity : UInt64
  deriving DecidableEq, Repr

def ServerFrame.variant : ServerFrame → String
  | .accountUpdate _ => "AccountUpdate"
  | .transactionUpdate _ => "TransactionUpdate"
  | .slotUpdate _ => "SlotUpdate"
  | .connectionReady _ => "ConnectionReady"
  | .connectionReadyShm _ => "ConnectionReadyShm"

/-- `setup_shm_consumer_with_metrics` from its `recv_frame_with_fd` to the path it opens. The error
of the last branch prints the whole frame; here it names the variant. -/
def adoptRing (codecs : Codecs) (received : Bytes) (fdOpt : Option Nat) : Outcome OpenedRing := do
  let readyBytes ← recvFrameWithFd received
  match ← decodeServerFrame codecs readyBytes with
  | .connectionReadyShm ready =>
      match fdOpt with
      | none => fail (.udsError "ConnectionReadyShm missing eventfd")
      | some _ => return ⟨ready.slotToken, utf8 ready.ringPath, ready.ringCapacity⟩
  | other => fail (.udsError ("expected ConnectionReadyShm, got " ++ other.variant))

/-- The announcement is delivered whole, up to the size of the receiver's buffer. -/
def handshake (toStringLossy : Bytes → String) (lz4 : Lz4) (wincode : WincodeFormat)
    (slotToken : SlotToken)
    (ringPath : Bytes) (ringCapacity : UInt64) (eventfd : Nat) : Outcome OpenedRing := do
  let message ← announceRing toStringLossy wincode slotToken ringPath ringCapacity
  adoptRing ⟨lz4, wincode.toWincode⟩ (message.take ancillaryRecvBuf) (some eventfd)

/-- The check of `bind_listener`. -/
def checkRingCapacity (ringCapacityBytes : Nat) : Outcome Unit :=
  if ringCapacityBytes = 2 ^ ringCapacityBytes.log2 then .ok ()
  else fail (.configError s!"ring_capacity_bytes {ringCapacityBytes} must be a power of two")

end Qlaster
