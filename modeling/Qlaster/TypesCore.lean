import Qlaster.ErrorCore
import Qlaster.LittleEndian

/-!
Wire messages of `types.rs`. Update frames are laid out by hand; the four control
messages go through `wincode`, and account payloads through `lz4_flex`, both of
which are parameters here.
-/

namespace Qlaster

open LittleEndian

def requestSubscribeTag : UInt8 := 1
def updateTag : UInt8 := 2
def readyTag : UInt8 := 3
def requestPingTag : UInt8 := 4
def readyShmTag : UInt8 := 5
def transactionUpdateTag : UInt8 := 6
def slotUpdateTag : UInt8 := 7
def wireVersion : UInt8 := 9
def unsetSlotIndex : UInt8 := 255
def maxAccountPayloadBytes : Nat := 10 * 1024 * 1024
def maxTransactionPayloadBytes : Nat := 10 * 1024 * 1024
def accountUpdateFlagLz4 : UInt8 := 0x1
def accountUpdateCompressionThresholdBytes : Nat := 500 * 1024
def accountUpdateCompressionSampleBytes : Nat := 8 * 1024
def accountUpdateCompressionMinGainBps : Nat := 75
def accountUpdateFixedBytes : Nat := 2 + 8 + (32 * 2) + (8 * 4) + 1 + 1 + 4 + 4
def transactionUpdateFixedBytes : Nat := 2 + 8 + 8 + 4 + 1 + 64 + 4
def slotUpdateFixedBytes : Nat := 2 + 8 + 8

/-- `lz4_flex::block`. -/
structure Lz4 where
  compress : Bytes → Bytes
  decompress : Bytes → Nat → Except String Bytes

/-- Decompressing a compressed block to its own length gives it back. -/
def Lz4.RoundTrips (lz4 : Lz4) : Prop :=
  ∀ block, lz4.decompress (lz4.compress block) block.length = .ok block

structure FixedBytes (size : Nat) where
  bytes : Bytes
  length_eq : bytes.length = size
  deriving DecidableEq, Repr

abbrev Pubkey := FixedBytes 32

structure SlotToken where
  slotIndex : UInt8
  generation : UInt64
  deriving DecidableEq, Repr

structure SubscriptionRequest where
  slotToken : Option SlotToken
  accountPubkeys : List Pubkey
  accountOwners : List Pubkey
  includeTransactions : Bool
  deriving DecidableEq, Repr

structure PingRequest where
  slotToken : SlotToken
  deriving DecidableEq, Repr

structure ConnectionReady where
  slotToken : SlotToken
  deriving DecidableEq, Repr

structure ConnectionReadyShm where
  slotToken : SlotToken
  ringPath : String
  ringCapacity : UInt64
  deriving DecidableEq, Repr

structure AccountPayload where
  bytes : Bytes
  bounded : bytes.length ≤ maxAccountPayloadBytes
  deriving DecidableEq, Repr

structure AccountUpdate where
  accountPubkey : Pubkey
  accountOwner : Pubkey
  lamports : UInt64
  executable : Bool
  rentEpoch : UInt64
  slot : UInt64
  writeVersion : UInt64
  payload : AccountPayload
  deriving DecidableEq, Repr

structure TransactionPayload where
  bytes : Bytes
  bounded : bytes.length ≤ maxTransactionPayloadBytes
  deriving DecidableEq, Repr

structure TransactionUpdate where
  slot : UInt64
  index : UInt32
  signature : FixedBytes 64
  isVote : Bool
  payload : TransactionPayload
  deriving DecidableEq, Repr

structure SlotUpdate where
  slot : UInt64
  deriving DecidableEq, Repr

structure AccountUpdateWireMeta where
  senderCreatedAtUnixNanos : UInt64
  deriving DecidableEq, Repr

inductive ServerFrame
  | accountUpdate (update : AccountUpdate)
  | transactionUpdate (update : TransactionUpdate)
  | slotUpdate (update : SlotUpdate)
  | connectionReady (ready : ConnectionReady)
  | connectionReadyShm (ready : ConnectionReadyShm)
  deriving DecidableEq, Repr

inductive ServerFrameWithMeta
  | accountUpdate (update : AccountUpdate) (info : AccountUpdateWireMeta)
  | transactionUpdate (update : TransactionUpdate) (info : AccountUpdateWireMeta)
  | slotUpdate (update : SlotUpdate) (info : AccountUpdateWireMeta)
  | connectionReady (ready : ConnectionReady)
  | connectionReadyShm (ready : ConnectionReadyShm)
  deriving DecidableEq, Repr

structure WireConnectionReady where
  wireVersion : UInt8
  messageTag : UInt8
  slotIndex : UInt8
  slotGeneration : UInt64

structure WireConnectionReadyShm where
  wireVersion : UInt8
  messageTag : UInt8
  slotIndex : UInt8
  slotGeneration : UInt64
  ringPath : String
  ringCapacity : UInt64

/-- `wincode::deserialize` at the wire structs of the server's control frames. -/
structure Wincode where
  deserializeConnectionReady : Bytes → Except String WireConnectionReady
  deserializeConnectionReadyShm : Bytes → Except String WireConnectionReadyShm

structure Codecs where
  lz4 : Lz4
  wincode : Wincode

def shouldAttemptLz4 (lz4 : Lz4) (payload : Bytes) : Bool :=
  if payload.length < accountUpdateCompressionThresholdBytes then false
  else if accountUpdateCompressionMinGainBps = 0 then true
  else
    let sampleLen := min payload.length accountUpdateCompressionSampleBytes
    let sample := payload.take sampleLen
    let compressedSample := lz4.compress sample
    if sampleLen ≤ compressedSample.length then false
    else
      let gainBps := (sampleLen - compressedSample.length) * 10000 / sampleLen
      decide (accountUpdateCompressionMinGainBps ≤ gainBps)

/-- The `deserialize_wire!` macro: the error text carries the message's name. -/
def deserializeWire {α : Type} (result : Except String α) (context : String) : Outcome α :=
  match result with
  | .ok wire => .ok wire
  | .error text => fail (.decodeError (context ++ ": " ++ text))

def ensureWire (version tag expectedTag : UInt8) : Outcome Unit :=
  if version ≠ wireVersion then fail (.invalidWireVersion version wireVersion)
  else if tag ≠ expectedTag then fail (.invalidMessageTag tag expectedTag)
  else .ok ()

def ConnectionReady.decode (wincode : Wincode) (bytes : Bytes) : Outcome ConnectionReady := do
  let wire ← deserializeWire (wincode.deserializeConnectionReady bytes) "connection ready"
  ensureWire wire.wireVersion wire.messageTag readyTag
  if wire.slotIndex = unsetSlotIndex then
    fail (.malformedPayload "connection ready missing slot token")
  else .ok { slotToken := ⟨wire.slotIndex, wire.slotGeneration⟩ }

def ConnectionReadyShm.decode (wincode : Wincode) (bytes : Bytes) :
    Outcome ConnectionReadyShm := do
  let wire ← deserializeWire (wincode.deserializeConnectionReadyShm bytes) "connection ready shm"
  ensureWire wire.wireVersion wire.messageTag readyShmTag
  if wire.slotIndex = unsetSlotIndex then
    fail (.malformedPayload "connection ready shm missing slot token")
  else if wire.ringPath.isEmpty then
    fail (.malformedPayload "connection ready shm missing ring path")
  else if wire.ringCapacity = 0 then
    fail (.malformedPayload "connection ready shm has zero ring capacity")
  else
    .ok {
      slotToken := ⟨wire.slotIndex, wire.slotGeneration⟩
      ringPath := wire.ringPath
      ringCapacity := wire.ringCapacity
    }

/-- `take_exact`, with the cursor passed and returned instead of borrowed mutably. -/
def takeExact (bytes : Bytes) (cursor len : Nat) (context : String) : Outcome (Bytes × Nat) :=
  let finish := cursor + len
  if 2 ^ 64 ≤ finish then fail (.malformedPayload context)
  else if bytes.length < finish then fail (.malformedPayload context)
  else .ok ((bytes.drop cursor).take len, finish)

def takeU8 (bytes : Bytes) (cursor : Nat) : Outcome (UInt8 × Nat) := do
  let (raw, cursor) ← takeExact bytes cursor 1 "account update u8 out of bounds"
  let byte ← indexByte raw 0
  return (byte, cursor)

def takeU32Le (bytes : Bytes) (cursor : Nat) : Outcome (UInt32 × Nat) := do
  let (raw, cursor) ← takeExact bytes cursor 4 "account update u32 out of bounds"
  if raw.length = 4 then return (u32FromLeBytes raw, cursor)
  else fail (.malformedPayload "account update bad u32")

def takeU64Le (bytes : Bytes) (cursor : Nat) : Outcome (UInt64 × Nat) := do
  let (raw, cursor) ← takeExact bytes cursor 8 "account update u64 out of bounds"
  if raw.length = 8 then return (u64FromLeBytes raw, cursor)
  else fail (.malformedPayload "account update bad u64")

/-- The common body of `take_array_32` and `take_array_64`. -/
def takeArray (size : Nat) (outOfBounds bad : String) (bytes : Bytes) (cursor : Nat) :
    Outcome (FixedBytes size × Nat) := do
  let (raw, cursor) ← takeExact bytes cursor size outOfBounds
  if length : raw.length = size then return (⟨raw, length⟩, cursor)
  else fail (.malformedPayload bad)

def takeArray32 : Bytes → Nat → Outcome (FixedBytes 32 × Nat) :=
  takeArray 32 "account update [u8;32] out of bounds" "account update bad [u8;32]"

def takeArray64 : Bytes → Nat → Outcome (FixedBytes 64 × Nat) :=
  takeArray 64 "transaction update [u8;64] out of bounds" "transaction update bad [u8;64]"

def flagOf (byte : UInt8) (context : String) : Outcome Bool :=
  if byte = 0 then .ok false
  else if byte = 1 then .ok true
  else fail (.malformedPayload context)

def byteOfBool (flag : Bool) : UInt8 := if flag then 1 else 0

def AccountPayload.new (payload : Bytes) : Outcome AccountPayload :=
  if bounded : payload.length ≤ maxAccountPayloadBytes then .ok ⟨payload, bounded⟩
  else fail (.payloadTooLarge payload.length maxAccountPayloadBytes)

def TransactionPayload.new (payload : Bytes) : Outcome TransactionPayload :=
  if bounded : payload.length ≤ maxTransactionPayloadBytes then .ok ⟨payload, bounded⟩
  else fail (.payloadTooLarge payload.length maxTransactionPayloadBytes)

/-! Account updates. -/

/-- The payload as it goes on the wire, with the flags byte that announces it. -/
def AccountUpdate.wirePayload (lz4 : Lz4) (rawPayload : Bytes) : UInt8 × Bytes :=
  if shouldAttemptLz4 lz4 rawPayload then
    let compressed := lz4.compress rawPayload
    if compressed.length < rawPayload.length then (0 ||| accountUpdateFlagLz4, compressed)
    else (0, rawPayload)
  else (0, rawPayload)

/-- The header `encode_parts_at` pushes field by field. -/
def AccountUpdate.header (update : AccountUpdate) (senderCreatedAtUnixNanos : UInt64)
    (flags : UInt8) (rawPayloadLen wirePayloadLen : UInt32) : Bytes :=
  [wireVersion] ++ [updateTag] ++ u64ToLeBytes senderCreatedAtUnixNanos ++
    update.accountPubkey.bytes ++ update.accountOwner.bytes ++ u64ToLeBytes update.lamports ++
    [byteOfBool update.executable] ++ u64ToLeBytes update.rentEpoch ++
    u64ToLeBytes update.slot ++ u64ToLeBytes update.writeVersion ++ [flags] ++
    u32ToLeBytes rawPayloadLen ++ u32ToLeBytes wirePayloadLen

def AccountUpdate.encodePartsAt (lz4 : Lz4) (update : AccountUpdate)
    (senderCreatedAtUnixNanos : UInt64) : Outcome (Bytes × Bytes) := do
  let rawPayload := update.payload.bytes
  if maxAccountPayloadBytes < rawPayload.length then
    fail (.payloadTooLarge rawPayload.length maxAccountPayloadBytes)
  else
    let rawPayloadLen ← tryIntoU32 rawPayload.length
      (.payloadTooLarge rawPayload.length maxAccountPayloadBytes)
    let (flags, wirePayload) := AccountUpdate.wirePayload lz4 rawPayload
    let wirePayloadLen ← tryIntoU32 wirePayload.length
      (.payloadTooLarge wirePayload.length maxAccountPayloadBytes)
    return (update.header senderCreatedAtUnixNanos flags rawPayloadLen wirePayloadLen, wirePayload)

structure DecodedAccountUpdate where
  senderCreatedAtUnixNanos : UInt64
  accountPubkey : FixedBytes 32
  accountOwner : FixedBytes 32
  lamports : UInt64
  executable : Bool
  rentEpoch : UInt64
  slot : UInt64
  writeVersion : UInt64
  compressed : Bool
  rawPayloadLen : Nat
  payloadOffset : Nat
  wirePayloadLen : Nat

def DecodedAccountUpdate.parse (bytes : Bytes) : Outcome DecodedAccountUpdate := do
  if bytes.length < accountUpdateFixedBytes then
    fail (.malformedPayload "account update frame shorter than fixed header")
  else
    ensureWire (← indexByte bytes 0) (← indexByte bytes 1) updateTag
    let (senderCreatedAtUnixNanos, cursor) ← takeU64Le bytes 2
    let (accountPubkey, cursor) ← takeArray32 bytes cursor
    let (accountOwner, cursor) ← takeArray32 bytes cursor
    let (lamports, cursor) ← takeU64Le bytes cursor
    let (executableByte, cursor) ← takeU8 bytes cursor
    let executable ← flagOf executableByte "account update executable flag must be 0 or 1"
    let (rentEpoch, cursor) ← takeU64Le bytes cursor
    let (slot, cursor) ← takeU64Le bytes cursor
    let (writeVersion, cursor) ← takeU64Le bytes cursor
    let (flags, cursor) ← takeU8 bytes cursor
    if flags &&& ~~~accountUpdateFlagLz4 ≠ 0 then
      fail (.malformedPayload "account update has unsupported compression flags")
    else
      let (rawLen, cursor) ← takeU32Le bytes cursor
      let rawPayloadLen := rawLen.toNat
      if maxAccountPayloadBytes < rawPayloadLen then
        fail (.payloadTooLarge rawPayloadLen maxAccountPayloadBytes)
      else
        let (wireLen, cursor) ← takeU32Le bytes cursor
        let wirePayloadLen := wireLen.toNat
        if bytes.length ≠ cursor + wirePayloadLen then
          fail (.malformedPayload "account update payload size mismatch")
        else
          return {
            senderCreatedAtUnixNanos, accountPubkey, accountOwner, lamports, executable
            rentEpoch, slot, writeVersion
            compressed := decide (flags &&& accountUpdateFlagLz4 ≠ 0)
            rawPayloadLen
            payloadOffset := cursor
            wirePayloadLen
          }

def AccountUpdate.fromDecoded (decoded : DecodedAccountUpdate) (payload : Bytes) :
    Outcome (AccountUpdate × AccountUpdateWireMeta) := do
  let payload ← AccountPayload.new payload
  return ({
      accountPubkey := decoded.accountPubkey
      accountOwner := decoded.accountOwner
      lamports := decoded.lamports
      executable := decoded.executable
      rentEpoch := decoded.rentEpoch
      slot := decoded.slot
      writeVersion := decoded.writeVersion
      payload
    }, { senderCreatedAtUnixNanos := decoded.senderCreatedAtUnixNanos })

/-- The payload behind the wire bytes; both `decode` variants carry this block. -/
def AccountUpdate.unpackPayload (lz4 : Lz4) (decoded : DecodedAccountUpdate)
    (wirePayload : Bytes) : Outcome Bytes :=
  if decoded.compressed then
    match lz4.decompress wirePayload decoded.rawPayloadLen with
    | .error text => fail (.decodeError ("account update decompress: " ++ text))
    | .ok decompressed =>
        if decompressed.length ≠ decoded.rawPayloadLen then
          fail (.malformedPayload "account update decompressed payload size mismatch")
        else .ok decompressed
  else if decoded.wirePayloadLen ≠ decoded.rawPayloadLen then
    fail (.malformedPayload "account update uncompressed payload size mismatch")
  else .ok wirePayload

def AccountUpdate.decodeWithMeta (lz4 : Lz4) (bytes : Bytes) :
    Outcome (AccountUpdate × AccountUpdateWireMeta) := do
  let decoded ← DecodedAccountUpdate.parse bytes
  let wirePayload ← indexRange bytes decoded.payloadOffset
    (decoded.payloadOffset + decoded.wirePayloadLen)
  let payload ← AccountUpdate.unpackPayload lz4 decoded wirePayload
  AccountUpdate.fromDecoded decoded payload

def AccountUpdate.decode (lz4 : Lz4) (bytes : Bytes) : Outcome AccountUpdate :=
  Prod.fst <$> AccountUpdate.decodeWithMeta lz4 bytes

def AccountUpdate.decodeOwnedWithMeta (lz4 : Lz4) (bytes : Bytes) :
    Outcome (AccountUpdate × AccountUpdateWireMeta) := do
  let decoded ← DecodedAccountUpdate.parse bytes
  let wirePayload ← bytesSlice bytes decoded.payloadOffset
    (decoded.payloadOffset + decoded.wirePayloadLen)
  let payload ← AccountUpdate.unpackPayload lz4 decoded wirePayload
  AccountUpdate.fromDecoded decoded payload

def AccountUpdate.decodeOwned (lz4 : Lz4) (bytes : Bytes) : Outcome AccountUpdate :=
  Prod.fst <$> AccountUpdate.decodeOwnedWithMeta lz4 bytes

/-! Slot updates. -/

def SlotUpdate.header (update : SlotUpdate) (senderCreatedAtUnixNanos : UInt64) : Bytes :=
  [wireVersion] ++ [slotUpdateTag] ++ u64ToLeBytes senderCreatedAtUnixNanos ++
    u64ToLeBytes update.slot

def SlotUpdate.encodePartsAt (update : SlotUpdate) (senderCreatedAtUnixNanos : UInt64) :
    Outcome (Bytes × Bytes) :=
  .ok (update.header senderCreatedAtUnixNanos, [])

structure DecodedSlotUpdate where
  senderCreatedAtUnixNanos : UInt64
  slot : UInt64

def DecodedSlotUpdate.parse (bytes : Bytes) : Outcome DecodedSlotUpdate := do
  if bytes.length < slotUpdateFixedBytes then
    fail (.malformedPayload "slot update frame shorter than fixed header")
  else
    ensureWire (← indexByte bytes 0) (← indexByte bytes 1) slotUpdateTag
    let (senderCreatedAtUnixNanos, cursor) ← takeU64Le bytes 2
    let (slot, cursor) ← takeU64Le bytes cursor
    if bytes.length ≠ cursor then
      fail (.malformedPayload "slot update payload size mismatch")
    else return { senderCreatedAtUnixNanos, slot }

def SlotUpdate.decodeWithMeta (bytes : Bytes) : Outcome (SlotUpdate × AccountUpdateWireMeta) := do
  let decoded ← DecodedSlotUpdate.parse bytes
  return ({ slot := decoded.slot },
    { senderCreatedAtUnixNanos := decoded.senderCreatedAtUnixNanos })

def SlotUpdate.decode (bytes : Bytes) : Outcome SlotUpdate :=
  Prod.fst <$> SlotUpdate.decodeWithMeta bytes

def SlotUpdate.decodeOwnedWithMeta (bytes : Bytes) :
    Outcome (SlotUpdate × AccountUpdateWireMeta) :=
  SlotUpdate.decodeWithMeta bytes

def SlotUpdate.decodeOwned (bytes : Bytes) : Outcome SlotUpdate :=
  Prod.fst <$> SlotUpdate.decodeOwnedWithMeta bytes

/-! Transaction updates. -/

def TransactionUpdate.header (update : TransactionUpdate) (senderCreatedAtUnixNanos : UInt64)
    (payloadLen : UInt32) : Bytes :=
  [wireVersion] ++ [transactionUpdateTag] ++ u64ToLeBytes senderCreatedAtUnixNanos ++
    u64ToLeBytes update.slot ++ u32ToLeBytes update.index ++ [byteOfBool update.isVote] ++
    update.signature.bytes ++ u32ToLeBytes payloadLen

def TransactionUpdate.encodePartsAt (update : TransactionUpdate)
    (senderCreatedAtUnixNanos : UInt64) : Outcome (Bytes × Bytes) := do
  let payload := update.payload.bytes
  if maxTransactionPayloadBytes < payload.length then
    fail (.payloadTooLarge payload.length maxTransactionPayloadBytes)
  else
    let payloadLen ← tryIntoU32 payload.length
      (.payloadTooLarge payload.length maxTransactionPayloadBytes)
    return (update.header senderCreatedAtUnixNanos payloadLen, payload)

structure DecodedTransactionUpdate where
  senderCreatedAtUnixNanos : UInt64
  slot : UInt64
  index : UInt32
  isVote : Bool
  signature : FixedBytes 64
  payloadOffset : Nat
  payloadLen : Nat

def DecodedTransactionUpdate.parse (bytes : Bytes) : Outcome DecodedTransactionUpdate := do
  if bytes.length < transactionUpdateFixedBytes then
    fail (.malformedPayload "transaction update frame shorter than fixed header")
  else
    ensureWire (← indexByte bytes 0) (← indexByte bytes 1) transactionUpdateTag
    let (senderCreatedAtUnixNanos, cursor) ← takeU64Le bytes 2
    let (slot, cursor) ← takeU64Le bytes cursor
    let (index, cursor) ← takeU32Le bytes cursor
    let (voteByte, cursor) ← takeU8 bytes cursor
    let isVote ← flagOf voteByte "transaction update vote flag must be 0 or 1"
    let (signature, cursor) ← takeArray64 bytes cursor
    let (len, cursor) ← takeU32Le bytes cursor
    let payloadLen := len.toNat
    if maxTransactionPayloadBytes < payloadLen then
      fail (.payloadTooLarge payloadLen maxTransactionPayloadBytes)
    else if bytes.length ≠ cursor + payloadLen then
      fail (.malformedPayload "transaction update payload size mismatch")
    else
      return {
        senderCreatedAtUnixNanos, slot, index, isVote, signature
        payloadOffset := cursor
        payloadLen
      }

def TransactionUpdate.fromDecoded (decoded : DecodedTransactionUpdate) (payload : Bytes) :
    Outcome (TransactionUpdate × AccountUpdateWireMeta) := do
  let payload ← TransactionPayload.new payload
  return ({
      slot := decoded.slot
      index := decoded.index
      signature := decoded.signature
      isVote := decoded.isVote
      payload
    }, { senderCreatedAtUnixNanos := decoded.senderCreatedAtUnixNanos })

def TransactionUpdate.decodeWithMeta (bytes : Bytes) :
    Outcome (TransactionUpdate × AccountUpdateWireMeta) := do
  let decoded ← DecodedTransactionUpdate.parse bytes
  let payload ← indexRange bytes decoded.payloadOffset (decoded.payloadOffset + decoded.payloadLen)
  TransactionUpdate.fromDecoded decoded payload

def TransactionUpdate.decode (bytes : Bytes) : Outcome TransactionUpdate :=
  Prod.fst <$> TransactionUpdate.decodeWithMeta bytes

def TransactionUpdate.decodeOwnedWithMeta (bytes : Bytes) :
    Outcome (TransactionUpdate × AccountUpdateWireMeta) := do
  let decoded ← DecodedTransactionUpdate.parse bytes
  let payload ← bytesSlice bytes decoded.payloadOffset (decoded.payloadOffset + decoded.payloadLen)
  TransactionUpdate.fromDecoded decoded payload

def TransactionUpdate.decodeOwned (bytes : Bytes) : Outcome TransactionUpdate :=
  Prod.fst <$> TransactionUpdate.decodeOwnedWithMeta bytes

/-! The routers of the sender-to-client direction. -/

def wireTag (bytes : Bytes) : Outcome UInt8 :=
  match bytes[1]? with
  | some tag => .ok tag
  | none => fail (.malformedPayload "frame too short for wire tag")

def decodeServerFrame (codecs : Codecs) (bytes : Bytes) : Outcome ServerFrame := do
  let tag ← wireTag bytes
  if tag = updateTag then .accountUpdate <$> AccountUpdate.decode codecs.lz4 bytes
  else if tag = transactionUpdateTag then .transactionUpdate <$> TransactionUpdate.decode bytes
  else if tag = slotUpdateTag then .slotUpdate <$> SlotUpdate.decode bytes
  else if tag = readyTag then .connectionReady <$> ConnectionReady.decode codecs.wincode bytes
  else if tag = readyShmTag then
    .connectionReadyShm <$> ConnectionReadyShm.decode codecs.wincode bytes
  else fail (.invalidMessageTag tag updateTag)

def decodeServerFrameOwned (codecs : Codecs) (bytes : Bytes) : Outcome ServerFrame := do
  let tag ← wireTag bytes
  if tag = updateTag then .accountUpdate <$> AccountUpdate.decodeOwned codecs.lz4 bytes
  else if tag = transactionUpdateTag then .transactionUpdate <$> TransactionUpdate.decodeOwned bytes
  else if tag = slotUpdateTag then .slotUpdate <$> SlotUpdate.decodeOwned bytes
  else if tag = readyTag then .connectionReady <$> ConnectionReady.decode codecs.wincode bytes
  else if tag = readyShmTag then
    .connectionReadyShm <$> ConnectionReadyShm.decode codecs.wincode bytes
  else fail (.invalidMessageTag tag updateTag)

def decodeServerFrameOwnedWithMeta (codecs : Codecs) (bytes : Bytes) :
    Outcome ServerFrameWithMeta := do
  let tag ← wireTag bytes
  if tag = updateTag then
    let (update, info) ← AccountUpdate.decodeOwnedWithMeta codecs.lz4 bytes
    return .accountUpdate update info
  else if tag = transactionUpdateTag then
    let (update, info) ← TransactionUpdate.decodeOwnedWithMeta bytes
    return .transactionUpdate update info
  else if tag = slotUpdateTag then
    let (update, info) ← SlotUpdate.decodeOwnedWithMeta bytes
    return .slotUpdate update info
  else if tag = readyTag then .connectionReady <$> ConnectionReady.decode codecs.wincode bytes
  else if tag = readyShmTag then
    .connectionReadyShm <$> ConnectionReadyShm.decode codecs.wincode bytes
  else fail (.invalidMessageTag tag updateTag)

end Qlaster
