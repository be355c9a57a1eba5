import Qlaster.TypesCore

/-!
The control messages of `types.rs`, which both sides write and read through `wincode`,
and the router of the client-to-sender direction.
-/

namespace Qlaster

inductive ClientFrame
  | subscription (request : SubscriptionRequest)
  | ping (request : PingRequest)
  deriving DecidableEq, Repr

structure WireSubscriptionRequest where
  wireVersion : UInt8
  messageTag : UInt8
  slotIndex : UInt8
  slotGeneration : UInt64
  accountPubkeys : List (FixedBytes 32)
  accountOwners : List (FixedBytes 32)
  includeTransactions : Bool

structure WirePingRequest where
  wireVersion : UInt8
  messageTag : UInt8
  slotIndex : UInt8
  slotGeneration : UInt64

/-- `wincode::serialize` and `wincode::deserialize` at the four wire structs. -/
structure WincodeFormat extends Wincode where
  serializeSubscriptionRequest : WireSubscriptionRequest → Except String Bytes
  serializePingRequest : WirePingRequest → Except String Bytes
  serializeConnectionReady : WireConnectionReady → Except String Bytes
  serializeConnectionReadyShm : WireConnectionReadyShm → Except String Bytes
  deserializeSubscriptionRequest : Bytes → Except String WireSubscriptionRequest
  deserializePingRequest : Bytes → Except String WirePingRequest

/-- The `serialize_wire!` macro, which expects an `Ok`. -/
def serializeWire (result : Except String Bytes) : Outcome Bytes :=
  match result with
  | .ok bytes => .ok bytes
  | .error _ => .error .panic

/-! From client to sender. -/

def SubscriptionRequest.new (accountPubkeys accountOwners : List Pubkey) : SubscriptionRequest where
  slotToken := none
  accountPubkeys := accountPubkeys
  accountOwners := accountOwners
  includeTransactions := false

def SubscriptionRequest.transactions : SubscriptionRequest where
  slotToken := none
  accountPubkeys := []
  accountOwners := []
  includeTransactions := true

def SubscriptionRequest.withSlotToken (request : SubscriptionRequest)
    (slotToken : Option SlotToken) : SubscriptionRequest :=
  { request with slotToken }

/-- The wire struct `encode` fills in: an absent token is written as the unset index. -/
def SubscriptionRequest.wire (request : SubscriptionRequest) : WireSubscriptionRequest where
  wireVersion := Qlaster.wireVersion
  messageTag := requestSubscribeTag
  slotIndex := ((request.slotToken.map fun token => (token.slotIndex, token.generation)).getD
    (unsetSlotIndex, 0)).1
  slotGeneration := ((request.slotToken.map fun token => (token.slotIndex, token.generation)).getD
    (unsetSlotIndex, 0)).2
  accountPubkeys := request.accountPubkeys
  accountOwners := request.accountOwners
  includeTransactions := request.includeTransactions

def SubscriptionRequest.encode (wincode : WincodeFormat) (request : SubscriptionRequest) :
    Outcome Bytes :=
  serializeWire (wincode.serializeSubscriptionRequest request.wire)

def SubscriptionRequest.decode (wincode : WincodeFormat) (bytes : Bytes) :
    Outcome SubscriptionRequest := do
  let wire ← deserializeWire (wincode.deserializeSubscriptionRequest bytes) "subscription request"
  ensureWire wire.wireVersion wire.messageTag requestSubscribeTag
  return {
    slotToken := if wire.slotIndex ≠ unsetSlotIndex then some ⟨wire.slotIndex, wire.slotGeneration⟩
      else none
    accountPubkeys := wire.accountPubkeys
    accountOwners := wire.accountOwners
    includeTransactions := wire.includeTransactions
  }

def PingRequest.wire (request : PingRequest) : WirePingRequest where
  wireVersion := Qlaster.wireVersion
  messageTag := requestPingTag
  slotIndex := request.slotToken.slotIndex
  slotGeneration := request.slotToken.generation

def PingRequest.encode (wincode : WincodeFormat) (request : PingRequest) : Outcome Bytes :=
  serializeWire (wincode.serializePingRequest request.wire)

def PingRequest.decode (wincode : WincodeFormat) (bytes : Bytes) : Outcome PingRequest := do
  let wire ← deserializeWire (wincode.deserializePingRequest bytes) "ping request"
  ensureWire wire.wireVersion wire.messageTag requestPingTag
  if wire.slotIndex = unsetSlotIndex then
    fail (.malformedPayload "ping request missing slot token")
  else return { slotToken := ⟨wire.slotIndex, wire.slotGeneration⟩ }

def decodeClientFrame (wincode : WincodeFormat) (bytes : Bytes) : Outcome ClientFrame := do
  let tag ← wireTag bytes
  if tag = requestSubscribeTag then .subscription <$> SubscriptionRequest.decode wincode bytes
  else if tag = requestPingTag then .ping <$> PingRequest.decode wincode bytes
  else fail (.invalidMessageTag tag requestSubscribeTag)

/-! From sender to client. -/

def ConnectionReady.wire (ready : ConnectionReady) : WireConnectionReady where
  wireVersion := Qlaster.wireVersion
  messageTag := readyTag
  slotIndex := ready.slotToken.slotIndex
  slotGeneration := ready.slotToken.generation

def ConnectionReady.encode (wincode : WincodeFormat) (ready : ConnectionReady) : Outcome Bytes :=
  serializeWire (wincode.serializeConnectionReady ready.wire)

def ConnectionReadyShm.wire (ready : ConnectionReadyShm) : WireConnectionReadyShm where
  wireVersion := Qlaster.wireVersion
  messageTag := readyShmTag
  slotIndex := ready.slotToken.slotIndex
  slotGeneration := ready.slotToken.generation
  ringPath := ready.ringPath
  ringCapacity := ready.ringCapacity

def ConnectionReadyShm.encode (wincode : WincodeFormat) (ready : ConnectionReadyShm) :
    Outcome Bytes :=
  serializeWire (wincode.serializeConnectionReadyShm ready.wire)

end Qlaster
