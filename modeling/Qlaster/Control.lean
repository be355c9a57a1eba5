import Qlaster.ControlCore
import Qlaster.PrefixCode
import Qlaster.Routing

/-!
Control frames round-trip on the values that carry a token, and a frame of one direction
is refused by the router of the other.
-/

namespace Qlaster

open LittleEndian

/-- A wire struct within the limits is written; what is written has version and tag in front, and is
read back. -/
structure WrittenAndRead {α : Type} (serialize : α → Except String Bytes)
    (deserialize : Bytes → Except String α) (version tag : α → UInt8) (within : α → Prop) :
    Prop where
  written : ∀ wire, within wire → ∃ bytes, serialize wire = .ok bytes
  read : ∀ wire bytes, serialize wire = .ok bytes →
    ∃ rest, bytes = version wire :: tag wire :: rest ∧ deserialize bytes = .ok wire

/-- What `wincode` allocates for one sequence at most; it refuses to write a longer one. -/
def preallocationSizeLimit : Nat := 4 * 1024 * 1024

def WireSubscriptionRequest.Within (wire : WireSubscriptionRequest) : Prop :=
  32 * wire.accountPubkeys.length ≤ preallocationSizeLimit ∧
    32 * wire.accountOwners.length ≤ preallocationSizeLimit

def WireConnectionReadyShm.Within (wire : WireConnectionReadyShm) : Prop :=
  (PrefixCode.utf8 wire.ringPath).length ≤ preallocationSizeLimit

/-- What is assumed of `wincode`. -/
structure WincodeFormat.Lawful (wincode : WincodeFormat) : Prop where
  subscription : WrittenAndRead wincode.serializeSubscriptionRequest
    wincode.deserializeSubscriptionRequest (·.wireVersion) (·.messageTag)
      WireSubscriptionRequest.Within
  ping : WrittenAndRead wincode.serializePingRequest wincode.deserializePingRequest
    (·.wireVersion) (·.messageTag) fun _ => True
  ready : WrittenAndRead wincode.serializeConnectionReady wincode.deserializeConnectionReady
    (·.wireVersion) (·.messageTag) fun _ => True
  readyShm : WrittenAndRead wincode.serializeConnectionReadyShm
    wincode.deserializeConnectionReadyShm (·.wireVersion) (·.messageTag)
      WireConnectionReadyShm.Within

/-- Every wire struct is written, however long its sequences are. -/
structure WincodeFormat.Total (wincode : WincodeFormat) : Prop where
  subscription : ∀ wire, ∃ bytes, wincode.serializeSubscriptionRequest wire = .ok bytes
  readyShm : ∀ wire, ∃ bytes, wincode.serializeConnectionReadyShm wire = .ok bytes

theorem serializeWire_ok {result : Except String Bytes} {bytes : Bytes}
    (written : serializeWire result = .ok bytes) : result = .ok bytes := by
  cases result with
  | error text => simp [serializeWire] at written
  | ok found => exact congrArg Except.ok (Except.ok.inj written)

theorem serializeWire_some {result : Except String Bytes} (written : ∃ bytes, result = .ok bytes) :
    ∃ bytes, serializeWire result = .ok bytes := by
  obtain ⟨bytes, rfl⟩ := written
  exact ⟨bytes, rfl⟩

theorem ensureWire_own (tag : UInt8) : ensureWire wireVersion tag tag = .ok () := by
  simp [ensureWire]

section
variable {wincode : WincodeFormat} (lawful : wincode.Lawful)
include lawful

theorem SubscriptionRequest.encode_routed {request : SubscriptionRequest} {bytes : Bytes}
    (encoded : request.encode wincode = .ok bytes) :
    ∃ rest, bytes = wireVersion :: requestSubscribeTag :: rest ∧
      decodeClientFrame wincode bytes = .ok (.subscription (request.withSlotToken
        (request.slotToken.filter fun token => token.slotIndex ≠ unsetSlotIndex))) := by
  obtain ⟨rest, rfl, read⟩ := lawful.subscription.read request.wire bytes (serializeWire_ok encoded)
  have frame : request.wire.wireVersion :: request.wire.messageTag :: rest =
    wireVersion :: requestSubscribeTag :: rest := rfl
  rw [frame] at read ⊢
  refine ⟨rest, rfl, ?_⟩
  have decoded : SubscriptionRequest.decode wincode (wireVersion :: requestSubscribeTag :: rest) =
      .ok (request.withSlotToken
        (request.slotToken.filter fun token => token.slotIndex ≠ unsetSlotIndex)) := by
    rw [SubscriptionRequest.decode, read]
    obtain ⟨token, pubkeys, owners, transactions⟩ := request
    cases token with
    | none => rfl
    | some token => simp [deserializeWire, ensureWire_own, SubscriptionRequest.wire,
        SubscriptionRequest.withSlotToken, Option.filter]
  simp [decodeClientFrame, wireTag, decoded]

theorem PingRequest.encode_routed {request : PingRequest} {bytes : Bytes}
    (encoded : request.encode wincode = .ok bytes) :
    ∃ rest, bytes = wireVersion :: requestPingTag :: rest ∧
      decodeClientFrame wincode bytes =
        if request.slotToken.slotIndex = unsetSlotIndex then
          fail (.malformedPayload "ping request missing slot token")
        else .ok (.ping request) := by
  obtain ⟨rest, rfl, read⟩ := lawful.ping.read request.wire bytes (serializeWire_ok encoded)
  have frame : request.wire.wireVersion :: request.wire.messageTag :: rest =
    wireVersion :: requestPingTag :: rest := rfl
  rw [frame] at read ⊢
  refine ⟨rest, rfl, ?_⟩
  have tags : requestPingTag ≠ requestSubscribeTag := by decide
  simp only [decodeClientFrame, wireTag, List.getElem?_cons_succ, List.getElem?_cons_zero, ok_bind,
    if_neg tags, if_true, PingRequest.decode, read, deserializeWire, PingRequest.wire,
      ensureWire_own]
  split <;> rfl

theorem ConnectionReady.encode_routed (lz4 : Lz4) {ready : ConnectionReady} {bytes : Bytes}
    (encoded : ready.encode wincode = .ok bytes) :
    ∃ rest, bytes = wireVersion :: readyTag :: rest ∧
      decodeServerFrame ⟨lz4, wincode.toWincode⟩ bytes =
        if ready.slotToken.slotIndex = unsetSlotIndex then
          fail (.malformedPayload "connection ready missing slot token")
        else .ok (.connectionReady ready) := by
  obtain ⟨rest, rfl, read⟩ := lawful.ready.read ready.wire bytes (serializeWire_ok encoded)
  have frame : ready.wire.wireVersion :: ready.wire.messageTag :: rest =
    wireVersion :: readyTag :: rest := rfl
  rw [frame] at read ⊢
  refine ⟨rest, rfl, ?_⟩
  have routed : decodeServerFrame ⟨lz4, wincode.toWincode⟩ (wireVersion :: readyTag :: rest) =
      .connectionReady <$> ConnectionReady.decode wincode.toWincode
        (wireVersion :: readyTag :: rest) := rfl
  simp only [routed, ConnectionReady.decode, read, deserializeWire, ConnectionReady.wire,
    ensureWire_own, ok_bind]
  split <;> rfl

theorem ConnectionReadyShm.encode_routed (lz4 : Lz4) {ready : ConnectionReadyShm} {bytes : Bytes}
    (encoded : ready.encode wincode = .ok bytes) :
    ∃ rest, bytes = wireVersion :: readyShmTag :: rest ∧
      decodeServerFrame ⟨lz4, wincode.toWincode⟩ bytes =
        if ready.slotToken.slotIndex = unsetSlotIndex then
          fail (.malformedPayload "connection ready shm missing slot token")
        else if ready.ringPath.isEmpty then
          fail (.malformedPayload "connection ready shm missing ring path")
        else if ready.ringCapacity = 0 then
          fail (.malformedPayload "connection ready shm has zero ring capacity")
        else .ok (.connectionReadyShm ready) := by
  obtain ⟨rest, rfl, read⟩ := lawful.readyShm.read ready.wire bytes (serializeWire_ok encoded)
  have frame : ready.wire.wireVersion :: ready.wire.messageTag :: rest =
    wireVersion :: readyShmTag :: rest := rfl
  rw [frame] at read ⊢
  refine ⟨rest, rfl, ?_⟩
  have routed : decodeServerFrame ⟨lz4, wincode.toWincode⟩ (wireVersion :: readyShmTag :: rest) =
      .connectionReadyShm <$>
        ConnectionReadyShm.decode wincode.toWincode (wireVersion :: readyShmTag :: rest) := rfl
  simp only [routed, ConnectionReadyShm.decode, read, deserializeWire, ConnectionReadyShm.wire,
    ensureWire_own, ok_bind]
  repeat' split
  all_goals rfl

/-! What is short enough is encoded. -/

theorem SubscriptionRequest.encodes {request : SubscriptionRequest} (within : request.wire.Within) :
    ∃ bytes, request.encode wincode = .ok bytes :=
  serializeWire_some (lawful.subscription.written _ within)

theorem PingRequest.encodes (request : PingRequest) : ∃ bytes, request.encode wincode = .ok bytes :=
  serializeWire_some (lawful.ping.written _ trivial)

theorem ConnectionReady.encodes (ready : ConnectionReady) :
    ∃ bytes, ready.encode wincode = .ok bytes :=
  serializeWire_some (lawful.ready.written _ trivial)

theorem ConnectionReadyShm.encodes {ready : ConnectionReadyShm} (within : ready.wire.Within) :
    ∃ bytes, ready.encode wincode = .ok bytes :=
  serializeWire_some (lawful.readyShm.written _ within)

end

/-! The other direction. -/

def ClientRejects (wincode : WincodeFormat) (tag : UInt8) (bytes : Bytes) : Prop :=
  decodeClientFrame wincode bytes = fail (.invalidMessageTag tag requestSubscribeTag)

structure ServerRejects (codecs : Codecs) (tag : UInt8) (bytes : Bytes) : Prop where
  borrowed : decodeServerFrame codecs bytes = fail (.invalidMessageTag tag updateTag)
  owned : decodeServerFrameOwned codecs bytes = fail (.invalidMessageTag tag updateTag)
  withMeta : decodeServerFrameOwnedWithMeta codecs bytes = fail (.invalidMessageTag tag updateTag)

theorem clientRejects (wincode : WincodeFormat) {version tag : UInt8} (rest : Bytes)
    (foreign : tag ∉ [requestSubscribeTag, requestPingTag]) :
    ClientRejects wincode tag (version :: tag :: rest) := by
  simp only [List.mem_cons, List.not_mem_nil, or_false, not_or] at foreign
  simp [ClientRejects, decodeClientFrame, wireTag, foreign]

theorem serverRejects (codecs : Codecs) {version tag : UInt8} (rest : Bytes)
    (foreign : tag ∉ [updateTag, transactionUpdateTag, slotUpdateTag, readyTag, readyShmTag]) :
    ServerRejects codecs tag (version :: tag :: rest) := by
  simp only [List.mem_cons, List.not_mem_nil, or_false, not_or] at foreign
  refine ⟨?_, ?_, ?_⟩
  · simp [decodeServerFrame, wireTag, foreign]
  · simp [decodeServerFrameOwned, wireTag, foreign]
  · simp [decodeServerFrameOwnedWithMeta, wireTag, foreign]

/-- What becomes of the encodings of the seven kinds of message. -/
structure ControlFramesExact (lz4 : Lz4) (wincode : WincodeFormat) : Prop where
  subscription : ∀ request : SubscriptionRequest, ∃ bytes, request.encode wincode = .ok bytes ∧
    (decodeClientFrame wincode bytes = .ok (.subscription request) ↔
      ∀ token, request.slotToken = some token → token.slotIndex ≠ unsetSlotIndex) ∧
    ((∃ token, request.slotToken = some token ∧ token.slotIndex = unsetSlotIndex) →
      decodeClientFrame wincode bytes = .ok (.subscription (request.withSlotToken none))) ∧
    ServerRejects ⟨lz4, wincode.toWincode⟩ requestSubscribeTag bytes
  ping : ∀ request : PingRequest, ∃ bytes, request.encode wincode = .ok bytes ∧
    (decodeClientFrame wincode bytes = .ok (.ping request) ↔
      request.slotToken.slotIndex ≠ unsetSlotIndex) ∧
    ServerRejects ⟨lz4, wincode.toWincode⟩ requestPingTag bytes
  ready : ∀ message : ConnectionReady, ∃ bytes, message.encode wincode = .ok bytes ∧
    (decodeServerFrame ⟨lz4, wincode.toWincode⟩ bytes = .ok (.connectionReady message) ↔
      message.slotToken.slotIndex ≠ unsetSlotIndex) ∧
    (message.slotToken.slotIndex = unsetSlotIndex →
      ∃ error, decodeServerFrame ⟨lz4, wincode.toWincode⟩ bytes = fail error) ∧
    ClientRejects wincode readyTag bytes
  readyShm : ∀ message : ConnectionReadyShm, ∃ bytes, message.encode wincode = .ok bytes ∧
    (decodeServerFrame ⟨lz4, wincode.toWincode⟩ bytes = .ok (.connectionReadyShm message) ↔
      message.slotToken.slotIndex ≠ unsetSlotIndex ∧ message.ringPath ≠ "" ∧
        message.ringCapacity ≠ 0) ∧
    (¬ (message.slotToken.slotIndex ≠ unsetSlotIndex ∧ message.ringPath ≠ "" ∧
      message.ringCapacity ≠ 0) →
      ∃ error, decodeServerFrame ⟨lz4, wincode.toWincode⟩ bytes = fail error) ∧
    ClientRejects wincode readyShmTag bytes
  accountUpdate : ∀ update nanos bytes, IsEncoding (AccountUpdate.encodePartsAt lz4) update
    nanos bytes → ClientRejects wincode updateTag bytes
  transactionUpdate : ∀ update nanos bytes, IsEncoding TransactionUpdate.encodePartsAt update
    nanos bytes → ClientRejects wincode transactionUpdateTag bytes
  slotUpdate : ∀ update nanos bytes, IsEncoding SlotUpdate.encodePartsAt update nanos bytes →
    ClientRejects wincode slotUpdateTag bytes

theorem withSlotToken_filter_iff (request : SubscriptionRequest) :
    request.withSlotToken (request.slotToken.filter fun token => token.slotIndex ≠ unsetSlotIndex) =
      request ↔ ∀ token, request.slotToken = some token → token.slotIndex ≠ unsetSlotIndex := by
  obtain ⟨token, pubkeys, owners, transactions⟩ := request
  simp only [SubscriptionRequest.withSlotToken, SubscriptionRequest.mk.injEq, and_self, and_true]
  cases token with
  | none => simp
  | some token => simp [Option.filter]

theorem encodings_rejected (lz4 : Lz4) (wincode : WincodeFormat) :
    (∀ update nanos bytes, IsEncoding (AccountUpdate.encodePartsAt lz4) update nanos bytes →
        ClientRejects wincode updateTag bytes) ∧
      (∀ update nanos bytes, IsEncoding TransactionUpdate.encodePartsAt update nanos bytes →
        ClientRejects wincode transactionUpdateTag bytes) ∧
      ∀ update nanos bytes, IsEncoding SlotUpdate.encodePartsAt update nanos bytes →
        ClientRejects wincode slotUpdateTag bytes := by
  refine ⟨?_, ?_, ?_⟩
  · rintro update nanos _ ⟨header, payload, encoded, rfl⟩
    rw [AccountUpdate.encodePartsAt_eq] at encoded
    obtain ⟨rfl, rfl⟩ := Prod.mk.inj (Except.ok.inj encoded)
    exact clientRejects wincode _ (by decide)
  · rintro update nanos _ ⟨header, payload, encoded, rfl⟩
    rw [TransactionUpdate.encodePartsAt_eq] at encoded
    obtain ⟨rfl, rfl⟩ := Prod.mk.inj (Except.ok.inj encoded)
    exact clientRejects wincode _ (by decide)
  · rintro update nanos _ ⟨header, payload, encoded, rfl⟩
    obtain ⟨rfl, rfl⟩ := Prod.mk.inj (Except.ok.inj encoded)
    exact clientRejects wincode _ (by decide)

/--
Control frames arrive exactly when they carry a token (and a ring to open), and none of
the seven kinds of message passes the router of the other direction.
-/
theorem controlFrames_exact (lz4 : Lz4) (wincode : WincodeFormat) (lawful : wincode.Lawful)
    (total : wincode.Total) : ControlFramesExact lz4 wincode := by
  obtain ⟨account, transaction, slot⟩ := encodings_rejected lz4 wincode
  refine ⟨?_, ?_, ?_, ?_, account, transaction, slot⟩
  · intro request
    obtain ⟨bytes, encoded⟩ := serializeWire_some (total.subscription request.wire)
    obtain ⟨rest, rfl, decoded⟩ := SubscriptionRequest.encode_routed lawful encoded
    refine ⟨_, encoded, ?_, ?_, serverRejects _ rest (by decide)⟩
    · rw [decoded, Except.ok.injEq, ClientFrame.subscription.injEq]
      exact withSlotToken_filter_iff request
    · rintro ⟨token, carried, unset⟩
      rw [decoded, carried]
      simp [Option.filter, unset]
  · intro request
    obtain ⟨bytes, encoded⟩ := request.encodes lawful
    obtain ⟨rest, rfl, decoded⟩ := PingRequest.encode_routed lawful encoded
    refine ⟨_, encoded, ?_, serverRejects _ rest (by decide)⟩
    rw [decoded]
    split
    · simp_all [fail]
    · simp_all
  · intro message
    obtain ⟨bytes, encoded⟩ := message.encodes lawful
    obtain ⟨rest, rfl, decoded⟩ := ConnectionReady.encode_routed lawful lz4 encoded
    refine ⟨_, encoded, ?_, ?_, clientRejects wincode rest (by decide)⟩
    · rw [decoded]
      split
      · simp_all [fail]
      · simp_all
    · intro unset
      exact ⟨_, by rw [decoded, if_pos unset]⟩
  · intro message
    obtain ⟨bytes, encoded⟩ := serializeWire_some (total.readyShm message.wire)
    obtain ⟨rest, rfl, decoded⟩ := ConnectionReadyShm.encode_routed lawful lz4 encoded
    have admissible : message.ringPath.isEmpty = true ↔ message.ringPath = "" := String.isEmpty_iff
    refine ⟨_, encoded, ?_, ?_, clientRejects wincode rest (by decide)⟩
    · rw [decoded]
      repeat' split
      all_goals simp_all [fail]
    · intro lacking
      rw [decoded]
      repeat' split
      · exact ⟨_, rfl⟩
      · exact ⟨_, rfl⟩
      · exact ⟨_, rfl⟩
      · simp_all

/-! `wincode`'s default format. -/

def fixedBytesCode (size : Nat) : PrefixCode (FixedBytes size) :=
  (PrefixCode.block size).imap (fun block => ⟨block.val, block.property⟩)
    (fun value => ⟨value.bytes, value.length_eq⟩) fun _ => rfl

open PrefixCode in
def tokenCode : PrefixCode (UInt8 × UInt8 × UInt8 × UInt64) := byte.pair (byte.pair (byte.pair u64))

open PrefixCode in
def subscriptionCode : PrefixCode WireSubscriptionRequest :=
  (tokenCode.pair ((fixedBytesCode 32).list.pair ((fixedBytesCode 32).list.pair bool))).imap
    (fun ((version, tag, index, generation), pubkeys, owners, transactions) =>
      ⟨version, tag, index, generation, pubkeys, owners, transactions⟩)
    (fun wire => ((wire.wireVersion, wire.messageTag, wire.slotIndex, wire.slotGeneration),
      wire.accountPubkeys, wire.accountOwners, wire.includeTransactions))
    fun _ => rfl

def pingCode : PrefixCode WirePingRequest :=
  tokenCode.imap (fun (version, tag, index, generation) => ⟨version, tag, index, generation⟩)
    (fun wire => (wire.wireVersion, wire.messageTag, wire.slotIndex, wire.slotGeneration)) fun _ =>
      rfl

def readyCode : PrefixCode WireConnectionReady :=
  tokenCode.imap (fun (version, tag, index, generation) => ⟨version, tag, index, generation⟩)
    (fun wire => (wire.wireVersion, wire.messageTag, wire.slotIndex, wire.slotGeneration)) fun _ =>
      rfl

open PrefixCode in
def readyShmCode : PrefixCode WireConnectionReadyShm :=
  (tokenCode.pair (string.pair u64)).imap
    (fun ((version, tag, index, generation), path, capacity) =>
      ⟨version, tag, index, generation, path, capacity⟩)
    (fun wire => ((wire.wireVersion, wire.messageTag, wire.slotIndex, wire.slotGeneration),
      wire.ringPath, wire.ringCapacity))
    fun _ => rfl

/-- `wincode::deserialize` reads one value and does not look at what follows it. -/
def deserializeCode {α : Type} (code : PrefixCode α) (bytes : Bytes) : Except String α :=
  match code.read bytes with
  | some (value, _) => .ok value
  | none => .error "invalid encoding"

def defaultWincode : WincodeFormat where
  serializeSubscriptionRequest wire := .ok (subscriptionCode.write wire)
  serializePingRequest wire := .ok (pingCode.write wire)
  serializeConnectionReady wire := .ok (readyCode.write wire)
  serializeConnectionReadyShm wire := .ok (readyShmCode.write wire)
  deserializeSubscriptionRequest := deserializeCode subscriptionCode
  deserializePingRequest := deserializeCode pingCode
  deserializeConnectionReady := deserializeCode readyCode
  deserializeConnectionReadyShm := deserializeCode readyShmCode

theorem deserializeCode_write {α : Type} (code : PrefixCode α) (value : α) :
    deserializeCode code (code.write value) = .ok value := by
  have read := code.read_write value []
  rw [List.append_nil] at read
  simp [deserializeCode, read]

theorem code_writtenAndRead {α : Type} (code : PrefixCode α) {version tag : α → UInt8}
    {within : α → Prop}
    (front : ∀ wire, ∃ rest, code.write wire = version wire :: tag wire :: rest) :
    WrittenAndRead (fun wire => .ok (code.write wire)) (deserializeCode code) version
      tag within where
  written wire _ := ⟨code.write wire, rfl⟩
  read wire bytes written := by
    obtain rfl := Except.ok.inj written
    obtain ⟨rest, same⟩ := front wire
    exact ⟨rest, same, deserializeCode_write code wire⟩

theorem defaultWincode_lawful : defaultWincode.Lawful where
  subscription := code_writtenAndRead subscriptionCode fun _ => ⟨_, rfl⟩
  ping := code_writtenAndRead pingCode fun _ => ⟨_, rfl⟩
  ready := code_writtenAndRead readyCode fun _ => ⟨_, rfl⟩
  readyShm := code_writtenAndRead readyShmCode fun _ => ⟨_, rfl⟩

theorem defaultWincode_total : defaultWincode.Total := ⟨fun _ => ⟨_, rfl⟩, fun _ => ⟨_, rfl⟩⟩

theorem controlFrames_exact_default :
    defaultWincode.Lawful ∧ defaultWincode.Total ∧ ControlFramesExact literalLz4 defaultWincode :=
  ⟨defaultWincode_lawful, defaultWincode_total,
    controlFrames_exact literalLz4 defaultWincode defaultWincode_lawful defaultWincode_total⟩

end Qlaster
