import Qlaster.Decoding

/-!
Transaction and slot updates, whose frames are exactly their encodings, and the three
routers, which are one decoder up to the meta.
-/

namespace Qlaster

open LittleEndian

/-! Transaction updates. -/

def DecodedTransactionUpdate.withPayload (decoded : DecodedTransactionUpdate)
    (payload : TransactionPayload) : TransactionUpdate where
  slot := decoded.slot
  index := decoded.index
  signature := decoded.signature
  isVote := decoded.isVote
  payload := payload

structure DecodedTransactionUpdate.ParsedFrom (decoded : DecodedTransactionUpdate) (bytes : Bytes)
    (len : UInt32) : Prop where
  frame : ∀ payload, bytes = (decoded.withPayload payload).header decoded.senderCreatedAtUnixNanos
    len ++ bytes.drop transactionUpdateFixedBytes
  offset : decoded.payloadOffset = transactionUpdateFixedBytes
  counted : decoded.payloadLen = len.toNat
  length : bytes.length = transactionUpdateFixedBytes + len.toNat

theorem DecodedTransactionUpdate.parse_ok {bytes : Bytes} {decoded : DecodedTransactionUpdate}
    (parsed : DecodedTransactionUpdate.parse bytes = .ok decoded) :
    ∃ len, decoded.ParsedFrom bytes len := by
  unfold DecodedTransactionUpdate.parse at parsed
  split at parsed
  · simp [fail] at parsed
  obtain ⟨version, first, parsed⟩ := bind_ok parsed
  obtain ⟨tag, second, parsed⟩ := bind_ok parsed
  obtain ⟨_, ensured, parsed⟩ := bind_ok parsed
  obtain ⟨⟨nanos, afterNanos⟩, takenNanos, parsed⟩ := bind_ok parsed
  obtain ⟨⟨slot, afterSlot⟩, takenSlot, parsed⟩ := bind_ok parsed
  obtain ⟨⟨index, afterIndex⟩, takenIndex, parsed⟩ := bind_ok parsed
  obtain ⟨⟨voteByte, afterVote⟩, takenVote, parsed⟩ := bind_ok parsed
  obtain ⟨isVote, readVote, parsed⟩ := bind_ok parsed
  obtain ⟨⟨signature, afterSignature⟩, takenSignature, parsed⟩ := bind_ok parsed
  obtain ⟨⟨len, afterLen⟩, takenLen, parsed⟩ := bind_ok parsed
  simp only at parsed
  split at parsed
  · simp [fail] at parsed
  split at parsed
  · simp [fail] at parsed
  rename_i counted
  obtain rfl := Except.ok.inj parsed
  obtain ⟨rfl, rfl⟩ := ensureWire_ok ensured
  obtain rfl := flagOf_ok readVote
  have atNanos := takeU64Le_ok takenNanos
  have atSlot := takeU64Le_ok takenSlot
  have atIndex := takeU32Le_ok takenIndex
  have atVote := takeU8_ok takenVote
  have atSignature := takeArray_ok takenSignature
  have atLen := takeU32Le_ok takenLen
  have last : afterLen = transactionUpdateFixedBytes := by
    rw [atLen.next_eq, atSignature.next_eq, atVote.next_eq, atIndex.next_eq, atSlot.next_eq,
      atNanos.next_eq]
    simp [transactionUpdateFixedBytes, FixedBytes.length_eq]
  have whole := frame_start first second
  rw [atNanos.drop_eq, atSlot.drop_eq, atIndex.drop_eq, atVote.drop_eq, atSignature.drop_eq,
    atLen.drop_eq, last] at whole
  refine ⟨len, ?_, last, rfl, ?_⟩
  · intro payload
    simpa [TransactionUpdate.header, DecodedTransactionUpdate.withPayload] using whole
  · rw [← last]
    simpa using counted

theorem DecodedTransactionUpdate.ParsedFrom.slice {decoded : DecodedTransactionUpdate}
    {bytes : Bytes} {len : UInt32} (parsed : decoded.ParsedFrom bytes len) :
    indexRange bytes decoded.payloadOffset (decoded.payloadOffset + decoded.payloadLen) =
        .ok (bytes.drop transactionUpdateFixedBytes) ∧
      bytesSlice bytes decoded.payloadOffset (decoded.payloadOffset + decoded.payloadLen) =
        .ok (bytes.drop transactionUpdateFixedBytes) := by
  rw [parsed.offset, parsed.counted]
  exact slice_rest parsed.length

theorem TransactionUpdate.fromDecoded_ok {decoded : DecodedTransactionUpdate} {payload : Bytes}
    {update : TransactionUpdate} {info : AccountUpdateWireMeta}
    (built : TransactionUpdate.fromDecoded decoded payload = .ok (update, info)) :
    update = decoded.withPayload update.payload ∧ update.payload.bytes = payload ∧
      info = ⟨decoded.senderCreatedAtUnixNanos⟩ := by
  obtain ⟨checked, bounded, built⟩ := bind_ok built
  obtain ⟨rfl, rfl⟩ := Prod.mk.inj (Except.ok.inj built)
  unfold TransactionPayload.new fail at bounded
  split at bounded
  · obtain rfl := Except.ok.inj bounded
    exact ⟨rfl, rfl, rfl⟩
  · simp at bounded

theorem DecodedTransactionUpdate.parse_returns (bytes : Bytes) :
    Returns (DecodedTransactionUpdate.parse bytes) := by
  unfold DecodedTransactionUpdate.parse
  split
  · exact .fail _
  rename_i long
  simp only [transactionUpdateFixedBytes, Nat.not_lt] at long
  refine (indexByte_returns (by omega)).bind fun _ _ =>
    (indexByte_returns (by omega)).bind fun _ _ =>
    (ensureWire_returns ..).bind fun _ _ => (takeU64Le_returns ..).pair fun _ _ =>
    (takeU64Le_returns ..).pair fun _ _ => (takeU32Le_returns ..).pair fun _ _ =>
    (takeU8_returns ..).pair fun _ _ => (flagOf_returns ..).bind fun _ _ =>
    (takeArray_returns ..).pair fun _ _ => (takeU32Le_returns ..).pair fun _ _ => ?_
  simp only
  split
  · exact .fail _
  · split
    · exact .fail _
    · exact .ok _

theorem TransactionUpdate.decodeWithMeta_returns (bytes : Bytes) :
    Returns (TransactionUpdate.decodeWithMeta bytes) := by
  refine (DecodedTransactionUpdate.parse_returns bytes).bind fun decoded parsed => ?_
  obtain ⟨_, known⟩ := DecodedTransactionUpdate.parse_ok parsed
  rw [known.slice.1, ok_bind]
  refine Returns.bind ?_ fun _ _ => .ok _
  unfold TransactionPayload.new
  split
  · exact .ok _
  · exact .fail _

theorem TransactionUpdate.decodeOwnedWithMeta_eq (bytes : Bytes) :
    TransactionUpdate.decodeOwnedWithMeta bytes = TransactionUpdate.decodeWithMeta bytes := by
  refine bind_congr_ok fun decoded parsed => ?_
  obtain ⟨_, known⟩ := DecodedTransactionUpdate.parse_ok parsed
  rw [known.slice.1, known.slice.2]

/-! Slot updates. -/

theorem DecodedSlotUpdate.parse_ok {bytes : Bytes} {decoded : DecodedSlotUpdate}
    (parsed : DecodedSlotUpdate.parse bytes = .ok decoded) :
    bytes = SlotUpdate.header ⟨decoded.slot⟩ decoded.senderCreatedAtUnixNanos := by
  unfold DecodedSlotUpdate.parse at parsed
  split at parsed
  · simp [fail] at parsed
  obtain ⟨version, first, parsed⟩ := bind_ok parsed
  obtain ⟨tag, second, parsed⟩ := bind_ok parsed
  obtain ⟨_, ensured, parsed⟩ := bind_ok parsed
  obtain ⟨⟨nanos, afterNanos⟩, takenNanos, parsed⟩ := bind_ok parsed
  obtain ⟨⟨slot, afterSlot⟩, takenSlot, parsed⟩ := bind_ok parsed
  simp only at parsed
  split at parsed
  · simp [fail] at parsed
  rename_i counted
  obtain rfl := Except.ok.inj parsed
  obtain ⟨rfl, rfl⟩ := ensureWire_ok ensured
  have whole := frame_start first second
  have nothingLeft : bytes.drop afterSlot = [] := List.drop_eq_nil_of_le (by omega)
  rw [(takeU64Le_ok takenNanos).drop_eq, (takeU64Le_ok takenSlot).drop_eq, nothingLeft] at whole
  simpa [SlotUpdate.header] using whole

theorem DecodedSlotUpdate.parse_returns (bytes : Bytes) :
    Returns (DecodedSlotUpdate.parse bytes) := by
  unfold DecodedSlotUpdate.parse
  split
  · exact .fail _
  rename_i long
  simp only [slotUpdateFixedBytes, Nat.not_lt] at long
  refine (indexByte_returns (by omega)).bind fun _ _ =>
    (indexByte_returns (by omega)).bind fun _ _ =>
    (ensureWire_returns ..).bind fun _ _ => (takeU64Le_returns ..).pair fun _ _ =>
    (takeU64Le_returns ..).pair fun _ _ => ?_
  simp only
  split
  · exact .fail _
  · exact .ok _

/-! The routers. -/

def ServerFrameWithMeta.frame : ServerFrameWithMeta → ServerFrame
  | .accountUpdate update _ => .accountUpdate update
  | .transactionUpdate update _ => .transactionUpdate update
  | .slotUpdate update _ => .slotUpdate update
  | .connectionReady ready => .connectionReady ready
  | .connectionReadyShm ready => .connectionReadyShm ready

def ServerFrameWithMeta.info : ServerFrameWithMeta → Option AccountUpdateWireMeta
  | .accountUpdate _ info => some info
  | .transactionUpdate _ info => some info
  | .slotUpdate _ info => some info
  | .connectionReady _ => none
  | .connectionReadyShm _ => none

theorem decodeServerFrameOwned_eq (codecs : Codecs) (bytes : Bytes) :
    decodeServerFrameOwned codecs bytes = decodeServerFrame codecs bytes := by
  simp only [decodeServerFrameOwned, decodeServerFrame, AccountUpdate.decodeOwned,
    AccountUpdate.decode,
    AccountUpdate.decodeOwnedWithMeta_eq, TransactionUpdate.decodeOwned, TransactionUpdate.decode,
    TransactionUpdate.decodeOwnedWithMeta_eq, SlotUpdate.decodeOwned, SlotUpdate.decode,
    SlotUpdate.decodeOwnedWithMeta]

theorem forget_info {α : Type} (decoded : Outcome (α × AccountUpdateWireMeta))
    (wrap : α → AccountUpdateWireMeta → ServerFrameWithMeta) (plain : α → ServerFrame)
    (same : ∀ update info, (wrap update info).frame = plain update) :
    ServerFrameWithMeta.frame <$> (decoded >>= fun (update, info) => pure (wrap update info)) =
      plain <$> (Prod.fst <$> decoded) := by
  cases decoded with
  | error abort => rfl
  | ok pair => exact congrArg Except.ok (same pair.1 pair.2)

theorem forget_ready {α : Type} (decoded : Outcome α) (wrap : α → ServerFrameWithMeta)
    (plain : α → ServerFrame) (same : ∀ ready, (wrap ready).frame = plain ready) :
    ServerFrameWithMeta.frame <$> (wrap <$> decoded) = plain <$> decoded := by
  cases decoded with
  | error abort => rfl
  | ok ready => exact congrArg Except.ok (same ready)

theorem decodeServerFrameOwnedWithMeta_frame (codecs : Codecs) (bytes : Bytes) :
    ServerFrameWithMeta.frame <$> decodeServerFrameOwnedWithMeta codecs bytes =
      decodeServerFrame codecs bytes := by
  unfold decodeServerFrameOwnedWithMeta decodeServerFrame
  cases wireTag bytes with
  | error abort => rfl
  | ok tag =>
      simp only [ok_bind]
      split
      · rw [AccountUpdate.decode, ← AccountUpdate.decodeOwnedWithMeta_eq]
        exact forget_info _ _ _ fun _ _ => rfl
      split
      · rw [TransactionUpdate.decode, ← TransactionUpdate.decodeOwnedWithMeta_eq]
        exact forget_info _ _ _ fun _ _ => rfl
      split
      · exact forget_info _ _ _ fun _ _ => rfl
      split
      · exact forget_ready _ _ _ fun _ => rfl
      split
      · exact forget_ready _ _ _ fun _ => rfl
      · rfl

theorem decodeServerFrameOwnedWithMeta_ok {codecs : Codecs} {bytes : Bytes}
    {frame : ServerFrameWithMeta}
    (routed : decodeServerFrameOwnedWithMeta codecs bytes = .ok frame) :
    (∃ update info, frame = .accountUpdate update info ∧
        AccountUpdate.decodeWithMeta codecs.lz4 bytes = .ok (update, info)) ∨
      (∃ update info, frame = .transactionUpdate update info ∧
        TransactionUpdate.decodeWithMeta bytes = .ok (update, info)) ∨
      (∃ update info, frame = .slotUpdate update info ∧ SlotUpdate.decodeWithMeta bytes = .ok
        (update, info)) ∨
      (∃ ready, frame = .connectionReady ready) ∨ ∃ ready, frame = .connectionReadyShm ready := by
  unfold decodeServerFrameOwnedWithMeta at routed
  obtain ⟨tag, tagged, routed⟩ := bind_ok routed
  split at routed
  · obtain ⟨⟨update, info⟩, decoded, routed⟩ := bind_ok routed
    rw [AccountUpdate.decodeOwnedWithMeta_eq] at decoded
    exact .inl ⟨update, info, (Except.ok.inj routed).symm, decoded⟩
  split at routed
  · obtain ⟨⟨update, info⟩, decoded, routed⟩ := bind_ok routed
    rw [TransactionUpdate.decodeOwnedWithMeta_eq] at decoded
    exact .inr (.inl ⟨update, info, (Except.ok.inj routed).symm, decoded⟩)
  split at routed
  · obtain ⟨⟨update, info⟩, decoded, routed⟩ := bind_ok routed
    exact .inr (.inr (.inl ⟨update, info, (Except.ok.inj routed).symm, decoded⟩))
  split at routed
  · obtain ⟨ready, -, rfl⟩ := map_eq_ok routed
    exact .inr (.inr (.inr (.inl ⟨ready, rfl⟩)))
  split at routed
  · obtain ⟨ready, -, rfl⟩ := map_eq_ok routed
    exact .inr (.inr (.inr (.inr ⟨ready, rfl⟩)))
  · simp [fail] at routed

theorem deserializeWire_returns {α : Type} (result : Except String α) (context : String) :
    Returns (deserializeWire result context) := by
  cases result with
  | error text => exact .fail _
  | ok wire => exact .ok _

theorem ConnectionReady.decode_returns (wincode : Wincode) (bytes : Bytes) :
    Returns (ConnectionReady.decode wincode bytes) := by
  refine (deserializeWire_returns ..).bind fun _ _ => (ensureWire_returns ..).bind fun _ _ => ?_
  split
  · exact .fail _
  · exact .ok _

theorem ConnectionReadyShm.decode_returns (wincode : Wincode) (bytes : Bytes) :
    Returns (ConnectionReadyShm.decode wincode bytes) := by
  refine (deserializeWire_returns ..).bind fun _ _ => (ensureWire_returns ..).bind fun _ _ => ?_
  split
  · exact .fail _
  split
  · exact .fail _
  split
  · exact .fail _
  · exact .ok _

theorem wireTag_returns (bytes : Bytes) : Returns (wireTag bytes) := by
  unfold wireTag
  split
  · exact .ok _
  · exact .fail _

theorem decodeServerFrame_returns (codecs : Codecs) (bytes : Bytes) :
    Returns (decodeServerFrame codecs bytes) := by
  refine (wireTag_returns bytes).bind fun tag _ => ?_
  split
  · exact (AccountUpdate.decodeWithMeta_returns ..).map.map
  split
  · exact (TransactionUpdate.decodeWithMeta_returns ..).map.map
  split
  · exact ((DecodedSlotUpdate.parse_returns ..).bind fun _ _ => .ok _).map.map
  split
  · exact (ConnectionReady.decode_returns ..).map
  split
  · exact (ConnectionReadyShm.decode_returns ..).map
  · exact .fail _

theorem Returns.of_map {α β : Type} {first : Outcome α} {wrap : α → β}
    (returns : Returns (wrap <$> first)) : Returns first := by
  refine ⟨?_⟩
  rintro rfl
  exact returns.noPanic rfl

/-- The eight bytes behind version and tag, where update frames carry the sender's timestamp. -/
def timestampField (bytes : Bytes) : UInt64 := u64FromLeBytes ((bytes.drop 2).take 8)

theorem timestampField_eq (version tag : UInt8) (nanos : UInt64) (rest : Bytes) :
    timestampField ([version] ++ ([tag] ++ (u64ToLeBytes nanos ++ rest))) = nanos := by
  have field : (u64ToLeBytes nanos ++ rest).take 8 = u64ToLeBytes nanos := List.take_left' (by simp)
  simp [timestampField, field]

theorem AccountUpdate.decodeWithMeta_timestamp {lz4 : Lz4} {bytes : Bytes} {update : AccountUpdate}
    {info : AccountUpdateWireMeta}
    (decodes : AccountUpdate.decodeWithMeta lz4 bytes = .ok (update, info)) :
    info = ⟨timestampField bytes⟩ := by
  obtain ⟨flags, rawLen, wireLen, wire, rfl, -⟩ := AccountUpdate.decodeWithMeta_ok decodes
  simp only [AccountUpdate.header, List.append_assoc, timestampField_eq]

def IsEncoding {α : Type} (encodePartsAt : α → UInt64 → Outcome (Bytes × Bytes)) (update : α)
    (nanos : UInt64) (bytes : Bytes) : Prop :=
  ∃ header payload, encodePartsAt update nanos = .ok (header, payload) ∧ bytes = header ++ payload

theorem TransactionUpdate.decodeWithMeta_ok {bytes : Bytes} {update : TransactionUpdate}
    {info : AccountUpdateWireMeta}
    (decodes : TransactionUpdate.decodeWithMeta bytes = .ok (update, info)) :
    IsEncoding TransactionUpdate.encodePartsAt update info.senderCreatedAtUnixNanos bytes := by
  obtain ⟨decoded, parsed, decodes⟩ := bind_ok decodes
  obtain ⟨payload, sliced, built⟩ := bind_ok decodes
  obtain ⟨len, known⟩ := DecodedTransactionUpdate.parse_ok parsed
  obtain ⟨fields, rfl, rfl⟩ := TransactionUpdate.fromDecoded_ok built
  have rest : bytes.drop transactionUpdateFixedBytes = update.payload.bytes :=
    Except.ok.inj (known.slice.1.symm.trans sliced)
  have counted : UInt32.ofNat update.payload.bytes.length = len := by
    rw [← rest, List.length_drop, known.length, Nat.add_sub_cancel_left, UInt32.ofNat_toNat]
  have frame := known.frame update.payload
  rw [← fields, rest, ← counted] at frame
  exact ⟨_, _, update.encodePartsAt_eq _, frame⟩

theorem SlotUpdate.decodeWithMeta_ok {bytes : Bytes} {update : SlotUpdate}
    {info : AccountUpdateWireMeta}
    (decodes : SlotUpdate.decodeWithMeta bytes = .ok (update, info)) :
    IsEncoding SlotUpdate.encodePartsAt update info.senderCreatedAtUnixNanos bytes := by
  obtain ⟨decoded, parsed, decodes⟩ := bind_ok decodes
  obtain ⟨rfl, rfl⟩ := Prod.mk.inj (Except.ok.inj decodes)
  refine ⟨_, _, rfl, ?_⟩
  rw [List.append_nil]
  exact DecodedSlotUpdate.parse_ok parsed

theorem TransactionUpdate.decodeWithMeta_timestamp {bytes : Bytes} {update : TransactionUpdate}
    {info : AccountUpdateWireMeta}
    (decodes : TransactionUpdate.decodeWithMeta bytes = .ok (update, info)) :
    info = ⟨timestampField bytes⟩ := by
  obtain ⟨header, payload, encoded, rfl⟩ := TransactionUpdate.decodeWithMeta_ok decodes
  rw [update.encodePartsAt_eq] at encoded
  obtain ⟨rfl, rfl⟩ := Prod.mk.inj (Except.ok.inj encoded)
  simp only [TransactionUpdate.header, List.append_assoc, timestampField_eq]

theorem SlotUpdate.decodeWithMeta_timestamp {bytes : Bytes} {update : SlotUpdate}
    {info : AccountUpdateWireMeta}
    (decodes : SlotUpdate.decodeWithMeta bytes = .ok (update, info)) :
    info = ⟨timestampField bytes⟩ := by
  obtain ⟨header, payload, encoded, rfl⟩ := SlotUpdate.decodeWithMeta_ok decodes
  obtain ⟨rfl, rfl⟩ := Prod.mk.inj (Except.ok.inj encoded)
  simp only [SlotUpdate.header, List.append_assoc, timestampField_eq]

/-- The three routers answer alike. -/
structure RoutersAgree (codecs : Codecs) (bytes : Bytes) : Prop where
  owned : decodeServerFrameOwned codecs bytes = decodeServerFrame codecs bytes
  withMeta : ServerFrameWithMeta.frame <$> decodeServerFrameOwnedWithMeta codecs bytes =
    decodeServerFrame codecs bytes
  timestamp : ∀ frame info, decodeServerFrameOwnedWithMeta codecs bytes = .ok frame →
    frame.info = some info → info = ⟨timestampField bytes⟩
  inBounds : Returns (decodeServerFrame codecs bytes)
  ownedInBounds : Returns (decodeServerFrameOwned codecs bytes)
  withMetaInBounds : Returns (decodeServerFrameOwnedWithMeta codecs bytes)

/--
On any bytes the three server-frame decoders return the same message, with the frame's own
timestamp as meta, or the same error, and none of them reads out of bounds.
-/
theorem serverFrame_routers_agree (codecs : Codecs) (bytes : Bytes) :
    RoutersAgree codecs bytes := by
  have owned := decodeServerFrameOwned_eq codecs bytes
  have withMeta := decodeServerFrameOwnedWithMeta_frame codecs bytes
  have returns := decodeServerFrame_returns codecs bytes
  refine ⟨owned, withMeta, ?_, returns, owned ▸ returns, (withMeta ▸ returns).of_map⟩
  intro frame info routed carried
  rcases decodeServerFrameOwnedWithMeta_ok routed with ⟨update, found, rfl, decodes⟩ |
    ⟨update, found, rfl, decodes⟩ | ⟨update, found, rfl, decodes⟩ | ⟨ready, rfl⟩ | ⟨ready, rfl⟩
  · rw [← Option.some.inj carried]
    exact AccountUpdate.decodeWithMeta_timestamp decodes
  · rw [← Option.some.inj carried]
    exact TransactionUpdate.decodeWithMeta_timestamp decodes
  · rw [← Option.some.inj carried]
    exact SlotUpdate.decodeWithMeta_timestamp decodes
  · simp [ServerFrameWithMeta.info] at carried
  · simp [ServerFrameWithMeta.info] at carried

/-! Canonical encodings. -/

/-- One kind of update: how it is encoded, decoded, and wrapped by the routers. -/
structure UpdateKind (α : Type) where
  encodePartsAt : α → UInt64 → Outcome (Bytes × Bytes)
  decodeWithMeta : Bytes → Outcome (α × AccountUpdateWireMeta)
  decodeOwnedWithMeta : Bytes → Outcome (α × AccountUpdateWireMeta)
  frame : α → ServerFrame
  frameWithMeta : α → AccountUpdateWireMeta → ServerFrameWithMeta

def transactionUpdates : UpdateKind TransactionUpdate where
  encodePartsAt := TransactionUpdate.encodePartsAt
  decodeWithMeta := TransactionUpdate.decodeWithMeta
  decodeOwnedWithMeta := TransactionUpdate.decodeOwnedWithMeta
  frame := .transactionUpdate
  frameWithMeta := .transactionUpdate

def slotUpdates : UpdateKind SlotUpdate where
  encodePartsAt := SlotUpdate.encodePartsAt
  decodeWithMeta := SlotUpdate.decodeWithMeta
  decodeOwnedWithMeta := SlotUpdate.decodeOwnedWithMeta
  frame := .slotUpdate
  frameWithMeta := .slotUpdate

/-- The frames that decode to an update are its encodings, along every decoder. -/
structure UpdateKind.Canonical {α : Type} (kind : UpdateKind α) (codecs : Codecs) : Prop where
  total : ∀ update nanos, ∃ bytes, IsEncoding kind.encodePartsAt update nanos bytes
  borrowed : ∀ bytes update nanos, kind.decodeWithMeta bytes = .ok (update, ⟨nanos⟩) ↔
    IsEncoding kind.encodePartsAt update nanos bytes
  owned : ∀ bytes update nanos, kind.decodeOwnedWithMeta bytes = .ok (update, ⟨nanos⟩) ↔
    IsEncoding kind.encodePartsAt update nanos bytes
  routedWithMeta : ∀ bytes update nanos,
    decodeServerFrameOwnedWithMeta codecs bytes = .ok (kind.frameWithMeta update ⟨nanos⟩) ↔
      IsEncoding kind.encodePartsAt update nanos bytes
  routed : ∀ bytes update, decodeServerFrame codecs bytes = .ok (kind.frame update) ↔
    ∃ nanos, IsEncoding kind.encodePartsAt update nanos bytes
  routedOwned : ∀ bytes update, decodeServerFrameOwned codecs bytes = .ok (kind.frame update) ↔
    ∃ nanos, IsEncoding kind.encodePartsAt update nanos bytes
  injective : ∀ bytes bytes' update nanos, kind.decodeWithMeta bytes = .ok (update, ⟨nanos⟩) →
    kind.decodeWithMeta bytes' = .ok (update, ⟨nanos⟩) → bytes = bytes'

theorem IsEncoding.unique {α : Type} {encodePartsAt : α → UInt64 → Outcome (Bytes × Bytes)}
    {update : α}
    {nanos : UInt64} {bytes bytes' : Bytes} (first : IsEncoding encodePartsAt update nanos bytes)
    (second : IsEncoding encodePartsAt update nanos bytes') : bytes = bytes' := by
  obtain ⟨header, payload, encoded, rfl⟩ := first
  obtain ⟨header', payload', encoded', rfl⟩ := second
  obtain ⟨rfl, rfl⟩ := Prod.mk.inj (Except.ok.inj (encoded.symm.trans encoded'))
  rfl

theorem UpdateKind.canonical_of {α : Type} {kind : UpdateKind α} {codecs : Codecs}
    (total : ∀ update nanos, ∃ bytes, IsEncoding kind.encodePartsAt update nanos bytes)
    (sound : ∀ {bytes update info}, kind.decodeWithMeta bytes = .ok (update, info) →
      IsEncoding kind.encodePartsAt update info.senderCreatedAtUnixNanos bytes)
    (same : ∀ bytes, kind.decodeOwnedWithMeta bytes = kind.decodeWithMeta bytes)
    (route : ∀ {bytes update nanos}, IsEncoding kind.encodePartsAt update nanos bytes →
      decodeServerFrameOwnedWithMeta codecs bytes = .ok (kind.frameWithMeta update ⟨nanos⟩))
    (unroute : ∀ {bytes frame update}, decodeServerFrameOwnedWithMeta codecs bytes = .ok frame →
      frame.frame = kind.frame update → ∃ info, frame = kind.frameWithMeta update info ∧
        kind.decodeWithMeta bytes = .ok (update, info))
    (forget : ∀ update info, (kind.frameWithMeta update info).frame = kind.frame update)
    (apart : ∀ {update info info'}, kind.frameWithMeta update info = kind.frameWithMeta
      update info' → info = info') : kind.Canonical codecs := by
  have withMeta : ∀ bytes update nanos,
      decodeServerFrameOwnedWithMeta codecs bytes = .ok (kind.frameWithMeta update ⟨nanos⟩) ↔
        IsEncoding kind.encodePartsAt update nanos bytes := by
    intro bytes update nanos
    refine ⟨fun routed => ?_, route⟩
    obtain ⟨info, wrapped, decodes⟩ := unroute routed (forget ..)
    obtain rfl := apart wrapped
    exact sound decodes
  have borrowed : ∀ bytes update nanos, kind.decodeWithMeta bytes = .ok (update, ⟨nanos⟩) ↔
      IsEncoding kind.encodePartsAt update nanos bytes := by
    intro bytes update nanos
    refine ⟨sound, fun encoding => ?_⟩
    obtain ⟨info, wrapped, decodes⟩ := unroute (route encoding) (forget ..)
    obtain rfl := apart wrapped
    exact decodes
  have routed : ∀ bytes update, decodeServerFrame codecs bytes = .ok (kind.frame update) ↔
      ∃ nanos, IsEncoding kind.encodePartsAt update nanos bytes := by
    intro bytes update
    rw [← decodeServerFrameOwnedWithMeta_frame]
    constructor
    · intro routed
      obtain ⟨frame, decoded, forgotten⟩ := map_eq_ok routed
      obtain ⟨info, -, decodes⟩ := unroute decoded forgotten
      exact ⟨_, sound decodes⟩
    · rintro ⟨nanos, encoding⟩
      rw [route encoding, map_ok, forget]
  refine ⟨total, borrowed, ?_, withMeta, routed, ?_, ?_⟩
  · intro bytes update nanos
    rw [same]
    exact borrowed bytes update nanos
  · intro bytes update
    rw [decodeServerFrameOwned_eq]
    exact routed bytes update
  · intro bytes bytes' update nanos first second
    exact (sound first).unique (sound second)

/--
Transaction and slot updates have one encoding for each value and timestamp, and every
decoder accepts exactly these.
-/
theorem updates_canonical (codecs : Codecs) :
    transactionUpdates.Canonical codecs ∧ slotUpdates.Canonical codecs := by
  constructor
  · refine UpdateKind.canonical_of ?_ TransactionUpdate.decodeWithMeta_ok
      TransactionUpdate.decodeOwnedWithMeta_eq ?_ ?_ (fun _ _ => rfl)
      fun same => (ServerFrameWithMeta.transactionUpdate.inj same).2
    · exact fun update nanos => ⟨_, _, _, update.encodePartsAt_eq nanos, rfl⟩
    · rintro _ update nanos ⟨header, payload, encoded, rfl⟩
      exact update.encoded_routed codecs nanos encoded
    · intro bytes frame update routed forgotten
      rcases decodeServerFrameOwnedWithMeta_ok routed with ⟨found, info, rfl, decodes⟩ |
        ⟨found, info, rfl, decodes⟩ | ⟨found, info, rfl, decodes⟩ | ⟨ready, rfl⟩ | ⟨ready, rfl⟩
      case inr.inl =>
        obtain rfl := ServerFrame.transactionUpdate.inj forgotten
        exact ⟨info, rfl, decodes⟩
      all_goals simp [ServerFrameWithMeta.frame, transactionUpdates] at forgotten
  · refine UpdateKind.canonical_of ?_ SlotUpdate.decodeWithMeta_ok (fun _ => rfl) ?_ ?_
      (fun _ _ => rfl) fun same => (ServerFrameWithMeta.slotUpdate.inj same).2
    · exact fun update nanos => ⟨_, _, _, rfl, rfl⟩
    · rintro _ update nanos ⟨header, payload, encoded, rfl⟩
      exact update.encoded_routed codecs nanos encoded
    · intro bytes frame update routed forgotten
      rcases decodeServerFrameOwnedWithMeta_ok routed with ⟨found, info, rfl, decodes⟩ |
        ⟨found, info, rfl, decodes⟩ | ⟨found, info, rfl, decodes⟩ | ⟨ready, rfl⟩ | ⟨ready, rfl⟩
      case inr.inr.inl =>
        obtain rfl := ServerFrame.slotUpdate.inj forgotten
        exact ⟨info, rfl, decodes⟩
      all_goals simp [ServerFrameWithMeta.frame, slotUpdates] at forgotten

end Qlaster
