import Qlaster.TypesCore

/-!
Encoding an update and decoding the frame gives the update back. A cursor stands
in a frame by what is left to read after it, so every field is consumed by the
lemma of its own reader.
-/

namespace Qlaster

open LittleEndian

@[simp] theorem ok_bind {α β : Type} (value : α) (rest : α → Outcome β) :
    (Except.ok value : Outcome α) >>= rest = rest value :=
  rfl

@[simp] theorem map_ok {α β : Type} (value : α) (wrap : α → β) :
    wrap <$> (Except.ok value : Outcome α) = .ok (wrap value) :=
  rfl

@[simp] theorem pure_ok {α : Type} (value : α) : (pure value : Outcome α) = .ok value :=
  rfl

/-- `rest` is what a frame still holds from the cursor on. -/
structure Remaining (bytes : Bytes) (cursor : Nat) (rest : Bytes) : Prop where
  drop_eq : bytes.drop cursor = rest
  within : cursor ≤ bytes.length
  addressable : bytes.length < 2 ^ 64

theorem Remaining.length_eq {bytes rest : Bytes} {cursor : Nat}
    (remaining : Remaining bytes cursor rest) : bytes.length = cursor + rest.length := by
  have counted := congrArg List.length remaining.drop_eq
  have within := remaining.within
  simp only [List.length_drop] at counted
  omega

theorem Remaining.skip {bytes field rest : Bytes} {cursor : Nat} (size : Nat)
    (remaining : Remaining bytes cursor (field ++ rest)) (sized : field.length = size) :
    Remaining bytes (cursor + size) rest := by
  have length := remaining.length_eq
  rw [List.length_append] at length
  refine ⟨?_, by omega, remaining.addressable⟩
  rw [← List.drop_drop, remaining.drop_eq, ← sized, List.drop_left]

theorem takeExact_eq {bytes field rest : Bytes} {cursor : Nat} (size : Nat) (context : String)
    (remaining : Remaining bytes cursor (field ++ rest)) (sized : field.length = size) :
    takeExact bytes cursor size context = .ok (field, cursor + size) := by
  subst sized
  have length := remaining.length_eq
  have addressable := remaining.addressable
  rw [List.length_append] at length
  have noOverflow : ¬ 2 ^ 64 ≤ cursor + field.length := by omega
  have inBounds : ¬ bytes.length < cursor + field.length := by omega
  simp only [takeExact, if_neg noOverflow, if_neg inBounds, remaining.drop_eq, List.take_left]

theorem takeU8_eq {bytes rest : Bytes} {cursor : Nat} {byte : UInt8}
    (remaining : Remaining bytes cursor ([byte] ++ rest)) :
    takeU8 bytes cursor = .ok (byte, cursor + 1) := by
  simp only [takeU8, takeExact_eq 1 _ remaining rfl, ok_bind]
  rfl

theorem takeU32Le_eq {bytes rest : Bytes} {cursor : Nat} {value : UInt32}
    (remaining : Remaining bytes cursor (u32ToLeBytes value ++ rest)) :
    takeU32Le bytes cursor = .ok (value, cursor + 4) := by
  simp [takeU32Le, takeExact_eq 4 _ remaining (by simp)]

theorem takeU64Le_eq {bytes rest : Bytes} {cursor : Nat} {value : UInt64}
    (remaining : Remaining bytes cursor (u64ToLeBytes value ++ rest)) :
    takeU64Le bytes cursor = .ok (value, cursor + 8) := by
  simp [takeU64Le, takeExact_eq 8 _ remaining (by simp)]

theorem takeArray_eq {size : Nat} {outOfBounds bad : String} {bytes rest : Bytes} {cursor : Nat}
    {value : FixedBytes size} (remaining : Remaining bytes cursor (value.bytes ++ rest)) :
    takeArray size outOfBounds bad bytes cursor = .ok (value, cursor + size) := by
  simp [takeArray, takeExact_eq size _ remaining value.length_eq, value.length_eq]

@[simp] theorem flagOf_byteOfBool (flag : Bool) (context : String) :
    flagOf (byteOfBool flag) context = .ok flag := by
  cases flag <;> rfl

theorem tryIntoU32_eq {value : Nat} {error : QlasterError} (small : value < 2 ^ 32) :
    tryIntoU32 value error = .ok (UInt32.ofNat value) :=
  if_pos small

theorem AccountPayload.length_lt (payload : AccountPayload) : payload.bytes.length < 2 ^ 32 :=
  payload.bounded.trans_lt (by decide)

theorem TransactionPayload.length_lt (payload : TransactionPayload) :
    payload.bytes.length < 2 ^ 32 :=
  payload.bounded.trans_lt (by decide)

theorem Remaining.start {bytes : Bytes} (version tag : UInt8) (rest : Bytes)
    (frame : bytes = [version] ++ ([tag] ++ rest)) (addressable : bytes.length < 2 ^ 64) :
    Remaining bytes 2 rest := by
  subst frame
  exact ⟨rfl, by simp, addressable⟩

/-! Account updates. -/

theorem AccountUpdate.header_length (update : AccountUpdate) (nanos : UInt64) (flags : UInt8)
    (rawLen wireLen : UInt32) :
    (update.header nanos flags rawLen wireLen).length = accountUpdateFixedBytes := by
  simp [AccountUpdate.header, accountUpdateFixedBytes, FixedBytes.length_eq]

def AccountUpdate.decoded (update : AccountUpdate) (nanos : UInt64) (compressed : Bool)
    (rawLen wireLen : Nat) : DecodedAccountUpdate where
  senderCreatedAtUnixNanos := nanos
  accountPubkey := update.accountPubkey
  accountOwner := update.accountOwner
  lamports := update.lamports
  executable := update.executable
  rentEpoch := update.rentEpoch
  slot := update.slot
  writeVersion := update.writeVersion
  compressed := compressed
  rawPayloadLen := rawLen
  payloadOffset := accountUpdateFixedBytes
  wirePayloadLen := wireLen

theorem DecodedAccountUpdate.parse_header (update : AccountUpdate) (nanos : UInt64) (flags : UInt8)
    (rawLen wireLen : UInt32) (wirePayload : Bytes)
    (known : flags &&& ~~~accountUpdateFlagLz4 = 0)
    (bounded : rawLen.toNat ≤ maxAccountPayloadBytes)
    (counted : wireLen.toNat = wirePayload.length) :
    DecodedAccountUpdate.parse (update.header nanos flags rawLen wireLen ++ wirePayload) =
      .ok (update.decoded nanos (flags &&& accountUpdateFlagLz4 ≠ 0) rawLen.toNat
        wirePayload.length) := by
  have headerLength := update.header_length nanos flags rawLen wireLen
  have wireBound := wireLen.toNat_lt
  set frame := update.header nanos flags rawLen wireLen ++ wirePayload with frameEq
  have length : frame.length = accountUpdateFixedBytes + wirePayload.length := by
    rw [frameEq, List.length_append, headerLength]
  have addressable : frame.length < 2 ^ 64 := by
    rw [length, ← counted, accountUpdateFixedBytes]
    omega
  have long : ¬ frame.length < accountUpdateFixedBytes := by omega
  simp only [AccountUpdate.header, List.append_assoc] at frameEq
  have atNanos := Remaining.start _ _ _ frameEq addressable
  have atPubkey := atNanos.skip 8 (by simp)
  have atOwner := atPubkey.skip 32 update.accountPubkey.length_eq
  have atLamports := atOwner.skip 32 update.accountOwner.length_eq
  have atExecutable := atLamports.skip 8 (by simp)
  have atRentEpoch := atExecutable.skip 1 rfl
  have atSlot := atRentEpoch.skip 8 (by simp)
  have atWriteVersion := atSlot.skip 8 (by simp)
  have atFlags := atWriteVersion.skip 8 (by simp)
  have atRawLen := atFlags.skip 1 rfl
  have atWireLen := atRawLen.skip 4 (by simp)
  have version : indexByte frame 0 = .ok wireVersion := by rw [frameEq]; rfl
  have tag : indexByte frame 1 = .ok updateTag := by rw [frameEq]; rfl
  rw [DecodedAccountUpdate.parse, if_neg long]
  simp only [version, tag, ok_bind, ensureWire, takeArray32, takeU64Le_eq atNanos,
    takeArray_eq atPubkey, takeArray_eq atOwner, takeU64Le_eq atLamports, takeU8_eq atExecutable,
    flagOf_byteOfBool, takeU64Le_eq atRentEpoch, takeU64Le_eq atSlot, takeU64Le_eq atWriteVersion,
    takeU8_eq atFlags, known, takeU32Le_eq atRawLen, if_neg (Nat.not_lt.mpr bounded),
    takeU32Le_eq atWireLen, counted, length, ne_eq, not_true_eq_false, if_false, pure_ok,
    AccountUpdate.decoded, accountUpdateFixedBytes]

theorem indexRange_append (front back : Bytes) {first : Nat} (starts : front.length = first) :
    indexRange (front ++ back) first (first + back.length) = .ok back := by
  subst starts
  simp [indexRange]

theorem bytesSlice_append (front back : Bytes) {first : Nat} (starts : front.length = first) :
    bytesSlice (front ++ back) first (first + back.length) = .ok back := by
  subst starts
  cases back with
  | nil => simp [bytesSlice]
  | cons byte rest =>
      have whole : front.length + (byte :: rest).length = (front ++ byte :: rest).length := by simp
      have nonempty : ¬ (front ++ byte :: rest).length = front.length := by simp
      have ordered : ¬ (front ++ byte :: rest).length < front.length := by simp
      simp only [bytesSlice, whole, if_neg ordered, if_neg (Nat.lt_irrefl _), if_neg nonempty,
        List.take_length, List.drop_left]

theorem AccountUpdate.wirePayload_cases (lz4 : Lz4) (raw : Bytes) :
    AccountUpdate.wirePayload lz4 raw = (0, raw) ∨
      AccountUpdate.wirePayload lz4 raw = (accountUpdateFlagLz4, lz4.compress raw) ∧
        (lz4.compress raw).length < raw.length := by
  -- What the wire carries is the payload itself or a strictly shorter LZ4 block of it.
  simp only [AccountUpdate.wirePayload]
  split
  · split
    · exact .inr ⟨rfl, by assumption⟩
    · exact .inl rfl
  · exact .inl rfl

theorem AccountUpdate.encodePartsAt_eq (lz4 : Lz4) (update : AccountUpdate) (nanos : UInt64) :
    update.encodePartsAt lz4 nanos =
      let wire := AccountUpdate.wirePayload lz4 update.payload.bytes
      .ok (update.header nanos wire.1 (UInt32.ofNat update.payload.bytes.length)
        (UInt32.ofNat wire.2.length), wire.2) := by
  have bounded := update.payload.bounded
  have small := update.payload.length_lt
  have wireSmall :
      (AccountUpdate.wirePayload lz4 update.payload.bytes).2.length < 2 ^ 32 := by
    rcases AccountUpdate.wirePayload_cases lz4 update.payload.bytes with plain | ⟨packed, shorter⟩
    · rw [plain]
      exact small
    · rw [packed]
      exact shorter.trans small
  simp only [AccountUpdate.encodePartsAt, if_neg (Nat.not_lt.mpr bounded), tryIntoU32_eq small,
    tryIntoU32_eq wireSmall, ok_bind, pure_ok]

/-- The frame decodes to the update and its timestamp along every path of `types.rs`. -/
structure CarriesAccountUpdate (codecs : Codecs) (frame : Bytes) (update : AccountUpdate)
    (nanos : UInt64) : Prop where
  borrowed : AccountUpdate.decodeWithMeta codecs.lz4 frame = .ok (update, ⟨nanos⟩)
  owned : AccountUpdate.decodeOwnedWithMeta codecs.lz4 frame = .ok (update, ⟨nanos⟩)
  routed : decodeServerFrame codecs frame = .ok (.accountUpdate update)
  routedOwned : decodeServerFrameOwned codecs frame = .ok (.accountUpdate update)
  routedWithMeta : decodeServerFrameOwnedWithMeta codecs frame = .ok (.accountUpdate update ⟨nanos⟩)

theorem AccountUpdate.fromDecoded_decoded (update : AccountUpdate) (nanos : UInt64)
    (compressed : Bool) (rawLen wireLen : Nat) :
    AccountUpdate.fromDecoded (update.decoded nanos compressed rawLen wireLen)
      update.payload.bytes = .ok (update, ⟨nanos⟩) := by
  simp [AccountUpdate.fromDecoded, AccountPayload.new, update.payload.bounded,
    AccountUpdate.decoded]

theorem CarriesAccountUpdate.ofUnpacked (codecs : Codecs) (update : AccountUpdate) (nanos : UInt64)
    (flags : UInt8) (rawLen wireLen : UInt32) (wirePayload : Bytes)
    (known : flags &&& ~~~accountUpdateFlagLz4 = 0)
    (bounded : rawLen.toNat ≤ maxAccountPayloadBytes)
    (counted : wireLen.toNat = wirePayload.length)
    (unpacked : AccountUpdate.unpackPayload codecs.lz4
      (update.decoded nanos (flags &&& accountUpdateFlagLz4 ≠ 0) rawLen.toNat wirePayload.length)
      wirePayload = .ok update.payload.bytes) :
    CarriesAccountUpdate codecs (update.header nanos flags rawLen wireLen ++ wirePayload)
      update nanos := by
  have parsed :=
    DecodedAccountUpdate.parse_header update nanos flags rawLen wireLen wirePayload known
      bounded counted
  have starts := update.header_length nanos flags rawLen wireLen
  have tagged : wireTag (update.header nanos flags rawLen wireLen ++ wirePayload) = .ok updateTag :=
    rfl
  have borrowed : AccountUpdate.decodeWithMeta codecs.lz4
      (update.header nanos flags rawLen wireLen ++ wirePayload) = .ok (update, ⟨nanos⟩) := by
    simp only [AccountUpdate.decodeWithMeta, parsed, ok_bind]
    rw [AccountUpdate.decoded, indexRange_append _ _ starts, ok_bind, ← AccountUpdate.decoded,
      unpacked, ok_bind, AccountUpdate.fromDecoded_decoded]
  have owned : AccountUpdate.decodeOwnedWithMeta codecs.lz4
      (update.header nanos flags rawLen wireLen ++ wirePayload) = .ok (update, ⟨nanos⟩) := by
    simp only [AccountUpdate.decodeOwnedWithMeta, parsed, ok_bind]
    rw [AccountUpdate.decoded, bytesSlice_append _ _ starts, ok_bind, ← AccountUpdate.decoded,
      unpacked, ok_bind, AccountUpdate.fromDecoded_decoded]
  refine ⟨borrowed, owned, ?_, ?_, ?_⟩
  · simp [decodeServerFrame, tagged, AccountUpdate.decode, borrowed]
  · simp [decodeServerFrameOwned, tagged, AccountUpdate.decodeOwned, owned]
  · simp [decodeServerFrameOwnedWithMeta, tagged, owned]

theorem AccountUpdate.encoded_carries (codecs : Codecs) (lossless : codecs.lz4.RoundTrips)
    (update : AccountUpdate) (nanos : UInt64) {header wirePayload : Bytes}
    (encoded : update.encodePartsAt codecs.lz4 nanos = .ok (header, wirePayload)) :
    CarriesAccountUpdate codecs (header ++ wirePayload) update nanos := by
  have bounded := update.payload.bounded
  have small := update.payload.length_lt
  have rawLen : (UInt32.ofNat update.payload.bytes.length).toNat = update.payload.bytes.length :=
    UInt32.toNat_ofNat_of_lt' small
  rw [AccountUpdate.encodePartsAt_eq] at encoded
  rcases AccountUpdate.wirePayload_cases codecs.lz4 update.payload.bytes with
    plain | ⟨packed, shorter⟩
  · rw [plain] at encoded
    obtain ⟨rfl, rfl⟩ := Prod.mk.inj (Except.ok.inj encoded)
    refine .ofUnpacked codecs update nanos 0 _ _ _ rfl (by rwa [rawLen]) rawLen ?_
    simp [AccountUpdate.unpackPayload, AccountUpdate.decoded, rawLen]
  · rw [packed] at encoded
    obtain ⟨rfl, rfl⟩ := Prod.mk.inj (Except.ok.inj encoded)
    have wireLen := UInt32.toNat_ofNat_of_lt' (shorter.trans small)
    refine .ofUnpacked codecs update nanos accountUpdateFlagLz4 _ _ _
      rfl (by rwa [rawLen]) wireLen ?_
    simp [AccountUpdate.unpackPayload, AccountUpdate.decoded, rawLen,
      lossless update.payload.bytes, accountUpdateFlagLz4]

theorem AccountUpdate.encoded_length {lz4 : Lz4} {update : AccountUpdate} {nanos : UInt64}
    {header wirePayload : Bytes}
    (encoded : update.encodePartsAt lz4 nanos = .ok (header, wirePayload)) :
    (header ++ wirePayload).length ≤ accountUpdateFixedBytes + update.payload.bytes.length := by
  rw [AccountUpdate.encodePartsAt_eq] at encoded
  obtain ⟨rfl, rfl⟩ := Prod.mk.inj (Except.ok.inj encoded)
  rw [List.length_append, update.header_length]
  refine Nat.add_le_add_left ?_ _
  rcases AccountUpdate.wirePayload_cases lz4 update.payload.bytes with plain | ⟨packed, shorter⟩
  · rw [plain]
  · rw [packed]
    exact shorter.le

/--
Every account update survives its own encoding along every decoder, compressed or
not, and the frame is never longer than the header and the raw payload together.
-/
theorem accountUpdate_roundTrip (codecs : Codecs) (lossless : codecs.lz4.RoundTrips)
    (update : AccountUpdate) (nanos : UInt64) :
    ∃ header wirePayload,
      update.encodePartsAt codecs.lz4 nanos = .ok (header, wirePayload) ∧
      header.length = accountUpdateFixedBytes ∧
      (header ++ wirePayload).length ≤ accountUpdateFixedBytes + update.payload.bytes.length ∧
      CarriesAccountUpdate codecs (header ++ wirePayload) update nanos := by
  have encoded := update.encodePartsAt_eq codecs.lz4 nanos
  exact ⟨_, _, encoded, update.header_length .., AccountUpdate.encoded_length encoded,
    update.encoded_carries codecs lossless nanos encoded⟩

def literalRun (size : Nat) : Bytes :=
  if size < 15 then [UInt8.ofNat (size * 16)]
  else 0xf0 :: List.replicate ((size - 15) / 255) 255 ++ [UInt8.ofNat ((size - 15) % 255)]

/-- The blocks `lz4_flex` writes for inputs too short to hold a match. -/
def literalLz4 : Lz4 where
  compress block := literalRun block.length ++ block
  decompress block size :=
    if block.take (literalRun size).length = literalRun size then
      .ok (block.drop (literalRun size).length)
    else .error "expected a literal run"

theorem literalLz4_roundTrips : literalLz4.RoundTrips := by
  intro block
  simp [literalLz4]

def noControlFrames : Wincode where
  deserializeConnectionReady _ := .error "not a control frame"
  deserializeConnectionReadyShm _ := .error "not a control frame"

def sampleCodecs : Codecs := ⟨literalLz4, noControlFrames⟩

def sampleAccountUpdate : AccountUpdate where
  accountPubkey := ⟨List.replicate 32 7, rfl⟩
  accountOwner := ⟨List.replicate 32 9, rfl⟩
  lamports := 18446744073709551615
  executable := true
  rentEpoch := 0
  slot := 42
  writeVersion := 3
  payload := ⟨[1, 2, 3, 4, 5, 6, 7, 8], by decide⟩

theorem accountUpdate_roundTrip_sample :
    literalLz4.RoundTrips ∧
    ∃ header wirePayload,
      sampleAccountUpdate.encodePartsAt literalLz4 1000 = .ok (header, wirePayload) ∧
      header.length = 116 ∧ (header ++ wirePayload).length ≤ 116 + 8 ∧
      CarriesAccountUpdate sampleCodecs (header ++ wirePayload) sampleAccountUpdate 1000 :=
  ⟨literalLz4_roundTrips,
    accountUpdate_roundTrip sampleCodecs literalLz4_roundTrips sampleAccountUpdate 1000⟩

/-! Transaction and slot updates, along the router the consumer uses. -/

theorem TransactionUpdate.header_length (update : TransactionUpdate) (nanos : UInt64)
    (payloadLen : UInt32) :
    (update.header nanos payloadLen).length = transactionUpdateFixedBytes := by
  simp [TransactionUpdate.header, transactionUpdateFixedBytes, FixedBytes.length_eq]

theorem DecodedTransactionUpdate.parse_header (update : TransactionUpdate) (nanos : UInt64)
    (payloadLen : UInt32) (payload : Bytes) (bounded : payload.length ≤ maxTransactionPayloadBytes)
    (counted : payloadLen.toNat = payload.length) :
    DecodedTransactionUpdate.parse (update.header nanos payloadLen ++ payload) = .ok {
      senderCreatedAtUnixNanos := nanos
      slot := update.slot
      index := update.index
      isVote := update.isVote
      signature := update.signature
      payloadOffset := transactionUpdateFixedBytes
      payloadLen := payload.length } := by
  have headerLength := update.header_length nanos payloadLen
  have lenBound := payloadLen.toNat_lt
  set frame := update.header nanos payloadLen ++ payload with frameEq
  have length : frame.length = transactionUpdateFixedBytes + payload.length := by
    rw [frameEq, List.length_append, headerLength]
  have addressable : frame.length < 2 ^ 64 := by
    rw [length, ← counted, transactionUpdateFixedBytes]
    omega
  have long : ¬ frame.length < transactionUpdateFixedBytes := by omega
  simp only [TransactionUpdate.header, List.append_assoc] at frameEq
  have atNanos := Remaining.start _ _ _ frameEq addressable
  have atSlot := atNanos.skip 8 (by simp)
  have atIndex := atSlot.skip 8 (by simp)
  have atVote := atIndex.skip 4 (by simp)
  have atSignature := atVote.skip 1 rfl
  have atLen := atSignature.skip 64 update.signature.length_eq
  have version : indexByte frame 0 = .ok wireVersion := by rw [frameEq]; rfl
  have tag : indexByte frame 1 = .ok transactionUpdateTag := by rw [frameEq]; rfl
  rw [DecodedTransactionUpdate.parse, if_neg long]
  simp only [version, tag, ok_bind, ensureWire, takeU64Le_eq atNanos, takeU64Le_eq atSlot,
    takeU32Le_eq atIndex, takeU8_eq atVote, flagOf_byteOfBool, takeArray64,
    takeArray_eq atSignature, takeU32Le_eq atLen, counted, if_neg (Nat.not_lt.mpr bounded), length,
    ne_eq, not_true_eq_false, if_false, pure_ok, transactionUpdateFixedBytes]

theorem TransactionUpdate.encodePartsAt_eq (update : TransactionUpdate) (nanos : UInt64) :
    update.encodePartsAt nanos =
      .ok (update.header nanos (UInt32.ofNat update.payload.bytes.length),
        update.payload.bytes) := by
  have bounded := update.payload.bounded
  have small := update.payload.length_lt
  simp only [TransactionUpdate.encodePartsAt, if_neg (Nat.not_lt.mpr bounded), tryIntoU32_eq small,
    ok_bind, pure_ok]

theorem TransactionUpdate.encoded_routed (codecs : Codecs) (update : TransactionUpdate)
    (nanos : UInt64) {header payload : Bytes}
    (encoded : update.encodePartsAt nanos = .ok (header, payload)) :
    decodeServerFrameOwnedWithMeta codecs (header ++ payload) =
      .ok (.transactionUpdate update ⟨nanos⟩) := by
  have bounded := update.payload.bounded
  have counted := UInt32.toNat_ofNat_of_lt' update.payload.length_lt
  rw [update.encodePartsAt_eq] at encoded
  obtain ⟨rfl, rfl⟩ := Prod.mk.inj (Except.ok.inj encoded)
  have tagged : wireTag (update.header nanos (UInt32.ofNat update.payload.bytes.length) ++
      update.payload.bytes) = .ok transactionUpdateTag := rfl
  simp only [decodeServerFrameOwnedWithMeta, tagged, ok_bind]
  rw [if_neg (by decide), if_pos trivial]
  simp only [TransactionUpdate.decodeOwnedWithMeta, ok_bind,
    DecodedTransactionUpdate.parse_header update nanos _ _ bounded counted,
    bytesSlice_append _ _ (update.header_length nanos _)]
  simp [TransactionUpdate.fromDecoded, TransactionPayload.new, bounded]

theorem DecodedSlotUpdate.parse_header (update : SlotUpdate) (nanos : UInt64) :
    DecodedSlotUpdate.parse (update.header nanos) =
      .ok { senderCreatedAtUnixNanos := nanos, slot := update.slot } := by
  set frame := update.header nanos with frameEq
  have length :
    frame.length = slotUpdateFixedBytes := by
    simp [frameEq, SlotUpdate.header, slotUpdateFixedBytes]
  have addressable : frame.length < 2 ^ 64 := by
    rw [length, slotUpdateFixedBytes]
    omega
  rw [SlotUpdate.header, ← List.append_nil (_ ++ u64ToLeBytes update.slot)] at frameEq
  simp only [List.append_assoc] at frameEq
  have atNanos := Remaining.start _ _ _ frameEq addressable
  have atSlot := atNanos.skip 8 (by simp)
  have version : indexByte frame 0 = .ok wireVersion := by rw [frameEq]; rfl
  have tag : indexByte frame 1 = .ok slotUpdateTag := by rw [frameEq]; rfl
  rw [DecodedSlotUpdate.parse, length, if_neg (Nat.lt_irrefl _)]
  simp only [version, tag, ok_bind, ensureWire, takeU64Le_eq atNanos, takeU64Le_eq atSlot,
    ne_eq, not_true_eq_false, if_false, pure_ok, slotUpdateFixedBytes]

theorem SlotUpdate.encoded_routed (codecs : Codecs) (update : SlotUpdate) (nanos : UInt64)
    {header payload : Bytes} (encoded : update.encodePartsAt nanos = .ok (header, payload)) :
    decodeServerFrameOwnedWithMeta codecs (header ++ payload) = .ok
      (.slotUpdate update ⟨nanos⟩) := by
  obtain ⟨rfl, rfl⟩ := Prod.mk.inj (Except.ok.inj encoded)
  have tagged : wireTag (update.header nanos ++ []) = .ok slotUpdateTag := rfl
  simp only [decodeServerFrameOwnedWithMeta, tagged, ok_bind]
  rw [if_neg (by decide), if_neg (by decide), if_pos trivial]
  simp [SlotUpdate.decodeOwnedWithMeta, SlotUpdate.decodeWithMeta, DecodedSlotUpdate.parse_header]

end Qlaster
