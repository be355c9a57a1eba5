import Qlaster.RoundTrip

/-!
What the decoders of `types.rs` accept, for any bytes: a field that was taken is what
stood at the cursor, so a frame that parses is the header of what it parses to with
the rest behind it. Where a slice is taken, its bounds were checked.
-/

namespace Qlaster

open LittleEndian

section
variable {α β : Type}

theorem bind_ok {first : Outcome α} {rest : α → Outcome β} {result : β}
    (done : first >>= rest = .ok result) : ∃ value, first = .ok value ∧
      rest value = .ok result := by
  cases first with
  | error abort => simp [bind, Except.bind] at done
  | ok value => exact ⟨value, rfl, done⟩

theorem map_eq_ok {first : Outcome α} {wrap : α → β} {result : β}
    (done : wrap <$> first = .ok result) : ∃ value, first = .ok value ∧ wrap value = result := by
  cases first with
  | error abort => simp [Functor.map, Except.map] at done
  | ok value => exact ⟨value, rfl, Except.ok.inj done⟩

theorem bind_congr_ok {first : Outcome α} {rest rest' : α → Outcome β}
    (same : ∀ value, first = .ok value → rest value = rest' value) :
    first >>= rest = first >>= rest' := by
  cases first with
  | error abort => rfl
  | ok value => exact same value rfl

end

/-! Fields. -/

structure FieldAt (bytes : Bytes) (cursor : Nat) (field : Bytes) (next : Nat) : Prop where
  drop_eq : bytes.drop cursor = field ++ bytes.drop next
  next_eq : next = cursor + field.length
  within : next ≤ bytes.length

section
variable {bytes : Bytes} {cursor next : Nat}

theorem takeExact_ok {len : Nat} {context : String} {field : Bytes}
    (taken : takeExact bytes cursor len context = .ok (field, next)) :
    FieldAt bytes cursor field next ∧ field.length = len := by
  unfold takeExact fail at taken
  simp only at taken
  repeat' split at taken
  · simp at taken
  · simp at taken
  · rename_i inside
    obtain ⟨rfl, rfl⟩ := Prod.mk.inj (Except.ok.inj taken)
    have length : ((bytes.drop cursor).take len).length = len := by
      simp only [List.length_take, List.length_drop]
      omega
    refine ⟨⟨?_, by omega, by omega⟩, length⟩
    rw [← List.drop_drop, List.take_append_drop]

theorem takeU8_ok {byte : UInt8} (taken : takeU8 bytes cursor = .ok (byte, next)) :
    FieldAt bytes cursor [byte] next := by
  obtain ⟨⟨raw, after⟩, read, taken⟩ := bind_ok taken
  obtain ⟨found, indexed, taken⟩ := bind_ok taken
  obtain ⟨rfl, rfl⟩ := Prod.mk.inj (Except.ok.inj taken)
  obtain ⟨field, length⟩ := takeExact_ok read
  obtain ⟨only, rfl⟩ := List.length_eq_one_iff.mp length
  simp only [indexByte, List.getElem?_cons_zero, Except.ok.injEq] at indexed
  exact indexed ▸ field

theorem takeU32Le_ok {value : UInt32} (taken : takeU32Le bytes cursor = .ok (value, next)) :
    FieldAt bytes cursor (u32ToLeBytes value) next := by
  obtain ⟨⟨raw, after⟩, read, taken⟩ := bind_ok taken
  obtain ⟨field, length⟩ := takeExact_ok read
  simp only [length, if_true] at taken
  obtain ⟨rfl, rfl⟩ := Prod.mk.inj (Except.ok.inj taken)
  rwa [u32ToLeBytes_fromLeBytes length]

theorem takeU64Le_ok {value : UInt64} (taken : takeU64Le bytes cursor = .ok (value, next)) :
    FieldAt bytes cursor (u64ToLeBytes value) next := by
  obtain ⟨⟨raw, after⟩, read, taken⟩ := bind_ok taken
  obtain ⟨field, length⟩ := takeExact_ok read
  simp only [length, if_true] at taken
  obtain ⟨rfl, rfl⟩ := Prod.mk.inj (Except.ok.inj taken)
  rwa [u64ToLeBytes_fromLeBytes length]

theorem takeArray_ok {size : Nat} {outOfBounds bad : String} {value : FixedBytes size}
    (taken : takeArray size outOfBounds bad bytes cursor = .ok (value, next)) :
    FieldAt bytes cursor value.bytes next := by
  obtain ⟨⟨raw, after⟩, read, taken⟩ := bind_ok taken
  obtain ⟨field, length⟩ := takeExact_ok read
  simp only [length, dif_pos] at taken
  obtain ⟨rfl, rfl⟩ := Prod.mk.inj (Except.ok.inj taken)
  exact field

theorem flagOf_ok {byte : UInt8} {context : String} {flag : Bool}
    (read : flagOf byte context = .ok flag) : byte = byteOfBool flag := by
  unfold flagOf fail at read
  repeat' split at read
  · obtain rfl := Except.ok.inj read
    assumption
  · obtain rfl := Except.ok.inj read
    assumption
  · simp at read

theorem ensureWire_ok {version tag expectedTag : UInt8} (ensured : ensureWire version tag expectedTag = .ok ()) :
    version = wireVersion ∧ tag = expectedTag := by
  unfold ensureWire fail at ensured
  repeat' split at ensured
  · simp at ensured
  · simp at ensured
  · simp_all

theorem indexByte_ok {index : Nat} {byte : UInt8} (indexed : indexByte bytes index = .ok byte) :
    bytes[index]? = some byte := by
  unfold indexByte at indexed
  split at indexed
  · rename_i found
    rw [found, Except.ok.inj indexed]
  · simp at indexed

theorem slice_rest {offset len : Nat} (length : bytes.length = offset + len) :
    indexRange bytes offset (offset + len) = .ok (bytes.drop offset) ∧
      bytesSlice bytes offset (offset + len) = .ok (bytes.drop offset) := by
  have starts : (bytes.take offset).length = offset := by
    rw [List.length_take]
    omega
  have ends : (bytes.drop offset).length = len := by
    rw [List.length_drop]
    omega
  have indexed := indexRange_append _ (bytes.drop offset) starts
  have sliced := bytesSlice_append _ (bytes.drop offset) starts
  rw [List.take_append_drop, ends] at indexed sliced
  exact ⟨indexed, sliced⟩

theorem frame_start {version tag : UInt8} (first : indexByte bytes 0 = .ok version)
    (second : indexByte bytes 1 = .ok tag) : bytes = version :: tag :: bytes.drop 2 := by
  have front := indexByte_ok first
  have behind := indexByte_ok second
  match bytes with
  | [] => simp at front
  | [only] => simp at behind
  | byte :: byte' :: rest =>
      simp only [List.getElem?_cons_zero, List.getElem?_cons_succ, Option.some.injEq] at front behind
      rw [front, behind]
      rfl

end

/-! No read leaves the bounds of the frame. -/

structure Returns {α : Type} (outcome : Outcome α) : Prop where
  noPanic : outcome ≠ .error .panic

section
variable {α β : Type}

theorem Returns.ok (value : α) : Returns (.ok value) := ⟨by simp⟩

theorem Returns.fail (error : QlasterError) : Returns (Qlaster.fail error : Outcome α) :=
  ⟨by simp [Qlaster.fail]⟩

theorem Returns.bind {first : Outcome α} {rest : α → Outcome β} (returns : Returns first)
    (after : ∀ value, first = .ok value → Returns (rest value)) : Returns (first >>= rest) := by
  cases first with
  | error abort =>
    exact ⟨fun panicked => returns.noPanic (congrArg Except.error (Except.error.inj panicked))⟩
  | ok value => exact after value rfl

theorem Returns.pair {first : Outcome (α × Nat)} {rest : α × Nat → Outcome β}
    (returns : Returns first)
    (after : ∀ value cursor, Returns (rest (value, cursor))) : Returns (first >>= rest) :=
  returns.bind fun taken _ => after taken.1 taken.2

theorem Returns.map {first : Outcome α} {wrap : α → β} (returns : Returns first) :
    Returns (wrap <$> first) :=
  returns.bind fun value _ => .ok (wrap value)

theorem Returns.cases {outcome : Outcome α} (returns : Returns outcome) :
    (∃ value, outcome = .ok value) ∨ ∃ error, outcome = Qlaster.fail error := by
  match outcome, returns with
  | .ok value, _ => exact .inl ⟨value, rfl⟩
  | .error (.error error), _ => exact .inr ⟨error, rfl⟩
  | .error .panic, returns => exact absurd rfl returns.noPanic

end

section
variable (bytes : Bytes) (cursor : Nat)

theorem takeExact_returns (len : Nat) (context : String) :
    Returns (takeExact bytes cursor len context) := by
  unfold takeExact
  simp only
  split
  · exact .fail _
  · split
    · exact .fail _
    · exact .ok _

theorem takeU8_returns : Returns (takeU8 bytes cursor) := by
  refine (takeExact_returns ..).bind fun ⟨raw, next⟩ taken => ?_
  obtain ⟨byte, rfl⟩ := List.length_eq_one_iff.mp (takeExact_ok taken).2
  exact .ok _

theorem takeU32Le_returns : Returns (takeU32Le bytes cursor) := by
  refine (takeExact_returns ..).bind fun ⟨raw, next⟩ taken => ?_
  simp only [(takeExact_ok taken).2, if_true]
  exact .ok _

theorem takeU64Le_returns : Returns (takeU64Le bytes cursor) := by
  refine (takeExact_returns ..).bind fun ⟨raw, next⟩ taken => ?_
  simp only [(takeExact_ok taken).2, if_true]
  exact .ok _

theorem takeArray_returns (size : Nat) (outOfBounds bad : String) :
    Returns (takeArray size outOfBounds bad bytes cursor) := by
  refine (takeExact_returns ..).bind fun ⟨raw, next⟩ taken => ?_
  simp only [(takeExact_ok taken).2, dif_pos]
  exact .ok _

end

theorem flagOf_returns (byte : UInt8) (context : String) : Returns (flagOf byte context) := by
  unfold flagOf
  split
  · exact .ok _
  · split
    · exact .ok _
    · exact .fail _

theorem ensureWire_returns (version tag expectedTag : UInt8) :
    Returns (ensureWire version tag expectedTag) := by
  unfold ensureWire
  split
  · exact .fail _
  · split
    · exact .fail _
    · exact .ok _

theorem indexByte_returns {bytes : Bytes} {index : Nat} (within : index < bytes.length) :
    Returns (indexByte bytes index) := by
  simp only [indexByte, List.getElem?_eq_getElem within]
  exact .ok _

/-! Account updates. -/

def DecodedAccountUpdate.withPayload (decoded : DecodedAccountUpdate) (payload : AccountPayload) :
    AccountUpdate where
  accountPubkey := decoded.accountPubkey
  accountOwner := decoded.accountOwner
  lamports := decoded.lamports
  executable := decoded.executable
  rentEpoch := decoded.rentEpoch
  slot := decoded.slot
  writeVersion := decoded.writeVersion
  payload := payload

structure DecodedAccountUpdate.ParsedFrom (decoded : DecodedAccountUpdate) (bytes : Bytes)
    (flags : UInt8) (rawLen wireLen : UInt32) : Prop where
  frame : ∀ payload, bytes = (decoded.withPayload payload).header decoded.senderCreatedAtUnixNanos
    flags rawLen wireLen ++ bytes.drop accountUpdateFixedBytes
  known : flags &&& ~~~accountUpdateFlagLz4 = 0
  compressed : decoded.compressed = decide (flags &&& accountUpdateFlagLz4 ≠ 0)
  raw : decoded.rawPayloadLen = rawLen.toNat
  bounded : rawLen.toNat ≤ maxAccountPayloadBytes
  wire : decoded.wirePayloadLen = wireLen.toNat
  offset : decoded.payloadOffset = accountUpdateFixedBytes
  length : bytes.length = accountUpdateFixedBytes + wireLen.toNat

theorem DecodedAccountUpdate.parse_ok {bytes : Bytes} {decoded : DecodedAccountUpdate}
    (parsed : DecodedAccountUpdate.parse bytes = .ok decoded) :
    ∃ flags rawLen wireLen, decoded.ParsedFrom bytes flags rawLen wireLen := by
  unfold DecodedAccountUpdate.parse at parsed
  split at parsed
  · simp [fail] at parsed
  obtain ⟨version, first, parsed⟩ := bind_ok parsed
  obtain ⟨tag, second, parsed⟩ := bind_ok parsed
  obtain ⟨_, ensured, parsed⟩ := bind_ok parsed
  obtain ⟨⟨nanos, afterNanos⟩, takenNanos, parsed⟩ := bind_ok parsed
  obtain ⟨⟨pubkey, afterPubkey⟩, takenPubkey, parsed⟩ := bind_ok parsed
  obtain ⟨⟨owner, afterOwner⟩, takenOwner, parsed⟩ := bind_ok parsed
  obtain ⟨⟨lamports, afterLamports⟩, takenLamports, parsed⟩ := bind_ok parsed
  obtain ⟨⟨executableByte, afterExecutable⟩, takenExecutable, parsed⟩ := bind_ok parsed
  obtain ⟨executable, readExecutable, parsed⟩ := bind_ok parsed
  obtain ⟨⟨rentEpoch, afterRentEpoch⟩, takenRentEpoch, parsed⟩ := bind_ok parsed
  obtain ⟨⟨slot, afterSlot⟩, takenSlot, parsed⟩ := bind_ok parsed
  obtain ⟨⟨writeVersion, afterWriteVersion⟩, takenWriteVersion, parsed⟩ := bind_ok parsed
  obtain ⟨⟨flags, afterFlags⟩, takenFlags, parsed⟩ := bind_ok parsed
  simp only at parsed
  split at parsed
  · simp [fail] at parsed
  rename_i known
  obtain ⟨⟨rawLen, afterRawLen⟩, takenRawLen, parsed⟩ := bind_ok parsed
  simp only at parsed
  split at parsed
  · simp [fail] at parsed
  rename_i bounded
  obtain ⟨⟨wireLen, afterWireLen⟩, takenWireLen, parsed⟩ := bind_ok parsed
  simp only at parsed
  split at parsed
  · simp [fail] at parsed
  rename_i counted
  obtain rfl := Except.ok.inj parsed
  obtain ⟨rfl, rfl⟩ := ensureWire_ok ensured
  obtain rfl := flagOf_ok readExecutable
  have atNanos := takeU64Le_ok takenNanos
  have atPubkey := takeArray_ok takenPubkey
  have atOwner := takeArray_ok takenOwner
  have atLamports := takeU64Le_ok takenLamports
  have atExecutable := takeU8_ok takenExecutable
  have atRentEpoch := takeU64Le_ok takenRentEpoch
  have atSlot := takeU64Le_ok takenSlot
  have atWriteVersion := takeU64Le_ok takenWriteVersion
  have atFlags := takeU8_ok takenFlags
  have atRawLen := takeU32Le_ok takenRawLen
  have atWireLen := takeU32Le_ok takenWireLen
  have last : afterWireLen = accountUpdateFixedBytes := by
    rw [atWireLen.next_eq, atRawLen.next_eq, atFlags.next_eq, atWriteVersion.next_eq,
      atSlot.next_eq,
      atRentEpoch.next_eq, atExecutable.next_eq, atLamports.next_eq, atOwner.next_eq,
        atPubkey.next_eq,
      atNanos.next_eq]
    simp [accountUpdateFixedBytes, FixedBytes.length_eq]
  have whole := frame_start first second
  rw [atNanos.drop_eq, atPubkey.drop_eq, atOwner.drop_eq, atLamports.drop_eq, atExecutable.drop_eq,
    atRentEpoch.drop_eq, atSlot.drop_eq, atWriteVersion.drop_eq, atFlags.drop_eq, atRawLen.drop_eq,
    atWireLen.drop_eq, last] at whole
  refine ⟨flags, rawLen, wireLen, ?_, by simpa using known, rfl, rfl, by omega, rfl, last, ?_⟩
  · intro payload
    simpa [AccountUpdate.header, DecodedAccountUpdate.withPayload] using whole
  · rw [← last]
    simpa using counted

theorem flags_known {flags : UInt8} :
    flags &&& ~~~accountUpdateFlagLz4 = 0 ↔ flags = 0 ∨ flags = 1 := by
  have each : ∀ byte : Fin 256, UInt8.ofFin byte &&& ~~~accountUpdateFlagLz4 = 0 ↔
      UInt8.ofFin byte = 0 ∨ UInt8.ofFin byte = 1 := by
    decide +kernel
  exact each flags.toFin

/-- The header fields about the payload agree with the wire bytes and with what they unpack to. -/
structure AccountUpdate.WireForm (lz4 : Lz4) (update : AccountUpdate) (flags : UInt8)
    (rawLen wireLen : UInt32) (wire : Bytes) : Prop where
  flagged : flags = 0 ∨ flags = 1
  raw : rawLen.toNat = update.payload.bytes.length
  bounded : rawLen.toNat ≤ maxAccountPayloadBytes
  wired : wireLen.toNat = wire.length
  plain : flags = 0 → wire = update.payload.bytes
  packed : flags = 1 → lz4.decompress wire rawLen.toNat = .ok update.payload.bytes

/-- The format of account update frames. -/
def AccountUpdate.IsFrame (lz4 : Lz4) (update : AccountUpdate) (nanos : UInt64) (bytes : Bytes) :
    Prop :=
  ∃ flags rawLen wireLen wire, bytes = update.header nanos flags rawLen wireLen ++ wire ∧
    update.WireForm lz4 flags rawLen wireLen wire

theorem AccountUpdate.WireForm.unpacked {lz4 : Lz4} {update : AccountUpdate} {flags : UInt8}
    {rawLen wireLen : UInt32} {wire : Bytes} (form : update.WireForm lz4 flags rawLen wireLen wire)
    (nanos : UInt64) :
    AccountUpdate.unpackPayload lz4 (update.decoded nanos (flags &&& accountUpdateFlagLz4 ≠ 0)
      rawLen.toNat wire.length) wire = .ok update.payload.bytes := by
  rcases form.flagged with rfl | rfl
  · obtain rfl := form.plain rfl
    simp [AccountUpdate.unpackPayload, AccountUpdate.decoded, form.raw]
  · have packed := form.packed rfl
    rw [form.raw] at packed
    simp [AccountUpdate.unpackPayload, AccountUpdate.decoded, accountUpdateFlagLz4,
      packed, form.raw]

theorem AccountUpdate.IsFrame.decodes {lz4 : Lz4} {update : AccountUpdate} {nanos : UInt64}
    {bytes : Bytes} (frame : update.IsFrame lz4 nanos bytes) :
    AccountUpdate.decodeWithMeta lz4 bytes = .ok (update, ⟨nanos⟩) := by
  obtain ⟨flags, rawLen, wireLen, wire, rfl, form⟩ := frame
  exact (CarriesAccountUpdate.ofUnpacked ⟨lz4, noControlFrames⟩ update nanos flags
    rawLen wireLen wire
    (flags_known.mpr form.flagged) form.bounded form.wired (form.unpacked nanos)).borrowed

theorem DecodedAccountUpdate.ParsedFrom.slice {decoded : DecodedAccountUpdate} {bytes : Bytes}
    {flags : UInt8} {rawLen wireLen : UInt32}
    (parsed : decoded.ParsedFrom bytes flags rawLen wireLen) :
    indexRange bytes decoded.payloadOffset (decoded.payloadOffset + decoded.wirePayloadLen) =
        .ok (bytes.drop accountUpdateFixedBytes) ∧
      bytesSlice bytes decoded.payloadOffset (decoded.payloadOffset + decoded.wirePayloadLen) =
        .ok (bytes.drop accountUpdateFixedBytes) := by
  rw [parsed.offset, parsed.wire]
  exact slice_rest parsed.length

theorem AccountUpdate.unpackPayload_ok {lz4 : Lz4} {decoded : DecodedAccountUpdate}
    {wire payload : Bytes} (unpacked : AccountUpdate.unpackPayload lz4 decoded wire = .ok payload)
    (sized : wire.length = decoded.wirePayloadLen) : payload.length = decoded.rawPayloadLen ∧
      (decoded.compressed = false → wire = payload) ∧
      (decoded.compressed = true → lz4.decompress wire decoded.rawPayloadLen = .ok payload) := by
  unfold AccountUpdate.unpackPayload fail at unpacked
  split at unpacked
  · rename_i compressed
    split at unpacked
    · simp at unpacked
    · rename_i decompressed read
      split at unpacked
      · simp at unpacked
      · rename_i counted
        obtain rfl := Except.ok.inj unpacked
        exact ⟨by simpa using counted, by simp [compressed], fun _ => read⟩
  · rename_i plain
    split at unpacked
    · simp at unpacked
    · rename_i counted
      obtain rfl := Except.ok.inj unpacked
      exact ⟨by rw [sized]; simpa using counted, fun _ => rfl, fun compressed => absurd compressed plain⟩

theorem AccountUpdate.fromDecoded_ok {decoded : DecodedAccountUpdate} {payload : Bytes}
    {update : AccountUpdate} {info : AccountUpdateWireMeta}
    (built : AccountUpdate.fromDecoded decoded payload = .ok (update, info)) :
    update = decoded.withPayload update.payload ∧ update.payload.bytes = payload ∧
      info = ⟨decoded.senderCreatedAtUnixNanos⟩ := by
  obtain ⟨checked, bounded, built⟩ := bind_ok built
  obtain ⟨rfl, rfl⟩ := Prod.mk.inj (Except.ok.inj built)
  unfold AccountPayload.new fail at bounded
  split at bounded
  · obtain rfl := Except.ok.inj bounded
    exact ⟨rfl, rfl, rfl⟩
  · simp at bounded

theorem AccountUpdate.decodeWithMeta_ok {lz4 : Lz4} {bytes : Bytes} {update : AccountUpdate}
    {info : AccountUpdateWireMeta}
    (decodes : AccountUpdate.decodeWithMeta lz4 bytes = .ok (update, info)) :
    update.IsFrame lz4 info.senderCreatedAtUnixNanos bytes := by
  obtain ⟨decoded, parsed, decodes⟩ := bind_ok decodes
  obtain ⟨wire, sliced, decodes⟩ := bind_ok decodes
  obtain ⟨payload, unpacked, built⟩ := bind_ok decodes
  obtain ⟨flags, rawLen, wireLen, known⟩ := DecodedAccountUpdate.parse_ok parsed
  obtain ⟨fields, rfl, rfl⟩ := AccountUpdate.fromDecoded_ok built
  obtain rfl : bytes.drop accountUpdateFixedBytes = wire :=
    Except.ok.inj (known.slice.1.symm.trans sliced)
  have sized : (bytes.drop accountUpdateFixedBytes).length = wireLen.toNat := by
    rw [List.length_drop, known.length]
    omega
  obtain ⟨counted, plain, packed⟩ := AccountUpdate.unpackPayload_ok unpacked
    (sized.trans known.wire.symm)
  refine ⟨flags, rawLen, wireLen, bytes.drop accountUpdateFixedBytes, ?_, ?_⟩
  · have frame := known.frame update.payload
    rw [← fields] at frame
    exact frame
  · refine ⟨flags_known.mp known.known, ?_, known.bounded, sized.symm, ?_, ?_⟩
    · rw [counted, known.raw]
    · rintro rfl
      exact plain (by simp [known.compressed])
    · rintro rfl
      rw [← known.raw]
      exact packed (by simp [known.compressed, accountUpdateFlagLz4])

theorem DecodedAccountUpdate.parse_returns (bytes : Bytes) :
    Returns (DecodedAccountUpdate.parse bytes) := by
  unfold DecodedAccountUpdate.parse
  split
  · exact .fail _
  rename_i long
  simp only [accountUpdateFixedBytes, Nat.not_lt] at long
  refine (indexByte_returns (by omega)).bind fun _ _ =>
    (indexByte_returns (by omega)).bind fun _ _ =>
    (ensureWire_returns ..).bind fun _ _ => (takeU64Le_returns ..).pair fun _ _ =>
    (takeArray_returns ..).pair fun _ _ => (takeArray_returns ..).pair fun _ _ =>
    (takeU64Le_returns ..).pair fun _ _ => (takeU8_returns ..).pair fun _ _ =>
    (flagOf_returns ..).bind fun _ _ => (takeU64Le_returns ..).pair fun _ _ =>
    (takeU64Le_returns ..).pair fun _ _ => (takeU64Le_returns ..).pair fun _ _ =>
    (takeU8_returns ..).pair fun _ _ => ?_
  simp only
  split
  · exact .fail _
  refine (takeU32Le_returns ..).pair fun _ _ => ?_
  simp only
  split
  · exact .fail _
  refine (takeU32Le_returns ..).pair fun _ _ => ?_
  simp only
  split
  · exact .fail _
  · exact .ok _

theorem AccountUpdate.unpackPayload_returns (lz4 : Lz4) (decoded : DecodedAccountUpdate)
    (wire : Bytes) : Returns (AccountUpdate.unpackPayload lz4 decoded wire) := by
  unfold AccountUpdate.unpackPayload
  split
  · split
    · exact .fail _
    · split
      · exact .fail _
      · exact .ok _
  · split
    · exact .fail _
    · exact .ok _

theorem AccountUpdate.fromDecoded_returns (decoded : DecodedAccountUpdate) (payload : Bytes) :
    Returns (AccountUpdate.fromDecoded decoded payload) := by
  refine Returns.bind ?_ fun _ _ => .ok _
  unfold AccountPayload.new
  split
  · exact .ok _
  · exact .fail _

theorem AccountUpdate.decodeWithMeta_returns (lz4 : Lz4) (bytes : Bytes) :
    Returns (AccountUpdate.decodeWithMeta lz4 bytes) := by
  refine (DecodedAccountUpdate.parse_returns bytes).bind fun decoded parsed => ?_
  obtain ⟨_, _, _, known⟩ := DecodedAccountUpdate.parse_ok parsed
  rw [known.slice.1, ok_bind]
  exact (AccountUpdate.unpackPayload_returns ..).bind fun _ _ =>
    AccountUpdate.fromDecoded_returns ..

theorem AccountUpdate.decodeOwnedWithMeta_eq (lz4 : Lz4) (bytes : Bytes) :
    AccountUpdate.decodeOwnedWithMeta lz4 bytes = AccountUpdate.decodeWithMeta lz4 bytes := by
  refine bind_congr_ok fun decoded parsed => ?_
  obtain ⟨_, _, _, known⟩ := DecodedAccountUpdate.parse_ok parsed
  rw [known.slice.1, known.slice.2]

/-- Decompressing a block to two sizes does not give two results. -/
def Lz4.SizeIndependent (lz4 : Lz4) : Prop :=
  ∀ block size size' bytes bytes', lz4.decompress block size = .ok bytes →
    lz4.decompress block size' = .ok bytes' → bytes = bytes'

def AccountUpdate.Accepted (lz4 : Lz4) (bytes : Bytes) : Prop :=
  ∃ update info, AccountUpdate.decodeWithMeta lz4 bytes = .ok (update, info)

theorem u32ToLeBytes_inj {value value' : UInt32} (same : u32ToLeBytes value = u32ToLeBytes value') :
    value = value' := by
  have read := congrArg u32FromLeBytes same
  simpa using read

theorem AccountUpdate.header_end {update update' : AccountUpdate} {nanos nanos' : UInt64}
    {flags flags' : UInt8} {rawLen rawLen' wireLen wireLen' : UInt32} {rest rest' : Bytes}
    (same : update.header nanos flags rawLen wireLen ++ rest =
      update'.header nanos' flags' rawLen' wireLen' ++ rest') :
    flags = flags' ∧ rawLen = rawLen' ∧ wireLen = wireLen' ∧ rest = rest' := by
  -- What a header says of the payload can be read off its end.
  have ends : ∀ (update : AccountUpdate) (nanos : UInt64) (flags : UInt8) (rawLen wireLen : UInt32),
      (update.header nanos flags rawLen wireLen).drop 107 =
        flags :: (u32ToLeBytes rawLen ++ u32ToLeBytes wireLen) := by
    intro update nanos flags rawLen wireLen
    rw [AccountUpdate.header, List.append_assoc, List.append_assoc]
    exact List.drop_left' (by simp [FixedBytes.length_eq])
  have sized : (update.header nanos flags rawLen wireLen).length =
      (update'.header nanos' flags' rawLen' wireLen').length := by
    rw [update.header_length, update'.header_length]
  obtain ⟨headers, rests⟩ := List.append_inj same sized
  have tails := congrArg (List.drop 107) headers
  rw [ends, ends, List.cons.injEq] at tails
  obtain ⟨raws, wires⟩ := List.append_inj tails.2 (by simp)
  exact ⟨tails.1, u32ToLeBytes_inj raws, u32ToLeBytes_inj wires, rests⟩

theorem AccountUpdate.accepted_frame {lz4 : Lz4} {bytes : Bytes}
    (accepted : AccountUpdate.Accepted lz4 bytes) :
    ∃ update nanos, AccountUpdate.IsFrame lz4 update nanos bytes := by
  obtain ⟨update, info, decodes⟩ := accepted
  exact ⟨update, info.senderCreatedAtUnixNanos, AccountUpdate.decodeWithMeta_ok decodes⟩

theorem AccountUpdate.accepted_whole {lz4 : Lz4} {bytes longer : Bytes}
    (first : AccountUpdate.Accepted lz4 bytes) (second : AccountUpdate.Accepted lz4 longer)
    (continues : bytes <+: longer) : bytes = longer := by
  -- Of two accepted frames neither continues the other.
  obtain ⟨update, nanos, flags, rawLen, wireLen, wire, rfl, form⟩ :=
    AccountUpdate.accepted_frame first
  obtain ⟨update', nanos', flags', rawLen', wireLen', wire', rfl, form'⟩ :=
    AccountUpdate.accepted_frame second
  obtain ⟨more, same⟩ := continues
  rw [List.append_assoc] at same
  obtain ⟨-, -, wires, rests⟩ := AccountUpdate.header_end same
  refine List.IsPrefix.eq_of_length ⟨more, by rw [List.append_assoc, same]⟩ ?_
  rw [List.length_append, List.length_append, update.header_length, update'.header_length,
    ← form.wired, ← form'.wired, wires]

theorem AccountUpdate.accepted_rawLen {lz4 : Lz4} (independent : lz4.SizeIndependent)
    {update : AccountUpdate} {nanos : UInt64} {flags : UInt8} {rawLen rawLen' wireLen : UInt32}
    {wire : Bytes}
    (first : AccountUpdate.Accepted lz4 (update.header nanos flags rawLen wireLen ++ wire))
    (second : AccountUpdate.Accepted lz4 (update.header nanos flags rawLen' wireLen ++ wire)) :
    rawLen = rawLen' := by
  obtain ⟨found, _, flags₁, _, _, _, same, form⟩ := AccountUpdate.accepted_frame first
  obtain ⟨found', _, flags₂, _, _, _, same', form'⟩ := AccountUpdate.accepted_frame second
  obtain ⟨rfl, rfl, rfl, rfl⟩ := AccountUpdate.header_end same
  obtain ⟨rfl, rfl, rfl, rfl⟩ := AccountUpdate.header_end same'
  have payloads : found.payload.bytes = found'.payload.bytes := by
    rcases form.flagged with rfl | rfl
    · rw [← form.plain rfl, ← form'.plain rfl]
    · exact independent _ _ _ _ _ (form.packed rfl) (form'.packed rfl)
  refine UInt32.toNat_inj.mp ?_
  rw [form.raw, form'.raw, payloads]

def AccountUpdate.Rejected (lz4 : Lz4) (bytes : Bytes) : Prop :=
  ∃ error, AccountUpdate.decodeWithMeta lz4 bytes = fail error

theorem AccountUpdate.rejected_of_not_accepted {lz4 : Lz4} {bytes : Bytes}
    (refused : ¬ AccountUpdate.Accepted lz4 bytes) : AccountUpdate.Rejected lz4 bytes := by
  rcases (AccountUpdate.decodeWithMeta_returns lz4 bytes).cases with ⟨⟨update, info⟩,
    decodes⟩ | rejected
  · exact absurd ⟨update, info, decodes⟩ refused
  · exact rejected

/-- What the account update decoder accepts. -/
structure AccountDecoderExact (lz4 : Lz4) (bytes : Bytes) : Prop where
  exact : ∀ update info, AccountUpdate.decodeWithMeta lz4 bytes = .ok (update, info) ↔
    update.IsFrame lz4 info.senderCreatedAtUnixNanos bytes
  shorter : AccountUpdate.Accepted lz4 bytes → ∀ start, start <+: bytes → start ≠ bytes →
    AccountUpdate.Rejected lz4 start
  longer : AccountUpdate.Accepted lz4 bytes → ∀ extended, bytes <+: extended → extended ≠ bytes →
    AccountUpdate.Rejected lz4 extended
  otherRawLen : AccountUpdate.Accepted lz4 bytes →
    ∀ (update : AccountUpdate) nanos flags rawLen wireLen wire,
    bytes = update.header nanos flags rawLen wireLen ++ wire → ∀ rawLen', rawLen' ≠ rawLen →
    AccountUpdate.Rejected lz4 (update.header nanos flags rawLen' wireLen ++ wire)
  bounded : ∀ update info, AccountUpdate.decodeWithMeta lz4 bytes = .ok (update, info) →
    update.payload.bytes.length ≤ maxAccountPayloadBytes

/--
For any bytes, `AccountUpdate::decode_with_meta` accepts them exactly when they are a frame
of the format for the update and timestamp it returns; what is shorter or longer than an
accepted frame, or declares another raw length, is answered with an error.
-/
theorem accountDecoder_exact (lz4 : Lz4) (independent : lz4.SizeIndependent) (bytes : Bytes) :
    AccountDecoderExact lz4 bytes := by
  refine ⟨?_, ?_, ?_, ?_, fun update _ _ => update.payload.bounded⟩
  · intro update info
    exact ⟨AccountUpdate.decodeWithMeta_ok, AccountUpdate.IsFrame.decodes⟩
  · intro accepted start starts different
    apply AccountUpdate.rejected_of_not_accepted
    intro accepted'
    exact different (AccountUpdate.accepted_whole accepted' accepted starts)
  · intro accepted extended extends' different
    apply AccountUpdate.rejected_of_not_accepted
    intro accepted'
    exact different (AccountUpdate.accepted_whole accepted accepted' extends').symm
  · rintro accepted update nanos flags rawLen wireLen wire rfl rawLen' different
    apply AccountUpdate.rejected_of_not_accepted
    intro accepted'
    exact different (AccountUpdate.accepted_rawLen independent accepted accepted').symm

/-- Blocks of one literal run of fewer than 15 bytes, which fail when the output has no room. -/
def shortLz4 : Lz4 where
  compress block := UInt8.ofNat (16 * block.length) :: block
  decompress block size :=
    match block with
    | [] => .error "expected another byte, found none"
    | token :: rest =>
        if rest.length < 15 ∧ token = UInt8.ofNat (16 * rest.length) then
          if rest.length ≤ size then .ok rest
          else .error "provided output is too small for the decompressed data"
        else .error "expected a literal run"

theorem shortLz4_literals {block bytes : Bytes} {size : Nat}
    (read : shortLz4.decompress block size = .ok bytes) : bytes = block.tail := by
  cases block with
  | nil => simp [shortLz4] at read
  | cons token rest =>
      simp only [shortLz4] at read
      repeat' split at read
      · exact (Except.ok.inj read).symm
      · simp at read
      · simp at read

theorem shortLz4_sizeIndependent : shortLz4.SizeIndependent := by
  intro block size size' bytes bytes' first second
  rw [shortLz4_literals first, shortLz4_literals second]

def compressedFrame :
    Bytes := sampleAccountUpdate.header 1000 1 8 9 ++ [128, 1, 2, 3, 4, 5, 6, 7, 8]

theorem accountDecoder_exact_compressed :
    shortLz4.SizeIndependent ∧
    AccountUpdate.decodeWithMeta shortLz4 compressedFrame = .ok (sampleAccountUpdate, ⟨1000⟩) ∧
    AccountDecoderExact shortLz4 compressedFrame :=
  ⟨shortLz4_sizeIndependent, by decide +kernel,
    accountDecoder_exact shortLz4 shortLz4_sizeIndependent compressedFrame⟩

end Qlaster
