import Mathlib.Data.Nat.Digits.Defs
import Qlaster.Control
import Qlaster.HandshakeCore

/-!
When the consumer opens the ring that was created for it: the path has to survive the
conversion to text, and the announcement has to fit the receive buffer.
-/

namespace Qlaster

open LittleEndian PrefixCode

/-! Paths as text and as bytes. -/

theorem utf8_append (front back : List Char) :
    utf8 (String.ofList (front ++ back)) = utf8 (String.ofList front) ++ utf8
      (String.ofList back) := by
  simp [utf8]

theorem joinOsPath_text (dir name : List Char) :
    ∃ text, utf8 text = joinOsPath (utf8 (String.ofList dir)) (utf8 (String.ofList name)) := by
  have slash : utf8 (String.ofList ['/']) = [47] := by decide +kernel
  rw [joinOsPath]
  split
  · exact ⟨_, utf8_append dir name⟩
  · refine ⟨_, (utf8_append dir ('/' :: name)).trans ?_⟩
    rw [← List.singleton_append, utf8_append, slash, List.singleton_append]

theorem ringOsPath_text (dir : String) (pid : Nat) (slotIndex : SlotIndex) (connectionId : UInt64) :
    ∃ text, utf8 text = ringOsPath (utf8 dir) pid slotIndex connectionId := by
  obtain ⟨chars, rfl⟩ : ∃ chars, String.ofList chars = dir := ⟨dir.toList, String.ofList_toList⟩
  exact joinOsPath_text chars _

/-! The receive buffer. -/

theorem sendFrameWithFd_eq {payload : Bytes} (small : payload.length < 2 ^ 32) :
    sendFrameWithFd payload = .ok (u32ToLeBytes (UInt32.ofNat payload.length) ++ payload) :=
  if_neg (by omega)

theorem delivered_eq (payload : Bytes) :
    (u32ToLeBytes (UInt32.ofNat payload.length) ++ payload).take ancillaryRecvBuf =
      u32ToLeBytes (UInt32.ofNat payload.length) ++ payload.take (ancillaryRecvBuf - 4) := by
  rw [List.take_append, u32ToLeBytes_length, List.take_of_length_le (by simp [ancillaryRecvBuf])]

theorem recvFrameWithFd_delivered {payload : Bytes} (small : payload.length < 2 ^ 32) :
    recvFrameWithFd
      ((u32ToLeBytes (UInt32.ofNat payload.length) ++ payload).take ancillaryRecvBuf) =
      if 4 + payload.length ≤ ancillaryRecvBuf then .ok payload
      else fail (ancillaryTooLarge (4 + payload.length) ancillaryRecvBuf) := by
  have counted : (UInt32.ofNat payload.length).toNat = payload.length :=
    UInt32.toNat_ofNat_of_lt' small
  rw [delivered_eq]
  set field := u32ToLeBytes (UInt32.ofNat payload.length) with fieldEq
  have sized : field.length = 4 := by simp [fieldEq]
  have read : ∀ rest, (u32FromLeBytes ((field ++ rest).take 4)).toNat = payload.length := by
    intro rest
    rw [List.take_left' sized, fieldEq, u32FromLeBytes_toLeBytes, counted]
  have length : (field ++ payload.take (ancillaryRecvBuf - 4)).length = min ancillaryRecvBuf
      (4 + payload.length) := by
    rw [List.length_append, List.length_take, sized]
    simp only [ancillaryRecvBuf]
    omega
  simp only [recvFrameWithFd, List.append_assoc, read]
  rw [length, if_neg (by simp only [ancillaryRecvBuf]; omega),
    if_neg (by simp only [ancillaryRecvBuf]; omega)]
  by_cases fits : 4 + payload.length ≤ ancillaryRecvBuf
  · have whole : payload.take (ancillaryRecvBuf - 4) = payload := List.take_of_length_le (by omega)
    rw [min_eq_right fits, if_neg (by omega), if_pos fits, whole, ← List.append_assoc]
    simp only [indexRange, List.length_append, sized]
    rw [if_pos (by omega), List.append_assoc, List.drop_left' sized, Nat.add_sub_cancel_left,
      List.take_left]
  · rw [min_eq_left (by omega), if_pos (by omega), if_neg fits]

/-! The announcement. -/

/-- The size of the announcement: two tag bytes, the token, the path behind its length, the
capacity. -/
def WincodeFormat.ShmSized (wincode : WincodeFormat) : Prop :=
  ∀ wire bytes, wincode.serializeConnectionReadyShm wire = .ok bytes →
    27 + (utf8 wire.ringPath).length ≤ bytes.length ∧
      ((utf8 wire.ringPath).length < 2 ^ 63 → bytes.length = 27 + (utf8 wire.ringPath).length)

/-- `to_string_lossy` keeps what is text. -/
def KeepsText (toStringLossy : Bytes → String) : Prop := ∀ text, toStringLossy (utf8 text) = text

theorem adoptRing_text {codecs : Codecs} {received : Bytes} {fdOpt : Option Nat}
    {opened : OpenedRing} (adopted : adoptRing codecs received fdOpt = .ok opened) :
    ∃ text, utf8 text = opened.ringPath := by
  obtain ⟨readyBytes, -, adopted⟩ := bind_ok adopted
  obtain ⟨frame, -, adopted⟩ := bind_ok adopted
  cases frame with
  | connectionReadyShm ready =>
      cases fdOpt with
      | none => simp [fail] at adopted
      | some fd =>
          obtain rfl := Except.ok.inj adopted
          exact ⟨ready.ringPath, rfl⟩
  | _ => simp [fail] at adopted

section
variable (lz4 : Lz4) {wincode : WincodeFormat} (lawful : wincode.Lawful) (sized : wincode.ShmSized)
  {toStringLossy : Bytes → String} (keeps : KeepsText toStringLossy) {slotToken : SlotToken}
  {text : String} {ringCapacity : UInt64}
include lawful sized keeps

theorem handshake_text (set : slotToken.slotIndex ≠ unsetSlotIndex) (named : text ≠ "")
    (room : ringCapacity ≠ 0) (eventfd : Nat) (fits : 31 + (utf8 text).length ≤ ancillaryRecvBuf) :
    handshake toStringLossy lz4 wincode slotToken (utf8 text) ringCapacity eventfd =
      .ok ⟨slotToken, utf8 text, ringCapacity⟩ := by
  simp only [ancillaryRecvBuf] at fits
  have within : (ConnectionReadyShm.mk slotToken text ringCapacity).wire.Within := by
    simp only [WireConnectionReadyShm.Within, ConnectionReadyShm.wire, preallocationSizeLimit]
    omega
  obtain ⟨payload, encoded⟩ := ConnectionReadyShm.encodes lawful within
  obtain ⟨rest, -, decoded⟩ := ConnectionReadyShm.encode_routed lawful lz4 encoded
  have notEmpty : ¬ text.isEmpty = true := by rwa [String.isEmpty_iff]
  rw [if_neg set, if_neg notEmpty, if_neg room] at decoded
  have length := (sized _ _ (serializeWire_ok encoded)).2
    (by simp only [ConnectionReadyShm.wire]; omega)
  simp only [ConnectionReadyShm.wire] at length
  have announced : announceRing toStringLossy wincode slotToken (utf8 text) ringCapacity =
      sendFrameWithFd payload := by
    rw [announceRing, keeps text, encoded, ok_bind]
  rw [handshake, announced, sendFrameWithFd_eq (by omega), ok_bind, adoptRing,
    recvFrameWithFd_delivered (by omega), if_pos (by simp only [ancillaryRecvBuf]; omega),
      ok_bind, decoded]
  rfl

omit lawful in
theorem handshake_cut {payload : Bytes}
    (encoded : (ConnectionReadyShm.mk slotToken text ringCapacity).encode wincode = .ok payload)
    (eventfd : Nat) (long : ancillaryRecvBuf < 31 + (utf8 text).length) :
    ∃ error, handshake toStringLossy lz4 wincode slotToken (utf8 text) ringCapacity eventfd =
      fail error := by
  have least := (sized _ _ (serializeWire_ok encoded)).1
  simp only [ConnectionReadyShm.wire] at least
  rw [handshake, announceRing, keeps text, encoded, ok_bind]
  by_cases small : payload.length < 2 ^ 32
  · refine ⟨ancillaryTooLarge (4 + payload.length) ancillaryRecvBuf, ?_⟩
    rw [sendFrameWithFd_eq small, ok_bind, adoptRing, recvFrameWithFd_delivered small,
      if_neg (by omega)]
    rfl
  · refine ⟨.frameTooLarge payload.length, ?_⟩
    rw [sendFrameWithFd, if_pos (by omega)]
    rfl

end

theorem ringOsPath_ne_nil (shmDir : Bytes) (pid : Nat) (slotIndex : SlotIndex)
    (connectionId : UInt64) : ringOsPath shmDir pid slotIndex connectionId ≠ [] := by
  have named : ∀ front back : List Char, utf8 (String.ofList (front ++ '-' :: back)) ≠ [] := by
    intro front back none
    have same : String.ofList (front ++ '-' :: back) = String.ofList [] := utf8_inj none
    simp at same
  rw [ringOsPath, joinOsPath]
  split
  · exact fun none => named _ _ (List.append_eq_nil_iff.mp none).2
  · simp

-- The loop of `Nat.nextPowerOfTwo` has no lemmas of its own.
open private Nat.nextPowerOfTwo.go from Init.Data.Nat.Power2.Basic

theorem nextPowerOfTwo_go_pow (gap start : Nat) (positive : 2 ^ start > 0) :
    Nat.nextPowerOfTwo.go (2 ^ (start + gap)) (2 ^ start) positive = 2 ^ (start + gap) := by
  induction gap generalizing start with
  | zero =>
      rw [Nat.nextPowerOfTwo.go]
      simp
  | succ gap ih =>
      have below : 2 ^ start < 2 ^ (start + (gap + 1)) :=
        Nat.pow_lt_pow_right (by decide) (by omega)
      have next := ih (start + 1) (Nat.two_pow_pos _)
      rw [Nat.nextPowerOfTwo.go, if_pos below]
      simp only [Nat.pow_succ, Nat.add_right_comm start 1 gap] at next
      exact next

theorem nextPowerOfTwo_pow (exponent : Nat) : Nat.nextPowerOfTwo (2 ^ exponent) = 2 ^ exponent := by
  have whole := nextPowerOfTwo_go_pow exponent 0 (by decide)
  rw [Nat.zero_add] at whole
  exact whole

theorem nextPowerOfTwo_of_checked {capacity : Nat} (checked : checkRingCapacity capacity = .ok ()) :
    Nat.nextPowerOfTwo capacity = capacity := by
  unfold checkRingCapacity fail at checked
  split at checked
  · rename_i power
    rw [power]
    exact nextPowerOfTwo_pow _
  · simp at checked

/--
The consumer opens the ring that was created, under the same token and capacity, exactly when
the ring's path is text and the announcement fits the 1024 bytes of the receive buffer.
-/
theorem handshake_announces_iff (lz4 : Lz4) (wincode : WincodeFormat) (lawful : wincode.Lawful)
    (sized : wincode.ShmSized) (toStringLossy : Bytes → String) (keeps : KeepsText toStringLossy)
    (shmDir : Bytes) (pid : Nat) (slotIndex : SlotIndex) (connectionId : UInt64)
    (capacity eventfd : Nat) (checked : checkRingCapacity capacity = .ok ()) (large : 64 ≤ capacity)
    (word : capacity < 2 ^ 64) :
    let ringPath := ringOsPath shmDir pid slotIndex connectionId
    let token : SlotToken := ⟨UInt8.ofNat slotIndex.val, connectionId⟩
    handshake toStringLossy lz4 wincode token ringPath (UInt64.ofNat capacity) eventfd =
        .ok ⟨token, ringPath, UInt64.ofNat (Nat.nextPowerOfTwo capacity)⟩ ↔
      (∃ text, utf8 text = ringPath) ∧ 31 + ringPath.length ≤ ancillaryRecvBuf := by
  intro ringPath token
  have set : token.slotIndex ≠ unsetSlotIndex := by
    have each : ∀ index : SlotIndex, UInt8.ofNat index.val ≠ unsetSlotIndex := by decide
    exact each slotIndex
  have room : UInt64.ofNat capacity ≠ 0 := by
    intro zero
    have value := congrArg UInt64.toNat zero
    rw [UInt64.toNat_ofNat_of_lt' word] at value
    simp at value
    omega
  rw [nextPowerOfTwo_of_checked checked]
  have named : ∀ text, utf8 text = ringPath → text ≠ "" := by
    rintro text same rfl
    exact ringOsPath_ne_nil _ _ _ _ same.symm
  constructor
  · intro shaken
    obtain ⟨message, -, adopted⟩ := bind_ok shaken
    obtain ⟨text, same : utf8 text = ringPath⟩ := adoptRing_text adopted
    refine ⟨⟨text, same⟩, ?_⟩
    by_contra long
    rw [← same, Nat.not_le] at long
    rw [← same] at shaken
    obtain ⟨message, announced, -⟩ := bind_ok shaken
    obtain ⟨payload, encoded, -⟩ := bind_ok announced
    rw [keeps text] at encoded
    obtain ⟨error, failed⟩ := handshake_cut lz4 sized keeps encoded eventfd long
    rw [shaken] at failed
    simp [fail] at failed
  · rintro ⟨⟨text, same⟩, fits⟩
    rw [← same] at fits ⊢
    exact handshake_text lz4 lawful sized keeps set (named text same) room eventfd fits

/-- `to_string_lossy` on text and on paths where every byte beyond ASCII stands alone. -/
def sampleLossy (path : Bytes) : String :=
  match String.fromUTF8? ⟨path.toArray⟩ with
  | some text => text
  | none =>
    String.ofList (path.map fun byte => if byte < 128 then Char.ofNat byte.toNat else '\uFFFD')

theorem sampleLossy_keepsText : KeepsText sampleLossy := by
  intro text
  have valid : String.fromUTF8? ⟨(utf8 text).toArray⟩ = some text := dif_pos text.isValidUTF8
  simp [sampleLossy, valid]

theorem defaultWincode_shmSized : defaultWincode.ShmSized := by
  intro wire bytes written
  obtain rfl := Except.ok.inj written
  have fields :
      (readyShmCode.write wire).length = 3 + 8 + ((string.write wire.ringPath).length + 8) := by
    simp [readyShmCode, imap, pair, tokenCode, byte, u64, block]
    omega
  obtain ⟨least, exact'⟩ := string_write_length wire.ringPath
  rw [fields]
  exact ⟨by omega, fun short => by rw [exact' short]; omega⟩

theorem handshake_announces_text :
    let ringPath := ringOsPath (utf8 "/dev/shm/qlaster") 4242 (3 : Fin 10) 17
    handshake sampleLossy literalLz4 defaultWincode ⟨3, 17⟩ ringPath 1048576 5 =
      .ok ⟨⟨3, 17⟩, ringPath, UInt64.ofNat (Nat.nextPowerOfTwo 1048576)⟩ :=
  (handshake_announces_iff literalLz4 defaultWincode defaultWincode_lawful defaultWincode_shmSized
    sampleLossy sampleLossy_keepsText (utf8 "/dev/shm/qlaster") 4242 (3 : Fin 10) 17 1048576 5
      (by decide +kernel) (by decide)
    (by decide)).mpr ⟨⟨"/dev/shm/qlaster/4242-3-17", by decide +kernel⟩, by decide +kernel⟩

theorem utf8_length_le (chars : List Char) :
    (utf8 (String.ofList chars)).length ≤ 4 * chars.length := by
  induction chars with
  | nil => simp [utf8]
  | cons char chars ih =>
      have one : (utf8 (String.ofList [char])).length ≤ 4 := by
        have bytes : utf8 (String.ofList [char]) = String.utf8EncodeChar char := by
          simp [utf8, List.utf8Encode]
        rw [bytes, String.utf8EncodeChar]
        repeat' split
        all_goals simp
      rw [← List.singleton_append, utf8_append, List.length_append, List.length_append,
        List.length_singleton]
      omega

theorem Sender.ringPath_length_le (sender : Sender) (slotIndex : SlotIndex)
    (connectionId : UInt64) : (sender.ringPath slotIndex connectionId).length ≤
      sender.shmDir.length + 4 * (Nat.toDigits 10 sender.pid).length + 93 := by
  have index := Nat.toDigits_length 10 slotIndex.val 1 (by decide) slotIndex.isLt
  have id := Nat.toDigits_length 10 connectionId.toNat 20 (by decide)
    (Nat.lt_of_lt_of_le connectionId.toNat_lt (by decide))
  have name := utf8_length_le (Nat.toDigits 10 sender.pid ++ '-' :: Nat.toDigits 10 slotIndex.val ++
    '-' :: Nat.toDigits 10 connectionId.toNat)
  simp only [List.length_append, List.length_cons] at name
  simp only [Sender.ringPath, ringOsPath, joinOsPath]
  split <;> simp only [List.length_append, List.length_cons] <;> omega

def deepDir : Path := (List.replicate 4 (47 :: List.replicate 249 97)).flatten

/-- In a directory that deep the setup fails, in one whose name is not text another path is opened.
-/
theorem handshake_misannounces :
    (∃ error, handshake sampleLossy literalLz4 defaultWincode ⟨0, 1⟩
        (ringOsPath deepDir 1 (0 : Fin 10) 1) 64 5 = fail error) ∧
      handshake sampleLossy literalLz4 defaultWincode ⟨0, 1⟩ (ringOsPath [47, 255] 1 (0 : Fin 10) 1)
        64 5 = .ok ⟨⟨0, 1⟩, [47, 239, 191, 189, 47, 49, 45, 48, 45, 49], 64⟩ ∧
      ringOsPath [47, 255] 1 (0 : Fin 10) 1 = [47, 255, 47, 49, 45, 48, 45, 49] := by
  refine ⟨?_, ?_, ?_⟩
  · have dir : utf8 (String.ofList (List.replicate 4 ('/' :: List.replicate 249 'a')).flatten) =
      deepDir := by
      decide +kernel
    obtain ⟨text, same⟩ := ringOsPath_text
      (String.ofList (List.replicate 4 ('/' :: List.replicate 249 'a')).flatten) 1 (0 : Fin 10) 1
    have length : (utf8 text).length = 1006 := by
      rw [same, dir]
      decide +kernel
    rw [← dir, ← same]
    obtain ⟨payload, encoded⟩ : ∃ payload,
        (ConnectionReadyShm.mk ⟨0, 1⟩ text 64).encode defaultWincode = .ok payload := ⟨_, rfl⟩
    exact handshake_cut literalLz4 defaultWincode_shmSized sampleLossy_keepsText encoded 5
      (by simp only [ancillaryRecvBuf]; omega)
  · decide +kernel
  · decide +kernel

end Qlaster
