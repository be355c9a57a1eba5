import Qlaster.Link
import Qlaster.StreamCore

/-!
Frames in a stream. How a stream is cut into pieces does not matter to `read_framed`, which is
a parser of the bytes; the parser takes apart what `write_framed` puts together.
-/

namespace Qlaster

open Interleaving LittleEndian

/-! `read_exact`, whatever the pieces. -/

theorem fill_result (chunks : List Bytes) (room : Nat) :
    (fill chunks room).1 =
      if room ≤ chunks.flatten.length then .ok (chunks.flatten.take room) else .error
        .unexpectedEof := by
  induction chunks generalizing room with
  | nil => cases room <;> simp [fill]
  | cons chunk rest ih =>
      cases room with
      | zero => simp [fill]
      | succ room =>
          simp only [fill, List.flatten_cons, List.length_append]
          by_cases more : room + 1 < chunk.length
          · rw [if_pos more, if_pos (by omega), List.take_append_of_le_length (by omega)]
          · rw [if_neg more]
            simp only [ih]
            by_cases enough : room + 1 - chunk.length ≤ rest.flatten.length
            · rw [if_pos enough, if_pos (by omega), List.take_append,
                List.take_of_length_le (by omega : chunk.length ≤ room + 1)]
              rfl
            · rw [if_neg enough, if_neg (by omega)]
              rfl

theorem fill_left (chunks : List Bytes) (room : Nat) :
    (fill chunks room).2.flatten = chunks.flatten.drop room := by
  induction chunks generalizing room with
  | nil => cases room <;> simp [fill]
  | cons chunk rest ih =>
      cases room with
      | zero => simp [fill]
      | succ room =>
          simp only [fill, List.flatten_cons]
          by_cases more : room + 1 < chunk.length
          · rw [if_pos more, List.drop_append_of_le_length (by omega)]
            rfl
          · rw [if_neg more]
            simp only [ih]
            rw [List.drop_append, List.drop_eq_nil_of_le (by omega : chunk.length ≤ room + 1),
              List.nil_append]

theorem ByteStream.readExact_result (stream : ByteStream) (count : Nat) :
    (stream.readExact count).1 =
      if count ≤ stream.bytes.length then .ok (stream.bytes.take count) else .error
        .unexpectedEof :=
  fill_result stream.chunks count

theorem ByteStream.readExact_left (stream : ByteStream) (count : Nat) :
    (stream.readExact count).2.bytes = stream.bytes.drop count :=
  fill_left stream.chunks count

theorem Link.readExact_stream (link : Link) (side : Side) (choice : ControlChoice)
    (files : List Path)
    (sound : link.health side = .sound) (left : (link.incoming side).closed = true)
    (stream : ByteStream) (same : stream.bytes = (link.incoming side).unread) (count : Nat) :
    ∃ after, link.exec choice files (.readExact side count) = some
      ((stream.readExact count).1, after) ∧ ((stream.readExact count).1.isOk = true →
        (after.incoming side).unread = (stream.readExact count).2.bytes) := by
  rw [stream.readExact_result, stream.readExact_left, same]
  simp only [Link.exec, sound, ne_eq, not_true_eq_false, if_false]
  by_cases enough : count ≤ (link.incoming side).unread.length
  · simp only [enough, if_true]
    refine ⟨_, rfl, fun _ => ?_⟩
    cases side <;> simp [Link.take, Link.incoming, Pipe.unread]
  · simp only [enough, if_false, left, if_true]
    exact ⟨_, rfl, fun ok => by simp [Except.isOk, Except.toBool] at ok⟩

/-! `read_framed` as a parser. -/

/-- The result of `read_framed` on these bytes, and what it leaves of them. -/
def parseFrame (bytes : Bytes) : Except QlasterError Bytes × Bytes :=
  if 4 ≤ bytes.length then
    let size := (u32FromLeBytes (bytes.take 4)).toNat
    if maxFrameSize < size then (.error (.frameTooLarge size), bytes.drop 4)
    else if size ≤ (bytes.drop 4).length then (.ok ((bytes.drop 4).take size),
      (bytes.drop 4).drop size)
    else (.error (.io .unexpectedEof), [])
  else (.error (.io .unexpectedEof), [])

def parseFrames : Nat → Bytes → List (Except QlasterError Bytes) × Bytes
  | 0, bytes => ([], bytes)
  | calls + 1, bytes =>
      let rest := parseFrames calls (parseFrame bytes).2
      ((parseFrame bytes).1 :: rest.1, rest.2)

theorem readFramed_eval (side : Side) (wire : Wire) :
    ∃ input, (readFramed side).eval Wire.exec wire =
        some ((parseFrame wire.input.bytes).1, { wire with input := input }) ∧
      input.bytes = (parseFrame wire.input.bytes).2 := by
  simp only [readFramed, attempt, call, Program.eval_bind, Program.perform, Program.eval, Wire.exec,
    Option.bind_some, ByteStream.readExact_result, parseFrame]
  by_cases header : 4 ≤ wire.input.bytes.length
  · simp only [header, if_true, Except.mapError]
    by_cases large : maxFrameSize < (u32FromLeBytes (wire.input.bytes.take 4)).toNat
    · simp only [large, if_true, Program.eval]
      exact ⟨_, rfl, ByteStream.readExact_left _ _⟩
    · simp only [large, if_false, Program.eval_bind, Program.eval, Wire.exec, Option.bind_some,
        ByteStream.readExact_result, ByteStream.readExact_left]
      by_cases whole :
        (u32FromLeBytes (wire.input.bytes.take 4)).toNat ≤ (wire.input.bytes.drop 4).length
      · simp only [whole, if_true]
        refine ⟨_, rfl, ?_⟩
        rw [ByteStream.readExact_left, ByteStream.readExact_left]
      · simp only [whole, if_false]
        refine ⟨_, rfl, ?_⟩
        rw [ByteStream.readExact_left, ByteStream.readExact_left, List.drop_eq_nil_of_le (by omega)]
  · simp only [header, if_false, Except.mapError, Program.eval]
    refine ⟨_, rfl, ?_⟩
    rw [ByteStream.readExact_left, List.drop_eq_nil_of_le (by omega)]

theorem readFrames_eval (calls : Nat) (wire : Wire) :
    ∃ input, (readFrames calls).eval Wire.exec wire =
        some ((parseFrames calls wire.input.bytes).1, { wire with input := input }) ∧
      input.bytes = (parseFrames calls wire.input.bytes).2 := by
  induction calls generalizing wire with
  | zero => exact ⟨wire.input, rfl, rfl⟩
  | succ calls ih =>
      obtain ⟨middle, first, left⟩ := readFramed_eval .server wire
      obtain ⟨input, rest, last⟩ := ih { wire with input := middle }
      simp only [left] at rest last
      refine ⟨input, ?_, last⟩
      simp only [readFrames, Program.bind_eq, Program.pure_eq, Program.eval_bind, first, rest,
        Program.eval, Option.bind_some, parseFrames]

/-! The parser on what was written. -/

theorem frame_take (payload rest : Bytes) :
    (frameBytes payload ++ rest).take 4 = frameHeader payload := by
  rw [frameBytes, List.append_assoc, List.take_append_of_le_length (by simp),
    List.take_of_length_le (by simp)]

theorem frame_drop (payload rest : Bytes) :
    (frameBytes payload ++ rest).drop 4 = payload ++ rest := by
  rw [frameBytes, List.append_assoc, List.drop_append, List.drop_eq_nil_of_le (by simp),
    frameHeader_length, Nat.sub_self, List.drop_zero, List.nil_append]

theorem parseFrame_frame {payload : Bytes} (small : payload.length ≤ maxFrameSize) (rest : Bytes) :
    parseFrame (frameBytes payload ++ rest) = (.ok payload, rest) := by
  have header : 4 ≤ (frameBytes payload ++ rest).length := by
    rw [List.length_append, frameBytes_length]
    omega
  have size : (u32FromLeBytes (frameHeader payload)).toNat = payload.length :=
    frameHeader_size (by simp only [maxFrameSize] at small; omega)
  simp only [parseFrame, frame_take, frame_drop, size]
  rw [if_pos header, if_neg (by omega), if_pos (by simp), List.take_left, List.drop_left]

theorem parseFrame_large {payload : Bytes} (large : maxFrameSize < payload.length)
    (fits : payload.length < 2 ^ 32) (rest : Bytes) :
    parseFrame (frameBytes payload ++ rest) =
      (.error (.frameTooLarge payload.length), payload ++ rest) := by
  have header : 4 ≤ (frameBytes payload ++ rest).length := by
    rw [List.length_append, frameBytes_length]
    omega
  simp only [parseFrame, frame_take, frame_drop, frameHeader_size fits]
  rw [if_pos header, if_pos large]

theorem parseFrame_short {payload cut : Bytes} (small : payload.length ≤ maxFrameSize)
    (begins : cut <+: frameBytes payload) (short : cut.length < 4 + payload.length) :
    parseFrame cut = (.error (.io .unexpectedEof), []) := by
  unfold parseFrame
  split
  · rename_i header
    obtain ⟨tail, whole⟩ := begins
    have front : cut.take 4 = frameHeader payload := by
      have same := congrArg (List.take 4) whole
      rw [List.take_append_of_le_length header, ← List.append_nil (frameBytes payload),
        frame_take] at same
      exact same
    have size : (u32FromLeBytes (frameHeader payload)).toNat = payload.length :=
      frameHeader_size (by simp only [maxFrameSize] at small; omega)
    simp only [front, size]
    rw [if_neg (by omega), if_neg (by rw [List.length_drop]; omega)]
  · rfl

theorem parseFrames_frames {payloads : List Bytes}
    (small : ∀ payload ∈ payloads, payload.length ≤ maxFrameSize) (trailing : Bytes) :
    parseFrames payloads.length (framesBytes payloads ++ trailing) =
      (payloads.map .ok, trailing) := by
  induction payloads with
  | nil => rfl
  | cons payload rest ih =>
      have first := parseFrame_frame (small payload (List.mem_cons_self ..))
        (framesBytes rest ++ trailing)
      have others := ih fun other member => small other (List.mem_cons_of_mem _ member)
      rw [framesBytes_cons, List.append_assoc, List.length_cons, parseFrames, first]
      simp only [others, List.map_cons]

/-- How many of the frames are complete in the first bytes of their concatenation. -/
structure CompleteIn (payloads : List Bytes) (cut : Bytes) (count : Nat) : Prop where
  listed : count ≤ payloads.length
  complete : (framesBytes (payloads.take count)).length ≤ cut.length
  most : ∀ more, more ≤ payloads.length → (framesBytes (payloads.take more)).length ≤ cut.length →
    more ≤ count

theorem parseFrames_cut {payloads : List Bytes}
    (small : ∀ payload ∈ payloads, payload.length ≤ maxFrameSize)
    {cut : Bytes} (begins : cut <+: framesBytes payloads) (strict : cut ≠ framesBytes payloads) :
    ∃ count, CompleteIn payloads cut count ∧ parseFrames (count + 1) cut =
      ((payloads.take count).map .ok ++ [.error (.io .unexpectedEof)], []) := by
  induction payloads generalizing cut with
  | nil => exact absurd (List.prefix_nil.mp begins) strict
  | cons payload rest ih =>
      rw [framesBytes_cons] at begins strict
      have fits := small payload (List.mem_cons_self ..)
      by_cases whole : 4 + payload.length ≤ cut.length
      · -- The first frame is complete: what follows it is cut from the frames of the rest.
        have first : frameBytes payload <+: cut :=
          List.prefix_of_prefix_length_le (List.prefix_append _ _) begins
            (by rwa [frameBytes_length])
        obtain ⟨later, rfl⟩ := first
        have begins' : later <+: framesBytes rest := (List.prefix_append_right_inj _).mp begins
        have strict' : later ≠ framesBytes rest := fun same => strict (by rw [same])
        obtain ⟨count, complete, parsed⟩ :=
          ih (fun other member => small other (List.mem_cons_of_mem _ member)) begins' strict'
        refine ⟨count + 1, ⟨?_, ?_, ?_⟩, ?_⟩
        · rw [List.length_cons]
          exact Nat.succ_le_succ complete.listed
        · rw [List.take_succ_cons, framesBytes_cons, List.length_append, List.length_append]
          exact Nat.add_le_add_left complete.complete _
        · intro more listed within
          cases more with
          | zero => omega
          | succ more =>
              rw [List.take_succ_cons, framesBytes_cons, List.length_append,
                List.length_append] at within
              rw [List.length_cons] at listed
              have bound := complete.most more (by omega) (by omega)
              omega
        · rw [parseFrames, parseFrame_frame fits]
          simp only [parsed, List.take_succ_cons, List.map_cons, List.cons_append]
      · have inside : cut <+: frameBytes payload :=
          List.prefix_of_prefix_length_le begins (List.prefix_append _ _)
            (by rw [frameBytes_length]; omega)
        refine ⟨0, ⟨Nat.zero_le _, by simp, ?_⟩, ?_⟩
        · intro more listed within
          cases more with
          | zero => omega
          | succ more =>
              rw [List.take_succ_cons, framesBytes_cons, List.length_append,
                frameBytes_length] at within
              omega
        · simp only [parseFrames, parseFrame_short fits inside (by omega), List.take_zero,
            List.map_nil, List.nil_append]

/-! The writer. -/

theorem writeFramed_eval {payload : Bytes} (fits : payload.length < 2 ^ 32) (wire : Wire) :
    (writeFramed .client payload (.sending payload)).eval Wire.exec wire =
      some (.ok (), { wire with output := wire.output ++ frameBytes payload }) := by
  rw [writeFramed, if_neg (by omega)]
  simp only [Program.bind_eq, attempt, call, Program.eval_bind, Program.perform,
    Program.eval, Wire.exec, Option.bind_some, Except.mapError, frameBytes, List.append_assoc]

theorem writeFrames_eval {payloads : List Bytes}
    (fits : ∀ payload ∈ payloads, payload.length < 2 ^ 32) (wire : Wire) :
    (writeFrames payloads).eval Wire.exec wire =
      some (payloads.map fun _ => .ok (),
        { wire with output := wire.output ++ framesBytes payloads }) := by
  induction payloads generalizing wire with
  | nil => simp [writeFrames, Program.eval]
  | cons payload rest ih =>
      have first := writeFramed_eval (fits payload (List.mem_cons_self ..)) wire
      have others := ih (fun other member => fits other (List.mem_cons_of_mem _ member))
        { wire with output := wire.output ++ frameBytes payload }
      simp only [writeFrames, Program.bind_eq, Program.pure_eq, Program.eval_bind, first, others,
        Program.eval, Option.bind_some, framesBytes_cons, List.append_assoc, List.map_cons]

/-- What `write_framed` has written, `read_framed` reads back, frame by frame and however the
bytes come; where they end early it says so, and a frame that is too large is left unread. -/
theorem framing_unambiguous {payloads : List Bytes}
    (small : ∀ payload ∈ payloads, payload.length ≤ maxFrameSize) :
    (∀ wire : Wire, (writeFrames payloads).eval Wire.exec wire =
      some (payloads.map fun _ => .ok (),
        { wire with output := wire.output ++ framesBytes payloads })) ∧
    (∀ (trailing : Bytes) (wire : Wire), wire.input.bytes = framesBytes payloads ++ trailing →
      ∃ rest : ByteStream, rest.bytes = trailing ∧
        (readFrames payloads.length).eval Wire.exec wire =
        some (payloads.map .ok, { wire with input := rest })) ∧
    (∀ cut : Bytes, cut <+: framesBytes payloads → cut ≠ framesBytes payloads →
      ∀ wire : Wire, wire.input.bytes = cut → ∃ count rest, CompleteIn payloads cut count ∧
        (readFrames (count + 1)).eval Wire.exec wire =
          some ((payloads.take count).map .ok ++ [.error (.io .unexpectedEof)],
            { wire with input := rest })) ∧
    ∀ payload : Bytes, maxFrameSize < payload.length → payload.length ≤ 2 ^ 32 - 1 →
      (∀ wire : Wire, (writeFramed .client payload (.sending payload)).eval Wire.exec wire =
        some (.ok (), { wire with output := wire.output ++ frameBytes payload })) ∧
      ∀ (trailing : Bytes) (wire : Wire), wire.input.bytes = frameBytes payload ++ trailing →
        ∃ rest : ByteStream, rest.bytes = payload ++ trailing ∧
          (readFramed .server).eval Wire.exec wire =
          some (.error (.frameTooLarge payload.length), { wire with input := rest }) := by
  refine ⟨fun wire => writeFrames_eval ?_ wire, ?_, ?_, ?_⟩
  · intro payload member
    have bound := small payload member
    simp only [maxFrameSize] at bound
    omega
  · intro trailing wire bytes
    obtain ⟨rest, read, left⟩ := readFrames_eval payloads.length wire
    rw [bytes, parseFrames_frames small] at read left
    exact ⟨rest, left, read⟩
  · intro cut begins strict wire bytes
    obtain ⟨count, complete, parsed⟩ := parseFrames_cut small begins strict
    obtain ⟨rest, read, _⟩ := readFrames_eval (count + 1) wire
    rw [bytes, parsed] at read
    exact ⟨count, rest, complete, read⟩
  · intro payload large fits
    have below : payload.length < 2 ^ 32 := by omega
    refine ⟨writeFramed_eval below, ?_⟩
    intro trailing wire bytes
    obtain ⟨rest, read, left⟩ := readFramed_eval .server wire
    rw [bytes, parseFrame_large large below] at read left
    exact ⟨rest, left, read⟩

def ByteStream.trickle (bytes : Bytes) : ByteStream where
  chunks := bytes.map fun byte => [byte]
  filled := by simp

theorem ByteStream.trickle_bytes (bytes : Bytes) : (ByteStream.trickle bytes).bytes = bytes := by
  simp only [trickle, ByteStream.bytes]
  induction bytes with
  | nil => rfl
  | cons byte rest ih => rw [List.map_cons, List.flatten_cons, ih, List.singleton_append]

-- A stream that ends in the header of its second frame, and one whose frame is a byte too large.
theorem framing_unambiguous_cut :
    (∃ count rest, CompleteIn [[104, 105], []] [2, 0, 0, 0, 104, 105, 0, 0] count ∧
      (readFrames (count + 1)).eval Wire.exec ⟨.trickle [2, 0, 0, 0, 104, 105, 0, 0], []⟩ =
        some (([[104, 105], []].take count).map .ok ++ [.error (.io .unexpectedEof)], ⟨rest, []⟩)) ∧
    ∃ rest : ByteStream, rest.bytes = List.replicate (maxFrameSize + 1) 0 ++ [7] ∧
      (readFramed .server).eval Wire.exec
        ⟨.trickle (frameBytes (List.replicate (maxFrameSize + 1) 0) ++ [7]), []⟩ =
          some (.error (.frameTooLarge (maxFrameSize + 1)), ⟨rest, []⟩) := by
  have small : ∀ payload ∈ ([[104, 105], []] : List Bytes),
    payload.length ≤ maxFrameSize := by decide
  obtain ⟨_, _, cuts, larger⟩ := framing_unambiguous small
  refine ⟨cuts _ (by decide) (by decide) _ (by decide), ?_⟩
  have length : (List.replicate (maxFrameSize + 1) (0 : UInt8)).length = maxFrameSize + 1 :=
    List.length_replicate
  have large : maxFrameSize < (List.replicate (maxFrameSize + 1) (0 : UInt8)).length := by omega
  have fits : (List.replicate (maxFrameSize + 1) (0 : UInt8)).length ≤ 2 ^ 32 - 1 := by
    rw [length, maxFrameSize]
    omega
  have refused := (larger _ large fits).2 [7] ⟨.trickle _, []⟩ (ByteStream.trickle_bytes _)
  rwa [length] at refused

end Qlaster
