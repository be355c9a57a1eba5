import Qlaster.LinkCore

/-!
`wire.rs` on any stream. An `AsyncRead` gives its bytes in pieces of its own choosing, and a
poll that gives none is the end.
-/

namespace Qlaster

open Interleaving

/-- What a stream has left to give, piece by piece. -/
structure ByteStream where
  chunks : List Bytes
  filled : ∀ chunk ∈ chunks, chunk ≠ []

def ByteStream.bytes (stream : ByteStream) : Bytes := stream.chunks.flatten

/-- The loop of `read_exact`: a buffer with no room left is not polled for. -/
def fill : List Bytes → Nat → Except IoErrorKind Bytes × List Bytes
  | chunks, 0 => (.ok [], chunks)
  | [], _ + 1 => (.error .unexpectedEof, [])
  | chunk :: rest, room + 1 =>
      if room + 1 < chunk.length then (.ok (chunk.take (room + 1)), chunk.drop (room + 1) :: rest)
      else
        let (result, left) := fill rest (room + 1 - chunk.length)
        (result.map (chunk ++ ·), left)

theorem fill_filled (chunks : List Bytes) (room : Nat) (filled : ∀ chunk ∈ chunks, chunk ≠ []) :
    ∀ chunk ∈ (fill chunks room).2, chunk ≠ [] := by
  induction chunks generalizing room with
  | nil => cases room <;> simp [fill]
  | cons chunk rest ih =>
      cases room with
      | zero => exact filled
      | succ room =>
          simp only [fill]
          split
          · rename_i more
            intro other member
            rcases List.mem_cons.mp member with rfl | later
            · intro empty
              have length := congrArg List.length empty
              rw [List.length_drop, List.length_nil] at length
              omega
            · exact filled other (List.mem_cons_of_mem _ later)
          · exact ih _ fun other member => filled other (List.mem_cons_of_mem _ member)

def ByteStream.readExact (stream : ByteStream) (count : Nat) :
    Except IoErrorKind Bytes × ByteStream :=
  ((fill stream.chunks count).1, ⟨(fill stream.chunks count).2, fill_filled _ _ stream.filled⟩)

/-- A reader's stream and what a writer has written. -/
structure Wire where
  input : ByteStream
  output : Bytes

def Wire.exec : {β : Type} → LinkOp β → Wire → Option (β × Wire)
  | _, .readExact _ count, wire =>
      let (result, input) := wire.input.readExact count
      some (result, { wire with input := input })
  | _, .writeAll _ bytes, wire => some (.ok (), { wire with output := wire.output ++ bytes })
  | _, .note _, wire => some ((), wire)
  | _, _, _ => none

def readFrames : Nat → Program LinkOp (List (Except QlasterError Bytes))
  | 0 => return []
  | calls + 1 => do
      let first ← readFramed .server
      let rest ← readFrames calls
      return first :: rest

def writeFrames : List Bytes → Program LinkOp (List (Except QlasterError Unit))
  | [] => return []
  | payload :: payloads => do
      let first ← writeFramed .client payload (.sending payload)
      let rest ← writeFrames payloads
      return first :: rest

end Qlaster
