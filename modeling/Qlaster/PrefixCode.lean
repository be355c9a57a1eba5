import Mathlib.Data.List.TakeWhile
import Qlaster.LittleEndian

/-!
Self-delimiting binary codes: reading what was written gives the value back and leaves
what follows. Numbers are little-endian, sequences carry their length in front.
-/

open LittleEndian

structure PrefixCode (α : Type) where
  write : α → List UInt8
  read : List UInt8 → Option (α × List UInt8)
  read_write : ∀ value rest, read (write value ++ rest) = some (value, rest)

namespace PrefixCode

variable {α β : Type}

def byte : PrefixCode UInt8 where
  write value := [value]
  read
    | [] => none
    | value :: rest => some (value, rest)
  read_write _ _ := rfl

def block (size : Nat) : PrefixCode { bytes : List UInt8 // bytes.length = size } where
  write value := value.val
  read input := if sized :
    (input.take size).length = size then some (⟨_, sized⟩, input.drop size) else none
  read_write value rest := by
    obtain ⟨bytes, rfl⟩ := value
    simp

/-- One code for a type that another embeds into. -/
def imap (code : PrefixCode α) (wrap : α → β) (unwrap : β → α)
    (undo : ∀ value, wrap (unwrap value) = value) : PrefixCode β where
  write value := code.write (unwrap value)
  read input := (code.read input).map fun (value, rest) => (wrap value, rest)
  read_write value rest := by simp [code.read_write, undo]

def pair (first : PrefixCode α) (second : PrefixCode β) : PrefixCode (α × β) where
  write value := first.write value.1 ++ second.write value.2
  read input := do
    let (left, input) ← first.read input
    let (right, input) ← second.read input
    return ((left, right), input)
  read_write value rest := by simp [first.read_write, second.read_write]

def u64 : PrefixCode UInt64 :=
  (block 8).imap (fun bytes => u64FromLeBytes bytes.val)
  (fun value => ⟨u64ToLeBytes value, by simp⟩)
    fun value => by simp

def bool : PrefixCode Bool where
  write value := [if value then 1 else 0]
  read
    | [] => none
    | value :: rest =>
        if value = 0 then some (false, rest) else if value = 1 then some (true, rest) else none
  read_write value rest := by cases value <;> rfl

/-- Eight bytes for every length that a value in memory can have; longer ones are counted out. -/
def length : PrefixCode Nat where
  write value :=
    if value < 2 ^ 63 then bytesOf 8 value
    else List.replicate 8 255 ++ (List.replicate value 0 ++ [1])
  read input :=
    if (input.take 8).length = 8 then
      if valueOf (input.take 8) < 2 ^ 63 then some (valueOf (input.take 8), input.drop 8)
      else
        let count := ((input.drop 8).takeWhile (· == 0)).length
        some (count, (input.drop 8).drop (count + 1))
    else none
  read_write value rest := by
    split
    · rename_i short
      have read : valueOf (bytesOf 8 value) = value := by
        rw [valueOf_bytesOf, Nat.mod_eq_of_lt (by omega)]
      have front : (bytesOf 8 value ++ rest).take 8 = bytesOf 8 value := List.take_left' (by simp)
      have behind : (bytesOf 8 value ++ rest).drop 8 = rest := List.drop_left' (by simp)
      rw [front, behind, read, if_pos (by simp), if_pos short]
    · have front : (List.replicate 8 255 ++ (List.replicate value 0 ++ [1]) ++ rest).take 8 =
          List.replicate 8 (255 : UInt8) := by
        rw [List.append_assoc]
        exact List.take_left' (by simp)
      have behind : (List.replicate 8 255 ++ (List.replicate value 0 ++ [1]) ++ rest).drop 8 =
          List.replicate value (0 : UInt8) ++ 1 :: rest := by
        rw [List.append_assoc, List.drop_left' (by simp)]
        simp
      have large : ¬ valueOf (List.replicate 8 (255 : UInt8)) < 2 ^ 63 := by decide
      have zeros : (List.replicate value (0 : UInt8) ++ 1 :: rest).takeWhile (· == 0) =
          List.replicate value 0 := by
        rw [List.takeWhile_append_of_pos (by simp)]
        simp
      have skipped : (List.replicate value (0 : UInt8) ++ 1 :: rest).drop (value + 1) = rest := by
        rw [← List.drop_drop, List.drop_left' (by simp)]
        rfl
      simp only [front, behind, zeros, large, List.length_replicate, skipped, if_true, if_false]

theorem length_write {value : Nat} (short : value < 2 ^ 63) :
    length.write value = bytesOf 8 value :=
  if_pos short

theorem length_write_ge (value : Nat) : 8 ≤ (length.write value).length := by
  simp only [length]
  split
  · simp
  · simp

def readAll (code : PrefixCode α) : Nat → List UInt8 → Option (List α × List UInt8)
  | 0, input => some ([], input)
  | count + 1, input => do
      let (value, input) ← code.read input
      let (values, input) ← readAll code count input
      return (value :: values, input)

theorem readAll_write (code : PrefixCode α) (values : List α) (rest : List UInt8) :
    readAll code values.length (values.flatMap code.write ++ rest) = some (values, rest) := by
  induction values with
  | nil => rfl
  | cons value values ih =>
      simp only [List.length_cons, List.flatMap_cons, List.append_assoc, readAll, code.read_write,
        Option.bind_eq_bind, Option.bind_some, ih]
      rfl

def list (code : PrefixCode α) : PrefixCode (List α) where
  write values := length.write values.length ++ values.flatMap code.write
  read input := do
    let (count, input) ← length.read input
    readAll code count input
  read_write values rest := by
    simp only [List.append_assoc, length.read_write, Option.bind_eq_bind, Option.bind_some,
      readAll_write]

def utf8 (text : String) : List UInt8 := text.toByteArray.data.toList

theorem utf8_inj {text text' : String} (same : utf8 text = utf8 text') : text = text' := by
  refine String.toByteArray_inj.mp (ByteArray.ext ?_)
  exact Array.toList_inj.mp same

def string : PrefixCode String where
  write text := byte.list.write (utf8 text)
  read input := do
    let (bytes, input) ← byte.list.read input
    let text ← String.fromUTF8? ⟨bytes.toArray⟩
    return (text, input)
  read_write text rest := by
    have valid : String.fromUTF8? ⟨(utf8 text).toArray⟩ = some text := dif_pos text.isValidUTF8
    simp [byte.list.read_write, valid]

theorem string_write_length (text : String) : 8 + (utf8 text).length ≤ (string.write text).length ∧
    ((utf8 text).length < 2 ^ 63 → (string.write text).length = 8 + (utf8 text).length) := by
  have copied : (utf8 text).flatMap byte.write = utf8 text := List.flatMap_singleton' _
  simp only [string, list, copied, List.length_append]
  refine ⟨Nat.add_le_add_right (length_write_ge _) _, fun short => ?_⟩
  rw [length_write short, bytesOf_length]

end PrefixCode
