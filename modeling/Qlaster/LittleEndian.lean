import Mathlib.Data.Nat.ModEq
import Mathlib.Tactic.Ring

/-! Little-endian byte strings of fixed width, as `to_le_bytes` and `from_le_bytes` produce them. -/

namespace LittleEndian

def bytesOf : Nat → Nat → List UInt8
  | 0, _ => []
  | width + 1, value => UInt8.ofNat value :: bytesOf width (value / 256)

def valueOf : List UInt8 → Nat
  | [] => 0
  | byte :: rest => byte.toNat + 256 * valueOf rest

@[simp] theorem bytesOf_length (width value : Nat) : (bytesOf width value).length = width := by
  induction width generalizing value with
  | zero => rfl
  | succ width ih => simp [bytesOf, ih]

theorem valueOf_lt (bytes : List UInt8) : valueOf bytes < 256 ^ bytes.length := by
  induction bytes with
  | nil => simp [valueOf]
  | cons byte rest ih =>
      have first : byte.toNat < 256 := byte.toNat_lt
      simp only [valueOf, List.length_cons, Nat.pow_succ]
      omega

theorem valueOf_bytesOf (width value : Nat) :
    valueOf (bytesOf width value) = value % 256 ^ width := by
  induction width generalizing value with
  | zero => simp [bytesOf, valueOf, Nat.mod_one]
  | succ width ih =>
      have first : (UInt8.ofNat value).toNat = value % 256 := UInt8.toNat_ofNat'
      simp only [bytesOf, valueOf, first, ih]
      rw [Nat.pow_succ, Nat.mul_comm (256 ^ width) 256, Nat.mod_mul]

theorem bytesOf_valueOf (bytes : List UInt8) : bytesOf bytes.length (valueOf bytes) = bytes := by
  induction bytes with
  | nil => rfl
  | cons byte rest ih =>
      have first : byte.toNat < 256 := byte.toNat_lt
      have head : UInt8.ofNat (byte.toNat + 256 * valueOf rest) = byte := by
        apply UInt8.toNat_inj.mp
        rw [UInt8.toNat_ofNat']
        omega
      have tail : (byte.toNat + 256 * valueOf rest) / 256 = valueOf rest := by omega
      simp only [valueOf, List.length_cons, bytesOf, head, tail, ih]

def u32ToLeBytes (value : UInt32) : List UInt8 := bytesOf 4 value.toNat

def u32FromLeBytes (bytes : List UInt8) : UInt32 := UInt32.ofNat (valueOf bytes)

def u64ToLeBytes (value : UInt64) : List UInt8 := bytesOf 8 value.toNat

def u64FromLeBytes (bytes : List UInt8) : UInt64 := UInt64.ofNat (valueOf bytes)

@[simp] theorem u32ToLeBytes_length (value : UInt32) : (u32ToLeBytes value).length = 4 :=
  bytesOf_length 4 _

@[simp] theorem u64ToLeBytes_length (value : UInt64) : (u64ToLeBytes value).length = 8 :=
  bytesOf_length 8 _

@[simp] theorem u32FromLeBytes_toLeBytes (value : UInt32) :
    u32FromLeBytes (u32ToLeBytes value) = value := by
  have bound : value.toNat < 256 ^ 4 := value.toNat_lt
  rw [u32FromLeBytes, u32ToLeBytes, valueOf_bytesOf, Nat.mod_eq_of_lt bound]
  exact UInt32.ofNat_toNat

@[simp] theorem u64FromLeBytes_toLeBytes (value : UInt64) :
    u64FromLeBytes (u64ToLeBytes value) = value := by
  have bound : value.toNat < 256 ^ 8 := value.toNat_lt
  rw [u64FromLeBytes, u64ToLeBytes, valueOf_bytesOf, Nat.mod_eq_of_lt bound]
  exact UInt64.ofNat_toNat

theorem u32ToLeBytes_fromLeBytes {bytes : List UInt8} (length : bytes.length = 4) :
    u32ToLeBytes (u32FromLeBytes bytes) = bytes := by
  have bound : valueOf bytes < 2 ^ 32 := by
    have := valueOf_lt bytes
    rw [length] at this
    exact this
  have same := bytesOf_valueOf bytes
  rw [length] at same
  rw [u32ToLeBytes, u32FromLeBytes, UInt32.toNat_ofNat', Nat.mod_eq_of_lt bound, same]

theorem u64ToLeBytes_fromLeBytes {bytes : List UInt8} (length : bytes.length = 8) :
    u64ToLeBytes (u64FromLeBytes bytes) = bytes := by
  have bound : valueOf bytes < 2 ^ 64 := by
    have := valueOf_lt bytes
    rw [length] at this
    exact this
  have same := bytesOf_valueOf bytes
  rw [length] at same
  rw [u64ToLeBytes, u64FromLeBytes, UInt64.toNat_ofNat', Nat.mod_eq_of_lt bound, same]

end LittleEndian
