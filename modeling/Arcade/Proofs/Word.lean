import Arcade.Word
import Mathlib.Data.Nat.Digits.Defs

/-! # Facts about bytes and words

* `forall_byte`: what holds of the numbers below 256 holds of all bytes, so that a property of
  single bytes can be decided;
* `testBit_of_le`: a byte has eight bits;
* `add_ofNat_succ`: going on by one address and then by some more;
* `littleEndian`: the number some bytes stand for. -/

namespace Arcade

theorem forall_byte {p : UInt8 → Prop} (h : ∀ i : Fin 256, p (UInt8.ofNat i)) (byte : UInt8) :
    p byte := by
  have := h ⟨byte.toNat, byte.toNat_lt⟩
  rwa [UInt8.ofNat_toNat] at this

theorem testBit_of_le (byte : UInt8) {bit : Nat} (h : 8 ≤ bit) : byte.toNat.testBit bit = false :=
  Nat.testBit_lt_two_pow (Nat.lt_of_lt_of_le byte.toNat_lt (Nat.pow_le_pow_right (by decide) h))

theorem Word.add_ofNat_succ (a : UInt16) (i : Nat) :
    a + UInt16.ofNat (i + 1) = a + 1 + UInt16.ofNat i := by
  rw [UInt16.ofNat_add, UInt16.add_comm (UInt16.ofNat i), ← UInt16.add_assoc]
  rfl

/-! ### Numbers of several bytes -/

/-- The number that bytes stand for, the lowest one first. -/
def littleEndian (bytes : List UInt8) : Nat :=
  Nat.ofDigits 256 (bytes.map UInt8.toNat)

@[simp]
theorem littleEndian_nil : littleEndian [] = 0 := rfl

@[simp]
theorem littleEndian_cons (byte : UInt8) (bytes : List UInt8) :
    littleEndian (byte :: bytes) = byte.toNat + 256 * littleEndian bytes := by
  rw [littleEndian, List.map_cons, Nat.ofDigits_cons]
  rfl

theorem littleEndian_lt (bytes : List UInt8) : littleEndian bytes < 256 ^ bytes.length := by
  have hdigits : ∀ digit ∈ bytes.map UInt8.toNat, digit < 256 := by
    intro digit hdigit
    obtain ⟨byte, -, rfl⟩ := List.mem_map.mp hdigit
    exact byte.toNat_lt
  have h := Nat.ofDigits_lt_base_pow_length (by decide) hdigits
  rwa [List.length_map] at h

end Arcade
