import Arcade.Cpu.Arithmetic
import Arcade.Proofs.Word

/-! # Rotations of numbers of several bytes

A rotation through the carry turns nine bits, and the bit that leaves one byte enters the next one.
To the left the bytes of a number are taken from the lowest one up, to the right from the highest
one down. What has been rotated so far is stated as an equation without a remainder.

* `Rotation.chain`: some bytes, and the carry that is left;
* `chain_ral`, `chain_rar`: **with the carry that came in and the one that goes out, nothing is
  lost**, for one byte `apply_ral`, `apply_rar`;
* `isNumber_chain_ral`, `isNumber_chain_rar`: the number that is left, as it is usually stated, and
  `carry_chain_ral`, `carry_chain_rar` the carry;
* `chain_rar_chain_ral`: the one way and the other. -/

namespace Arcade

/-- Some bytes are those of a number, the lowest one first. -/
structure IsNumber (bytes : List UInt8) (n x : Nat) : Prop where
  length : bytes.length = n
  value : littleEndian bytes = x

namespace Rotation

/-- Bytes rotated one after the other, each with the carry that the one before it left, and the
carry that is left in the end. -/
def chain (rotation : Rotation) : List UInt8 → Bool → List UInt8 × Bool
  | [], carry => ([], carry)
  | byte :: bytes, carry =>
    let (result, carry) := rotation.apply byte carry
    let (results, carry) := rotation.chain bytes carry
    (result :: results, carry)

variable (rotation : Rotation)

theorem chain_cons (byte : UInt8) (bytes : List UInt8) (carry : Bool) :
    rotation.chain (byte :: bytes) carry =
      ((rotation.apply byte carry).1 :: (rotation.chain bytes (rotation.apply byte carry).2).1,
        (rotation.chain bytes (rotation.apply byte carry).2).2) :=
  rfl

theorem chain_concat (bytes : List UInt8) (byte : UInt8) (carry : Bool) :
    rotation.chain (bytes ++ [byte]) carry =
      ((rotation.chain bytes carry).1 ++ [(rotation.apply byte (rotation.chain bytes carry).2).1],
        (rotation.apply byte (rotation.chain bytes carry).2).2) := by
  induction bytes generalizing carry with
  | nil => rfl
  | cons first bytes ih => rw [List.cons_append, chain_cons, ih, chain_cons, List.cons_append]

@[simp]
theorem length_chain (bytes : List UInt8) (carry : Bool) :
    (rotation.chain bytes carry).1.length = bytes.length := by
  induction bytes generalizing carry with
  | nil => rfl
  | cons byte bytes ih => rw [chain_cons, List.length_cons, List.length_cons, ih]

/-! ### One byte -/

theorem apply_ral (byte : UInt8) (carry : Bool) :
    (ral.apply byte carry).1.toNat + 256 * (ral.apply byte carry).2.toNat =
      2 * byte.toNat + carry.toNat := by
  refine forall_byte (p := fun byte => ∀ carry, (ral.apply byte carry).1.toNat +
    256 * (ral.apply byte carry).2.toNat = 2 * byte.toNat + carry.toNat) ?_ byte carry
  decide +kernel

theorem apply_rar (byte : UInt8) (carry : Bool) :
    2 * (rar.apply byte carry).1.toNat + (rar.apply byte carry).2.toNat =
      byte.toNat + 256 * carry.toNat := by
  refine forall_byte (p := fun byte => ∀ carry, 2 * (rar.apply byte carry).1.toNat +
    (rar.apply byte carry).2.toNat = byte.toNat + 256 * carry.toNat) ?_ byte carry
  decide +kernel

/-- The carry that went out comes in again, and the one that came in goes out. -/
theorem apply_rar_apply_ral (byte : UInt8) (carry : Bool) :
    rar.apply (ral.apply byte carry).1 (ral.apply byte carry).2 = (byte, carry) := by
  refine forall_byte (p := fun byte => ∀ carry,
    rar.apply (ral.apply byte carry).1 (ral.apply byte carry).2 = (byte, carry)) ?_ byte carry
  decide +kernel

/-! ### All bytes of a number -/

/-- With a byte below the others, the carry they leave is worth 256 times as much. -/
theorem pow_succ_mul (n carry : Nat) : 256 ^ (n + 1) * carry = 256 * (256 ^ n * carry) := by
  rw [Nat.pow_succ', Nat.mul_assoc]

/-- **A number is doubled and the carry added to it.** -/
theorem chain_ral (bytes : List UInt8) (carry : Bool) :
    littleEndian (ral.chain bytes carry).1 + 256 ^ bytes.length * (ral.chain bytes carry).2.toNat =
      2 * littleEndian bytes + carry.toNat := by
  induction bytes generalizing carry with
  | nil =>
    show 0 + 1 * carry.toNat = 2 * 0 + carry.toNat
    omega
  | cons byte bytes ih =>
    have low := apply_ral byte carry
    rw [chain_cons]
    generalize ral.apply byte carry = first at low ⊢
    have high := ih first.2
    generalize ral.chain bytes first.2 = rest at high ⊢
    show littleEndian (first.1 :: rest.1) + 256 ^ (bytes.length + 1) * rest.2.toNat = _
    rw [pow_succ_mul, littleEndian_cons, littleEndian_cons]
    omega

/-- **The carry is put before a number, and both are halved.** -/
theorem chain_rar (bytes : List UInt8) (carry : Bool) :
    2 * littleEndian (rar.chain bytes.reverse carry).1.reverse +
        (rar.chain bytes.reverse carry).2.toNat =
      littleEndian bytes + 256 ^ bytes.length * carry.toNat := by
  induction bytes with
  | nil =>
    show 2 * 0 + carry.toNat = 0 + 1 * carry.toNat
    omega
  | cons byte bytes ih =>
    -- the lowest byte comes last, with the carry of those above it
    rw [List.reverse_cons, chain_concat]
    generalize rar.chain bytes.reverse carry = high at ih ⊢
    have low := apply_rar byte high.2
    generalize rar.apply byte high.2 = last at low ⊢
    show 2 * littleEndian (high.1 ++ [last.1]).reverse + last.2.toNat = _
    rw [List.length_cons, pow_succ_mul, List.reverse_concat, littleEndian_cons, littleEndian_cons]
    omega

/-- **To the right, bytes and carry come back that were rotated to the left.** -/
theorem chain_rar_chain_ral (bytes : List UInt8) (carry : Bool) :
    rar.chain (ral.chain bytes carry).1.reverse (ral.chain bytes carry).2 =
      (bytes.reverse, carry) := by
  induction bytes generalizing carry with
  | nil => rfl
  | cons byte bytes ih =>
    rw [chain_cons, List.reverse_cons, chain_concat, ih, apply_rar_apply_ral, List.reverse_cons]

/-! ### The number and the carry that are left -/

variable {bytes : List UInt8} {n x : Nat}

/-- The highest of the bits of some bytes is worth half of what the carry beyond it is. -/
theorem pow_eq_double (positive : 0 < n) : 256 ^ n = 2 * 2 ^ (8 * n - 1) := by
  have bits : 8 * n = (8 * n - 1) + 1 := by omega
  calc 256 ^ n = 2 ^ (8 * n) := (Nat.pow_mul 2 8 n).symm
    _ = 2 ^ ((8 * n - 1) + 1) := congrArg (2 ^ ·) bits
    _ = 2 * 2 ^ (8 * n - 1) := Nat.pow_succ'

theorem isNumber_chain_ral (h : IsNumber bytes n x) (carry : Bool) :
    IsNumber (ral.chain bytes carry).1 n ((2 * x + carry.toNat) % 256 ^ n) := by
  obtain ⟨rfl, rfl⟩ := h
  have length := ral.length_chain bytes carry
  have below := littleEndian_lt (ral.chain bytes carry).1
  rw [length] at below
  refine ⟨length, ?_⟩
  rw [← chain_ral bytes carry, Nat.add_mul_mod_self_left, Nat.mod_eq_of_lt below]

/-- The carry is the highest bit of the number. -/
theorem carry_chain_ral (h : IsNumber bytes n x) (carry : Bool) (positive : 0 < n) :
    (ral.chain bytes carry).2 = x.testBit (8 * n - 1) := by
  obtain ⟨rfl, rfl⟩ := h
  have sum := chain_ral bytes carry
  have below := littleEndian_lt (ral.chain bytes carry).1
  have bound := littleEndian_lt bytes
  have bit := carry.toNat_le
  rw [length_chain] at below
  rw [pow_eq_double positive] at sum below bound
  cases out : (ral.chain bytes carry).2 with
  | true =>
    rw [out, Bool.toNat_true, Nat.mul_one] at sum
    refine (Nat.testBit_of_two_pow_le_and_two_pow_add_one_gt ?_ ?_).symm
    · omega
    · rwa [Nat.pow_succ']
  | false =>
    rw [out, Bool.toNat_false, Nat.mul_zero] at sum
    refine (Nat.testBit_lt_two_pow ?_).symm
    omega

theorem isNumber_chain_rar (h : IsNumber bytes n x) (carry : Bool) :
    IsNumber (rar.chain bytes.reverse carry).1.reverse n ((x + carry.toNat * 256 ^ n) / 2) := by
  obtain ⟨rfl, rfl⟩ := h
  have sum := chain_rar bytes carry
  have bit := (rar.chain bytes.reverse carry).2.toNat_le
  constructor
  · rw [List.length_reverse, length_chain, List.length_reverse]
  · rw [Nat.mul_comm carry.toNat, ← sum]
    omega

/-- The carry is the lowest bit of the number. -/
theorem carry_chain_rar (h : IsNumber bytes n x) (carry : Bool) (positive : 0 < n) :
    (rar.chain bytes.reverse carry).2 = (x % 2 == 1) := by
  obtain ⟨rfl, rfl⟩ := h
  have sum := chain_rar bytes carry
  rw [pow_eq_double positive, Nat.mul_assoc] at sum
  cases out : (rar.chain bytes.reverse carry).2 with
  | true =>
    rw [out, Bool.toNat_true] at sum
    have odd : littleEndian bytes % 2 = 1 := by omega
    rw [odd]
    rfl
  | false =>
    rw [out, Bool.toNat_false] at sum
    have even : littleEndian bytes % 2 = 0 := by omega
    rw [even]
    rfl

end Rotation

end Arcade
