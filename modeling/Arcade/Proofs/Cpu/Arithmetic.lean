import Arcade.Cpu.Arithmetic
import Arcade.Proofs.Word
import Mathlib.Tactic.ByContra
import Mathlib.Tactic.SplitIfs

/-! # What the arithmetic unit computes, as numbers

The unit adds and complements; here its results and flags are those of sums and differences of
integers.

* `Flags.Describe`: the zero, sign and parity flags of a result;
* `carryIntoHigh_iff`: **the auxiliary carry, told from bit 4 of the summands and of the sum, is
  the carry out of the low halves**;
* `correctsHigh_iff`: **the three cases of a high digit that is corrected are one number**;
* `IsSum`, `IsDifference`, `IsLogical`, `IsIncrement`, `IsDecrement`, `IsAdjusted`: the result and
  all five flags of each kind of operation, and `isSum_add` to `isAdjusted_decimalAdjust` that the
  unit computes them;
* `IsSum.exact`, `IsDifference.exact`: with the carry, nothing is lost. -/

namespace Arcade

/-- The number of bits of a byte that are set. -/
def ones (v : UInt8) : Nat :=
  (List.range 8).countP v.toNat.testBit

/-- Three flags tell whether a result is zero, whether its highest bit is set, and whether an even
number of its bits is. -/
structure Flags.Describe (f : Flags) (result : UInt8) : Prop where
  zero : f.zero = true ↔ result.toNat = 0
  sign : f.sign = true ↔ 128 ≤ result.toNat
  parity : f.parity = true ↔ ones result % 2 = 0

/-- A sum of two bytes and a carry. -/
structure IsSum (x y : UInt8) (c : Bool) (result : UInt8) (f : Flags) : Prop
    extends f.Describe result where
  value : result.toNat = (x.toNat + y.toNat + c.toNat) % 256
  carry : f.carry = true ↔ 255 < x.toNat + y.toNat + c.toNat
  auxCarry : f.auxCarry = true ↔ 15 < x.toNat % 16 + y.toNat % 16 + c.toNat

/-- A byte less another one and a borrow. The auxiliary carry says that the low halves needed no
borrow. -/
structure IsDifference (x y : UInt8) (b : Bool) (result : UInt8) (f : Flags) : Prop
    extends f.Describe result where
  value : (result.toNat : Int) = ((x.toNat : Int) - y.toNat - b.toNat) % 256
  carry : f.carry = true ↔ x.toNat < y.toNat + b.toNat
  auxCarry : f.auxCarry = true ↔ y.toNat % 16 + b.toNat ≤ x.toNat % 16

/-- Two bytes joined bit by bit. -/
structure IsLogical (bit : Bool → Bool → Bool) (x y result : UInt8) (f : Flags) : Prop
    extends f.Describe result where
  value : ∀ i, result.toNat.testBit i = bit (x.toNat.testBit i) (y.toNat.testBit i)
  carry : f.carry = false
  auxCarry : f.auxCarry = false

/-- A byte and one, with the carry flag as it was. -/
structure IsIncrement (x : UInt8) (before : Flags) (result : UInt8) (f : Flags) : Prop
    extends f.Describe result where
  value : result.toNat = (x.toNat + 1) % 256
  carry : f.carry = before.carry
  auxCarry : f.auxCarry = true ↔ result.toNat % 16 = 0

/-- A byte less one, with the carry flag as it was. -/
structure IsDecrement (x : UInt8) (before : Flags) (result : UInt8) (f : Flags) : Prop
    extends f.Describe result where
  value : (result.toNat : Int) = ((x.toNat : Int) - 1) % 256
  carry : f.carry = before.carry
  auxCarry : f.auxCarry = true ↔ x.toNat % 16 ≠ 0

/-- What is added to correct a decimal sum: 6 for its low digit and 0x60 for its high one. -/
def correction (x : UInt8) (before : Flags) : Nat :=
  (if 9 < x.toNat % 16 ∨ before.auxCarry = true then 6 else 0) +
    (if 0x99 < x.toNat ∨ before.carry = true then 0x60 else 0)

/-- A decimal sum after its correction. -/
structure IsAdjusted (x : UInt8) (before : Flags) (result : UInt8) (f : Flags) : Prop
    extends f.Describe result where
  value : result.toNat = (x.toNat + correction x before) % 256
  carry : f.carry = true ↔ 0x99 < x.toNat ∨ before.carry = true
  auxCarry : f.auxCarry = true ↔ 15 < x.toNat % 16 + correction x before % 16

/-! ### The flags of a result -/

theorem sign_iff (v : UInt8) : (v &&& 0x80 != 0) = true ↔ 128 ≤ v.toNat :=
  forall_byte (p := fun v => (v &&& 0x80 != 0) = true ↔ 128 ≤ v.toNat) (by decide +kernel) v

theorem evenParity_iff (v : UInt8) : Flags.evenParity v = true ↔ ones v % 2 = 0 :=
  forall_byte (p := fun v => Flags.evenParity v = true ↔ ones v % 2 = 0) (by decide +kernel) v

theorem describe_withResult (f : Flags) (result : UInt8) :
    (f.withResult result).Describe result where
  zero := by simp [Flags.withResult, ← UInt8.toNat_inj]
  sign := sign_iff result
  parity := evenParity_iff result

/-- The three flags of a result describe it, whatever is done to the two carries. -/
theorem describe_carries (f : Flags) (result : UInt8) (carry auxCarry : Bool) :
    { f.withResult result with carry := carry, auxCarry := auxCarry }.Describe result where
  zero := (describe_withResult f result).zero
  sign := (describe_withResult f result).sign
  parity := (describe_withResult f result).parity

/-! ### The adder -/

theorem bit_four_iff (v : UInt8) : (v &&& 0x10 != 0) = true ↔ v.toBitVec.getLsbD 4 = true :=
  forall_byte (p := fun v => (v &&& 0x10 != 0) = true ↔ v.toBitVec.getLsbD 4 = true)
    (by decide +kernel) v

/-- **What two summands and their sum tell about bit 4 is the carry out of the low halves.** Each
bit of a sum is the exclusive or of the bits of the summands and of the carry into it. -/
theorem carryIntoHigh_iff {x y sum : UInt8} {c : Bool}
    (h : sum.toNat = (x.toNat + y.toNat + c.toNat) % 256) :
    carryIntoHigh x y sum = true ↔ 15 < x.toNat % 16 + y.toNat % 16 + c.toNat := by
  have added : sum.toBitVec = x.toBitVec + y.toBitVec + BitVec.setWidth 8 (BitVec.ofBool c) := by
    apply BitVec.eq_of_toNat_eq
    rw [UInt8.toNat_toBitVec, h]
    cases c <;> simp
  have bit : sum.toBitVec.getLsbD 4 = Bool.xor (x.toBitVec.getLsbD 4)
      (Bool.xor (y.toBitVec.getLsbD 4) (BitVec.carry 4 x.toBitVec y.toBitVec c)) := by
    rw [added, BitVec.getLsbD_add_add_bool (by decide)]
  have carried : (x ^^^ y ^^^ sum).toBitVec.getLsbD 4 =
      BitVec.carry 4 x.toBitVec y.toBitVec c := by
    rw [UInt8.toBitVec_xor, UInt8.toBitVec_xor, BitVec.getLsbD_xor, BitVec.getLsbD_xor, bit]
    cases x.toBitVec.getLsbD 4 <;> cases y.toBitVec.getLsbD 4 <;> simp
  rw [carryIntoHigh, bit_four_iff, carried, BitVec.carry, decide_eq_true_eq]
  rfl

theorem toNat_wide (x y : UInt8) (c : Bool) :
    (x.toUInt16 + y.toUInt16 + if c then 1 else 0).toNat = x.toNat + y.toNat + c.toNat := by
  have hx := x.toNat_lt
  have hy := y.toNat_lt
  cases c <;> simp <;> omega

theorem toNat_value_adder (x y : UInt8) (c : Bool) :
    (adder x y c).value.toNat = (x.toNat + y.toNat + c.toNat) % 256 := by
  simp only [adder, UInt16.toNat_toUInt8, toNat_wide]

/-- The ninth bit of the sum. -/
theorem carry_adder_iff (x y : UInt8) (c : Bool) :
    (adder x y c).carry = true ↔ 255 < x.toNat + y.toNat + c.toNat := by
  simp only [adder, decide_eq_true_eq, UInt16.lt_iff_toNat_lt, toNat_wide]
  rfl

theorem auxCarry_adder_iff (x y : UInt8) (c : Bool) :
    (adder x y c).auxCarry = true ↔ 15 < x.toNat % 16 + y.toNat % 16 + c.toNat :=
  carryIntoHigh_iff (toNat_value_adder x y c)

/-! ### Sums and differences -/

theorem isSum_add (x y : UInt8) (c : Bool) : IsSum x y c (add x y c).1 (add x y c).2 where
  toDescribe := describe_carries {} (adder x y c).value _ _
  value := toNat_value_adder x y c
  carry := carry_adder_iff x y c
  auxCarry := auxCarry_adder_iff x y c

theorem toNat_complement (y : UInt8) : (~~~y).toNat = 255 - y.toNat := by
  rw [UInt8.toNat_not]
  rfl

/-- A byte less another one and a borrow is the sum with the complement and the inverted borrow,
where a carry says that nothing was borrowed. -/
theorem isDifference_subtract (x y : UInt8) (b : Bool) :
    IsDifference x y b (subtract x y b).1 (subtract x y b).2 where
  toDescribe := describe_carries {} (adder x (~~~y) !b).value _ _
  value := by
    have hx := x.toNat_lt
    have hy := y.toNat_lt
    have h := toNat_value_adder x (~~~y) !b
    rw [toNat_complement] at h
    change ((adder x (~~~y) !b).value.toNat : Int) = _
    rw [h]
    cases b <;> simp only [Bool.not_true, Bool.not_false, Bool.toNat_true, Bool.toNat_false] <;>
      omega
  carry := by
    have hx := x.toNat_lt
    have hy := y.toNat_lt
    have h := carry_adder_iff x (~~~y) !b
    rw [toNat_complement] at h
    change (!(adder x (~~~y) !b).carry) = true ↔ _
    rw [Bool.not_eq_true', ← Bool.not_eq_true, h]
    cases b <;> simp only [Bool.not_true, Bool.not_false, Bool.toNat_true, Bool.toNat_false] <;>
      omega
  auxCarry := by
    have hy := y.toNat_lt
    have h := auxCarry_adder_iff x (~~~y) !b
    rw [toNat_complement] at h
    change (adder x (~~~y) !b).auxCarry = true ↔ _
    rw [h]
    cases b <;> simp only [Bool.not_true, Bool.not_false, Bool.toNat_true, Bool.toNat_false] <;>
      omega

/-- A sum and its carry make up the whole sum. -/
theorem IsSum.exact {x y result : UInt8} {c : Bool} {f : Flags} (h : IsSum x y c result f) :
    result.toNat + 256 * f.carry.toNat = x.toNat + y.toNat + c.toNat := by
  have hx := x.toNat_lt
  have hy := y.toNat_lt
  have hc := c.toNat_le
  have hv := h.value
  have hcarry := h.carry
  cases hf : f.carry <;> simp only [hf, Bool.toNat_true, Bool.toNat_false] at hcarry ⊢ <;>
    simp at hcarry <;> omega

/-- A difference, what was subtracted and the borrow make up the byte it was subtracted from. -/
theorem IsDifference.exact {x y result : UInt8} {b : Bool} {f : Flags}
    (h : IsDifference x y b result f) :
    result.toNat + y.toNat + b.toNat = x.toNat + 256 * f.carry.toNat := by
  have hx := x.toNat_lt
  have hy := y.toNat_lt
  have hb := b.toNat_le
  have hv := h.value
  have hcarry := h.carry
  cases hf : f.carry <;> simp only [hf, Bool.toNat_true, Bool.toNat_false] at hcarry ⊢ <;>
    simp at hcarry <;> omega

/-! ### Steps by one -/

theorem isIncrement_increment (x : UInt8) (before : Flags) :
    IsIncrement x before (increment x before).1 (increment x before).2 where
  toDescribe := describe_carries before (x + 1) _ _
  value := UInt8.toNat_add x 1
  carry := rfl
  auxCarry := by
    have value : (x + 1).toNat = (x.toNat + 1 + false.toNat) % 256 := UInt8.toNat_add x 1
    have one : (1 : UInt8).toNat = 1 := rfl
    change carryIntoHigh x 0x01 (x + 1) = true ↔ (x + 1).toNat % 16 = 0
    rw [carryIntoHigh_iff value, value, one, Bool.toNat_false]
    omega

theorem toNat_sub_one (x : UInt8) : (x - 1).toNat = (x.toNat + 255) % 256 := by
  rw [UInt8.toNat_sub, Nat.add_comm]
  rfl

theorem isDecrement_decrement (x : UInt8) (before : Flags) :
    IsDecrement x before (decrement x before).1 (decrement x before).2 where
  toDescribe := describe_carries before (x - 1) _ _
  value := by
    have hx := x.toNat_lt
    change ((x - 1).toNat : Int) = _
    rw [toNat_sub_one]
    omega
  carry := rfl
  auxCarry := by
    have value : (x - 1).toNat = (x.toNat + 255 + false.toNat) % 256 := toNat_sub_one x
    have low : (0xff : UInt8).toNat % 16 = 15 := rfl
    change carryIntoHigh x 0xff (x - 1) = true ↔ x.toNat % 16 ≠ 0
    rw [carryIntoHigh_iff value, low, Bool.toNat_false]
    omega

theorem zero_decrement (x : UInt8) (before : Flags) :
    (decrement x before).2.zero = true ↔ x = 1 := by
  have hx := x.toNat_lt
  have h := (isDecrement_decrement x before).value
  rw [(isDecrement_decrement x before).zero, ← UInt8.toNat_inj, UInt8.toNat_one]
  omega

/-! ### Logical operations -/

theorem isLogical_and (x y : UInt8) :
    IsLogical Bool.and x y (logical (x &&& y)).1 (logical (x &&& y)).2 where
  toDescribe := describe_withResult {} (x &&& y)
  value i := by simp [logical, Nat.testBit_and]
  carry := rfl
  auxCarry := rfl

theorem isLogical_xor (x y : UInt8) :
    IsLogical Bool.xor x y (logical (x ^^^ y)).1 (logical (x ^^^ y)).2 where
  toDescribe := describe_withResult {} (x ^^^ y)
  value i := by simp [logical, Nat.testBit_xor]
  carry := rfl
  auxCarry := rfl

theorem isLogical_or (x y : UInt8) :
    IsLogical Bool.or x y (logical (x ||| y)).1 (logical (x ||| y)).2 where
  toDescribe := describe_withResult {} (x ||| y)
  value i := by simp [logical, Nat.testBit_or]
  carry := rfl
  auxCarry := rfl

/-! ### The decimal correction -/

theorem toNat_low_half (x : UInt8) : (x &&& 0x0f).toNat = x.toNat % 16 := by
  rw [UInt8.toNat_and]
  exact Nat.and_two_pow_sub_one_eq_mod x.toNat 4

theorem toNat_high_half (x : UInt8) : (x >>> 4).toNat = x.toNat / 16 := by
  rw [UInt8.toNat_shiftRight]
  exact Nat.shiftRight_eq_div_pow x.toNat 4

theorem correctsLow_iff (x : UInt8) (before : Flags) :
    correctsLow x before = true ↔ 9 < x.toNat % 16 ∨ before.auxCarry = true := by
  rw [correctsLow, Bool.or_eq_true, decide_eq_true_eq, UInt8.lt_iff_toNat_lt, toNat_low_half]
  rfl

/-- **The high digit has to be corrected if the number is above 0x99.** A high digit of 9 has to be
with a low one above 9. -/
theorem correctsHigh_iff (x : UInt8) (before : Flags) :
    correctsHigh x before = true ↔ 0x99 < x.toNat ∨ before.carry = true := by
  have nine : (9 : UInt8).toNat = 9 := rfl
  have digits : 9 < x.toNat / 16 ∨ x.toNat / 16 = 9 ∧ 9 < x.toNat % 16 ↔ 0x99 < x.toNat := by
    omega
  simp only [correctsHigh, Bool.or_eq_true, Bool.and_eq_true, decide_eq_true_eq, beq_iff_eq,
    UInt8.lt_iff_toNat_lt, ← UInt8.toNat_inj, toNat_low_half, toNat_high_half, nine]
  rw [or_right_comm, digits]

theorem toNat_correctionByte (x : UInt8) (before : Flags) :
    (correctionByte x before).toNat = correction x before := by
  simp only [correctionByte, correctsLow_iff, correctsHigh_iff, correction]
  split_ifs <;> rfl

/-- Only the high correction can carry: 0x99 and 6 do not reach 256. -/
theorem high_of_carry {x : UInt8} {before : Flags} (h : 255 < x.toNat + correction x before) :
    0x99 < x.toNat ∨ before.carry = true := by
  by_contra hnot
  have hx : ¬ 0x99 < x.toNat := fun h => hnot (Or.inl h)
  unfold correction at h
  rw [if_neg hnot] at h
  split_ifs at h <;> omega

theorem isAdjusted_decimalAdjust (x : UInt8) (before : Flags) :
    IsAdjusted x before (decimalAdjust x before).1 (decimalAdjust x before).2 where
  toDescribe := describe_carries {} (adder x (correctionByte x before) false).value _ _
  value := by
    rw [← toNat_correctionByte]
    exact toNat_value_adder x (correctionByte x before) false
  carry := by
    have carried := carry_adder_iff x (correctionByte x before) false
    rw [toNat_correctionByte, Bool.toNat_false, Nat.add_zero] at carried
    change ((adder x (correctionByte x before) false).carry ||
      (before.carry || correctsHigh x before)) = true ↔ _
    rw [Bool.or_eq_true, Bool.or_eq_true, carried, correctsHigh_iff]
    constructor
    · rintro (overflows | kept | corrected)
      · exact high_of_carry overflows
      · exact Or.inr kept
      · exact corrected
    · exact fun corrected => Or.inr (Or.inr corrected)
  auxCarry := by
    have carried := auxCarry_adder_iff x (correctionByte x before) false
    rwa [toNat_correctionByte, Bool.toNat_false, Nat.add_zero] at carried

end Arcade
