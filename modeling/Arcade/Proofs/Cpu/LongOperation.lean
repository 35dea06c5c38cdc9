import Arcade.Proofs.Cpu.Arithmetic
import Arcade.Proofs.Cpu.Encoding

/-! # Sums and differences of several bytes

The carry that one byte leaves goes into the next. What has been added or subtracted so far is
stated as an equation without a remainder (`Balances`), so that a further byte only has to be
added to it.

* `balances_apply`: one byte;
* `Balances.cons`: a byte and the bytes above it;
* `Balances.gives`: the remainder and the last carry, as they are usually stated (`Gives`). -/

namespace Arcade

/-- The operations that take a carry along. -/
inductive LongOperation
  | add
  | subtract
  deriving DecidableEq, Repr

namespace LongOperation

/-- What the accumulator does with one byte. -/
def aluOp : LongOperation → AluOp
  | add => .adc
  | subtract => .sbb

/-- The instruction that takes the byte from memory. -/
def byte : LongOperation → UInt8
  | add => 0x8e
  | subtract => 0x9e

theorem ofByte_byte (operation : LongOperation) :
    Opcode.ofByte operation.byte = .alu operation.aluOp .m := by
  cases operation <;> rfl

theorem documented_byte (operation : LongOperation) : Opcode.alias? operation.byte = none := by
  cases operation <;> rfl

/-- The result and the carry for two numbers of `n` bytes. -/
def Gives (operation : LongOperation) (n x y result : Nat) (carry : Bool) : Prop :=
  match operation with
  | add => result = (x + y) % 256 ^ n ∧ (carry = true ↔ 256 ^ n ≤ x + y)
  | subtract => (result : Int) = ((x : Int) - y) % 256 ^ n ∧ (carry = true ↔ x < y)

/-- With the carry that came in and the carry that went out, nothing is lost. -/
def Balances (operation : LongOperation) (n : Nat) (carryIn : Bool) (x y result : Nat)
    (carryOut : Bool) : Prop :=
  match operation with
  | add => result + 256 ^ n * carryOut.toNat = x + y + carryIn.toNat
  | subtract => result + y + carryIn.toNat = x + 256 ^ n * carryOut.toNat

theorem balances_zero (operation : LongOperation) (carry : Bool) :
    operation.Balances 0 carry 0 0 0 carry := by
  cases operation <;> simp [Balances]

theorem balances_apply (operation : LongOperation) (x y : UInt8) (f : Flags) :
    operation.Balances 1 f.carry x.toNat y.toNat (operation.aluOp.apply x y f).1.toNat
      (operation.aluOp.apply x y f).2.carry := by
  cases operation with
  | add => exact (isSum_add x y f.carry).exact
  | subtract => exact (isDifference_subtract x y f.carry).exact

variable {operation : LongOperation} {n : Nat} {carryIn carry carryOut : Bool}

/-- The carry between a byte and the bytes above it cancels out. -/
theorem Balances.cons {x y result xs ys results : Nat}
    (low : operation.Balances 1 carryIn x y result carry)
    (rest : operation.Balances n carry xs ys results carryOut) :
    operation.Balances (n + 1) carryIn (x + 256 * xs) (y + 256 * ys) (result + 256 * results)
      carryOut := by
  have hpow : 256 ^ (n + 1) * carryOut.toNat = 256 * (256 ^ n * carryOut.toNat) := by
    rw [Nat.pow_succ', Nat.mul_assoc]
  cases operation with
  | add =>
    simp only [Balances] at low rest ⊢
    rw [hpow]
    omega
  | subtract =>
    simp only [Balances] at low rest ⊢
    rw [hpow]
    omega

theorem Balances.gives {x y result : Nat}
    (h : operation.Balances n false x y result carryOut) (hresult : result < 256 ^ n) :
    operation.Gives n x y result carryOut := by
  cases operation with
  | add =>
    have hsum : x + y = result + 256 ^ n * carryOut.toNat := h.symm
    refine ⟨?_, ?_⟩
    · rw [hsum, Nat.add_mul_mod_self_left, Nat.mod_eq_of_lt hresult]
    · rw [hsum]
      cases carryOut with
      | true => simp
      | false => simp [hresult]
  | subtract =>
    have hsum : result + y = x + 256 ^ n * carryOut.toNat := h
    refine ⟨?_, ?_⟩
    · have hcast : ((256 ^ n * carryOut.toNat : Nat) : Int) = 256 ^ n * (carryOut.toNat : Int) := by
        push_cast
        rfl
      have hdifference : (x : Int) - y = result + 256 ^ n * -(carryOut.toNat : Int) := by
        rw [Int.mul_neg, ← hcast]
        omega
      rw [hdifference, Int.add_mul_emod_self_left, Int.emod_eq_of_lt (Int.natCast_nonneg _)]
      exact_mod_cast hresult
    · cases carryOut with
      | true =>
        rw [Bool.toNat_true, Nat.mul_one] at hsum
        exact ⟨fun _ => by omega, fun _ => rfl⟩
      | false =>
        rw [Bool.toNat_false, Nat.mul_zero] at hsum
        exact ⟨nofun, fun _ => by omega⟩

end LongOperation

end Arcade
