import Arcade.Proofs.Core.Step
import Arcade.Proofs.Cpu.Decimal
import Arcade.Proofs.Cpu.Encoding
import Arcade.Proofs.Memory

/-! # Decimal arithmetic by instructions

The bytes of two decimal numbers stand as operands in the code. For each pair of bytes the
accumulator is loaded, takes some operations and is corrected.

* `DecimalOperation.program`: the code;
* `Reaches.accumulates`: operations one after the other;
* `reaches_digits`: the instructions for one pair of bytes;
* `Leaves.cons`: the bytes that are in the accumulator one after the other;
* `computes_decimals`: **the bytes are the digits of the sum or the difference**, for numbers of any
  length. -/

namespace Arcade

/-- Operations with the bytes that stand behind them. -/
def immediates (terms : List (AluOp × UInt8)) : List UInt8 :=
  terms.flatMap fun term => [(Opcode.aluImmediate term.1).toByte, term.2]

namespace DecimalOperation

/-- The instructions for two bytes. -/
def instructions (operation : DecimalOperation) (x y : UInt8) : List UInt8 :=
  [(Opcode.mvi .a).toByte, operation.load x] ++ immediates (operation.terms x y) ++
    [Opcode.daa.toByte]

/-- The instructions for the bytes of two numbers, the lowest ones first. -/
def program (operation : DecimalOperation) (pairs : List (UInt8 × UInt8)) : List UInt8 :=
  pairs.flatMap fun pair => operation.instructions pair.1 pair.2

/-- The number of instructions for two bytes. -/
def steps : DecimalOperation → Nat
  | add => 3
  | subtract => 5

theorem length_terms (operation : DecimalOperation) (x y : UInt8) :
    1 + (operation.terms x y).length + 1 = operation.steps := by
  cases operation <;> rfl

theorem length_instructions (operation : DecimalOperation) (x y : UInt8) :
    (operation.instructions x y).length = 2 + (immediates (operation.terms x y)).length + 1 := by
  rw [instructions, List.length_append, List.length_append]
  rfl

end DecimalOperation

theorem Opcode.ofByte_aluImmediate (op : AluOp) :
    ofByte (aluImmediate op).toByte = .aluImmediate op := by
  cases op <;> rfl

namespace Core

variable {δ : Type} [Ports δ]

/-! ### Two bytes -/

theorem Reaches.accumulates {core : Core δ} {count : Nat} {cpu : Cpu} {memory : Memory}
    {terms : List (AluOp × UInt8)} (h : core.Reaches count cpu memory) (running : cpu.halted = false)
    (code : memory.bytesFrom cpu.pc (immediates terms).length = immediates terms) :
    core.Reaches (count + terms.length)
      { cpu with
        a := (accumulate cpu.a cpu.flags terms).1, flags := (accumulate cpu.a cpu.flags terms).2
        pc := cpu.pc + UInt16.ofNat (immediates terms).length } memory := by
  induction terms generalizing count cpu with
  | nil =>
    have stays : cpu.pc + UInt16.ofNat 0 = cpu.pc := UInt16.add_zero cpu.pc
    show core.Reaches count { cpu with pc := cpu.pc + UInt16.ofNat 0 } memory
    rwa [stays]
  | cons term terms ih =>
    have block : immediates (term :: terms) =
        (Opcode.aluImmediate term.1).toByte :: term.2 :: immediates terms := rfl
    rw [block] at code ⊢
    simp only [List.length_cons, Memory.bytesFrom, List.cons.injEq] at code ⊢
    obtain ⟨opcode, operand, rest⟩ := code
    have one : core.Reaches (count + 1)
        { cpu with
          a := (term.1.apply cpu.a term.2 cpu.flags).1
          flags := (term.1.apply cpu.a term.2 cpu.flags).2
          pc := cpu.pc + 1 + 1 } memory := by
      refine h.step running opcode (Opcode.alias?_toByte _) fun _ _ => ?_
      have two : cpu.pc + UInt16.ofNat (Opcode.aluImmediate term.1).length = cpu.pc + 1 + 1 :=
        (UInt16.add_assoc cpu.pc 1 1).symm
      rw [Opcode.ofByte_aluImmediate]
      simp only [Opcode.execute, operand, two]
      exact ⟨rfl, rfl⟩
    have all := ih one running rest
    have count' : count + 1 + terms.length = count + (terms.length + 1) := by omega
    rw [count', ← Word.add_ofNat_succ, ← Word.add_ofNat_succ] at all
    exact all

variable {core : Core δ} {operation : DecimalOperation}

/-- The instructions for two bytes leave their digits in the accumulator. -/
theorem reaches_digits {x y : UInt8} (running : core.cpu.halted = false)
    (code : core.memory.bytesFrom core.cpu.pc (operation.instructions x y).length =
      operation.instructions x y) :
    core.Reaches operation.steps
      { core.cpu with
        a := (operation.digits x y core.cpu.flags).1
        flags := (operation.digits x y core.cpu.flags).2
        pc := core.cpu.pc + UInt16.ofNat (operation.instructions x y).length } core.memory := by
  obtain ⟨before, adjust⟩ := Memory.bytesFrom_append code
  obtain ⟨load, terms⟩ := Memory.bytesFrom_append before
  rw [List.length_append, UInt16.ofNat_add, ← UInt16.add_assoc] at adjust
  simp only [List.length_cons, List.length_nil, Memory.bytesFrom, List.cons.injEq] at load adjust
  have loaded : core.Reaches 1
      { core.cpu with a := operation.load x, pc := core.cpu.pc + UInt16.ofNat 2 } core.memory := by
    refine core.reaches_zero.step running load.1 (Opcode.alias?_toByte _) fun _ _ => ?_
    have decoded : Opcode.ofByte (Opcode.mvi .a).toByte = .mvi .a := rfl
    rw [decoded]
    simp only [Opcode.execute, load.2.1]
    exact ⟨rfl, rfl⟩
  have summed := loaded.accumulates running terms
  rw [← operation.length_terms x y, operation.length_instructions, UInt16.ofNat_add,
    UInt16.ofNat_add, ← UInt16.add_assoc, ← UInt16.add_assoc]
  refine summed.step running adjust.1 (Opcode.alias?_toByte _) fun _ _ => ?_
  have decoded : Opcode.ofByte Opcode.daa.toByte = .daa := rfl
  rw [decoded]
  exact ⟨rfl, rfl⟩

/-! ### All bytes -/

/-- Some bytes are in the accumulator one after the other, the same number of steps apart. When the
last one is, the flags are as given and the program counter stands at an address. Nothing is
stored. -/
structure Leaves (core : Core δ) (steps : Nat) (bytes : List UInt8) (flags : Flags) (pc : UInt16) :
    Prop where
  each : ∀ k < bytes.length, ∃ mid, core.advance (steps * (k + 1)) = .ok mid ∧
    bytes[k]? = some mid.cpu.a ∧ mid.memory = core.memory
  last : ∃ after, core.advance (steps * bytes.length) = .ok after ∧ after.cpu.flags = flags ∧
    after.cpu.pc = pc ∧ after.memory = core.memory

theorem leaves_nil (core : Core δ) (steps : Nat) :
    core.Leaves steps [] core.cpu.flags core.cpu.pc where
  each := nofun
  last := ⟨core, rfl, rfl, rfl, rfl⟩

theorem Leaves.cons {mid : Core δ} {steps : Nat} {byte : UInt8} {bytes : List UInt8} {flags : Flags}
    {pc : UInt16} (advanced : core.advance steps = .ok mid) (first : mid.cpu.a = byte)
    (memory : mid.memory = core.memory) (rest : mid.Leaves steps bytes flags pc) :
    core.Leaves steps (byte :: bytes) flags pc where
  each k within := by
    cases k with
    | zero =>
      refine ⟨mid, ?_, congrArg some first.symm, memory⟩
      rwa [Nat.zero_add, Nat.mul_one]
    | succ k =>
      obtain ⟨later, advanced', held, same⟩ := rest.each k (Nat.lt_of_succ_lt_succ within)
      refine ⟨later, ?_, held, same.trans memory⟩
      rw [Nat.mul_succ, Nat.add_comm, advance_trans advanced, advanced']
  last := by
    obtain ⟨after, advanced', hflags, hpc, same⟩ := rest.last
    refine ⟨after, ?_, hflags, hpc, same.trans memory⟩
    rw [List.length_cons, Nat.mul_succ, Nat.add_comm, advance_trans advanced, advanced']

theorem leaves_chain {pairs : List (UInt8 × UInt8)} (running : core.cpu.halted = false)
    (code : core.memory.bytesFrom core.cpu.pc (operation.program pairs).length =
      operation.program pairs) :
    core.Leaves operation.steps (operation.chain pairs core.cpu.flags).1
      (operation.chain pairs core.cpu.flags).2
      (core.cpu.pc + UInt16.ofNat (operation.program pairs).length) := by
  -- on the pairs, for a core that stands at the instructions of the first one
  induction pairs generalizing core with
  | nil =>
    have stays : core.cpu.pc + UInt16.ofNat 0 = core.cpu.pc := UInt16.add_zero core.cpu.pc
    have none := core.leaves_nil operation.steps
    rwa [← stays] at none
  | cons pair pairs ih =>
    have block : operation.program (pair :: pairs) =
        operation.instructions pair.1 pair.2 ++ operation.program pairs := rfl
    rw [block] at code ⊢
    obtain ⟨first, later⟩ := Memory.bytesFrom_append code
    obtain ⟨mid, advanced, hcpu, hmemory⟩ := reaches_digits running first
    have next : mid.cpu.pc =
        core.cpu.pc + UInt16.ofNat (operation.instructions pair.1 pair.2).length := by
      rw [hcpu]
    have flags : mid.cpu.flags = (operation.digits pair.1 pair.2 core.cpu.flags).2 := by
      rw [hcpu]
    have running' : mid.cpu.halted = false := by
      rw [hcpu]
      exact running
    rw [← next, ← hmemory] at later
    have rest := ih running' later
    rw [next, flags, UInt16.add_assoc, ← UInt16.ofNat_add, ← List.length_append] at rest
    have byte : mid.cpu.a = (operation.digits pair.1 pair.2 core.cpu.flags).1 := by
      rw [hcpu]
    rw [operation.chain_cons]
    exact .cons advanced byte hmemory rest

/-- **Decimal numbers of any length are added and subtracted.** The bytes of two numbers are taken one
after the other, the lowest ones first: for a sum, the first byte is loaded, ADC adds the second
one, and DAA corrects the sum; for a difference, 0x99 is loaded, ADC adds 0, SUB subtracts the second
byte, ADD adds the first one, and DAA corrects the sum. If the carry is clear at first, or set for a
difference, what DAA leaves each time are the digits of the sum or the difference, and the last carry
tells whether the sum needs one digit more, or whether the difference is not negative. A core that
stands at these instructions computes just that, and stores nothing. -/
theorem computes_decimals (core : Core δ) (operation : DecimalOperation) {xs ys : List UInt8}
    {n x y : Nat} (hx : IsDecimal xs n x) (hy : IsDecimal ys n y)
    (starts : core.cpu.flags.carry = operation.carryIn) :
    let computed := operation.chain (xs.zip ys) core.cpu.flags
    let code := operation.program (xs.zip ys)
    (∃ z, IsDecimal computed.1 n z ∧ operation.Gives n x y z computed.2.carry) ∧
      (core.cpu.halted = false → core.memory.bytesFrom core.cpu.pc code.length = code →
        core.Leaves operation.steps computed.1 computed.2
          (core.cpu.pc + UInt16.ofNat code.length)) := by
  refine ⟨operation.gives_chain hx hy starts, ?_⟩
  intro running code
  exact leaves_chain running code

/-- A core that is to subtract 130 from 25, with both carries set. -/
def subtracting : Core Unconnected where
  cpu := { flags := { carry := true, auxCarry := true } }
  memory := .holding [
    (0x0000, 0x3e), (0x0001, 0x99), (0x0002, 0xce), (0x0003, 0x00), (0x0004, 0xd6), (0x0005, 0x30),
    (0x0006, 0xc6), (0x0007, 0x25), (0x0008, 0x27), (0x0009, 0x3e), (0x000a, 0x99), (0x000b, 0xce),
    (0x000c, 0x00), (0x000d, 0xd6), (0x000e, 0x01), (0x000f, 0xc6), (0x0010, 0x00), (0x0011, 0x27)]
  ports := .unconnected

/-- The difference is negative, so that 10000 more than it is computed, and the carry is clear. -/
theorem computes_decimals_subtracting :
    IsDecimal [0x25, 0x00] 2 25 ∧ IsDecimal [0x30, 0x01] 2 130 ∧
      ∃ first last, subtracting.advance 5 = .ok first ∧ first.cpu.a = 0x95 ∧
        subtracting.advance 10 = .ok last ∧ last.cpu.a = 0x98 ∧ last.cpu.flags.carry = false := by
  have hx : IsDecimal [0x25, 0x00] 2 25 := .cons (by decide) (.cons (by decide) isDecimal_nil)
  have hy : IsDecimal [0x30, 0x01] 2 130 := .cons (by decide) (.cons (by decide) isDecimal_nil)
  have code : subtracting.memory.bytesFrom subtracting.cpu.pc
      (DecimalOperation.subtract.program ([0x25, 0x00].zip [0x30, 0x01])).length =
        DecimalOperation.subtract.program ([0x25, 0x00].zip [0x30, 0x01]) :=
    Memory.bytesFrom_holding 0x0000 _ (by decide)
  have digits : (DecimalOperation.subtract.chain ([0x25, 0x00].zip [0x30, 0x01])
      subtracting.cpu.flags).1 = [0x95, 0x98] := by decide
  have starts : subtracting.cpu.flags.carry = DecimalOperation.subtract.carryIn := rfl
  have running : subtracting.cpu.halted = false := rfl
  -- from here on only these facts count, and the bytes of the memory are not looked at
  generalize subtracting = core at *
  obtain ⟨⟨z, -, -, carry⟩, leaves⟩ := core.computes_decimals .subtract hx hy starts
  obtain ⟨each, after, advanced, flags, -⟩ := leaves running code
  rw [digits] at each advanced
  obtain ⟨first, advanced₁, low, -⟩ := each 0 (by decide)
  obtain ⟨last, advanced₂, high, -⟩ := each 1 (by decide)
  have same : after = last := Except.ok.inj (advanced.symm.trans advanced₂)
  refine ⟨hx, hy, first, last, advanced₁, ?_, advanced₂, ?_, ?_⟩
  · exact (Option.some.inj low).symm
  · exact (Option.some.inj high).symm
  · rw [← same, flags]
    exact Bool.eq_false_iff.mpr fun set => absurd (carry.mp set) (by decide)

end Core

end Arcade
