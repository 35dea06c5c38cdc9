import Arcade.Proofs.Core.Step
import Arcade.Proofs.Cpu.Arithmetic
import Arcade.Proofs.Cpu.Encoding
import Arcade.Proofs.Memory

/-! # Arithmetic instructions

The bits of a byte say which arithmetic it does and where its operand comes from
(`Arithmetic.ofByte?`): a register, the memory byte at HL or the byte that follows. What is to be
computed is stated with numbers (`Arithmetic.Computes`), for the state before the step.

* `arithmetic?_ofByte`: the bits agree with the decoder on all 256 bytes;
* `computes_execute`: an opcode computes what its bits say;
* `computes_of_fetch`: a running core takes the step, and computes that. -/

namespace Arcade

/-- The arithmetic a byte asks for. An operation and a register are given by three bits, a pair by
two. -/
inductive Arithmetic
  /-- The accumulator and a register. -/
  | register (operation source : Nat)
  /-- The accumulator and the byte that follows. -/
  | immediate (operation : Nat)
  | increment (target : Nat)
  | decrement (target : Nat)
  /-- A pair is added to HL. -/
  | addPair (source : Nat)
  /-- The decimal correction. -/
  | adjust
  deriving DecidableEq, Repr

/-- The arithmetic in the bits of a byte. -/
def Arithmetic.ofByte? (byte : UInt8) : Option Arithmetic :=
  let low := byte.toNat % 8
  let middle := byte.toNat / 8 % 8
  if byte &&& 0xc0 = 0x80 then some (register middle low)
  else if byte &&& 0xc7 = 0xc6 then some (immediate middle)
  else if byte &&& 0xc7 = 0x04 then some (increment middle)
  else if byte &&& 0xc7 = 0x05 then some (decrement middle)
  else if byte &&& 0xcf = 0x09 then some (addPair (middle / 2))
  else if byte = 0x27 then some adjust
  else none

variable {δ : Type}

namespace Core

/-- The byte operand of a three-bit code. -/
def selected (core : Core δ) (code : Nat) : UInt8 :=
  let ⟨cpu, memory, _⟩ := core
  [cpu.b, cpu.c, cpu.d, cpu.e, cpu.h, cpu.l, memory.read cpu.hl, cpu.a].getD code 0

/-- The word operand of a two-bit code. -/
def selectedPair (core : Core δ) (code : Nat) : UInt16 :=
  [core.cpu.bc, core.cpu.de, core.cpu.hl, core.cpu.sp].getD code 0

/-- The processor becomes another one, but for its program counter and its count of cycles; memory
and ports stay. -/
structure Settles (core after : Core δ) (cpu : Cpu) : Prop where
  cpu : after.cpu = { cpu with pc := after.cpu.pc, cycles := after.cpu.cycles }
  memory : after.memory = core.memory
  ports : after.ports = core.ports

/-- The operand of a three-bit code gets a value, and the flags are set. -/
def Receives (core after : Core δ) (code : Nat) (value : UInt8) (flags : Flags) : Prop :=
  let cpu := { core.cpu with flags }
  match code with
  | 0 => core.Settles after { cpu with b := value }
  | 1 => core.Settles after { cpu with c := value }
  | 2 => core.Settles after { cpu with d := value }
  | 3 => core.Settles after { cpu with e := value }
  | 4 => core.Settles after { cpu with h := value }
  | 5 => core.Settles after { cpu with l := value }
  | 6 => { core with memory := core.memory.write core.cpu.hl value }.Settles after cpu
  | _ => core.Settles after { cpu with a := value }

end Core

/-- What the eight operations make of the accumulator and a byte. The last one, a comparison,
only sets the flags of the difference. -/
def Accumulates (operation : Nat) (a n : UInt8) (before : Flags) (result : UInt8) (f : Flags) :
    Prop :=
  match operation with
  | 0 => IsSum a n false result f
  | 1 => IsSum a n before.carry result f
  | 2 => IsDifference a n false result f
  | 3 => IsDifference a n before.carry result f
  | 4 => IsLogical Bool.and a n result f
  | 5 => IsLogical Bool.xor a n result f
  | 6 => IsLogical Bool.or a n result f
  | _ => result = a ∧ ∃ difference, IsDifference a n false difference f

/-- What an arithmetic instruction computes from the state before it. -/
def Arithmetic.Computes (core : Core δ) (instruction : Arithmetic) (after : Core δ) : Prop :=
  let cpu := core.cpu
  match instruction with
  | register operation source =>
    ∃ a flags, Accumulates operation cpu.a (core.selected source) cpu.flags a flags ∧
      core.Settles after { cpu with a, flags }
  | immediate operation =>
    ∃ a flags, Accumulates operation cpu.a (core.memory.read (cpu.pc + 1)) cpu.flags a flags ∧
      core.Settles after { cpu with a, flags }
  | increment target =>
    ∃ value flags, IsIncrement (core.selected target) cpu.flags value flags ∧
      core.Receives after target value flags
  | decrement target =>
    ∃ value flags, IsDecrement (core.selected target) cpu.flags value flags ∧
      core.Receives after target value flags
  | addPair source =>
    ∃ (h l : UInt8) (carry : Bool),
      h.toNat * 256 + l.toNat = (cpu.hl.toNat + (core.selectedPair source).toNat) % 65536 ∧
      (carry = true ↔ 65535 < cpu.hl.toNat + (core.selectedPair source).toNat) ∧
      core.Settles after { cpu with h, l, flags.carry := carry }
  | adjust =>
    ∃ a flags, IsAdjusted cpu.a cpu.flags a flags ∧ core.Settles after { cpu with a, flags }

/-! ### The bits of a byte and the decoder -/

/-- The arithmetic of an opcode. -/
def Opcode.arithmetic? : Opcode → Option Arithmetic
  | alu op source => some (.register op.code source.code)
  | aluImmediate op => some (.immediate op.code)
  | inr target => some (.increment target.code)
  | dcr target => some (.decrement target.code)
  | dad source => some (.addPair source.code)
  | daa => some .adjust
  | _ => none

/-- **The bits of a byte agree with the decoder**, and no undocumented byte does arithmetic. -/
theorem arithmetic?_ofByte (byte : UInt8) :
    Arithmetic.ofByte? byte = (Opcode.ofByte byte).arithmetic? ∧
      ((Arithmetic.ofByte? byte).isSome = true → Opcode.alias? byte = none) :=
  forall_byte (p := fun byte => Arithmetic.ofByte? byte = (Opcode.ofByte byte).arithmetic? ∧
    ((Arithmetic.ofByte? byte).isSome = true → Opcode.alias? byte = none)) (by decide +kernel) byte

/-! ### What an opcode computes -/

theorem Core.selected_code (core : Core δ) (target : Operand) :
    core.selected target.code = core.cpu.operand core.memory target := by
  cases target <;> rfl

theorem Core.selectedPair_code (core : Core δ) (p : Pair) :
    core.selectedPair p.code = core.cpu.pair p := by
  cases p <;> rfl

theorem accumulates_apply (op : AluOp) (a n : UInt8) (f : Flags) :
    Accumulates op.code a n f (op.apply a n f).1 (op.apply a n f).2 := by
  cases op with
  | add => exact isSum_add a n false
  | adc => exact isSum_add a n f.carry
  | sub => exact isDifference_subtract a n false
  | sbb => exact isDifference_subtract a n f.carry
  | ana => exact isLogical_and a n
  | xra => exact isLogical_xor a n
  | ora => exact isLogical_or a n
  | cmp => exact ⟨rfl, _, isDifference_subtract a n false⟩

/-- A value put to an operand by an instruction of one byte. -/
theorem Core.receives_put (core : Core δ) (target : Operand) (value : UInt8) (flags : Flags)
    (pc : UInt16) (cycles : Nat) :
    core.Receives
      (afterEffect core.memory ({ core.cpu with pc, flags }.put core.ports target value) cycles)
      target.code value flags := by
  cases target <;> exact ⟨rfl, rfl, rfl⟩

theorem addWords_snd (x y : UInt16) : (addWords x y).2 = true ↔ 65535 < x.toNat + y.toNat := by
  simp [addWords]

theorem toNat_halves (w : UInt16) : (Word.high w).toNat * 256 + (Word.low w).toNat = w.toNat := by
  rw [Word.toNat_high, Word.toNat_low]
  omega

/-- **An opcode computes what its bits say.** -/
theorem Core.computes_execute [Ports δ] {op : Opcode} {instruction : Arithmetic} (core : Core δ)
    (cycles : Nat) (h : op.arithmetic? = some instruction) :
    instruction.Computes core
      (afterEffect core.memory (op.execute core.cpu core.memory core.ports) cycles) := by
  cases op with
  | alu op source =>
    cases h
    refine ⟨_, _, ?_, rfl, rfl, rfl⟩
    rw [selected_code]
    exact accumulates_apply op _ _ _
  | aluImmediate op =>
    cases h
    exact ⟨_, _, accumulates_apply op _ _ _, rfl, rfl, rfl⟩
  | inr target =>
    cases h
    refine ⟨_, _, ?_, receives_put core target _ _ _ cycles⟩
    rw [selected_code]
    exact isIncrement_increment _ _
  | dcr target =>
    cases h
    refine ⟨_, _, ?_, receives_put core target _ _ _ cycles⟩
    rw [selected_code]
    exact isDecrement_decrement _ _
  | dad source =>
    cases h
    have hpair : ∀ pc, { core.cpu with pc }.pair source = core.cpu.pair source := fun _ => by
      cases source <;> rfl
    refine ⟨Word.high (core.cpu.hl + core.cpu.pair source),
      Word.low (core.cpu.hl + core.cpu.pair source),
      (addWords core.cpu.hl (core.cpu.pair source)).2, ?_, ?_, ?_⟩
    · rw [selectedPair_code, toNat_halves]
      exact UInt16.toNat_add _ _
    · rw [selectedPair_code]
      exact addWords_snd _ _
    · simp only [Opcode.execute, hpair]
      exact ⟨rfl, rfl, rfl⟩
  | daa =>
    cases h
    exact ⟨_, _, isAdjusted_decimalAdjust _ _, rfl, rfl, rfl⟩
  | _ => cases h

/-- **A running core computes the arithmetic its byte asks for**, under either policy. -/
theorem Core.computes_of_fetch [Ports δ] {core : Core δ} {instruction : Arithmetic}
    (running : core.cpu.halted = false)
    (asked : Arithmetic.ofByte? core.fetch = some instruction) :
    ∃ cycles after, core.step = (.ok cycles, after) ∧ instruction.Computes core after := by
  have ⟨decoded, documented⟩ := arithmetic?_ofByte core.fetch
  have accepted := refusal?_of_documented (documented (by rw [asked]; rfl))
  refine ⟨core.cost, core.next, step_of_accepted running accepted, ?_⟩
  exact computes_execute core core.cost (decoded.symm.trans asked)

/-- The accumulator 0 less the byte 255 in memory and a borrow. -/
def Core.borrowing : Core Unconnected where
  cpu := { h := 0x20, flags := { carry := true } }
  memory := .holding [(0x0000, 0x9e), (0x2000, 0xff)]
  ports := .unconnected

/-- The difference is -256: the result is 0 again, and both halves have borrowed. -/
theorem Core.computes_of_fetch_borrowing :
    borrowing.cpu.halted = false ∧
      Arithmetic.ofByte? borrowing.fetch = some (.register 3 6) ∧
      ∃ cycles after, borrowing.step = (.ok cycles, after) ∧ after.cpu.a = 0 ∧
        after.cpu.flags.zero = true ∧ after.cpu.flags.carry = true ∧
        after.cpu.flags.auxCarry = false := by
  have running : borrowing.cpu.halted = false := rfl
  have asked : Arithmetic.ofByte? borrowing.fetch = some (.register 3 6) := by
    have fetched : borrowing.fetch = 0x9e :=
      Memory.read_holding (by decide)
    rw [fetched]
    decide
  have accumulator : borrowing.cpu.a = 0 := rfl
  have operand : borrowing.selected 6 = 0xff := by
    have address : borrowing.cpu.hl = 0x2000 := rfl
    have source := borrowing.selected_code .m
    rw [Cpu.operand, address] at source
    exact source.trans (Memory.read_holding (by decide))
  have flags : borrowing.cpu.flags = { carry := true } := rfl
  -- from here on only these facts count, and the bytes of the memory are not looked at
  generalize borrowing = core at running asked accumulator operand flags ⊢
  refine ⟨running, asked, ?_⟩
  obtain ⟨cycles, after, stepped, a, f, difference, settles⟩ := computes_of_fetch running asked
  rw [accumulator, operand, flags] at difference
  have value : a = 0 := by
    have h := difference.value
    apply UInt8.toNat_inj.mp
    simp at h
    simpa using h
  refine ⟨cycles, after, stepped, ?_, ?_, ?_, ?_⟩
  · rw [settles.cpu]
    exact value
  · rw [settles.cpu]
    exact difference.zero.mpr (by rw [value]; rfl)
  · rw [settles.cpu]
    exact difference.carry.mpr (by decide)
  · rw [settles.cpu]
    exact Bool.eq_false_iff.mpr fun h => absurd (difference.auxCarry.mp h) (by decide)

end Arcade
