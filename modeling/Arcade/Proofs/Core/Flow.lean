import Arcade.Proofs.Core.Step
import Arcade.Proofs.Cpu.Encoding
import Arcade.Proofs.Memory

/-! # The flow of control

Where an instruction leaves the program counter is read off the bits of its byte (`Flow.ofByte`),
not off the decoded opcode: bits 3 to 5 of a conditional jump, call or return select a flag and the
value it should have (`Flags.meets`). Twelve bytes are read as the byte they act as
(`Opcode.documented`).

* `flow_ofByte`: the bits agree with the decoder on all 256 bytes;
* `follows_next`: an accepted instruction follows the flow of its byte;
* `follows_of_step`: so does every step that succeeds. Operand and stack bytes are those of the
  memory before the step, whatever the step overwrites. -/

namespace Arcade

/-- Whether the flags meet the condition of a three-bit code: its upper two bits select zero,
carry, parity or sign, and its lowest bit is the value that flag should have. -/
def Flags.meets (f : Flags) (code : Nat) : Bool :=
  [f.zero, f.carry, f.parity, f.sign].getD (code / 2) false == (code % 2 == 1)

/-- Where control goes after an instruction. Jumps, calls and returns may carry the code of a
condition. -/
inductive Flow
  /-- To the next instruction, a number of bytes on. -/
  | next (length : Nat)
  | jump (condition? : Option Nat)
  | call (condition? : Option Nat)
  | ret (condition? : Option Nat)
  /-- A call of one of eight fixed addresses. -/
  | restart (number : Nat)
  /-- To the address in HL. -/
  | indirect
  deriving DecidableEq, Repr

/-- The bytes an instruction without a branch occupies: three if it names an address or a word,
two if it names a byte or a port. -/
def Flow.nextLength (byte : UInt8) : Nat :=
  if byte &&& 0xcf = 0x01 ∨ byte &&& 0xe7 = 0x22 then 3
  else if byte &&& 0xc7 = 0x06 ∨ byte &&& 0xc7 = 0xc6 ∨ byte = 0xd3 ∨ byte = 0xdb then 2
  else 1

/-- The flow of a documented byte. -/
def Flow.ofByte (byte : UInt8) : Flow :=
  let middle := byte.toNat / 8 % 8
  if byte = 0xc3 then jump none
  else if byte = 0xcd then call none
  else if byte = 0xc9 then ret none
  else if byte = 0xe9 then indirect
  else if byte &&& 0xc7 = 0xc2 then jump (some middle)
  else if byte &&& 0xc7 = 0xc4 then call (some middle)
  else if byte &&& 0xc7 = 0xc0 then ret (some middle)
  else if byte &&& 0xc7 = 0xc7 then restart middle
  else next (nextLength byte)

/-- Whether a branch is taken: always if it has no condition. -/
def Flags.takes (f : Flags) (condition? : Option Nat) : Bool :=
  condition?.all f.meets

/-! ### What each flow does to a core -/

variable {δ : Type}

/-- Control goes to an address, and but for the count of cycles nothing else changes. -/
structure Core.Jumps (core after : Core δ) (target : UInt16) : Prop where
  cpu : after.cpu = { core.cpu with pc := target, cycles := after.cpu.cycles }
  memory : after.memory = core.memory
  ports : after.ports = core.ports

/-- Control goes to an address, and the address to come back to lies on the stack, which is lower
by two bytes: its low byte at the stack pointer, its high byte after it. Nothing else changes. -/
structure Core.Calls (core after : Core δ) (target back : UInt16) : Prop where
  cpu : after.cpu =
    { core.cpu with pc := target, sp := core.cpu.sp - 2, cycles := after.cpu.cycles }
  low : after.memory.read (core.cpu.sp - 2) = Word.low back
  high : after.memory.read (core.cpu.sp - 2 + 1) = Word.high back
  memory : core.memory.SameBut
    [core.memory.cell (core.cpu.sp - 2), core.memory.cell (core.cpu.sp - 2 + 1)] after.memory
  ports : after.ports = core.ports

/-- Control goes to the address on the stack, which is higher by two bytes. Nothing else changes,
and nothing is written. -/
structure Core.Returns (core after : Core δ) : Prop where
  cpu : after.cpu =
    { core.cpu with
      pc := Word.ofBytes (core.memory.read (core.cpu.sp + 1)) (core.memory.read core.cpu.sp)
      sp := core.cpu.sp + 2
      cycles := after.cpu.cycles }
  memory : after.memory = core.memory
  ports : after.ports = core.ports

/-- What a flow makes of a core. A branch that is not taken goes on behind its operand. -/
def Core.Follows (core : Core δ) (flow : Flow) (after : Core δ) : Prop :=
  let pc := core.cpu.pc
  let operand := Word.ofBytes (core.memory.read (pc + 2)) (core.memory.read (pc + 1))
  match flow with
  | .next length => after.cpu.pc = pc + UInt16.ofNat length
  | .jump condition? =>
    core.Jumps after (if core.cpu.flags.takes condition? then operand else pc + 3)
  | .call condition? =>
    if core.cpu.flags.takes condition? then core.Calls after operand (pc + 3)
    else core.Jumps after (pc + 3)
  | .ret condition? =>
    if core.cpu.flags.takes condition? then core.Returns after else core.Jumps after (pc + 1)
  | .restart number => core.Calls after (UInt16.ofNat (8 * number)) (pc + 1)
  | .indirect => core.Jumps after core.cpu.hl

/-! ### The bits of a byte and the decoder -/

theorem meets_code (f : Flags) (condition : Condition) :
    f.meets condition.code = condition.holds f := by
  cases condition <;> simp [Flags.meets, Condition.code, Condition.holds]

/-- The flow of an opcode. -/
def Opcode.flow : Opcode → Flow
  | jmp => .jump none
  | jumpIf condition => .jump (some condition.code)
  | call => .call none
  | callIf condition => .call (some condition.code)
  | ret => .ret none
  | retIf condition => .ret (some condition.code)
  | rst number => .restart number.val
  | pchl => .indirect
  | op => .next op.length

/-- **The bits of a byte agree with the decoder.** -/
theorem flow_ofByte (byte : UInt8) :
    Flow.ofByte (Opcode.documented byte) = (Opcode.ofByte byte).flow :=
  forall_byte (p := fun byte => Flow.ofByte (Opcode.documented byte) = (Opcode.ofByte byte).flow)
    (by decide +kernel) byte

/-! ### What an instruction does to control -/

@[simp]
theorem Cpu.pc_put (cpu : Cpu) (ports : δ) (target : Operand) (value : UInt8) :
    (cpu.put ports target value).cpu.pc = cpu.pc := by
  cases target <;> rfl

@[simp]
theorem Cpu.pc_setPair (cpu : Cpu) (p : Pair) (value : UInt16) :
    (cpu.setPair p value).pc = cpu.pc :=
  Registers.pc_setPair _ p value

@[simp]
theorem Cpu.pc_setStackPair (cpu : Cpu) (p : StackPair) (value : UInt16) :
    (cpu.setStackPair p value).pc = cpu.pc := by
  cases p <;> simp [Cpu.setStackPair]

theorem Memory.readWord_succ (m : Memory) (pc : UInt16) :
    m.readWord (pc + 1) = Word.ofBytes (m.read (pc + 2)) (m.read (pc + 1)) := by
  rw [readWord, UInt16.add_assoc]
  rfl

/-- A word was pushed and control has gone to a target. -/
theorem Core.calls_of_writeWord {core after : Core δ} {target back : UInt16}
    (cpu : after.cpu =
      { core.cpu with pc := target, sp := core.cpu.sp - 2, cycles := after.cpu.cycles })
    (memory : after.memory = core.memory.writeWord (core.cpu.sp - 2) back)
    (ports : after.ports = core.ports) : core.Calls after target back where
  cpu := cpu
  low := by rw [memory, Memory.read_writeWord_low]
  high := by rw [memory, Memory.read_writeWord_high]
  memory := by
    rw [memory]
    exact core.memory.sameBut_writeWord _ back
  ports := ports

/-- **An opcode follows its flow.** -/
theorem Core.follows_execute [Ports δ] (op : Opcode) (core : Core δ) (cycles : Nat) :
    core.Follows op.flow
      (afterEffect core.memory (op.execute core.cpu core.memory core.ports) cycles) := by
  cases op with
  | jmp =>
    simp only [Opcode.flow, Core.Follows, Flags.takes, Option.all_none, if_true]
    rw [← Memory.readWord_succ]
    exact ⟨rfl, rfl, rfl⟩
  | jumpIf condition =>
    simp only [Opcode.flow, Core.Follows, Flags.takes, Option.all_some, meets_code]
    rw [← Memory.readWord_succ]
    cases hc : condition.holds core.cpu.flags with
    | true =>
      simp only [if_true, Opcode.execute, hc]
      exact ⟨rfl, rfl, rfl⟩
    | false =>
      simp only [Bool.false_eq_true, if_false, Opcode.execute, hc]
      exact ⟨rfl, rfl, rfl⟩
  | call =>
    simp only [Opcode.flow, Core.Follows, Flags.takes, Option.all_none, if_true]
    rw [← Memory.readWord_succ]
    exact calls_of_writeWord rfl rfl rfl
  | callIf condition =>
    simp only [Opcode.flow, Core.Follows, Flags.takes, Option.all_some, meets_code]
    rw [← Memory.readWord_succ]
    cases hc : condition.holds core.cpu.flags with
    | true =>
      simp only [if_true, Opcode.execute, hc]
      exact calls_of_writeWord rfl rfl rfl
    | false =>
      simp only [Bool.false_eq_true, if_false, Opcode.execute, hc]
      exact ⟨rfl, rfl, rfl⟩
  | ret => exact ⟨rfl, rfl, rfl⟩
  | retIf condition =>
    simp only [Opcode.flow, Core.Follows, Flags.takes, Option.all_some, meets_code]
    cases hc : condition.holds core.cpu.flags with
    | true =>
      simp only [if_true, Opcode.execute, hc]
      exact ⟨rfl, rfl, rfl⟩
    | false =>
      simp only [Bool.false_eq_true, if_false, Opcode.execute, hc]
      exact ⟨rfl, rfl, rfl⟩
  | rst number => exact calls_of_writeWord rfl rfl rfl
  | pchl => exact ⟨rfl, rfl, rfl⟩
  | push source => rfl
  | _ => simp [Opcode.flow, Core.Follows, afterEffect, Opcode.execute, Effect.ofCpu]

theorem Core.follows_next [Ports δ] (core : Core δ) :
    core.Follows (Flow.ofByte (Opcode.documented core.fetch)) core.next := by
  rw [flow_ofByte]
  exact follows_execute core.opcode core core.cost

/-- **Every step that succeeds follows the flow of its byte**, under either policy. -/
theorem Core.follows_of_step [Ports δ] {core after : Core δ} {cycles : Nat}
    (running : core.cpu.halted = false) (stepped : core.step = (.ok cycles, after)) :
    core.Follows (Flow.ofByte (Opcode.documented core.fetch)) after := by
  rcases step_eq_ok_iff.mp stepped with ⟨halted, -, -⟩ | ⟨-, -, -, rfl⟩
  · rw [running] at halted
    cases halted
  · exact core.follows_next

/-- An undocumented call at the end of the address space, in 16 KiB, that stores its return address
over its own operand. -/
def Core.overlappingCall : Core Unconnected where
  cpu := { pc := 0xfffe, sp := 0x0001, strict := false }
  memory := .holding [(0xfffe, 0xfd), (0xffff, 0x34), (0x0000, 0x12)]
  ports := .unconnected

theorem Core.fetch_overlappingCall : overlappingCall.fetch = 0xfd :=
  Memory.read_holding (by decide)

theorem Core.step_overlappingCall : overlappingCall.step = (.ok 17, overlappingCall.next) := by
  have accepted : overlappingCall.refusal? = none := refusal?_eq_none_iff.mpr nofun
  have cost : overlappingCall.cost = 17 := by
    rw [cost, effect, opcode, fetch_overlappingCall]
    rfl
  rw [step_of_accepted rfl accepted, cost]

/-- The call takes the operand as it was, and comes back to the address behind it. -/
theorem Core.follows_of_step_overlappingCall :
    overlappingCall.cpu.halted = false ∧
      overlappingCall.step = (.ok 17, overlappingCall.next) ∧
      overlappingCall.Calls overlappingCall.next 0x1234 0x0001 := by
  have running : overlappingCall.cpu.halted = false := rfl
  have stepped := step_overlappingCall
  have fetched := fetch_overlappingCall
  have operand : Word.ofBytes (overlappingCall.memory.read (overlappingCall.cpu.pc + 2))
      (overlappingCall.memory.read (overlappingCall.cpu.pc + 1)) = 0x1234 := by
    have low : overlappingCall.memory.read (0xfffe + 1) = 0x34 :=
      Memory.read_holding (by decide)
    have high : overlappingCall.memory.read (0xfffe + 2) = 0x12 :=
      Memory.read_holding (by decide)
    change Word.ofBytes (overlappingCall.memory.read (0xfffe + 2))
      (overlappingCall.memory.read (0xfffe + 1)) = 0x1234
    rw [low, high]
    rfl
  have back : overlappingCall.cpu.pc + 3 = 0x0001 := rfl
  -- from here on only these facts count, and the bytes of the memory are not looked at
  generalize overlappingCall = core at running stepped fetched operand back ⊢
  have h := follows_of_step running stepped
  rw [fetched] at h
  change core.Calls core.next (Word.ofBytes _ _) (core.cpu.pc + 3) at h
  rw [operand, back] at h
  exact ⟨running, stepped, h⟩

end Arcade
