import Arcade.Proofs.Core.Arithmetic
import Arcade.Proofs.Core.Flow

/-! # Where data goes

The bits of a byte say what its instruction moves (`Movement.ofByte`): from which register, pair or
place in memory to which other one. From that follows all that a step writes: its stores in memory
(`Movement.stores`), the registers and flags (`Movement.Fills`) and the one transfer through a port
(`Movement.ports`). They are stated for the state before the step, so that an instruction that
stores over itself or over its stack still moves what was there. What arithmetic makes of its
operands is left open here, as far as it stays in the accumulator, in HL and in the flags.

* `movement_ofByte`: the bits agree with the decoder on all 256 bytes;
* `moves_execute`: an opcode moves what its bits say;
* `moves_of_step`: so does every step that succeeds, and it changes nothing else. -/

namespace Arcade

/-- Where the data of an instruction goes. Byte operands are given by three bits, pairs by two. -/
inductive Movement
  /-- From one byte operand to another. -/
  | move (target source : Nat)
  /-- The byte that follows, to a byte operand. -/
  | moveNext (target : Nat)
  /-- A byte operand and one. -/
  | increment (target : Nat)
  | decrement (target : Nat)
  /-- The word that follows, to a pair. -/
  | loadPair (target : Nat)
  /-- A pair and one. -/
  | countUp (target : Nat)
  | countDown (target : Nat)
  /-- The byte at the address in a pair, to the accumulator. -/
  | loadBy (pointer : Nat)
  | storeBy (pointer : Nat)
  /-- The byte at the address that follows, to the accumulator. -/
  | load
  | store
  /-- The word at the address that follows, to HL. -/
  | loadWord
  | storeWord
  /-- DE and HL change places. -/
  | exchange
  /-- The word on the stack and HL change places. -/
  | exchangeTop
  /-- HL, to the stack pointer. -/
  | moveStack
  | push (source : Nat)
  | pop (target : Nat)
  /-- From the port that follows to the accumulator. -/
  | input
  | output
  /-- The accumulator and the flags are computed. -/
  | accumulate
  /-- The flags are computed. -/
  | compare
  /-- HL and the flags are computed. -/
  | addPair
  /-- Nothing moves but return addresses. -/
  | control (flow : Flow)
  deriving DecidableEq, Repr

/-- The movement of a documented byte. -/
def Movement.ofByte (byte : UInt8) : Movement :=
  let low := byte.toNat % 8
  let middle := byte.toNat / 8 % 8
  if byte = 0x22 then storeWord
  else if byte = 0x2a then loadWord
  else if byte = 0x32 then store
  else if byte = 0x3a then load
  else if byte = 0xeb then exchange
  else if byte = 0xe3 then exchangeTop
  else if byte = 0xf9 then moveStack
  else if byte = 0xdb then input
  else if byte = 0xd3 then output
  else if byte &&& 0xc0 = 0x40 ∧ byte ≠ 0x76 then move middle low
  else if byte &&& 0xc7 = 0x06 then moveNext middle
  else if byte &&& 0xc7 = 0x04 then increment middle
  else if byte &&& 0xc7 = 0x05 then decrement middle
  else if byte &&& 0xcf = 0x01 then loadPair (middle / 2)
  else if byte &&& 0xcf = 0x03 then countUp (middle / 2)
  else if byte &&& 0xcf = 0x0b then countDown (middle / 2)
  else if byte &&& 0xef = 0x0a then loadBy (middle / 2)
  else if byte &&& 0xef = 0x02 then storeBy (middle / 2)
  else if byte &&& 0xcf = 0xc5 then push (middle / 2)
  else if byte &&& 0xcf = 0xc1 then pop (middle / 2)
  else if byte &&& 0xcf = 0x09 then addPair
  else if byte &&& 0xf8 = 0xb8 ∨ byte = 0xfe ∨ byte &&& 0xf7 = 0x37 then compare
  else if byte &&& 0xc0 = 0x80 ∨ byte &&& 0xc7 = 0xc6 ∨ byte &&& 0xc7 = 0x07 then accumulate
  else control (.ofByte byte)

variable {δ : Type}

/-! ### What a movement writes -/

/-- The processor with the byte operand of a three-bit code set; code 6 stands for memory. -/
def Cpu.setSelected (cpu : Cpu) (code : Nat) (value : UInt8) : Cpu :=
  match code with
  | 0 => { cpu with b := value }
  | 1 => { cpu with c := value }
  | 2 => { cpu with d := value }
  | 3 => { cpu with e := value }
  | 4 => { cpu with h := value }
  | 5 => { cpu with l := value }
  | 6 => cpu
  | _ => { cpu with a := value }

/-- The processor with the pair of a two-bit code set. -/
def Cpu.setSelectedPair (cpu : Cpu) (code : Nat) (high low : UInt8) : Cpu :=
  match code with
  | 0 => { cpu with b := high, c := low }
  | 1 => { cpu with d := high, e := low }
  | 2 => { cpu with h := high, l := low }
  | _ => { cpu with sp := Word.ofBytes high low }

/-- The high and the low byte that are pushed for a two-bit code. -/
def Cpu.stacked (cpu : Cpu) (code : Nat) : UInt8 × UInt8 :=
  match code with
  | 0 => (cpu.b, cpu.c)
  | 1 => (cpu.d, cpu.e)
  | 2 => (cpu.h, cpu.l)
  | _ => (cpu.a, cpu.flags.toByte)

/-- The processor with the high and the low byte that are popped for a two-bit code. -/
def Cpu.setStacked (cpu : Cpu) (code : Nat) (high low : UInt8) : Cpu :=
  match code with
  | 0 => { cpu with b := high, c := low }
  | 1 => { cpu with d := high, e := low }
  | 2 => { cpu with h := high, l := low }
  | _ => { cpu with a := high, flags := .ofByte low }

/-- The same registers but for the program counter, and the same flags. -/
def Cpu.SameData (cpu other : Cpu) : Prop :=
  other.toRegisters = { cpu.toRegisters with pc := other.pc } ∧ other.flags = cpu.flags

namespace Core

/-- The byte that follows the opcode. -/
def nextByte (core : Core δ) : UInt8 :=
  core.memory.read (core.cpu.pc + 1)

/-- The word that follows the opcode, its low byte first. -/
def nextWord (core : Core δ) : UInt16 :=
  Word.ofBytes (core.memory.read (core.cpu.pc + 2)) (core.memory.read (core.cpu.pc + 1))

/-- The store of a byte that goes to the byte operand of a three-bit code. -/
def storesTo (core : Core δ) (code : Nat) (value : UInt8) : List Memory.Store :=
  if code = 6 then [(core.cpu.hl, value)] else []

/-- The stores of a word that is pushed. -/
def pushes (core : Core δ) (high low : UInt8) : List Memory.Store :=
  [(core.cpu.sp - 2, low), (core.cpu.sp - 1, high)]

/-- The stores of a return address, if there is one. -/
def linkStores (core : Core δ) : Flow → List Memory.Store
  | .call condition? =>
    if core.cpu.flags.takes condition? then
      core.pushes (Word.high (core.cpu.pc + 3)) (Word.low (core.cpu.pc + 3))
    else []
  | .restart _ => core.pushes (Word.high (core.cpu.pc + 1)) (Word.low (core.cpu.pc + 1))
  | _ => []

/-- The stack pointer behind a return address that was pushed or popped. -/
def stackAfter (core : Core δ) : Flow → UInt16
  | .call condition? =>
    if core.cpu.flags.takes condition? then core.cpu.sp - 2 else core.cpu.sp
  | .ret condition? =>
    if core.cpu.flags.takes condition? then core.cpu.sp + 2 else core.cpu.sp
  | .restart _ => core.cpu.sp - 2
  | _ => core.cpu.sp

end Core

namespace Movement

/-- The bytes a movement stores, in order. -/
def stores (core : Core δ) : Movement → List Memory.Store
  | move target source => core.storesTo target (core.selected source)
  | moveNext target => core.storesTo target core.nextByte
  | increment target => core.storesTo target (core.selected target + 1)
  | decrement target => core.storesTo target (core.selected target - 1)
  | storeBy pointer => [(core.selectedPair pointer, core.cpu.a)]
  | store => [(core.nextWord, core.cpu.a)]
  | storeWord => [(core.nextWord, core.cpu.l), (core.nextWord + 1, core.cpu.h)]
  | exchangeTop => [(core.cpu.sp, core.cpu.l), (core.cpu.sp + 1, core.cpu.h)]
  | push source => core.pushes (core.cpu.stacked source).1 (core.cpu.stacked source).2
  | control flow => core.linkStores flow
  | _ => []

/-- The registers and the flags a movement leaves, the program counter apart. -/
def Fills [Ports δ] (core : Core δ) (movement : Movement) (after : Cpu) : Prop :=
  let cpu := core.cpu
  let memory := core.memory
  match movement with
  | move target source => (cpu.setSelected target (core.selected source)).SameData after
  | moveNext target => (cpu.setSelected target core.nextByte).SameData after
  | increment target =>
    ∃ flags, ({ cpu with flags }.setSelected target (core.selected target + 1)).SameData after
  | decrement target =>
    ∃ flags, ({ cpu with flags }.setSelected target (core.selected target - 1)).SameData after
  | loadPair target =>
    (cpu.setSelectedPair target (memory.read (cpu.pc + 2))
      (memory.read (cpu.pc + 1))).SameData after
  | countUp target =>
    let word := core.selectedPair target + 1
    (cpu.setSelectedPair target (Word.high word) (Word.low word)).SameData after
  | countDown target =>
    let word := core.selectedPair target - 1
    (cpu.setSelectedPair target (Word.high word) (Word.low word)).SameData after
  | loadBy pointer => { cpu with a := memory.read (core.selectedPair pointer) }.SameData after
  | load => { cpu with a := memory.read core.nextWord }.SameData after
  | loadWord =>
    { cpu with h := memory.read (core.nextWord + 1), l := memory.read core.nextWord }.SameData after
  | exchange => { cpu with d := cpu.h, e := cpu.l, h := cpu.d, l := cpu.e }.SameData after
  | exchangeTop =>
    { cpu with h := memory.read (cpu.sp + 1), l := memory.read cpu.sp }.SameData after
  | moveStack => { cpu with sp := cpu.hl }.SameData after
  | push _ => { cpu with sp := cpu.sp - 2 }.SameData after
  | pop target =>
    ({ cpu with sp := cpu.sp + 2 }.setStacked target (memory.read (cpu.sp + 1))
      (memory.read cpu.sp)).SameData after
  | input => { cpu with a := (Ports.input core.nextByte core.ports).1 }.SameData after
  | accumulate => ∃ a flags, { cpu with a, flags }.SameData after
  | compare => ∃ flags, { cpu with flags }.SameData after
  | addPair => ∃ h l flags, { cpu with h, l, flags }.SameData after
  | control flow => { cpu with sp := core.stackAfter flow }.SameData after
  | storeBy _ | store | storeWord | output => cpu.SameData after

/-- The ports behind a movement. -/
def ports [Ports δ] (core : Core δ) : Movement → δ
  | input => (Ports.input core.nextByte core.ports).2
  | output => Ports.output core.nextByte core.cpu.a core.ports
  | _ => core.ports

/-- A core after a movement: memory is what it was but for the stores, the registers and the flags
are filled, and no port is used but for its one transfer. -/
structure Moves [Ports δ] (core : Core δ) (movement : Movement) (after : Core δ) : Prop where
  memory : after.memory = core.memory.storeAll (movement.stores core)
  data : movement.Fills core after.cpu
  ports : after.ports = movement.ports core

end Movement

/-! ### The bits of a byte and the decoder -/

/-- The movement of an opcode. -/
def Opcode.movement : Opcode → Movement
  | mov target source => .move target.code source.code
  | mvi target => .moveNext target.code
  | inr target => .increment target.code
  | dcr target => .decrement target.code
  | lxi target => .loadPair target.code
  | inx target => .countUp target.code
  | dcx target => .countDown target.code
  | ldax pointer => .loadBy pointer.toPair.code
  | stax pointer => .storeBy pointer.toPair.code
  | lda => .load
  | sta => .store
  | lhld => .loadWord
  | shld => .storeWord
  | xchg => .exchange
  | xthl => .exchangeTop
  | sphl => .moveStack
  | push source => .push source.code
  | pop target => .pop target.code
  | input => .input
  | output => .output
  | alu op _ | aluImmediate op => if op = .cmp then .compare else .accumulate
  | stc | cmc => .compare
  | daa | cma | rotate _ => .accumulate
  | dad _ => .addPair
  | op => .control op.flow

/-- **The bits of a byte agree with the decoder.** -/
theorem movement_ofByte (byte : UInt8) :
    Movement.ofByte (Opcode.documented byte) = (Opcode.ofByte byte).movement :=
  forall_byte (p := fun byte =>
    Movement.ofByte (Opcode.documented byte) = (Opcode.ofByte byte).movement)
    (by decide +kernel) byte

/-! ### What an opcode moves -/

namespace Cpu

variable (cpu : Cpu) (pc : UInt16)

theorem setPair_eq (p : Pair) (value : UInt16) :
    cpu.setPair p value = cpu.setSelectedPair p.code (Word.high value) (Word.low value) := by
  cases p with
  | sp =>
    simp only [setSelectedPair, Pair.code, Word.ofBytes_high_low]
    rfl
  | _ => rfl

theorem setStackPair_eq (p : StackPair) (value : UInt16) :
    cpu.setStackPair p value = cpu.setStacked p.code (Word.high value) (Word.low value) := by
  cases p <;> rfl

theorem sameData_setSelectedPair (p : Pair) (high low : UInt8) :
    (cpu.setSelectedPair p.code high low).SameData
      ({ cpu with pc }.setSelectedPair p.code high low) := by
  cases p <;> exact ⟨rfl, rfl⟩

theorem sameData_setStacked (p : StackPair) (high low : UInt8) :
    (cpu.setStacked p.code high low).SameData ({ cpu with pc }.setStacked p.code high low) := by
  cases p <;> exact ⟨rfl, rfl⟩

end Cpu

namespace Core

variable (core : Core δ)

theorem readWord_next : core.memory.readWord (core.cpu.pc + 1) = core.nextWord :=
  core.memory.readWord_succ core.cpu.pc

theorem wordStores_ofBytes (address : UInt16) (high low : UInt8) :
    Memory.wordStores address (Word.ofBytes high low) = [(address, low), (address + 1, high)] := by
  rw [Memory.wordStores, Word.low_ofBytes, Word.high_ofBytes]

theorem wordStores_push (value : UInt16) :
    Memory.wordStores (core.cpu.sp - 2) value =
      core.pushes (Word.high value) (Word.low value) := by
  have above : core.cpu.sp - 2 + 1 = core.cpu.sp - 1 := by
    grind
  rw [Memory.wordStores, above]
  rfl

/-- A byte put to an operand. -/
theorem put_eq (target : Operand) (value : UInt8) (flags : Flags) (pc : UInt16) :
    let effect := { core.cpu with pc, flags }.put core.ports target value
    effect.stores = core.storesTo target.code value ∧
      ({ core.cpu with flags }.setSelected target.code value).SameData effect.cpu ∧
      effect.ports = core.ports := by
  cases target <;> exact ⟨rfl, ⟨rfl, rfl⟩, rfl⟩

/-- The operand of an instruction whose program counter was moved on. -/
theorem operand_next (source : Operand) (pc : UInt16) :
    { core.cpu with pc }.operand core.memory source = core.selected source.code := by
  cases source <;> rfl

theorem pair_next (source : Pair) (pc : UInt16) :
    { core.cpu.toRegisters with pc }.pair source = core.selectedPair source.code := by
  cases source <;> rfl

theorem stackPair_next (source : StackPair) (pc : UInt16) :
    { core.cpu with pc }.stackPair source =
      Word.ofBytes (core.cpu.stacked source.code).1 (core.cpu.stacked source.code).2 := by
  cases source <;> rfl

variable [Ports δ]

/-- **An opcode moves what its bits say.** -/
theorem moves_execute (op : Opcode) (cycles : Nat) :
    op.movement.Moves core
      (afterEffect core.memory (op.execute core.cpu core.memory core.ports) cycles) := by
  cases op with
  | mov target source =>
    obtain ⟨stores, data, ports⟩ := core.put_eq target (core.selected source.code)
      core.cpu.flags (core.cpu.pc + 1)
    simp only [Opcode.execute, operand_next]
    exact ⟨congrArg core.memory.storeAll stores, data, ports⟩
  | mvi target =>
    obtain ⟨stores, data, ports⟩ := core.put_eq target core.nextByte core.cpu.flags
      (core.cpu.pc + 2)
    exact ⟨congrArg core.memory.storeAll stores, data, ports⟩
  | inr target =>
    obtain ⟨stores, data, ports⟩ := core.put_eq target (core.selected target.code + 1)
      (increment (core.selected target.code) core.cpu.flags).2 (core.cpu.pc + 1)
    simp only [Opcode.execute, operand_next, increment]
    exact ⟨congrArg core.memory.storeAll stores, ⟨_, data⟩, ports⟩
  | dcr target =>
    obtain ⟨stores, data, ports⟩ := core.put_eq target (core.selected target.code - 1)
      (decrement (core.selected target.code) core.cpu.flags).2 (core.cpu.pc + 1)
    simp only [Opcode.execute, operand_next, decrement]
    exact ⟨congrArg core.memory.storeAll stores, ⟨_, data⟩, ports⟩
  | lxi target =>
    refine ⟨rfl, ?_, rfl⟩
    simp only [Opcode.movement, Opcode.execute, Cpu.setPair_eq, Memory.readWord_succ,
      Word.high_ofBytes, Word.low_ofBytes]
    exact core.cpu.sameData_setSelectedPair _ target _ _
  | inx target =>
    refine ⟨rfl, ?_, rfl⟩
    simp only [Opcode.execute, pair_next, Cpu.setPair_eq]
    exact core.cpu.sameData_setSelectedPair _ target _ _
  | dcx target =>
    refine ⟨rfl, ?_, rfl⟩
    simp only [Opcode.execute, pair_next, Cpu.setPair_eq]
    exact core.cpu.sameData_setSelectedPair _ target _ _
  | ldax pointer => cases pointer <;> exact ⟨rfl, ⟨rfl, rfl⟩, rfl⟩
  | stax pointer => cases pointer <;> exact ⟨rfl, ⟨rfl, rfl⟩, rfl⟩
  | lda =>
    simp only [Opcode.execute, readWord_next]
    exact ⟨rfl, ⟨rfl, rfl⟩, rfl⟩
  | sta =>
    simp only [Opcode.execute, readWord_next]
    exact ⟨rfl, ⟨rfl, rfl⟩, rfl⟩
  | lhld =>
    simp only [Opcode.execute, readWord_next, Cpu.setPair_eq]
    rw [Memory.readWord, Word.high_ofBytes, Word.low_ofBytes]
    exact ⟨rfl, ⟨rfl, rfl⟩, rfl⟩
  | shld =>
    refine ⟨?_, ⟨rfl, rfl⟩, rfl⟩
    simp only [Opcode.execute, readWord_next]
    exact congrArg core.memory.storeAll (wordStores_ofBytes _ _ _)
  | xthl =>
    simp only [Opcode.execute, Cpu.setPair_eq]
    rw [Memory.readWord, Word.high_ofBytes, Word.low_ofBytes]
    exact ⟨congrArg core.memory.storeAll (wordStores_ofBytes _ _ _), ⟨rfl, rfl⟩, rfl⟩
  | push source =>
    have pushes := core.wordStores_push
      (Word.ofBytes (core.cpu.stacked source.code).1 (core.cpu.stacked source.code).2)
    rw [Word.high_ofBytes, Word.low_ofBytes] at pushes
    simp only [Opcode.execute, stackPair_next]
    exact ⟨congrArg core.memory.storeAll pushes, ⟨rfl, rfl⟩, rfl⟩
  | pop target =>
    refine ⟨rfl, ?_, rfl⟩
    simp only [Opcode.execute, Cpu.setStackPair_eq]
    rw [Memory.readWord, Word.high_ofBytes, Word.low_ofBytes]
    exact { core.cpu with sp := core.cpu.sp + 2 }.sameData_setStacked _ target _ _
  | alu op _ | aluImmediate op =>
    simp only [Opcode.movement]
    split_ifs with comparison
    · subst comparison
      refine ⟨rfl, ⟨_, ?_, rfl⟩, rfl⟩
      rfl
    · exact ⟨rfl, ⟨_, _, rfl, rfl⟩, rfl⟩
  | daa | cma | rotate _ => exact ⟨rfl, ⟨_, _, rfl, rfl⟩, rfl⟩
  | stc | cmc =>
    refine ⟨rfl, ⟨_, ?_, rfl⟩, rfl⟩
    rfl
  | dad source => exact ⟨rfl, ⟨_, _, _, rfl, rfl⟩, rfl⟩
  | jumpIf condition =>
    simp only [Opcode.execute]
    split_ifs <;> exact ⟨rfl, ⟨rfl, rfl⟩, rfl⟩
  | call => exact ⟨congrArg core.memory.storeAll (core.wordStores_push _), ⟨rfl, rfl⟩, rfl⟩
  | callIf condition =>
    have takes : core.cpu.flags.takes (some condition.code) = condition.holds core.cpu.flags :=
      meets_code core.cpu.flags condition
    refine ⟨?_, ?_, ?_⟩
    · simp only [Opcode.movement, Opcode.flow, Movement.stores, linkStores, takes, Opcode.execute]
      split_ifs
      · exact congrArg core.memory.storeAll (core.wordStores_push _)
      · rfl
    · simp only [Opcode.movement, Opcode.flow, Movement.Fills, stackAfter, takes, Opcode.execute]
      split_ifs <;> exact ⟨rfl, rfl⟩
    · simp only [Opcode.execute]
      split_ifs <;> rfl
  | ret => exact ⟨rfl, ⟨rfl, rfl⟩, rfl⟩
  | retIf condition =>
    have takes : core.cpu.flags.takes (some condition.code) = condition.holds core.cpu.flags :=
      meets_code core.cpu.flags condition
    refine ⟨?_, ?_, ?_⟩
    · simp only [Opcode.execute]
      split_ifs <;> rfl
    · simp only [Opcode.movement, Opcode.flow, Movement.Fills, stackAfter, takes, Opcode.execute]
      split_ifs <;> exact ⟨rfl, rfl⟩
    · simp only [Opcode.execute]
      split_ifs <;> rfl
  | rst number => exact ⟨congrArg core.memory.storeAll (core.wordStores_push _), ⟨rfl, rfl⟩, rfl⟩
  | _ => exact ⟨rfl, ⟨rfl, rfl⟩, rfl⟩

theorem moves_next :
    (Movement.ofByte (Opcode.documented core.fetch)).Moves core core.next := by
  rw [movement_ofByte]
  exact core.moves_execute core.opcode core.cost

variable {core}

/-- **Every step that succeeds moves what the bits of its byte say**, under either policy, and
changes nothing else. A halted processor moves nothing. -/
theorem moves_of_step {after : Core δ} {cycles : Nat} (stepped : core.step = (.ok cycles, after)) :
    (core.cpu.halted = false →
      (Movement.ofByte (Opcode.documented core.fetch)).Moves core after) ∧
    (core.cpu.halted = true → after = core) := by
  rcases step_eq_ok_iff.mp stepped with ⟨halted, -, rfl⟩ | ⟨running, -, -, rfl⟩
  · exact ⟨fun running => absurd (running.symm.trans halted) nofun, fun _ => rfl⟩
  · exact ⟨fun _ => core.moves_next, fun halted => absurd (running.symm.trans halted) nofun⟩

/-- A core that stores HL at the last address and the first one, where the instruction stands. -/
def storingOver : Core Unconnected where
  cpu := { h := 0x12, l := 0x34 }
  memory := .holding [(0x0000, 0x22), (0x0001, 0xff), (0x0002, 0xff)]
  ports := .unconnected

/-- The low byte goes to the last address and the high byte over the instruction. -/
theorem moves_of_step_storingOver :
    storingOver.step = (.ok 16, storingOver.next) ∧
      storingOver.next.memory = storingOver.memory.storeAll [(0xffff, 0x34), (0x0000, 0x12)] ∧
      storingOver.next.memory.read 0x0000 = 0x12 ∧ storingOver.next.cpu.hl = 0x1234 := by
  have fetched : storingOver.fetch = 0x22 :=
    Memory.read_holding (by decide)
  have running : storingOver.cpu.halted = false := rfl
  have stepped : storingOver.step = (.ok 16, storingOver.next) := by
    have accepted : storingOver.refusal? = none :=
      refusal?_of_documented (by rw [fetched]; rfl)
    have cost : storingOver.cost = 16 := by
      rw [cost, effect, opcode, fetched]
      rfl
    rw [step_of_accepted running accepted, cost]
  have address : storingOver.nextWord = 0xffff := by
    have low : storingOver.memory.read (0x0000 + 1) = 0xff := Memory.read_holding (by decide)
    have high : storingOver.memory.read (0x0000 + 2) = 0xff := Memory.read_holding (by decide)
    change Word.ofBytes (storingOver.memory.read (0x0000 + 2))
      (storingOver.memory.read (0x0000 + 1)) = 0xffff
    rw [low, high]
    rfl
  have h : storingOver.cpu.h = 0x12 := rfl
  have l : storingOver.cpu.l = 0x34 := rfl
  -- from here on only these facts count, and the bytes of the memory are not looked at
  generalize storingOver = core at *
  have moves := (moves_of_step stepped).1 running
  rw [fetched] at moves
  have memory : core.next.memory =
      core.memory.storeAll [(core.nextWord, core.cpu.l), (core.nextWord + 1, core.cpu.h)] :=
    moves.memory
  have data : core.cpu.SameData core.next.cpu := moves.data
  rw [address, h, l] at memory
  refine ⟨stepped, memory, ?_, ?_⟩
  · rw [memory]
    exact Memory.read_write_self _ _ _
  · rw [Registers.hl, data.1, h, l]
    rfl

end Core

end Arcade
