import Arcade.Cpu.Arithmetic
import Arcade.Cpu.Basic
import Arcade.Cpu.Ports

/-!
# The effect of an opcode

An instruction first reads all it needs, and only then are its bytes stored: its effect is a new
processor state, a list of stores and the ports afterwards. So an instruction that overwrites
itself still acts on the bytes it was fetched with.

* `Opcode.execute` is the effect of each opcode. The program counter is moved past the instruction
  before it acts, so that it is the return address of a call.
-/

namespace Arcade

/-- What an instruction does. -/
structure Effect (δ : Type) where
  cpu : Cpu
  stores : List Memory.Store
  ports : δ
  /-- A conditional call or return whose condition held. -/
  taken : Bool

namespace Effect

variable {δ : Type}

/-- A new processor state and nothing else. -/
def ofCpu (ports : δ) (cpu : Cpu) : Effect δ :=
  ⟨cpu, [], ports, false⟩

end Effect

/-- The stores of a word, its low byte first. -/
def Memory.wordStores (address value : UInt16) : List Memory.Store :=
  [(address, Word.low value), (address + 1, Word.high value)]

namespace Cpu

variable {δ : Type}

/-- A byte goes to an operand. -/
def put (cpu : Cpu) (ports : δ) (target : Operand) (value : UInt8) : Effect δ :=
  match target with
  | .b => .ofCpu ports { cpu with b := value }
  | .c => .ofCpu ports { cpu with c := value }
  | .d => .ofCpu ports { cpu with d := value }
  | .e => .ofCpu ports { cpu with e := value }
  | .h => .ofCpu ports { cpu with h := value }
  | .l => .ofCpu ports { cpu with l := value }
  | .m => ⟨cpu, [(cpu.hl, value)], ports, false⟩
  | .a => .ofCpu ports { cpu with a := value }

/-- A word goes on the stack, which grows downwards. -/
def pushed (cpu : Cpu) (ports : δ) (value : UInt16) : Effect δ :=
  ⟨{ cpu with sp := cpu.sp - 2 }, Memory.wordStores (cpu.sp - 2) value, ports, false⟩

/-- The program counter goes on the stack and is set to a target. -/
def called (cpu : Cpu) (ports : δ) (target : UInt16) : Effect δ :=
  { cpu.pushed ports cpu.pc with cpu := { cpu with sp := cpu.sp - 2, pc := target } }

/-- The program counter comes from the stack. -/
def returned (cpu : Cpu) (memory : Memory) (ports : δ) : Effect δ :=
  .ofCpu ports { cpu with sp := cpu.sp + 2, pc := memory.readWord cpu.sp }

end Cpu

/-- The effect of an opcode on a processor whose program counter stands at it. -/
def Opcode.execute {δ : Type} [Ports δ] (op : Opcode) (before : Cpu) (memory : Memory)
    (ports : δ) : Effect δ :=
  let byte := memory.read (before.pc + 1)
  let word := memory.readWord (before.pc + 1)
  let cpu := { before with pc := before.pc + UInt16.ofNat op.length }
  match op with
  | nop => .ofCpu ports cpu
  | hlt => .ofCpu ports { cpu with halted := true }
  | ei => .ofCpu ports { cpu with interruptsEnabled := true }
  | di => .ofCpu ports { cpu with interruptsEnabled := false }
  | mov target source => cpu.put ports target (cpu.operand memory source)
  | mvi target => cpu.put ports target byte
  | lxi target => .ofCpu ports (cpu.setPair target word)
  | lda => .ofCpu ports { cpu with a := memory.read word }
  | sta => ⟨cpu, [(word, cpu.a)], ports, false⟩
  | lhld => .ofCpu ports (cpu.setPair .hl (memory.readWord word))
  | shld => ⟨cpu, Memory.wordStores word cpu.hl, ports, false⟩
  | ldax pointer => .ofCpu ports { cpu with a := memory.read (cpu.pair pointer.toPair) }
  | stax pointer => ⟨cpu, [(cpu.pair pointer.toPair, cpu.a)], ports, false⟩
  | xchg => .ofCpu ports { cpu with d := cpu.h, e := cpu.l, h := cpu.d, l := cpu.e }
  | alu op source =>
    let (a, flags) := op.apply cpu.a (cpu.operand memory source) cpu.flags
    .ofCpu ports { cpu with a, flags }
  | aluImmediate op =>
    let (a, flags) := op.apply cpu.a byte cpu.flags
    .ofCpu ports { cpu with a, flags }
  | inr target =>
    let (value, flags) := increment (cpu.operand memory target) cpu.flags
    { cpu with flags }.put ports target value
  | dcr target =>
    let (value, flags) := decrement (cpu.operand memory target) cpu.flags
    { cpu with flags }.put ports target value
  | inx target => .ofCpu ports (cpu.setPair target (cpu.pair target + 1))
  | dcx target => .ofCpu ports (cpu.setPair target (cpu.pair target - 1))
  | dad source =>
    let (sum, carry) := addWords cpu.hl (cpu.pair source)
    .ofCpu ports { cpu.setPair .hl sum with flags.carry := carry }
  | daa =>
    let (a, flags) := decimalAdjust cpu.a cpu.flags
    .ofCpu ports { cpu with a, flags }
  | cma => .ofCpu ports { cpu with a := ~~~cpu.a }
  | stc => .ofCpu ports { cpu with flags.carry := true }
  | cmc => .ofCpu ports { cpu with flags.carry := !cpu.flags.carry }
  | rotate rotation =>
    let (a, carry) := rotation.apply cpu.a cpu.flags.carry
    .ofCpu ports { cpu with a, flags.carry := carry }
  | jmp => .ofCpu ports { cpu with pc := word }
  | jumpIf condition =>
    .ofCpu ports (if condition.holds cpu.flags then { cpu with pc := word } else cpu)
  | call => cpu.called ports word
  | callIf condition =>
    if condition.holds cpu.flags then { cpu.called ports word with taken := true }
    else .ofCpu ports cpu
  | ret => cpu.returned memory ports
  | retIf condition =>
    if condition.holds cpu.flags then { cpu.returned memory ports with taken := true }
    else .ofCpu ports cpu
  | rst number => cpu.called ports (UInt16.ofNat (8 * number.val))
  | pchl => .ofCpu ports { cpu with pc := cpu.hl }
  | push source => cpu.pushed ports (cpu.stackPair source)
  | pop target =>
    .ofCpu ports ({ cpu with sp := cpu.sp + 2 }.setStackPair target (memory.readWord cpu.sp))
  | xthl =>
    ⟨cpu.setPair .hl (memory.readWord cpu.sp), Memory.wordStores cpu.sp cpu.hl, ports, false⟩
  | sphl => .ofCpu ports { cpu with sp := cpu.hl }
  | input =>
    let (a, ports) := Ports.input byte ports
    .ofCpu ports { cpu with a }
  | output => .ofCpu (Ports.output byte cpu.a ports) cpu

end Arcade
