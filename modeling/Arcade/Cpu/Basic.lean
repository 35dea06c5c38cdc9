import Arcade.Cpu.Opcode
import Arcade.Flags
import Arcade.Memory

/-!
# The processor

The state of the processor and the small questions an instruction asks of it.

* `Cpu.reset` keeps the two switches that belong to whoever runs the processor;
* `Cpu.decode`: the byte that is executed for a byte that was fetched;
* `Cpu.operand` reads a byte operand, `Condition.holds` a condition;
* `Fault` is the one way an instruction can fail.
-/

namespace Arcade

/-- The state of the processor. -/
structure Cpu extends Registers where
  flags : Flags := {}
  interruptsEnabled : Bool := false
  halted : Bool := false
  /-- Undocumented bytes are refused. -/
  strict : Bool := true
  /-- Instructions are reported before they are executed. -/
  trace : Bool := false
  /-- The cycles spent since the last reset, modulo 2^64. -/
  cycles : UInt64 := 0
  deriving DecidableEq, Repr, Inhabited

/-- An undocumented byte where an instruction was expected, and its address. Nothing is known of
its length, so nothing is skipped. -/
structure Fault where
  opcode : UInt8
  pc : UInt16
  deriving DecidableEq, Repr

/-- What is said of an instruction that is refused. -/
def Fault.message (fault : Fault) : String :=
  "unsupported opcode 0x" ++ Hex.byte fault.opcode ++ " at 0x" ++ Hex.word fault.pc

namespace Cpu

/-- The processor as it is switched on, with its two switches kept. -/
def reset (cpu : Cpu) : Cpu :=
  { strict := cpu.strict, trace := cpu.trace }

/-- Whether instructions are executed. -/
def running (cpu : Cpu) : Bool :=
  !cpu.halted

/-- The byte that is executed for one that was fetched: the documented byte it acts as. A strict
processor keeps the byte as it is. -/
def decode (cpu : Cpu) (byte : UInt8) : UInt8 :=
  if cpu.strict then byte else Opcode.documented byte

/-- A byte operand. -/
def operand (cpu : Cpu) (memory : Memory) : Operand → UInt8
  | .b => cpu.b
  | .c => cpu.c
  | .d => cpu.d
  | .e => cpu.e
  | .h => cpu.h
  | .l => cpu.l
  | .m => memory.read cpu.hl
  | .a => cpu.a

/-- The processor with a pair set to a word. -/
def setPair (cpu : Cpu) (p : Pair) (value : UInt16) : Cpu :=
  { cpu with toRegisters := cpu.toRegisters.setPair p value }

/-- A pair as it goes on the stack: the accumulator is the high byte of its word. -/
def stackPair (cpu : Cpu) : StackPair → UInt16
  | .bc => cpu.bc
  | .de => cpu.de
  | .hl => cpu.hl
  | .psw => Word.ofBytes cpu.a cpu.flags.toByte

/-- The processor with a pair set from the stack. -/
def setStackPair (cpu : Cpu) (p : StackPair) (value : UInt16) : Cpu :=
  match p with
  | .bc => cpu.setPair .bc value
  | .de => cpu.setPair .de value
  | .hl => cpu.setPair .hl value
  | .psw => { cpu with a := Word.high value, flags := .ofByte (Word.low value) }

end Cpu

/-- Whether a condition holds. -/
def Condition.holds (condition : Condition) (f : Flags) : Bool :=
  match condition with
  | notZero => !f.zero
  | zero => f.zero
  | noCarry => !f.carry
  | carry => f.carry
  | parityOdd => !f.parity
  | parityEven => f.parity
  | plus => !f.sign
  | minus => f.sign

end Arcade
