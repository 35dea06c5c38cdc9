import Arcade.Core
import Arcade.Log
import Arcade.Text.Column

/-!
# Tracing

A processor with its trace switch on reports each instruction before it executes it, refused ones
included: the instruction as it stands in the physical bytes, and the registers it acts on.

* `Core.traceLine?` is the report, if one is due;
* `TraceLine.text` is its text.
-/

namespace Arcade

/-- An instruction and the state it is executed in. -/
structure TraceLine where
  instruction : Disassembly
  registers : Registers
  flags : Flags
  deriving DecidableEq, Repr

namespace TraceLine

/-- The instruction in a column of twenty characters, then the registers. -/
def text (line : TraceLine) : String :=
  let r := line.registers
  Column.fill 20 line.instruction.text ++
    " A=" ++ Hex.byte r.a ++ " BC=" ++ Hex.word r.bc ++ " DE=" ++ Hex.word r.de ++
    " HL=" ++ Hex.word r.hl ++ " SP=" ++ Hex.word r.sp ++ " F=" ++ Hex.byte line.flags.toByte

/-- The report as a log line. -/
def log (line : TraceLine) : Log.Line :=
  ⟨.debug, line.text⟩

end TraceLine

/-- The report of the next instruction. -/
def Core.traceLine? {δ : Type} (core : Core δ) : Option TraceLine :=
  if core.cpu.trace && !core.cpu.halted then
    some ⟨.ofBytes core.memory.bytes core.cpu.pc, core.cpu.toRegisters, core.cpu.flags⟩
  else
    none

end Arcade
