import Arcade.Cpu.Execute
import Arcade.Cpu.Disassembly

/-!
# The core: processor, memory and ports together

A core is all that one instruction can read and change.

* `Core.step` executes one instruction and says how many cycles it took. A halted core does
  nothing in no time. A byte that has no opcode is refused, and changes nothing;
* `Core.interrupt` delivers an interrupt if the processor accepts it, and otherwise changes nothing
  (`interrupt_of_disabled`).
-/

namespace Arcade

/-- A processor with the memory and the ports it works on. -/
structure Core (δ : Type) where
  cpu : Cpu
  memory : Memory
  ports : δ

namespace Core

variable {δ : Type}

/-- The byte the program counter stands at. -/
def fetch (core : Core δ) : UInt8 :=
  core.memory.read core.cpu.pc

/-- The core after the effect of an instruction that took some cycles. -/
def afterEffect (memory : Memory) (effect : Effect δ) (cycles : Nat) : Core δ where
  cpu := { effect.cpu with cycles := effect.cpu.cycles + UInt64.ofNat cycles }
  memory := memory.storeAll effect.stores
  ports := effect.ports

/-- One instruction: the cycles it took, or why it was refused, and the core afterwards. -/
def step [Ports δ] (core : Core δ) : Except Fault Nat × Core δ :=
  if core.cpu.halted then
    (.ok 0, core)
  else
    let byte := core.cpu.decode core.fetch
    match Opcode.ofDocumented? byte with
    | none => (.error ⟨byte, core.cpu.pc⟩, core)
    | some op =>
      let ⟨cpu, memory, ports⟩ := core
      let effect := op.execute cpu memory ports
      let cycles := op.cycles + if effect.taken then Opcode.takenCycles else 0
      (.ok cycles, afterEffect memory effect cycles)

theorem step_of_halted [Ports δ] {core : Core δ} (h : core.cpu.halted = true) :
    core.step = (.ok 0, core) := by
  simp [step, h]

/-- A word goes on the stack. -/
def push (core : Core δ) (value : UInt16) : Core δ :=
  let ⟨cpu, memory, ports⟩ := core
  let sp := cpu.sp - 2
  ⟨{ cpu with sp }, memory.writeWord sp value, ports⟩

/-- A word comes from the stack. -/
def pop (core : Core δ) : UInt16 × Core δ :=
  let ⟨cpu, memory, ports⟩ := core
  (memory.readWord cpu.sp, ⟨{ cpu with sp := cpu.sp + 2 }, memory, ports⟩)

/-- An interrupt request. If interrupts are enabled the processor wakes up and calls the vector
with interrupts disabled, and the request counts as accepted; otherwise nothing happens. -/
def interrupt (core : Core δ) (vector : UInt16) : Bool × Core δ :=
  if core.cpu.interruptsEnabled then
    let ⟨cpu, memory, ports⟩ := core
    let sp := cpu.sp - 2
    let memory := memory.writeWord sp cpu.pc
    let cycles := cpu.cycles + UInt64.ofNat Opcode.interruptCycles
    let cpu := { cpu with sp, pc := vector, interruptsEnabled := false, halted := false, cycles }
    (true, ⟨cpu, memory, ports⟩)
  else
    (false, core)

theorem interrupt_of_disabled {core : Core δ} (h : core.cpu.interruptsEnabled = false)
    (vector : UInt16) : core.interrupt vector = (false, core) := by
  simp [interrupt, h]

/-- The core with its processor changed. -/
def mapCpu (f : Cpu → Cpu) (core : Core δ) : Core δ :=
  let ⟨cpu, memory, ports⟩ := core
  ⟨f cpu, memory, ports⟩

/-- The core with its memory changed. -/
def mapMemory (f : Memory → Memory) (core : Core δ) : Core δ :=
  let ⟨cpu, memory, ports⟩ := core
  ⟨cpu, f memory, ports⟩

end Core

end Arcade
