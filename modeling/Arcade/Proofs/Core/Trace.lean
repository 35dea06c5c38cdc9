import Arcade.Core.Trace
import Arcade.Proofs.Cpu.Disassembly

/-! # What a trace shows

The processor reads every byte in the cell its address stands for. A trace line is made of the
physical bytes instead, and a byte past their end counts as 0, though its address has a cell. So in
a memory of fewer than 64 KiB a line may show another instruction than the one that is executed.

* `Memory.image`: the bytes at all addresses, as the processor reads them;
  `Core.readInstruction`: the instruction it finds among them;
* `Memory.Shows`: the addresses at which the physical bytes show what is read
  (`byteAt_bytes_eq_iff`);
* `text_eq_iff_shows`: the line is that of the instruction that is read exactly if they show each of
  its bytes;
* `trace_shows_iff`: **when a trace line shows the instruction that runs**;
* `trace_hides_halt`: HLT runs, and the line says NOP. -/

namespace Arcade

namespace Memory

/-- The bytes at all addresses, as they are read. -/
def image (m : Memory) : Array UInt8 :=
  Array.ofFn fun address : Fin 0x10000 => m.read (.ofNat address)

/-- An address at which the physical bytes, with zeros behind them, show what is read. -/
def Shows (m : Memory) (address : UInt16) : Prop :=
  address.toNat < m.bytes.size ∨ m.read address = 0

variable {m : Memory}

theorem byteAt_image (m : Memory) (address : UInt16) :
    Disassembly.byteAt m.image address = m.read address := by
  have inside : address.toNat < 0x10000 := address.toNat_lt
  rw [Disassembly.byteAt, image, Array.getD_eq_getD_getElem?, Array.getElem?_ofFn, dif_pos inside,
    Option.getD_some, UInt16.ofNat_toNat]

theorem byteAt_bytes_of_le {address : UInt16} (outside : m.bytes.size ≤ address.toNat) :
    Disassembly.byteAt m.bytes address = 0 := by
  simp [Disassembly.byteAt, outside]

theorem byteAt_bytes_eq_iff {address : UInt16} :
    Disassembly.byteAt m.bytes address = m.read address ↔ m.Shows address := by
  rcases Nat.lt_or_ge address.toNat m.bytes.size with inside | outside
  · simp [byteAt_bytes_of_lt inside, Shows, inside]
  · simp [byteAt_bytes_of_le outside, Shows, Nat.not_lt.mpr outside, eq_comm]

theorem shows_of_full (full : m.bytes.size = 0x10000) (address : UInt16) : m.Shows address :=
  Or.inl (by rw [full]; exact address.toNat_lt)

end Memory

/-- A line says nothing beyond its instruction. -/
theorem Disassembly.text_congr {d d' : Disassembly} (address : d.address = d'.address)
    (byte : d.byte = d'.byte) (first : 0 < d.opcode.immediate.size → d.first = d'.first)
    (second : 1 < d.opcode.immediate.size → d.second = d'.second) : d.text = d'.text := by
  have opcodes : d.opcode = d'.opcode := congrArg Opcode.ofByte byte
  have operands : d.operandText d.opcode = d'.operandText d.opcode := by
    unfold operandText
    cases taken : d.opcode.immediate with
    | none => rfl
    | byte =>
      rw [taken] at first
      simp only [first Nat.one_pos]
    | word =>
      rw [taken] at first second
      simp only [first Nat.two_pos, second Nat.one_lt_two]
  apply String.toList_inj.mp
  rw [toList_text, toList_text, mark, mark, body, body, address, byte, operands, opcodes]

namespace Core

open Disassembly (byteAt)

variable {δ : Type} {core : Core δ}

/-- The instruction the program counter stands at, as the processor reads it. -/
def readInstruction (core : Core δ) : Disassembly :=
  .ofBytes core.memory.image core.cpu.pc

theorem readInstruction_eq (core : Core δ) :
    core.readInstruction =
      ⟨core.cpu.pc, core.fetch, core.memory.read (core.cpu.pc + 1),
        core.memory.read (core.cpu.pc + 2)⟩ := by
  simp only [readInstruction, Disassembly.ofBytes, Memory.byteAt_image, fetch]

theorem opcode_readInstruction (core : Core δ) : core.readInstruction.opcode = core.opcode := by
  rw [readInstruction_eq]
  rfl

/-- Where the lines are the same, the first byte is shown: a byte past the end is taken for NOP, and
no other byte is written as NOP is. -/
theorem shows_pc_of_text (same : core.instruction.text = core.readInstruction.text) :
    core.memory.Shows core.cpu.pc := by
  obtain ⟨-, marks, documented, -⟩ := Disassembly.parts_of_text same
  rw [readInstruction_eq] at marks documented
  rcases Nat.lt_or_ge core.cpu.pc.toNat core.memory.bytes.size with inside | outside
  · exact Or.inl inside
  · have missing : core.instruction.byte = 0 := Memory.byteAt_bytes_of_le outside
    rw [missing] at marks documented
    have plain : Opcode.alias? core.fetch = none :=
      Option.isNone_iff_eq_none.mp (Option.isSome_eq_false_iff.mp marks.symm)
    rw [Opcode.documented, Opcode.documented, plain] at documented
    exact Or.inr documented.symm

/-- **The line is that of the instruction that is read** exactly if the physical bytes show each of
its bytes. -/
theorem text_eq_iff_shows (core : Core δ) :
    core.instruction.text = core.readInstruction.text ↔
      ∀ i < core.opcode.length, core.memory.Shows (core.cpu.pc + .ofNat i) := by
  have length : core.opcode.length = 1 + core.opcode.immediate.size := rfl
  have start : core.cpu.pc + .ofNat 0 = core.cpu.pc := UInt16.add_zero core.cpu.pc
  constructor
  · intro same i within
    obtain ⟨-, -, -, opcodes, first, second⟩ := Disassembly.parts_of_text same
    rw [opcodes, opcode_readInstruction, readInstruction_eq] at first second
    have most := core.opcode.immediate.size_le_two
    obtain rfl | rfl | rfl : i = 0 ∨ i = 1 ∨ i = 2 := by omega
    · rw [start]
      exact shows_pc_of_text same
    · exact Memory.byteAt_bytes_eq_iff.mp (first (by omega))
    · exact Memory.byteAt_bytes_eq_iff.mp (second (by omega))
  · intro shows
    have byte : core.instruction.byte = core.fetch := by
      have shown := shows 0 (by omega)
      rw [start] at shown
      exact Memory.byteAt_bytes_eq_iff.mpr shown
    have opcodes : core.instruction.opcode = core.opcode := congrArg Opcode.ofByte byte
    rw [readInstruction_eq]
    refine Disassembly.text_congr rfl byte ?_ ?_
    · rw [opcodes]
      intro taken
      exact Memory.byteAt_bytes_eq_iff.mpr (shows 1 (by omega))
    · rw [opcodes]
      intro taken
      exact Memory.byteAt_bytes_eq_iff.mpr (shows 2 (by omega))

/-- **When a trace line shows the instruction that runs.** A processor that runs with its trace
switch on reports a line. What it executes is the instruction it reads; the line is the line of that
instruction exactly if each of its bytes has an address below the size of the memory, or is 0. So
the line is right wherever the instruction ends within the physical bytes, and everywhere in a
memory of 64 KiB. -/
theorem trace_shows_iff (core : Core δ) (tracing : core.cpu.trace = true)
    (running : core.cpu.halted = false) :
    ∃ line, core.traceLine? = some line ∧ core.readInstruction.opcode = core.opcode ∧
      (line.instruction.text = core.readInstruction.text ↔
        ∀ i < core.opcode.length,
          (core.cpu.pc + .ofNat i).toNat < core.memory.bytes.size ∨
            core.memory.read (core.cpu.pc + .ofNat i) = 0) ∧
      (core.cpu.pc.toNat + core.opcode.length ≤ core.memory.bytes.size →
        line.instruction.text = core.readInstruction.text) ∧
      (core.memory.bytes.size = 0x10000 →
        line.instruction.text = core.readInstruction.text) := by
  have traced : core.traceLine? =
      some ⟨core.instruction, core.cpu.toRegisters, core.cpu.flags⟩ := by
    rw [traceLine?, tracing, running]
    rfl
  refine ⟨_, traced, core.opcode_readInstruction, core.text_eq_iff_shows, fun within => ?_,
    fun full => ?_⟩
  · refine core.text_eq_iff_shows.mpr fun i inside => Or.inl ?_
    rw [UInt16.toNat_add, UInt16.toNat_ofNat']
    exact Nat.lt_of_le_of_lt (Nat.mod_le _ _) (by omega)
  · exact core.text_eq_iff_shows.mpr fun i _ => Memory.shows_of_full full _

/-- A tracing core in 16 KiB that stands at MVI A, with its operand byte past the end. -/
def straddling : Core Unconnected where
  cpu := { pc := 0x3fff, trace := true }
  memory := .holding [(0x3fff, 0x3e)]
  ports := .unconnected

/-- The operand byte is a zero, and so the line is right. -/
theorem trace_shows_iff_straddling :
    ∃ line, straddling.traceLine? = some line ∧ line.instruction.text = "3fff MVI A,#$00" ∧
      straddling.readInstruction.opcode = .mvi .a := by
  have fetched : straddling.fetch = 0x3e := Memory.read_holding (by decide)
  have first : straddling.memory.read (straddling.cpu.pc + 1) = 0 :=
    Memory.read_holding_zero (by decide)
  have second : straddling.memory.read (straddling.cpu.pc + 2) = 0 :=
    Memory.read_holding_zero (by decide)
  have opcode : straddling.opcode = .mvi .a := by
    rw [Core.opcode, fetched]
    rfl
  have size : straddling.memory.bytes.size = 0x4000 := Memory.size_holding _
  have text : straddling.readInstruction.text = "3fff MVI A,#$00" := by
    rw [readInstruction_eq, fetched, first, second]
    decide
  obtain ⟨line, traced, executed, shown, -⟩ := trace_shows_iff straddling rfl rfl
  refine ⟨line, traced, (shown.mpr fun i within => ?_).trans text, executed.trans opcode⟩
  rw [opcode] at within
  obtain rfl | rfl : i = 0 ∨ i = 1 := by
    have : i < 2 := within
    omega
  · exact Or.inl (by rw [size]; decide)
  · exact Or.inr first

/-- A tracing core in 16 KiB, with HLT at address 0, that stands at the first address past the end,
where HLT is read again. -/
def wrapped : Core Unconnected where
  cpu := { pc := 0x4000, trace := true }
  memory := .holding [(0x0000, 0x76)]
  ports := .unconnected

/-- **HLT is read and halts the processor, and the line says NOP.** -/
theorem trace_hides_halt :
    ∃ line, wrapped.traceLine? = some line ∧ line.instruction.text = "4000 NOP" ∧
      wrapped.readInstruction.text = "4000 HLT" ∧
      ∃ after, wrapped.step = (.ok 7, after) ∧ after.cpu.halted = true := by
  have fetched : wrapped.fetch = 0x76 := Memory.read_holding (by decide)
  have halts := step_of_fetch rfl fetched rfl
  have missing (address : UInt16) (outside : 0x4000 ≤ address.toNat) :
      byteAt wrapped.memory.bytes address = 0 :=
    Memory.byteAt_bytes_of_le (Nat.le_trans (Nat.le_of_eq (Memory.size_holding _)) outside)
  have line : wrapped.instruction = ⟨0x4000, 0, 0, 0⟩ := by
    rw [instruction, Disassembly.ofBytes, missing _ (by decide), missing _ (by decide),
      missing _ (by decide)]
    rfl
  have first : wrapped.memory.read (wrapped.cpu.pc + 1) = 0 :=
    Memory.read_holding_zero (by decide)
  have second : wrapped.memory.read (wrapped.cpu.pc + 2) = 0 :=
    Memory.read_holding_zero (by decide)
  have read : wrapped.readInstruction.text = "4000 HLT" := by
    rw [readInstruction_eq, fetched, first, second]
    decide
  exact ⟨_, rfl, (congrArg Disassembly.text line).trans (by decide), read, _, halts, rfl⟩

end Core

end Arcade
