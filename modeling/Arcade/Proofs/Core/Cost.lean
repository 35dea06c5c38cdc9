import Arcade.Proofs.Core.Step

/-! # The cycles of one instruction

An instruction takes what its opcode lists, and a conditional call or return six cycles more when
its condition holds. The processor adds up what it took.

* `four_le_cost`, `cost_le`: an instruction takes between 4 and 18 cycles;
* `cycles_next`, `cycles_interrupt`: the count of the processor after an instruction and after an
  interrupt request. -/

namespace Arcade

variable {δ : Type}

theorem Opcode.four_le_cycles (op : Opcode) : 4 ≤ op.cycles := by
  cases op <;> simp only [cycles] <;> (try split) <;> decide

theorem Opcode.cycles_le (op : Opcode) : op.cycles ≤ 18 := by
  cases op <;> simp only [cycles] <;> (try split) <;> decide

/-- What takes cycles on top is a conditional call or return, and lists few. -/
theorem Opcode.cycles_le_of_taken [Ports δ] {op : Opcode} {cpu : Cpu} {memory : Memory} {ports : δ}
    (h : (op.execute cpu memory ports).taken = true) : op.cycles ≤ 11 := by
  cases op with
  | callIf _ | retIf _ => simp only [cycles]; decide
  | mov target _ | mvi target | inr target | dcr target => cases target <;> cases h
  | _ => cases h

/-- No instruction changes the count of cycles by itself. -/
theorem Opcode.cycles_execute [Ports δ] (op : Opcode) (cpu : Cpu) (memory : Memory) (ports : δ) :
    (op.execute cpu memory ports).cpu.cycles = cpu.cycles := by
  cases op with
  | mov target _ | mvi target | inr target | dcr target => cases target <;> rfl
  | lxi target | inx target | dcx target | dad target => cases target <;> rfl
  | pop target => cases target <;> rfl
  | jumpIf _ | callIf _ | retIf _ =>
    simp only [execute]
    split_ifs <;> rfl
  | _ => rfl

namespace Core

theorem cycles_interrupt (core : Core δ) (vector : UInt16) :
    (core.interrupt vector).2.cpu.cycles =
      core.cpu.cycles +
        UInt64.ofNat (Opcode.interruptCycles * (core.interrupt vector).1.toNat) := by
  unfold interrupt
  split_ifs
  · rfl
  · simp

variable [Ports δ]

theorem four_le_cost (core : Core δ) : 4 ≤ core.cost :=
  Nat.le_trans core.opcode.four_le_cycles (Nat.le_add_right _ _)

theorem cost_le (core : Core δ) : core.cost ≤ 18 := by
  unfold cost
  split_ifs with taken
  · have := Opcode.cycles_le_of_taken taken
    simp only [Opcode.takenCycles]
    omega
  · exact core.opcode.cycles_le

theorem cycles_next (core : Core δ) :
    core.next.cpu.cycles = core.cpu.cycles + UInt64.ofNat core.cost := by
  simp only [next, afterEffect, effect, Opcode.cycles_execute]

end Core

end Arcade
