import Arcade.Proofs.Core.LifeCycle
import Arcade.Proofs.Machine.Phase

/-! # The second part of a frame

The parts of a frame share one count of cycles, and the second one goes on until the count reaches
the budget. So it takes what the first one left. That is half the budget and less than one more
instruction, unless the processor halted before half the budget was used and the interrupt in the
middle woke it up.

* `Part.eq`, `Course.eq`: a frame has one course;
* `Course.second_cycles_le`: **the second part takes what the first one left**;
* `second_part_takes_rest`: the bounds of the second part, in each frame that succeeds;
* `second_part_of_woken`: a processor that halts at once and is woken up takes twice its half. -/

namespace Arcade

namespace Core

variable {target ran : Nat} {core : Core Bus}

/-- No part is shorter than another one, which would have gone on where it ended. -/
theorem Part.count_le (part other : Part target ran core) : other.count ≤ part.count := by
  by_contra longer
  obtain ⟨short, running⟩ :=
    other.going part.count (by omega) part.cycles part.after part.executed
  rcases part.ended with reached | halted
  · omega
  · rw [running] at halted
    cases halted

/-- **A core has one part under a target.** -/
theorem Part.eq (part other : Part target ran core) : part = other := by
  have counts := Nat.le_antisymm (other.count_le part) (part.count_le other)
  obtain ⟨⟨count, cycles, after, executed, going⟩, ended⟩ := part
  obtain ⟨⟨count', cycles', after', executed', going'⟩, ended'⟩ := other
  obtain rfl : count = count' := counts
  cases executed.symm.trans executed'
  rfl

/-- A recursion that succeeds has come to the end of a part, if its counter cannot overflow. -/
theorem exists_part_of_runUntil {total : Nat} {last : Core Bus} (fits : target ≤ 0x100000000 - 18)
    (h : core.runUntil target ran = (.ok total, last)) :
    ∃ part : Part target ran core, total = ran + part.cycles ∧ last = part.after := by
  rcases runUntil_cases target ran core with ⟨part, ended⟩ | ⟨stop, stopped⟩ | wraps
  · rw [h] at ended
    cases ended
    exact ⟨part, rfl, rfl⟩
  · rw [h] at stopped
    cases stopped
  · obtain ⟨wrap⟩ := wraps
    exact absurd wrap.great (Nat.not_lt_of_le fits)

/-- Nothing is executed where the processor is halted. -/
theorem Stretch.cycles_of_halted (s : Stretch target ran core) (halted : core.cpu.halted = true) :
    s.cycles = 0 := by
  cases hcount : s.count with
  | zero => exact s.cycles_eq_zero hcount
  | succ count =>
    obtain ⟨_, _, _, -, running, -⟩ := s.eq_cons hcount
    rw [running] at halted
    cases halted

/-- Only an interrupt that is accepted wakes a processor up. -/
theorem halted_request {core : Core Bus} (halted : core.cpu.halted = true)
    (interrupt : FrameInterrupt) (dropped : (core.interrupt interrupt.vector).1 = false) :
    (core.request interrupt).cpu.halted = true := by
  have disabled : core.cpu.interruptsEnabled = false := by
    by_contra enabled
    rw [(interrupted_of_enabled (eq_true_of_ne_false enabled) _).1] at dropped
    cases dropped
  rw [(request_alike_of_disabled disabled interrupt).cpu, halted]

end Core

namespace Machine

open Arcade.Core

namespace Course

variable {m : Machine} (course : Course m)

/-- **A frame has one course.** -/
theorem eq (other : Course m) : course = other := by
  obtain ⟨first, second⟩ := course
  obtain ⟨first', second'⟩ := other
  obtain rfl := first.eq first'
  obtain rfl := second.eq second'
  rfl

/-- **The second part takes what the first one left**, and less than one more instruction. -/
theorem second_cycles_le :
    course.second.cycles = 0 ∨
      course.second.cycles ≤ m.budget - course.first.cycles + 17 := by
  have := course.second.cycles_le
  omega

end Course

/-- **The second part takes the rest of the frame.** Under a budget that leaves room for one more
instruction in the counter, each frame that succeeds has one course. Its second part takes the
cycles of the budget that the first part left, and less than one more instruction, or less if the
processor is halted at the end. That is at most the second half of the budget and 17 cycles, unless
the processor halted before half the budget was used and the interrupt in the middle woke it up. -/
theorem second_part_takes_rest {m after : Machine} (fits : m.budget ≤ 2 ^ 32 - 18)
    (succeeds : m.stepFrame = (.ok (), after)) :
    ∃ course : Course m, (∀ other : Course m, other = course) ∧ after = course.result ∧
      course.second.cycles ≤ m.budget - course.first.cycles + 17 ∧
      (m.budget ≤ course.first.cycles → course.second.cycles = 0) ∧
      (m.budget - course.first.cycles ≤ course.second.cycles ∨
        course.second.after.cpu.halted = true) ∧
      (course.second.cycles ≤ m.budget - m.budget / 2 + 17 ∨
        course.first.cycles < m.budget / 2 ∧ course.first.after.cpu.halted = true ∧
          (course.first.after.interrupt m.nextInterrupt.vector).1 = true) := by
  obtain ⟨course, rfl⟩ : ∃ course : Course m, after = course.result := by
    rcases stepFrame_of_fits fits with ⟨course, h⟩ | ⟨failure, h⟩
    · rw [succeeds] at h
      cases h
      exact ⟨course, rfl⟩
    · rw [succeeds] at h
      cases h
  have most := course.second_cycles_le
  have ended := course.second.ended
  refine ⟨course, fun other => other.eq course, rfl, by omega, course.second.cycles_of_reached,
    ended.imp_left (by omega), ?_⟩
  rcases course.first.ended with reached | halted
  · exact Or.inl (by omega)
  · cases accepted : (course.first.after.interrupt m.nextInterrupt.vector).1 with
    | false =>
      have asleep := course.second.cycles_of_halted (halted_request halted _ accepted)
      exact Or.inl (by omega)
    | true =>
      rcases Nat.lt_or_ge course.first.cycles (m.budget / 2) with early | late
      · exact Or.inr ⟨early, halted, rfl⟩
      · exact Or.inl (by omega)

/-- A machine with EI and HLT in its memory, and NOPs behind them. -/
def dozing : Machine :=
  performed {} [.changeCpu fun cpu => { cpu with sp := 0x2400 },
    .changeMemory fun memory => (memory.write 0x0000 0xfb).write 0x0001 0x76]

theorem budget_dozing : dozing.budget = 33333 := by
  decide

theorem read_dozing (address : UInt16) :
    dozing.memory.read address =
      if address = 0x0001 then 0x76 else if address = 0x0000 then 0xfb else 0x00 := by
  have full : (Memory.full.write 0x0000 0xfb).bytes.size = 0x10000 :=
    (Memory.size_write _ _ _).trans Memory.size_full
  change ((Memory.full.write 0x0000 0xfb).write 0x0001 0x76).read address = _
  split_ifs with second first
  · rw [second]
    exact Memory.read_write_self _ _ _
  · rw [first, Memory.read_write_of_ne (Memory.cell_ne_of_size full (by decide))]
    exact Memory.read_write_self _ _ _
  · rw [Memory.read_write_of_ne (Memory.cell_ne_of_size full (Ne.symm second)),
      Memory.read_write_of_ne (Memory.cell_ne_of_size Memory.size_full (Ne.symm first)),
      Memory.read_full]

/-- EI and HLT. -/
theorem first_part_dozing :
    ∃ mid, dozing.core.runUntil (dozing.budget / 2) 0 = (.ok 11, mid) ∧
      mid.cpu.halted = true ∧ mid.cpu.interruptsEnabled = true ∧ mid.cpu.sp = 0x2400 ∧
      mid.memory = dozing.memory := by
  have running : dozing.core.cpu.halted = false := rfl
  obtain ⟨next, enables, hcpu, hmemory⟩ :=
    tick_of_effect running (read_dozing 0x0000) rfl fun _ => rfl
  have fetched : next.fetch = 0x76 := by
    rw [fetch, hcpu, hmemory]
    exact read_dozing 0x0001
  obtain ⟨mid, halts, hcpu', hmemory'⟩ :=
    tick_of_effect (by rw [hcpu]; rfl) fetched rfl fun _ => rfl
  refine ⟨mid, ?_, ?_, ?_, ?_, hmemory'.trans hmemory⟩
  · refine runUntil_of_ok ?_
    rw [runUntil?_of_tick (by rw [budget_dozing]; decide) running enables (by decide),
      runUntil?_of_tick (by rw [budget_dozing]; decide) (by rw [hcpu]; rfl) halts (by decide)]
    exact runUntil?_of_over (Or.inr (by rw [hcpu']))
  · rw [hcpu']
  · rw [hcpu', hcpu]
  · rw [hcpu', hcpu]
    rfl

/-- A place among the 8331 NOPs from the vector of the first interrupt on. -/
theorem toNat_nop {n : Nat} (h : n < 8331) : (0x0008 + UInt16.ofNat n).toNat = 8 + n := by
  rw [UInt16.toNat_add, UInt16.toNat_ofNat']
  change (8 + n % 65536) % 65536 = 8 + n
  omega

/-- The interrupt wakes it up before the NOPs: the return address is in the work RAM, behind
them. -/
theorem woken_dozing {mid : Core Bus} (enabled : mid.cpu.interruptsEnabled = true)
    (sp : mid.cpu.sp = 0x2400) (memory : mid.memory = dozing.memory) :
    (mid.request .midFrame).cpu.halted = false ∧
      ∀ n < 8331,
        (mid.request .midFrame).memory.read
          ((mid.request .midFrame).cpu.pc + UInt16.ofNat n) = 0x00 := by
  obtain ⟨-, interrupted⟩ := interrupted_of_enabled enabled 0x0008
  have wakes := request_alike mid .midFrame
  have pc : (mid.request .midFrame).cpu.pc = 0x0008 := by
    rw [wakes.cpu]
    exact congrArg Registers.pc (congrArg Cpu.toRegisters interrupted.cpu)
  refine ⟨by rw [wakes.cpu]; exact interrupted.running, fun n h => ?_⟩
  have place := toNat_nop h
  have apart : mid.memory.cell (0x0008 + UInt16.ofNat n) ∉
      [mid.memory.cell 0x23fe, mid.memory.cell (0x23fe + 1)] := by
    have cell : mid.memory.cell (0x0008 + UInt16.ofNat n) = 8 + n :=
      (Memory.cell_of_lt _ (by omega)).trans place
    rw [cell, Memory.cell_of_lt _ (by decide), Memory.cell_of_lt _ (by decide)]
    simp only [List.mem_cons, List.not_mem_nil, or_false]
    change ¬(8 + n = 0x23fe ∨ 8 + n = 0x23ff)
    omega
  have behind (address : UInt16) (low : address.toNat < 8) : 0x0008 + UInt16.ofNat n ≠ address :=
    fun same => by rw [← same] at low; omega
  rw [pc, wakes.memory, FrameInterrupt.vector, interrupted.memory, sp]
  refine ((mid.memory.sameBut_writeWord 0x23fe mid.cpu.pc).read apart).trans ?_
  rw [memory, read_dozing,
    if_neg (behind 0x0001 (by decide)), if_neg (behind 0x0000 (by decide))]

/-- It halts after 11 cycles. The interrupt wakes it up, and 8331 NOPs follow. -/
theorem course_dozing :
    ∃ course : Course dozing, dozing.stepFrame = (.ok (), course.result) ∧
      course.first.cycles = 11 ∧ course.second.cycles = 33324 := by
  obtain ⟨mid, first, -, enabled, sp, memory⟩ := first_part_dozing
  obtain ⟨running, nops⟩ := woken_dozing enabled sp memory
  obtain ⟨last, -, second⟩ := runUntil_of_enough_nops 8331 11 dozing.budget running nops
    (by rw [budget_dozing]; omega) (by rw [budget_dozing]; decide) (by omega)
  have half : dozing.budget / 2 ≤ 0x100000000 - 18 := by
    rw [budget_dozing]
    decide
  have whole : dozing.budget ≤ 0x100000000 - 18 := by
    rw [budget_dozing]
    decide
  obtain ⟨part, counted, rfl⟩ := exists_part_of_runUntil half first
  rw [Nat.zero_add] at counted
  have succeeds := stepFrame_of_parts first second
  rw [counted] at second
  obtain ⟨part', counted', rfl⟩ := exists_part_of_runUntil whole second
  refine ⟨⟨part, part'⟩, succeeds, counted.symm, ?_⟩
  show part'.cycles = 33324
  omega

/-- The second part is within the budget that 11 cycles left, and one more instruction. -/
theorem second_part_takes_rest_dozing :
    dozing.budget ≤ 2 ^ 32 - 18 ∧
      ∃ course : Course dozing, dozing.stepFrame = (.ok (), course.result) ∧
        course.first.cycles = 11 ∧ course.second.cycles ≤ 33339 ∧
        (33322 ≤ course.second.cycles ∨ course.second.after.cpu.halted = true) := by
  obtain ⟨started, succeeds, first, -⟩ := course_dozing
  have budget := budget_dozing
  have fits : dozing.budget ≤ 2 ^ 32 - 18 := by omega
  obtain ⟨course, unique, -, most, -, least, -⟩ := second_part_takes_rest fits succeeds
  rw [unique started] at first succeeds
  exact ⟨fits, course, succeeds, first, by omega, least.imp_left (by omega)⟩

/-- **A processor that halts at once and is woken up in the middle** takes nearly the whole budget
in the second part. -/
theorem second_part_of_woken :
    ∃ course : Course dozing, (∀ other : Course dozing, other = course) ∧
      dozing.stepFrame = (.ok (), course.result) ∧
      course.first.after.cpu.halted = true ∧
      dozing.budget - dozing.budget / 2 + 17 < course.second.cycles := by
  obtain ⟨course, succeeds, first, second⟩ := course_dozing
  have budget := budget_dozing
  refine ⟨course, fun other => other.eq course, succeeds, ?_, by omega⟩
  rcases course.first.ended with reached | halted
  · omega
  · exact halted

end Machine

end Arcade
