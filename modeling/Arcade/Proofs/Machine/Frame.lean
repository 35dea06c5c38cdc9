import Arcade.Proofs.Machine.Steady
import Arcade.Proofs.Memory

/-! # A whole frame

A frame that succeeds is two parts with an interrupt request after each. A frame that fails stops
short in one of them, and leaves the machine at the instruction that was refused. In the second part
the counter may overflow.

* `Course`: the parts of a frame that succeeds, and the machine it leads to;
* `Failure`: what there is of a frame that fails, and the machine it leads to;
* `Overflow`: a frame up to the instruction that overflows the counter, and `Overflow.great`: there
  is one under a great budget only;
* `stepFrame_cases`: **`stepFrame` comes to a course, or to a failure, or overflows its counter**,
  and `stepFrame_of_fits`: it does not overflow it under other budgets;
* `stepFrame_keeps_schedule`: **when the interrupts of a frame are requested, and what the frame
  costs**. -/

namespace Arcade.Machine

open Arcade.Core

/-- The cycles of a frame. -/
def budget (m : Machine) : Nat :=
  m.settings.cyclesPerFrame.toNat

/-! ### Courses and failures -/

/-- The two parts of a frame. The second one begins with the request of the interrupt between them
and goes on with the count of cycles of the first one. -/
structure Course (m : Machine) where
  first : Part (m.budget / 2) 0 m.core
  second : Part m.budget first.cycles (first.after.request m.nextInterrupt)

namespace Course

variable {m : Machine} (course : Course m)

/-- The instructions of a frame. -/
def count : Nat :=
  course.first.count + course.second.count

/-- The cycles the instructions of a frame take. -/
def cycles : Nat :=
  course.first.cycles + course.second.cycles

/-- How many of the two interrupts the processor accepts. -/
def accepted : Nat :=
  (course.first.after.interrupt m.nextInterrupt.vector).1.toNat +
    (course.second.after.interrupt m.nextInterrupt.other.vector).1.toNat

/-- The machine after the frame. The interrupt that was next is next again. -/
def result : Machine :=
  { m with core := course.second.after.request m.nextInterrupt.other, frames := m.frames + 1 }

end Course

/-- A frame up to the instruction it fails at, in its first or in its second part. -/
inductive Failure (m : Machine)
  | early (stop : Stop (m.budget / 2) 0 m.core)
  | late (first : Part (m.budget / 2) 0 m.core)
      (stop : Stop m.budget first.cycles (first.after.request m.nextInterrupt))

namespace Failure

variable {m : Machine}

/-- Why the instruction was refused. -/
def fault : Failure m → Fault
  | early stop => stop.fault
  | late _ stop => stop.fault

/-- The instructions before the one that was refused. -/
def count : Failure m → Nat
  | early stop => stop.count
  | late first stop => first.count + stop.count

/-- The core after those instructions, and after the interrupt request between them if there was
one. -/
def last : Failure m → Core Bus
  | early stop => stop.after
  | late _ stop => stop.after

/-- The interrupt that comes next. -/
def nextInterrupt : Failure m → FrameInterrupt
  | early _ => m.nextInterrupt
  | late _ _ => m.nextInterrupt.other

/-- The machine a failure leaves. The instruction that was refused may have been reported. -/
def result (failure : Failure m) : Machine :=
  { m with core := failure.last.report, nextInterrupt := failure.nextInterrupt }

end Failure

/-- A frame up to the instruction that overflows its counter, in its second part. Half a budget is
too small for the first one to overflow it. -/
structure Overflow (m : Machine) where
  first : Part (m.budget / 2) 0 m.core
  wrap : Wrap m.budget first.cycles (first.after.request m.nextInterrupt)

/-- The counter overflows only if the budget is within 17 of its limit. -/
theorem Overflow.great {m : Machine} (overflow : Overflow m) : 2 ^ 32 - 18 < m.budget :=
  overflow.wrap.great

/-! ### What a frame comes to -/

theorem budget_lt (m : Machine) : m.budget < 2 ^ 32 :=
  m.settings.cyclesPerFrame.toNat_lt

/-- The rest of a frame whose first part ended. -/
def finish (m : Machine) (ran : Nat) : Except FrameFault Unit × Machine :=
  match m.raiseInterrupt.runUntil m.budget ran with
  | (.error fault, m) => (.error fault, m)
  | (.ok _, m) =>
    let m := m.raiseInterrupt
    (.ok (), { m with frames := m.frames + 1 })

theorem runUntil_eq (m : Machine) (target ran : Nat) :
    m.runUntil target ran =
      ((m.core.runUntil target ran).1, { m with core := (m.core.runUntil target ran).2 }) := rfl

theorem raiseInterrupt_eq (m : Machine) :
    m.raiseInterrupt =
      { m with
        core := m.core.request m.nextInterrupt
        nextInterrupt := m.nextInterrupt.other } := rfl

theorem stepFrame_of_ended {m : Machine} {mid : Core Bus} {ran : Nat}
    (h : m.core.runUntil (m.budget / 2) 0 = (.ok ran, mid)) :
    m.stepFrame = ({ m with core := mid } : Machine).finish ran := by
  have first : m.runUntil (m.budget / 2) 0 = (.ok ran, { m with core := mid }) := by
    rw [runUntil_eq, h]
  rw [budget] at first
  simp only [stepFrame, first]
  rfl

/-- A frame whose first part fails. -/
theorem stepFrame_of_early {m : Machine} {last : Core Bus} {fault : FrameFault}
    (h : m.core.runUntil (m.budget / 2) 0 = (.error fault, last)) :
    m.stepFrame = (.error fault, { m with core := last }) := by
  simp only [budget] at h
  simp only [stepFrame, runUntil_eq, h]

/-- A frame whose second part fails. -/
theorem stepFrame_of_late {m : Machine} {mid last : Core Bus} {ran : Nat} {fault : FrameFault}
    (h : m.core.runUntil (m.budget / 2) 0 = (.ok ran, mid))
    (h' : (mid.request m.nextInterrupt).runUntil m.budget ran = (.error fault, last)) :
    m.stepFrame =
      (.error fault, { m with core := last, nextInterrupt := m.nextInterrupt.other }) := by
  rw [stepFrame_of_ended h]
  simp only [finish, raiseInterrupt_eq, runUntil_eq, budget] at h' ⊢
  rw [h']

/-- A frame whose parts both end. -/
theorem stepFrame_of_parts {m : Machine} {mid last : Core Bus} {ran total : Nat}
    (h : m.core.runUntil (m.budget / 2) 0 = (.ok ran, mid))
    (h' : (mid.request m.nextInterrupt).runUntil m.budget ran = (.ok total, last)) :
    m.stepFrame =
      (.ok (), { m with
        core := last.request m.nextInterrupt.other
        frames := m.frames + 1 }) := by
  rw [stepFrame_of_ended h]
  simp only [finish, raiseInterrupt_eq, runUntil_eq, budget] at h' ⊢
  simp only [h', FrameInterrupt.other_other]

/-- **A frame succeeds, or fails at a refused instruction, or overflows its counter.** -/
theorem stepFrame_cases (m : Machine) :
    (∃ course : Course m, m.stepFrame = (.ok (), course.result)) ∨
    (∃ failure : Failure m, m.stepFrame = (.error (.refused failure.fault), failure.result)) ∨
    Nonempty (Overflow m) := by
  rcases runUntil_cases (m.budget / 2) 0 m.core with ⟨first, h⟩ | ⟨stop, h⟩ | wraps
  · rw [Nat.zero_add] at h
    rcases runUntil_cases m.budget first.cycles (first.after.request m.nextInterrupt) with
      ⟨second, h'⟩ | ⟨stop, h'⟩ | wraps
    · exact Or.inl ⟨⟨first, second⟩, stepFrame_of_parts h h'⟩
    · exact Or.inr (Or.inl ⟨.late first stop, stepFrame_of_late h h'⟩)
    · exact Or.inr (Or.inr (wraps.map fun wrap => ⟨first, wrap⟩))
  · exact Or.inr (Or.inl ⟨.early stop, stepFrame_of_early h⟩)
  · obtain ⟨wrap⟩ := wraps
    have great := wrap.great
    have small := m.budget_lt
    omega

/-- Under a budget that leaves room for one more instruction in the counter, a frame succeeds or
fails at a refused instruction. -/
theorem stepFrame_of_fits {m : Machine} (fits : m.budget ≤ 2 ^ 32 - 18) :
    (∃ course : Course m, m.stepFrame = (.ok (), course.result)) ∨
    ∃ failure : Failure m, m.stepFrame = (.error (.refused failure.fault), failure.result) := by
  rcases m.stepFrame_cases with course | failure | overflows
  · exact Or.inl course
  · exact Or.inr failure
  · obtain ⟨overflow⟩ := overflows
    exact absurd overflow.great (Nat.not_lt_of_le fits)

/-! ### What a frame costs -/

namespace Course

variable {m : Machine} (course : Course m)

theorem four_mul_count_le : 4 * course.count ≤ course.cycles := by
  have := course.first.four_mul_count_le
  have := course.second.four_mul_count_le
  simp only [count, cycles]
  omega

theorem cycles_le : course.cycles ≤ m.budget + 17 := by
  have := course.first.cycles_le
  have := course.second.cycles_le
  simp only [cycles]
  omega

theorem cycles_of_budget_eq_zero (h : m.budget = 0) : course.cycles = 0 := by
  have := course.first.cycles_of_reached (by omega)
  have := course.second.cycles_of_reached (by omega)
  simp only [cycles]
  omega

/-- The processor counts the cycles of the instructions and of the interrupts it accepts. -/
theorem cycles_result :
    course.result.cpu.cycles = m.cpu.cycles +
      UInt64.ofNat (course.cycles + Opcode.interruptCycles * course.accepted) := by
  have first := counted_of_ticks course.first.executed
  have second := counted_of_ticks course.second.executed
  rw [cycles_request] at second
  change (course.second.after.request m.nextInterrupt.other).cpu.cycles = _
  rw [cycles_request, second, first]
  simp only [cycles, accepted, Nat.mul_add, UInt64.ofNat_add, UInt64.add_assoc, cpu]
  ac_rfl

end Course

namespace Failure

variable {m : Machine} (failure : Failure m)

theorem four_mul_count_le : 4 * failure.count ≤ m.budget + 17 := by
  cases failure with
  | early stop =>
    have := stop.four_mul_count_le
    have := stop.cycles_le
    simp only [count]
    omega
  | late first stop =>
    have := first.four_mul_count_le
    have := first.cycles_le
    have := stop.four_mul_count_le
    have := stop.cycles_le
    simp only [count]
    omega

end Failure

/-- **A frame keeps its schedule.** Under a budget that leaves room for one more instruction in the
counter, a frame ends: it succeeds or is refused an instruction, after few instructions. One that
succeeds follows a course, which costs its budget and less than one more instruction, or less if
the processor is halted at the end. -/
theorem stepFrame_keeps_schedule (m : Machine) (fits : m.budget ≤ 2 ^ 32 - 18) :
    ((∃ course : Course m, m.stepFrame = (.ok (), course.result)) ∨
      ∃ failure : Failure m, m.stepFrame = (.error (.refused failure.fault), failure.result) ∧
        4 * failure.count ≤ m.budget + 17) ∧
    ∀ after, m.stepFrame = (.ok (), after) →
      ∃ course : Course m, after = course.result ∧
        4 * course.count ≤ course.cycles ∧
        course.cycles ≤ m.budget + 17 ∧
        (m.budget ≤ course.cycles ∨ course.second.after.cpu.halted = true) ∧
        (m.budget = 0 → course.cycles = 0) ∧
        after.cpu.cycles = m.cpu.cycles + UInt64.ofNat (course.cycles + 11 * course.accepted) ∧
        after.nextInterrupt = m.nextInterrupt := by
  rcases stepFrame_of_fits fits with ⟨course, h⟩ | ⟨failure, h⟩
  · refine ⟨Or.inl ⟨course, h⟩, fun after succeeded => ?_⟩
    rw [h] at succeeded
    cases succeeded
    exact ⟨course, rfl, course.four_mul_count_le, course.cycles_le, course.second.ended,
      course.cycles_of_budget_eq_zero, course.cycles_result, rfl⟩
  · refine ⟨Or.inr ⟨failure, h, failure.four_mul_count_le⟩, fun after succeeded => ?_⟩
    rw [h] at succeeded
    cases succeeded

/-- A machine that executes NOPs with interrupts enabled. -/
def idle : Machine where
  core := { cpu := { sp := 0x2400, interruptsEnabled := true }, memory := .full, ports := {} }

theorem budget_idle : idle.budget = 33333 := by
  decide

theorem running_idle : idle.core.cpu.halted = false := rfl

/-- Twice 4167 NOPs, and an interrupt that is accepted between them. -/
theorem stepFrame_idle : ∃ after, idle.stepFrame = (.ok (), after) ∧ after.cpu.cycles = 33347 := by
  obtain ⟨mid, ⟨hcpu, hmemory⟩, first⟩ :=
    runUntil_of_enough_nops 4167 0 (idle.budget / 2) running_idle (fun n _ => Memory.read_full _)
      (by rw [budget_idle]; omega) (by rw [budget_idle]; decide) (by omega)
  have accepted : mid.interrupt 0x0008 =
      (true, ⟨{ sp := 0x23fe, pc := 0x0008, cycles := 16679 },
        Memory.full.writeWord 0x23fe 0x1047, mid.ports⟩) := by
    obtain ⟨cpu, memory, ports⟩ := mid
    cases hcpu
    cases hmemory
    rfl
  have wakes := request_alike mid .midFrame
  rw [FrameInterrupt.vector, accepted] at wakes
  -- The return address is in the work RAM, and the NOPs end before it.
  have nops : ∀ n < 4167,
      (mid.request .midFrame).memory.read ((mid.request .midFrame).cpu.pc + UInt16.ofNat n) =
        0x00 := by
    intro n h
    have apart : Memory.full.cell (0x0008 + UInt16.ofNat n) ∉
        [Memory.full.cell 0x23fe, Memory.full.cell (0x23fe + 1)] := by
      rw [Memory.cell_add_ofNat, Memory.cell, Memory.cell, Memory.size_full]
      simp only [List.mem_cons, List.not_mem_nil, or_false]
      change ¬((8 + n) % 65536 = 0x23fe ∨ (8 + n) % 65536 = 0x23ff)
      omega
    rw [wakes.cpu, wakes.memory]
    exact ((Memory.full.sameBut_writeWord 0x23fe 0x1047).read apart).trans (Memory.read_full _)
  obtain ⟨last, passed, second⟩ := runUntil_of_enough_nops 4167 16668 idle.budget
    (by rw [wakes.cpu]) nops (by rw [budget_idle]; omega) (by rw [budget_idle]; decide) (by omega)
  have dropped : last.interrupt 0x0010 = (false, last) :=
    interrupt_of_disabled (by rw [passed.cpu, wakes.cpu]) _
  refine ⟨_, stepFrame_of_parts first second, ?_⟩
  change (last.request .verticalBlank).cpu.cycles = _
  rw [cycles_request, FrameInterrupt.vector, dropped, passed.cpu, wakes.cpu]
  change 16679 + UInt64.ofNat (4 * 4167) + UInt64.ofNat (11 * 0) = 33347
  decide

/-- The cycles of the instructions and of the interrupt, together. -/
theorem stepFrame_keeps_schedule_idle :
    idle.budget ≤ 2 ^ 32 - 18 ∧
      ∃ course : Course idle, idle.stepFrame = (.ok (), course.result) ∧
        course.cycles ≤ 33350 ∧
        (33333 ≤ course.cycles ∨ course.second.after.cpu.halted = true) ∧
        UInt64.ofNat (course.cycles + 11 * course.accepted) = 33347 := by
  have fits : idle.budget ≤ 2 ^ 32 - 18 := by
    rw [budget_idle]
    decide
  obtain ⟨after, succeeds, total⟩ := stepFrame_idle
  obtain ⟨course, rfl, -, least, most, -, counted, -⟩ :=
    (stepFrame_keeps_schedule idle fits).2 after succeeds
  rw [budget_idle] at least
  rw [total] at counted
  exact ⟨fits, course, succeeds, least,
    most.imp_left (Nat.le_trans (Nat.le_of_eq budget_idle.symm)),
    (counted.trans (UInt64.zero_add _)).symm⟩

end Arcade.Machine
