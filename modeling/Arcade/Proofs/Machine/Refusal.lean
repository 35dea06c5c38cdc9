import Arcade.Proofs.Machine.Frame

/-! # Refused frames

A frame fails at an instruction the processor refuses, in its first or in its second part. The
instructions before it were executed and are not undone.

* `stepFrame_of_lenient`: a machine that refuses nothing finishes its frames;
* `stepFrame_stops_at_refusal`: **the machine a failed frame leaves stands at the refused
  instruction**, and the next frame fails there again;
* `Trapped`: a machine whose frame fails behind its middle. -/

namespace Arcade.Machine

open Arcade.Core

namespace Failure

variable {m : Machine} (failure : Failure m)

theorem running : failure.last.cpu.halted = false := by
  cases failure with
  | early stop => exact stop.running
  | late first stop => exact stop.running

theorem refused : failure.last.refusal? = some failure.fault := by
  cases failure with
  | early stop => exact stop.refused
  | late first stop => exact stop.refused

theorem strict_last : failure.last.cpu.strict = m.cpu.strict := by
  cases failure with
  | early stop => exact strict_of_ticks stop.executed
  | late first stop =>
    exact (strict_of_ticks stop.executed).trans
      ((strict_request _ _).trans (strict_of_ticks first.executed))

theorem leadsTo_last : m.core.LeadsTo m.nextInterrupt failure.last := by
  cases failure with
  | early stop => exact Or.inl ⟨_, _, stop.executed⟩
  | late first stop => exact Or.inr ⟨_, _, _, _, _, first.executed, stop.executed⟩

/-- What a failure leaves is its last core but for the report of the refused instruction. -/
theorem core_alike : failure.result.core.Alike failure.last :=
  failure.last.report_alike

theorem running_result : failure.result.cpu.halted = false :=
  (congrArg Cpu.halted failure.core_alike.cpu).trans failure.running

theorem refused_result : failure.result.core.refusal? = some failure.fault :=
  (refusal?_report _).trans failure.refused

/-- A frame that comes to its second part at once begins with the interrupt. -/
theorem stepFrame_result_of_skipped (h : m.budget / 2 = 0) :
    failure.result.stepFrame = failure.result.finish 0 :=
  stepFrame_of_ended (runUntil_of_over (Or.inl (Nat.le_of_eq h)))

/-- A frame that begins with an instruction fails again. -/
theorem stepFrame_result_of_begun (h : m.budget / 2 ≠ 0) :
    failure.result.stepFrame =
      (.error (.refused failure.fault),
        { failure.result with core := failure.result.core.report }) :=
  stepFrame_of_early (runUntil_of_refused (Nat.pos_of_ne_zero h) failure.running_result
    failure.refused_result)

end Failure

/-- A lenient machine finishes its frames. -/
theorem stepFrame_of_lenient {m : Machine} (fits : m.budget ≤ 2 ^ 32 - 18)
    (lenient : m.cpu.strict = false) :
    ∃ course : Course m, m.stepFrame = (.ok (), course.result) := by
  rcases stepFrame_of_fits fits with succeeds | ⟨failure, -⟩
  · exact succeeds
  · have refused := failure.refused
    rw [refusal?_of_lenient (failure.strict_last.trans lenient)] at refused
    cases refused

/-- **A frame that fails stops at an instruction.** Under a budget that leaves room for one more
instruction in the counter, a frame fails at a refused instruction only: the processor stands at
it, and the machine is as the instructions before it left it. The next frame fails there again, or
begins with an interrupt if its first part is empty. A lenient machine does not fail. -/
theorem stepFrame_stops_at_refusal (m : Machine) (fits : m.budget ≤ 2 ^ 32 - 18) :
    (∀ fault after, m.stepFrame = (.error fault, after) →
      fault = .refused ⟨after.core.fetch, after.cpu.pc⟩ ∧
      (Opcode.alias? after.core.fetch).isSome = true ∧
      after.cpu.strict = true ∧ after.cpu.halted = false ∧
      (∃ last, m.core.LeadsTo m.nextInterrupt last ∧ after.core.Alike last) ∧
      after.frames = m.frames ∧
      (m.budget / 2 ≠ 0 →
        ∃ again, after.stepFrame = (.error fault, again) ∧ again.core.Alike after.core) ∧
      (m.budget / 2 = 0 → after.stepFrame = after.finish 0)) ∧
    (m.cpu.strict = false → ∃ after, m.stepFrame = (.ok (), after)) := by
  constructor
  · intro fault after failed
    rcases stepFrame_of_fits fits with ⟨course, h⟩ | ⟨failure, h⟩
    · rw [failed] at h
      cases h
    · rw [failed] at h
      cases h
      obtain ⟨strict, undocumented, named⟩ := refusal?_eq_some_iff.mp failure.refused_result
      refine ⟨congrArg FrameFault.refused named, undocumented, strict, failure.running_result,
        ⟨_, failure.leadsTo_last, failure.core_alike⟩, rfl, fun begun => ?_, fun skipped => ?_⟩
      · exact ⟨_, failure.stepFrame_result_of_begun begun, report_alike _⟩
      · exact failure.stepFrame_result_of_skipped skipped
  · intro lenient
    obtain ⟨course, h⟩ := stepFrame_of_lenient fits lenient
    exact ⟨_, h⟩

/-! ### A frame that fails in its second part -/

/-- A machine that comes to an undocumented byte in the second part of its frame, behind a row of
NOPs. -/
structure Trapped (m : Machine) : Prop where
  settings : m.settings = {}
  pc : m.cpu.pc = 0
  running : m.cpu.halted = false
  deaf : m.cpu.interruptsEnabled = false
  strict : m.cpu.strict = true
  nops : ∀ n < 0x1800, m.memory.read (UInt16.ofNat n) = 0x00
  undocumented : m.memory.read 0x1800 = 0x08

namespace Trapped

variable {m : Machine}

theorem budget (h : m.Trapped) : m.budget = 33333 := by
  rw [Machine.budget, h.settings]
  decide

/-- The first part is 4167 NOPs. -/
theorem first (h : m.Trapped) :
    ∃ mid, m.core.Passed 4167 mid ∧ m.core.runUntil (m.budget / 2) 0 = (.ok 16668, mid) := by
  have nops : ∀ n < 4167, m.core.memory.read (m.core.cpu.pc + UInt16.ofNat n) = 0x00 := by
    intro n hn
    have := h.nops n (by omega)
    rwa [← UInt16.zero_add (UInt16.ofNat n), ← h.pc] at this
  exact runUntil_of_enough_nops 4167 0 (m.budget / 2) h.running nops (by rw [h.budget]; omega)
    (by rw [h.budget]; decide) (by omega)

/-- The second part is 1977 NOPs more. -/
theorem stepFrame (h : m.Trapped) :
    ∃ after, m.stepFrame = (.error (.refused ⟨0x08, 0x1800⟩), after) ∧
      after.cpu = { m.cpu with pc := 0x1800, cycles := after.cpu.cycles } ∧
      after.memory = m.memory ∧ after.nextInterrupt = m.nextInterrupt.other ∧
      after.settings = m.settings := by
  obtain ⟨mid, ⟨hcpu, hmemory⟩, first⟩ := h.first
  have drops := mid.request_alike_of_disabled (by rw [hcpu]; exact h.deaf) m.nextInterrupt
  have hcpu' := drops.cpu.trans hcpu
  have hmemory' := drops.memory.trans hmemory
  have hpc : m.core.cpu.pc = 0 := h.pc
  have nops : ∀ n < 1977, (mid.request m.nextInterrupt).memory.read
      ((mid.request m.nextInterrupt).cpu.pc + UInt16.ofNat n) = 0x00 := by
    intro n hn
    rw [hmemory', hcpu', hpc]
    change m.memory.read (0 + UInt16.ofNat 4167 + UInt16.ofNat n) = 0x00
    rw [UInt16.zero_add, ← UInt16.ofNat_add]
    exact h.nops (4167 + n) (by omega)
  obtain ⟨last, ⟨hcpu'', hmemory''⟩, second⟩ :=
    runUntil?_of_nops 1977 16668 m.budget (by rw [hcpu']; exact h.running) nops
      (by rw [h.budget]; omega) (by omega)
  rw [hcpu', hpc] at hcpu''
  have refused : last.refusal? = some ⟨0x08, 0x1800⟩ := by
    have fetched : last.fetch = 0x08 := by
      rw [fetch, hcpu'', hmemory'', hmemory']
      exact h.undocumented
    refine refusal?_eq_some_iff.mpr ⟨?_, by rw [fetched]; rfl, ?_⟩
    · rw [hcpu'']
      exact h.strict
    · rw [fetched, hcpu'']
      rfl
  have stops : last.runUntil? m.budget (16668 + 4 * 1977) =
      some (.error ⟨0x08, 0x1800⟩, last.report) :=
    runUntil?_of_refused (by rw [h.budget]; decide) (by rw [hcpu'']; exact h.running) refused
  refine ⟨_, stepFrame_of_late first (runUntil_of_error (second.trans stops)), ?_, ?_, rfl, rfl⟩
  · change last.report.cpu = { m.cpu with pc := 0x1800, cycles := last.report.cpu.cycles }
    rw [cpu_report, hcpu'']
    rfl
  · exact last.report_alike.memory.trans (hmemory''.trans hmemory')

end Trapped

/-- A machine that is switched on, with an undocumented byte in its memory. -/
def trap : Machine :=
  (new {}).mapCore (Core.mapMemory (·.write 0x1800 0x08))

theorem trapped_trap : trap.Trapped where
  settings := rfl
  pc := rfl
  running := rfl
  deaf := rfl
  strict := rfl
  nops := by
    intro n h
    change (Memory.full.write 0x1800 0x08).read (UInt16.ofNat n) = 0x00
    have apart : Memory.full.cell 0x1800 ≠ Memory.full.cell (UInt16.ofNat n) := by
      rw [Memory.cell, Memory.cell, Memory.size_full, UInt16.toNat_ofNat']
      change 0x1800 % 65536 ≠ _
      omega
    rw [Memory.read_write_of_ne apart, Memory.read_full]
  undocumented := Memory.read_write_self _ _ _

/-- It fails behind its first interrupt, and again at once. -/
theorem stepFrame_stops_at_refusal_trap :
    trap.budget ≤ 2 ^ 32 - 18 ∧
      ∃ after, trap.stepFrame = (.error (.refused ⟨0x08, 0x1800⟩), after) ∧
        (∃ last, trap.core.LeadsTo .midFrame last ∧ after.core.Alike last) ∧
        ∃ again, after.stepFrame = (.error (.refused ⟨0x08, 0x1800⟩), again) ∧
          again.core.Alike after.core := by
  have fits : trap.budget ≤ 2 ^ 32 - 18 := by
    rw [trapped_trap.budget]
    decide
  obtain ⟨after, fails, -⟩ := trapped_trap.stepFrame
  obtain ⟨-, -, -, -, leads, -, again, -⟩ := (stepFrame_stops_at_refusal trap fits).1 _ _ fails
  exact ⟨fits, after, fails, leads, again (by rw [trapped_trap.budget]; decide)⟩

end Arcade.Machine
