import Arcade.Proofs.Machine.Recursion

/-! # Steady programs

A program is steady if each of its instructions takes the same number of cycles, as in a row of
NOPs or in a loop of one instruction. What the counter of a frame comes to in such a program is
known without executing it.

* `runUntil?_of_steady`: **the counter goes on by equal steps**;
* `tick_of_fetch`, `tick_of_effect`: the instruction at a documented byte;
* `runUntil?_of_nops`, `runUntil_of_enough_nops`: a row of NOPs. -/

namespace Arcade.Core

/-- **A steady program takes the counter on by equal steps.** What `P n` says of the core holds
after `n` instructions, and is kept by the next one up to the last one. -/
theorem runUntil?_of_steady {P : Nat → Core Bus → Prop} {cost target last : Nat}
    (steady : ∀ n < last, ∀ core, P n core →
      core.cpu.halted = false ∧ ∃ after, core.tick = (.ok cost, after) ∧ P (n + 1) after)
    {count n ran : Nat} {core : Core Bus} (start : P n core) (enough : n + count ≤ last)
    (short : ∀ fewer < count, ran + cost * fewer < target)
    (fits : ran + cost * count < 0x100000000) :
    ∃ after, P (n + count) after ∧
      core.runUntil? target ran = after.runUntil? target (ran + cost * count) := by
  induction count generalizing n ran core with
  | zero => exact ⟨core, start, rfl⟩
  | succ count ih =>
    obtain ⟨running, mid, ticked, next⟩ := steady n (by omega) core start
    rw [Nat.mul_succ] at fits
    have short' : ∀ fewer < count, ran + cost + cost * fewer < target := by
      intro fewer hfewer
      have := short (fewer + 1) (by omega)
      rw [Nat.mul_succ] at this
      omega
    obtain ⟨after, holds, h⟩ := ih next (by omega) short' (by omega)
    have begins : ran < target := short 0 (Nat.succ_pos _)
    have sum : ran + cost + cost * count = ran + cost * (count + 1) := by
      rw [Nat.mul_succ]
      omega
    refine ⟨after, by rwa [Nat.add_assoc, Nat.add_comm 1] at holds, ?_⟩
    rw [runUntil?_of_tick begins running ticked (by omega), h, sum]

/-- The instruction at a documented byte. -/
theorem tick_of_fetch {core : Core Bus} {byte : UInt8} (running : core.cpu.halted = false)
    (fetched : core.fetch = byte) (documented : Opcode.alias? byte = none) :
    core.tick =
      let effect := (Opcode.ofByte byte).execute core.cpu core.memory core.report.ports
      let cycles := (Opcode.ofByte byte).cycles + if effect.taken then Opcode.takenCycles else 0
      (.ok cycles, afterEffect core.memory effect cycles) := by
  have running' : core.report.cpu.halted = false := by rw [cpu_report, running]
  have h := step_of_fetch running' (core.fetch_report.trans fetched) documented
  rwa [cpu_report, core.report_alike.memory] at h

/-- What the instruction does to the processor and to the memory, where it leaves the devices
alone. -/
theorem tick_of_effect {core : Core Bus} {byte : UInt8} {cpu : Cpu} {stores : List Memory.Store}
    (running : core.cpu.halted = false) (fetched : core.fetch = byte)
    (documented : Opcode.alias? byte = none)
    (effect : ∀ ports : Bus,
      (Opcode.ofByte byte).execute core.cpu core.memory ports = ⟨cpu, stores, ports, false⟩) :
    ∃ after, core.tick = (.ok (Opcode.ofByte byte).cycles, after) ∧
      after.cpu = { cpu with cycles := cpu.cycles + UInt64.ofNat (Opcode.ofByte byte).cycles } ∧
      after.memory = core.memory.storeAll stores := by
  have ticked := tick_of_fetch running fetched documented
  rw [effect] at ticked
  exact ⟨_, ticked, rfl, rfl⟩

/-! ### NOPs -/

/-- A core some NOPs further. -/
structure Passed (core : Core Bus) (n : Nat) (after : Core Bus) : Prop where
  cpu : after.cpu =
    { core.cpu with
      pc := core.cpu.pc + UInt16.ofNat n
      cycles := core.cpu.cycles + UInt64.ofNat (4 * n) }
  memory : after.memory = core.memory

theorem passed_zero (core : Core Bus) : core.Passed 0 core where
  cpu := by simp
  memory := rfl

theorem Passed.tick {core mid : Core Bus} {n : Nat} (h : core.Passed n mid)
    (running : core.cpu.halted = false)
    (nop : core.memory.read (core.cpu.pc + UInt16.ofNat n) = 0x00) :
    mid.cpu.halted = false ∧ ∃ after, mid.tick = (.ok 4, after) ∧ core.Passed (n + 1) after := by
  have running' : mid.cpu.halted = false := by
    rw [h.cpu]
    exact running
  have fetched : mid.fetch = 0x00 := by
    rw [fetch, h.cpu, h.memory]
    exact nop
  obtain ⟨after, ticked, hcpu, hmemory⟩ := tick_of_effect running' fetched rfl fun _ => rfl
  refine ⟨running', after, ticked, ?_, hmemory.trans h.memory⟩
  rw [hcpu, h.cpu, Nat.mul_succ, UInt16.ofNat_add, UInt64.ofNat_add, ← UInt16.add_assoc,
    ← UInt64.add_assoc]
  rfl

/-- A row of NOPs. -/
theorem runUntil?_of_nops {core : Core Bus} (count ran target : Nat)
    (running : core.cpu.halted = false)
    (nops : ∀ n < count, core.memory.read (core.cpu.pc + UInt16.ofNat n) = 0x00)
    (short : ∀ fewer < count, ran + 4 * fewer < target)
    (fits : ran + 4 * count < 0x100000000) :
    ∃ after, core.Passed count after ∧
      core.runUntil? target ran = after.runUntil? target (ran + 4 * count) := by
  have steady : ∀ n < count, ∀ mid, core.Passed n mid →
      mid.cpu.halted = false ∧ ∃ after, mid.tick = (.ok 4, after) ∧ core.Passed (n + 1) after :=
    fun n hn mid passed => passed.tick running (nops n hn)
  obtain ⟨after, passed, h⟩ := runUntil?_of_steady steady core.passed_zero (by omega) short fits
  rw [Nat.zero_add] at passed
  exact ⟨after, passed, h⟩

/-- A row of NOPs that reaches the target. -/
theorem runUntil_of_enough_nops {core : Core Bus} (count ran target : Nat)
    (running : core.cpu.halted = false)
    (nops : ∀ n < count, core.memory.read (core.cpu.pc + UInt16.ofNat n) = 0x00)
    (short : ∀ fewer < count, ran + 4 * fewer < target) (enough : target ≤ ran + 4 * count)
    (fits : ran + 4 * count < 0x100000000) :
    ∃ after, core.Passed count after ∧
      core.runUntil target ran = (.ok (ran + 4 * count), after) := by
  obtain ⟨after, passed, h⟩ := runUntil?_of_nops count ran target running nops short fits
  exact ⟨after, passed, runUntil_of_ok (h.trans (runUntil?_of_over (Or.inl enough)))⟩

end Arcade.Core
