import Arcade.Proofs.Machine.Refusal
import Arcade.RomSet
import Mathlib.Algebra.Group.Nat.Even

/-! # The phase of the interrupts

A frame requests the interrupt that is next in its middle and the other one at its end. So the
interrupts of all frames are in phase if the one of the middle is next before each frame. A frame
that fails behind its middle has requested one interrupt and not the other.

* `Operation`: what can be done to a machine;
* `failsLate`: a frame that fails behind its middle, and `nextInterrupt_stepFrame`: only such a
  frame changes what is next;
* `nextInterrupt_performed`: **the phase is right as long as the number of frames that failed behind
  their middle is even**;
* `phase_lost_behind_failure`: one such frame, and the next one requests its interrupts the wrong
  way round. -/

namespace Arcade.Machine

open Arcade.Core

/-- What can be done to a machine from outside. -/
inductive Operation
  | stepFrame
  | changeCpu (change : Cpu → Cpu)
  | changeMemory (change : Memory → Memory)
  | loadRom (image : Array UInt8)
  | loadRomSet (files : FileSystem) (directory : String)
  | setButtons (changed : Buttons) (pressed : Bool)
  | reset

/-- The machine after an operation, whether it succeeded or failed. -/
def perform (m : Machine) : Operation → Machine
  | .stepFrame => m.stepFrame.2
  | .changeCpu change => m.mapCore (mapCpu change)
  | .changeMemory change => m.mapCore (mapMemory change)
  | .loadRom image =>
    match m.loadRom image with
    | .ok m => m
    | .error _ => m
  | .loadRomSet files directory => (m.loadRomSet files directory).2.1
  | .setButtons changed pressed => m.setButtons changed pressed
  | .reset => m.reset

/-- A machine that was switched on and then operated; the last operation comes first. -/
def performed (settings : Settings) : List Operation → Machine
  | [] => new settings
  | operation :: earlier => (performed settings earlier).perform operation

/-- Whether a frame reaches its middle and then fails. -/
def failsLate (m : Machine) : Bool :=
  (m.core.runUntil (m.budget / 2) 0).1.isOk && !m.stepFrame.1.isOk

/-- How many frames failed behind their middle since the machine was last reset. -/
def lateFailures (settings : Settings) : List Operation → Nat
  | [] => 0
  | .reset :: _ => 0
  | .stepFrame :: earlier =>
    lateFailures settings earlier + (performed settings earlier).failsLate.toNat
  | _ :: earlier => lateFailures settings earlier

/-! ### What is next after an operation -/

/-- **A frame changes what is next only if it fails behind its middle.** -/
theorem nextInterrupt_stepFrame (m : Machine) :
    m.stepFrame.2.nextInterrupt =
      if m.failsLate then m.nextInterrupt.other else m.nextInterrupt := by
  match first : m.core.runUntil (m.budget / 2) 0 with
  | (.error fault, last) =>
    have ended := stepFrame_of_early first
    simp [failsLate, first, ended, Except.isOk, Except.toBool]
  | (.ok ran, mid) =>
    match second : (mid.request m.nextInterrupt).runUntil m.budget ran with
    | (.error fault, last) =>
      have ended := stepFrame_of_late first second
      simp [failsLate, first, ended, Except.isOk, Except.toBool]
    | (.ok total, last) =>
      have ended := stepFrame_of_parts first second
      simp [failsLate, ended, Except.isOk, Except.toBool]

/-- A program image changes the processor and the memory only. -/
theorem perform_loadRom (m : Machine) (image : Array UInt8) :
    ∃ cpu memory, m.perform (.loadRom image) = { m with core := ⟨cpu, memory, m.core.ports⟩ } := by
  simp only [perform, loadRom]
  cases m.memory.load 0 image with
  | error error => exact ⟨m.core.cpu, m.core.memory, rfl⟩
  | ok memory => exact ⟨{ m.core.cpu with pc := 0 }, memory, rfl⟩

/-- A ROM set changes the processor and the memory only. -/
theorem perform_loadRomSet (m : Machine) (files : FileSystem) (directory : String) :
    ∃ cpu memory, m.perform (.loadRomSet files directory) =
      { m with core := ⟨cpu, memory, m.core.ports⟩ } := by
  simp only [perform, loadRomSet]
  cases (RomSet.load files directory m.memory).result with
  | error error => exact ⟨m.core.cpu, (RomSet.load files directory m.memory).memory, rfl⟩
  | ok _ => exact ⟨{ m.core.cpu with pc := 0 }, (RomSet.load files directory m.memory).memory, rfl⟩

theorem nextInterrupt_loadRom (m : Machine) (image : Array UInt8) :
    (m.perform (.loadRom image)).nextInterrupt = m.nextInterrupt := by
  obtain ⟨cpu, memory, loaded⟩ := m.perform_loadRom image
  rw [loaded]

theorem nextInterrupt_loadRomSet (m : Machine) (files : FileSystem) (directory : String) :
    (m.perform (.loadRomSet files directory)).nextInterrupt = m.nextInterrupt := by
  obtain ⟨cpu, memory, loaded⟩ := m.perform_loadRomSet files directory
  rw [loaded]

/-- **The interrupts are in phase as long as an even number of frames failed behind their middle**
since the machine was switched on or reset. -/
theorem nextInterrupt_performed (settings : Settings) (history : List Operation) :
    (performed settings history).nextInterrupt =
      if Even (lateFailures settings history) then .midFrame else .verticalBlank := by
  induction history with
  | nil => rfl
  | cons operation earlier ih =>
    cases operation with
    | stepFrame =>
      rw [performed, perform, nextInterrupt_stepFrame, ih, lateFailures]
      cases (performed settings earlier).failsLate with
      | false => simp
      | true =>
        simp only [Bool.toNat_true, Nat.even_add_one, if_true]
        split_ifs <;> rfl
    | loadRom image => exact (nextInterrupt_loadRom _ image).trans ih
    | loadRomSet files directory => exact (nextInterrupt_loadRomSet _ files directory).trans ih
    | reset => rfl
    | changeCpu _ | changeMemory _ | setButtons _ _ => exact ih

/-- With the program counter set back, a machine whose frame failed is trapped again. -/
theorem Trapped.set_back {m : Machine} (h : m.Trapped) :
    (m.stepFrame.2.mapCore (mapCpu fun cpu => { cpu with pc := 0 })).Trapped := by
  obtain ⟨after, fails, hcpu, hmemory, -, hsettings⟩ := h.stepFrame
  rw [fails]
  constructor
  · exact hsettings.trans h.settings
  · rfl
  · exact (congrArg Cpu.halted hcpu).trans h.running
  · exact (congrArg Cpu.interruptsEnabled hcpu).trans h.deaf
  · exact (congrArg Cpu.strict hcpu).trans h.strict
  · intro n hn
    change after.memory.read _ = _
    rw [hmemory]
    exact h.nops n hn
  · change after.memory.read _ = _
    rw [hmemory]
    exact h.undocumented

/-- A machine of the default settings whose frame failed at an undocumented byte at 0x1800, with the
program counter set back. -/
def derailed : Machine :=
  performed {} [.changeCpu fun cpu => { cpu with pc := 0 }, .stepFrame,
    .changeMemory (·.write 0x1800 0x08)]

theorem derailed_eq :
    derailed = trap.stepFrame.2.mapCore (mapCpu fun cpu => { cpu with pc := 0 }) := by
  have h : performed {} [.changeMemory (·.write 0x1800 0x08)] = trap := rfl
  rw [derailed, performed, performed, h, perform, perform]

/-- The middle of a trapped machine's frame, where what is next is requested. -/
theorem Trapped.raises {m : Machine} (h : m.Trapped) :
    ∃ ran mid, m.runUntil (m.budget / 2) 0 = (.ok ran, mid) ∧
      mid.raiseInterrupt.core = mid.core.request m.nextInterrupt := by
  obtain ⟨mid, -, first⟩ := h.first
  exact ⟨_, { m with core := mid }, by rw [runUntil_eq, first], rfl⟩

/-- The frame failed behind its middle, and the next one requests in its middle the interrupt of the
vertical blank. -/
theorem phase_lost_behind_failure :
    derailed.nextInterrupt = .verticalBlank ∧
      ∃ ran mid, derailed.runUntil (derailed.budget / 2) 0 = (.ok ran, mid) ∧
        mid.raiseInterrupt.core = mid.core.request .verticalBlank := by
  have trapped : derailed.Trapped := by
    rw [derailed_eq]
    exact trapped_trap.set_back
  have next : derailed.nextInterrupt = .verticalBlank := by
    obtain ⟨after, fails, -, -, hnext, -⟩ := trapped_trap.stepFrame
    rw [derailed_eq, fails]
    exact hnext
  obtain ⟨ran, mid, first, raises⟩ := trapped.raises
  rw [next] at raises
  exact ⟨next, ran, mid, first, raises⟩

end Arcade.Machine
