import Arcade.Proofs.Core.LifeCycle
import Arcade.Proofs.Machine.Frame

/-! # A machine that stands still

The frames of a machine whose processor is halted with interrupts disabled go on, and each of them
drops its two interrupts.

* `noting`: a core with some more reports;
* `stepFrames_of_inert`: such frames change nothing but their number and the reports;
* `keeps_life_cycle`: **the life cycle of a processor, and the frames at its end**. -/

namespace Arcade

/-- The reports of a frame that begins with an interrupt and drops both. -/
def FrameInterrupt.drops (first : FrameInterrupt) : Array Event :=
  #[.interruptDropped first.vector, .interruptDropped first.other.vector]

theorem FrameInterrupt.eq_dropped_of_mem_drops {first : FrameInterrupt} {report : Event}
    (h : report ∈ first.drops) : ∃ vector, report = .interruptDropped vector := by
  simp only [drops, List.mem_toArray, List.mem_cons, List.not_mem_nil, or_false] at h
  rcases h with rfl | rfl <;> exact ⟨_, rfl⟩

namespace Core

/-- The core with some entries added to its journal. -/
def noting (core : Core Bus) (reports : Array Arcade.Event) : Core Bus :=
  { core with ports := { core.ports with journal := core.ports.journal ++ reports } }

theorem noting_noting (core : Core Bus) (reports reports' : Array Arcade.Event) :
    (core.noting reports).noting reports' = core.noting (reports ++ reports') := by
  simp only [noting, Array.append_assoc]

theorem request_of_disabled {core : Core Bus} (h : core.cpu.interruptsEnabled = false)
    (interrupt : FrameInterrupt) :
    core.request interrupt = core.noting #[.interruptDropped interrupt.vector] := by
  simp only [request, interrupt_of_disabled h, noting, Bus.note, Array.push_eq_append]

theorem Inert.noting {core : Core Bus} (h : core.Inert) (reports : Array Arcade.Event) :
    (core.noting reports).Inert :=
  ⟨h.halted, h.disabled⟩

end Core

namespace Machine

open Arcade.Core

theorem stepFrame_of_inert {m : Machine} (h : m.core.Inert) :
    m.stepFrame =
      (.ok (), { m with core := m.core.noting m.nextInterrupt.drops, frames := m.frames + 1 }) := by
  have first : m.core.runUntil (m.budget / 2) 0 = (.ok 0, m.core) :=
    runUntil_of_over (Or.inr h.halted)
  have second : (m.core.request m.nextInterrupt).runUntil m.budget 0 =
      (.ok 0, m.core.noting #[.interruptDropped m.nextInterrupt.vector]) := by
    rw [request_of_disabled h.disabled]
    exact runUntil_of_over (Or.inr (h.noting _).halted)
  rw [stepFrame_of_parts first second, request_of_disabled (h.noting _).disabled, noting_noting]
  rfl

/-- **Frames of an inert machine succeed and change nothing but their number**; what they report is
that interrupts are dropped. -/
theorem stepFrames_of_inert {m : Machine} (h : m.core.Inert) (count : Nat) :
    ∃ reports : Array Event, (∀ report ∈ reports, ∃ vector, report = .interruptDropped vector) ∧
      m.stepFrames count =
        (.ok (), { m with
          core := m.core.noting reports
          frames := m.frames + UInt64.ofNat count }) := by
  induction count generalizing m with
  | zero => exact ⟨#[], by simp, by simp [stepFrames, noting]⟩
  | succ count ih =>
    obtain ⟨reports, dropped, rest⟩ :=
      ih (m := { m with core := m.core.noting m.nextInterrupt.drops, frames := m.frames + 1 })
        (h.noting _)
    refine ⟨m.nextInterrupt.drops ++ reports, fun report among => ?_, ?_⟩
    · rcases Array.mem_append.mp among with first | later
      · exact FrameInterrupt.eq_dropped_of_mem_drops first
      · exact dropped report later
    · have frames : m.frames + 1 + UInt64.ofNat count = m.frames + UInt64.ofNat (count + 1) := by
        rw [UInt64.add_assoc, UInt64.add_comm 1, UInt64.ofNat_add]
        rfl
      rw [stepFrames, stepFrame_of_inert h]
      simp only [noting_noting, frames] at rest
      exact rest

variable {δ : Type} [Ports δ]

/-- **The life cycle of a processor, to its end.** Whatever steps and interrupt requests come to,
they keep to the life cycle. A core that is halted with interrupts disabled stays as it is, whatever
is asked of it, and so does a machine with such a core, but for the number of its frames and what it
reports of them. -/
theorem keeps_life_cycle {core : Core δ} {actions : List Action} {events : List (Core.Event δ)}
    (h : core.history actions = .ok events) :
    core.LifeCycle events ∧
    (∀ inert : Core δ, inert.Inert → ∀ actions, inert.history actions =
      .ok (actions.map fun action => ⟨inert, action, action.ignored, inert⟩)) ∧
    ∀ m : Machine, m.core.Inert → ∀ count, ∃ reports : Array Event,
      (∀ report ∈ reports, ∃ vector, report = .interruptDropped vector) ∧
        m.stepFrames count =
          (.ok (), { m with
            core := m.core.noting reports
            frames := m.frames + UInt64.ofNat count }) :=
  ⟨lifeCycle_of_linked (linked_of_history h), fun _ => history_of_inert,
    fun _ => stepFrames_of_inert⟩

/-- A core that stands at HLT, with interrupts enabled. -/
def napping : Core Unconnected where
  cpu := { sp := 0x2400, interruptsEnabled := true }
  memory := .holding [(0x0000, 0x76)]
  ports := .unconnected

/-- HLT is executed, a step does nothing, and an interrupt wakes the processor up. -/
theorem history_napping :
    ∃ asleep awake, napping.history [.step, .step, .interrupt 0x0008] =
        .ok [⟨napping, .step, .took 7, asleep⟩, ⟨asleep, .step, .took 0, asleep⟩,
          ⟨asleep, .interrupt 0x0008, .requested true, awake⟩] ∧
      asleep.cpu.halted = true ∧ awake.cpu.halted = false := by
  have fetched : napping.fetch = 0x76 :=
    Memory.read_holding (by decide)
  have running : napping.cpu.halted = false := rfl
  have enabled : napping.cpu.interruptsEnabled = true := rfl
  -- from here on only these facts count, and the bytes of the memory are not looked at
  generalize napping = core at *
  have halts : core.act .step = .ok (.took 7, core.next) := by
    have cost : core.cost = 7 := by
      rw [cost, effect, opcode, fetched]
      rfl
    rw [act_step_of_documented running (by rw [fetched]; rfl), cost]
  have halt : core.opcode = .hlt := Opcode.ofByte_eq_hlt_iff.mpr fetched
  have halted : core.next.cpu.halted = true := by
    rw [halted_next, halt]
    rfl
  have enabled' : core.next.cpu.interruptsEnabled = true := by
    rw [interruptsEnabled_next, halt, enabled]
    rfl
  obtain ⟨accepted, interrupted⟩ := interrupted_of_enabled enabled' 0x0008
  have sleeps : core.next.act .step = .ok (.took 0, core.next) :=
    act_step_eq_ok_iff.mpr ⟨0, rfl, step_of_halted halted⟩
  have wakes : core.next.act (.interrupt 0x0008) =
      .ok (.requested true, (core.next.interrupt 0x0008).2) := by
    rw [act_interrupt, accepted]
  refine ⟨core.next, _, ?_, halted, interrupted.running⟩
  exact history_cons_eq_ok_iff.mpr ⟨_, _, _, halts, history_cons_eq_ok_iff.mpr ⟨_, _, _, sleeps,
    history_cons_eq_ok_iff.mpr ⟨_, _, _, wakes, rfl, rfl⟩, rfl⟩, rfl⟩

/-- A machine that was halted by HLT at address 0, with interrupts disabled. -/
def standstill : Machine where
  core := { cpu := { pc := 0x0001, halted := true }, memory := .full, ports := {} }

/-- The nap ends with an interrupt that pushes the address behind HLT; the standstill lasts. -/
theorem keeps_life_cycle_napping :
    ∃ asleep awake, napping.history [.step, .step, .interrupt 0x0008] =
        .ok [⟨napping, .step, .took 7, asleep⟩, ⟨asleep, .step, .took 0, asleep⟩,
          ⟨asleep, .interrupt 0x0008, .requested true, awake⟩] ∧
      awake.memory.readWord awake.cpu.sp = 0x0001 ∧
      ∃ after, standstill.stepFrames 60 = (.ok (), after) ∧ after.frames = 60 ∧
        after.cpu = standstill.cpu ∧ after.memory = standstill.memory := by
  obtain ⟨asleep, awake, events, halted, running⟩ := history_napping
  obtain ⟨cycle, -, stands⟩ := keeps_life_cycle events
  obtain ⟨-, behind⟩ := (cycle.lawful _ List.mem_cons_self).halts rfl halted
  obtain ⟨-, pushed⟩ := cycle.woken [_] [_] [] _ rfl halted (List.forall_mem_singleton.mpr halted)
  obtain ⟨reports, -, frames⟩ := stands standstill ⟨rfl, rfl⟩ 60
  exact ⟨asleep, awake, events, (pushed running).trans behind, _, frames, rfl, rfl, rfl⟩

end Machine

end Arcade
