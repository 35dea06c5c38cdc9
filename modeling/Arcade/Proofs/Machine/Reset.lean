import Arcade.Proofs.Machine.Inputs
import Arcade.Proofs.Machine.Journal

/-! # Reset

A reset forgets all a machine has done. What it keeps is the memory, the buttons that are held and
what was chosen when the machine was built; and of these a machine that is switched on is made.

* `AsSet`: a machine whose processor has the switches of its settings. Commands that leave the
  switches alone lead to such machines (`asSet_after`);
* `settings_after`, `traced_after`: what is chosen when a machine is built stays;
* `furnished`: a machine that is switched on, with a memory and with buttons held;
* `reset_eq`: **a machine that is reset is one that was switched on**, but for earlier entries in
  its journal;
* `reset_forgets`: so it goes on as one. -/

namespace Arcade

/-- A command that leaves the two switches of the processor as they are. -/
def Command.KeepsSwitches : Command → Prop
  | .operate (.changeCpu change) =>
    ∀ cpu : Cpu, (change cpu).strict = cpu.strict ∧ (change cpu).trace = cpu.trace
  | _ => True

/-! ### What stays -/

theorem Bus.traced_noteTransfer (bus : Bus) (event : Event) :
    (bus.noteTransfer event).traced = bus.traced := by
  unfold noteTransfer
  split_ifs <;> rfl

theorem Bus.traced_access (bus : Bus) (access : Bus.Access) :
    (bus.access access).traced = bus.traced := by
  cases access with
  | input port =>
    simp only [Bus.access, input, traced_noteTransfer]
    split_ifs <;> rfl
  | output port value =>
    simp only [Bus.access, output, traced_noteTransfer]
    split_ifs <;> rfl

namespace Core

theorem switches_tick (core : Core Bus) :
    core.tick.2.cpu.strict = core.cpu.strict ∧ core.tick.2.cpu.trace = core.cpu.trace := by
  have switches := core.report.switches_step
  rwa [cpu_report] at switches

theorem switches_request (core : Core Bus) (interrupt : FrameInterrupt) :
    (core.request interrupt).cpu.strict = core.cpu.strict ∧
      (core.request interrupt).cpu.trace = core.cpu.trace := by
  rw [(core.request_alike interrupt).cpu]
  exact ⟨core.strict_interrupt interrupt.vector, core.trace_interrupt interrupt.vector⟩

end Core

namespace Machine

open Arcade.Core

theorem settings_stepFrame (m : Machine) : m.stepFrame.2.settings = m.settings := by
  match early : m.core.runUntil (m.budget / 2) 0 with
  | (.error fault, last) => rw [stepFrame_of_early early]
  | (.ok ran, mid) =>
    match late : (mid.request m.nextInterrupt).runUntil m.budget ran with
    | (.error fault, last) => rw [stepFrame_of_late early late]
    | (.ok total, last) => rw [stepFrame_of_parts early late]

theorem settings_obey (m : Machine) (command : Command) :
    (m.obey command).settings = m.settings := by
  cases command with
  | operate operation =>
    cases operation with
    | stepFrame => exact m.settings_stepFrame
    | loadRom image =>
      obtain ⟨cpu, memory, loaded⟩ := m.perform_loadRom image
      rw [obey, loaded]
    | loadRomSet files directory =>
      obtain ⟨cpu, memory, loaded⟩ := m.perform_loadRomSet files directory
      rw [obey, loaded]
    | changeCpu _ | changeMemory _ | setButtons _ _ | reset => rfl
  | step | request _ | access _ => rfl

theorem settings_after (m : Machine) (commands : List Command) :
    (m.after commands).settings = m.settings :=
  after_of_kept (P := fun last _ => last.settings = m.settings) rfl
    (fun last _ command kept => (last.settings_obey command).trans kept) commands

theorem traced_obey (m : Machine) (command : Command) :
    (m.obey command).core.ports.traced = m.core.ports.traced := by
  refine kept_of_bus (P := fun bus => bus.traced = m.core.ports.traced) ?_ ?_ rfl ?_ rfl
  · intro bus event kept
    exact kept
  · intro bus access kept
    exact (bus.traced_access access).trans kept
  · intro changed pressed _
    rfl

theorem traced_after (m : Machine) (commands : List Command) :
    (m.after commands).core.ports.traced = m.core.ports.traced :=
  after_of_kept (P := fun last _ => last.core.ports.traced = m.core.ports.traced) rfl
    (fun last _ command kept => (last.traced_obey command).trans kept) commands

/-! ### The switches of the processor -/

/-- The switches of the processor are those of the settings. -/
structure AsSet (m : Machine) : Prop where
  strict : m.cpu.strict = m.settings.strict
  trace : m.cpu.trace = m.settings.debug

theorem asSet_new (settings : Settings) : (new settings).AsSet :=
  ⟨rfl, rfl⟩

/-- The switches after a command that leaves them alone. -/
theorem switches_obey (m : Machine) {command : Command} (keeps : command.KeepsSwitches) :
    (m.obey command).cpu.strict = m.cpu.strict ∧ (m.obey command).cpu.trace = m.cpu.trace := by
  cases command with
  | operate operation =>
    cases operation with
    | stepFrame =>
      refine m.byParts_stepFrame.kept
        (P := fun core => core.cpu.strict = m.cpu.strict ∧ core.cpu.trace = m.cpu.trace)
        ⟨rfl, rfl⟩ ?_ ?_
      · rintro core ⟨strict, trace⟩
        obtain ⟨strict', trace'⟩ := core.switches_tick
        exact ⟨strict'.trans strict, trace'.trans trace⟩
      · rintro core interrupt ⟨strict, trace⟩
        obtain ⟨strict', trace'⟩ := core.switches_request interrupt
        exact ⟨strict'.trans strict, trace'.trans trace⟩
    | changeCpu change => exact keeps m.cpu
    | loadRom image =>
      simp only [obey, perform, loadRom]
      cases m.memory.load 0 image <;> exact ⟨rfl, rfl⟩
    | loadRomSet files directory =>
      simp only [obey, perform, loadRomSet]
      cases (RomSet.load files directory m.memory).result <;> exact ⟨rfl, rfl⟩
    | changeMemory _ | setButtons _ _ | reset => exact ⟨rfl, rfl⟩
  | step => exact m.core.switches_tick
  | request interrupt => exact m.core.switches_request interrupt
  | access _ => exact ⟨rfl, rfl⟩

theorem AsSet.obey {m : Machine} (h : m.AsSet) {command : Command}
    (keeps : command.KeepsSwitches) : (m.obey command).AsSet := by
  obtain ⟨strict, trace⟩ := m.switches_obey keeps
  constructor
  · rw [strict, settings_obey, h.strict]
  · rw [trace, settings_obey, h.trace]

/-- **A machine whose switches nobody touched has those of its settings.** -/
theorem asSet_after (settings : Settings) {commands : List Command}
    (keep : ∀ command ∈ commands, command.KeepsSwitches) :
    ((new settings).after commands).AsSet := by
  have start := asSet_new settings
  generalize new settings = m at start
  induction commands generalizing m with
  | nil => exact start
  | cons command commands ih =>
    obtain ⟨first, later⟩ := List.forall_mem_cons.mp keep
    exact ih later (m.obey command) (start.obey first)

/-! ### Reset -/

/-- A machine that is switched on, with a memory and with buttons held. -/
def furnished (settings : Settings) (memory : Memory) (held : Buttons) : Machine :=
  (new settings).after
    [.operate (.changeMemory fun _ => memory), .operate (.setButtons held true)]

theorem furnished_eq (settings : Settings) (memory : Memory) (held : Buttons) :
    furnished settings memory held =
      { core := {
          cpu := { strict := settings.strict, trace := settings.debug }
          memory
          ports := {
            board := { dips := settings.dips, buttons := held }, traced := settings.debug } }
        settings } := by
  have pressed : Buttons.none.update held true = held := by
    have same : (0 : BitVec 10) ||| held.mask = held.mask := BitVec.zero_or
    exact congrArg Buttons.mk same
  conv_rhs => rw [← pressed]
  rfl

theorem reset_reset (m : Machine) : m.reset.reset = m.reset := rfl

/-- **A machine that is reset is one that was switched on**, with the same memory and the same
buttons held, but for earlier entries in its journal. -/
theorem reset_eq {m : Machine} (asSet : m.AsSet) (dips : m.board.dips = m.settings.dips)
    (traced : m.core.ports.traced = m.settings.debug) :
    m.reset =
      (furnished m.settings m.memory m.board.buttons).continuing m.core.ports.journal := by
  have kept : m.reset =
      { core := {
          cpu := { strict := m.cpu.strict, trace := m.cpu.trace }
          memory := m.memory
          ports := {
            board := { dips := m.board.dips, buttons := m.board.buttons }
            traced := m.core.ports.traced
            journal := m.core.ports.journal } }
        settings := m.settings } := rfl
  have entries : m.core.ports.journal ++ #[] = m.core.ports.journal := Array.append_empty
  rw [kept, asSet.strict, asSet.trace, dips, traced, furnished_eq]
  simp only [Machine.continuing, Core.continuing, Bus.continuing, mapCore, entries]

/-- **A reset forgets all a machine has done**, failed frames included. A machine that was switched
on and used, and whose processor has the switches of its settings, goes on after a reset like one
that is just switched on with these settings, this memory and these buttons: it answers all commands
alike and becomes the same, and what it reports and plays comes behind what it has reported and
played before. A second reset changes nothing. -/
theorem reset_forgets (settings : Settings) (commands : List Command)
    (asSet : ((new settings).after commands).AsSet) :
    let m := (new settings).after commands
    let fresh := furnished settings m.memory m.board.buttons
    (∀ more : List Command,
      m.reset.replies more = fresh.replies more ∧
      m.reset.after more = (fresh.after more).continuing m.core.ports.journal ∧
      (m.reset.after more).core.ports.sounds =
        m.core.ports.sounds ++ (fresh.after more).core.ports.sounds) ∧
    ∀ used : Machine, used.reset.reset = used.reset := by
  intro m fresh
  have chosen : m.settings = settings := settings_after _ commands
  have dips : m.board.dips = m.settings.dips := by
    rw [chosen]
    exact dips_after _ commands
  have traced : m.core.ports.traced = m.settings.debug := by
    rw [chosen]
    exact traced_after _ commands
  have restarted : m.reset = fresh.continuing m.core.ports.journal := by
    rw [reset_eq asSet dips traced, chosen]
  refine ⟨fun more => ?_, reset_reset⟩
  obtain ⟨replies, last⟩ := fresh.after_continuing m.core.ports.journal more
  rw [restarted]
  refine ⟨replies, last, ?_⟩
  rw [last]
  exact (fresh.after more).core.ports.sounds_continuing m.core.ports.journal

/-- A machine is given an undocumented byte and a coin, starts a sound, fills its shifter and is to
run a frame, which fails at that byte. -/
def crashing : List Command :=
  [.operate (.changeMemory (·.write 0 0x08)), .operate (.setButtons (.single .coin) true),
    .access (.output 3 0x02), .access (.output 4 0xff), .operate .stepFrame]

theorem keepsSwitches_crashing : ∀ command ∈ crashing, command.KeepsSwitches := by
  simp [crashing, Command.KeepsSwitches]

/-- The frame fails at its first instruction, and changes nothing. -/
theorem after_crashing : (new {}).after crashing = (new {}).after (crashing.take 4) := by
  have fetched : ((new {}).after (crashing.take 4)).core.fetch = 0x08 :=
    Memory.read_write_self Memory.full 0 0x08
  have refused : ((new {}).after (crashing.take 4)).core.refusal? = some ⟨0x08, 0⟩ := by
    refine refusal?_eq_some_iff.mpr ⟨rfl, ?_, ?_⟩
    · rw [fetched]
      rfl
    · rw [fetched]
      rfl
  have short : 0 < ((new {}).after (crashing.take 4)).budget / 2 := by decide
  have running : ((new {}).after (crashing.take 4)).core.cpu.halted = false := rfl
  have silent : ((new {}).after (crashing.take 4)).core.report =
      ((new {}).after (crashing.take 4)).core := rfl
  have last : (new {}).after crashing =
      ((new {}).after (crashing.take 4)).obey (.operate .stepFrame) :=
    after_concat _ (crashing.take 4) (.operate .stepFrame)
  rw [last]
  -- from here on only these facts count, and the machine is not looked at
  generalize (new {}).after (crashing.take 4) = m at *
  have fails := stepFrame_of_early (runUntil_of_refused short running refused)
  rw [obey, perform, fails, silent]

/-- Behind the reset the coin is still in, the shifter is empty, and the sound starts again. -/
theorem reset_forgets_crashing :
    let m := (new {}).after crashing
    m.AsSet ∧
      m.reset.replies [.access (.input 1), .access (.input 3)] = [.read 0x09, .read 0x00] ∧
      m.core.ports.board.shifter.result = 0xff ∧
      (m.reset.after [.access (.output 3 0x02)]).core.ports.sounds = [.shot, .shot] := by
  intro m
  have asSet : m.AsSet := asSet_after {} keepsSwitches_crashing
  obtain ⟨forgets, -⟩ := reset_forgets {} crashing asSet
  obtain ⟨replies, -, -⟩ := forgets [.access (.input 1), .access (.input 3)]
  obtain ⟨-, -, sounds⟩ := forgets [.access (.output 3 0x02)]
  refine ⟨asSet, ?_, ?_, ?_⟩
  · rw [replies, after_crashing]
    rfl
  · change ((new {}).after crashing).core.ports.board.shifter.result = 0xff
    rw [after_crashing]
    decide
  · rw [sounds, after_crashing]
    decide

end Machine

end Arcade
