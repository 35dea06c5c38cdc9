import Arcade.Proofs.Bus
import Arcade.Proofs.Core.Ports
import Arcade.Proofs.Machine.Frame
import Arcade.Proofs.Machine.Phase

/-! # Commands

All that can happen to a machine, with what is answered: what is done to it from outside, and the
parts a frame is made of, which are instructions and interrupt requests. The program's use of the
ports is in the instructions; it is also a command of its own.

* `Core.ports_tick`: the ports after an instruction of the machine;
* `Command`, `Machine.reply`, `Machine.obey`: a command, its answer, and the machine after it;
* `replies`, `after`: the same of a list of commands;
* `after_of_kept`: what each command keeps holds after all of them;
* `ByParts`: the cores that parts of a frame lead to; what each part keeps they keep
  (`ByParts.kept`);
* `byParts_stepFrame`: **a frame is instructions and interrupt requests**;
* `kept_of_bus`: what entries in the journal and the use of a port keep, a command keeps unless it is
  about the board. -/

namespace Arcade

/-- An instruction uses the ports at most once, after it was reported. -/
theorem Core.ports_tick (core : Core Bus) :
    core.tick.2.ports = core.report.ports ∨
      ∃ access, core.tick.2.ports = core.report.ports.access access := by
  rw [Core.tick]
  cases halted : core.report.cpu.halted with
  | true =>
    rw [Core.step_of_halted halted]
    exact Or.inl rfl
  | false =>
    cases refused : core.report.refusal? with
    | some fault =>
      rw [Core.step_of_refused halted refused]
      exact Or.inl rfl
    | none =>
      rw [Core.step_of_accepted halted refused]
      rcases core.report.ports_next with kept | ⟨port, read⟩ | ⟨port, value, written⟩
      · exact Or.inl kept
      · exact Or.inr ⟨.input port, read⟩
      · exact Or.inr ⟨.output port value, written⟩

/-- Something that happens to a machine. -/
inductive Command
  /-- Something is done to it from outside. -/
  | operate (operation : Machine.Operation)
  /-- The next instruction is executed, and reported if it is to be. -/
  | step
  | request (interrupt : FrameInterrupt)
  | access (access : Bus.Access)

/-- The answer to a command. -/
inductive Reply
  | done
  | frame (result : Except FrameFault Unit)
  | loaded (result : Except Memory.OutOfBounds Unit)
  | loadedSet (result : Except RomSet.Error Unit) (notices : List RomSet.Notice)
  | stepped (result : Except Fault Nat)
  | requested (accepted : Bool)
  | read (value : UInt8)

/-- A part of a frame: an instruction or an interrupt request. -/
inductive Command.OfFrame : Command → Prop
  | step : OfFrame .step
  | request (interrupt : FrameInterrupt) : OfFrame (.request interrupt)

namespace Machine

open Arcade.Core

/-- What an operation from outside is answered. -/
def answer (m : Machine) : Operation → Reply
  | .stepFrame => .frame m.stepFrame.1
  | .loadRom image => .loaded ((m.loadRom image).map fun _ => ())
  | .loadRomSet files directory =>
    let (result, _, notices) := m.loadRomSet files directory
    .loadedSet result notices
  | .changeCpu _ | .changeMemory _ | .setButtons _ _ | .reset => .done

/-- What a command is answered. -/
def reply (m : Machine) : Command → Reply
  | .operate operation => m.answer operation
  | .step => .stepped m.core.tick.1
  | .request interrupt => .requested (m.core.interrupt interrupt.vector).1
  | .access (.input port) => .read (m.core.ports.input port).1
  | .access (.output _ _) => .done

/-- The machine after a command, whether it succeeded or failed. -/
def obey (m : Machine) : Command → Machine
  | .operate operation => m.perform operation
  | .step => m.mapCore fun core => core.tick.2
  | .request interrupt => m.mapCore fun core => core.request interrupt
  | .access access => m.mapCore fun core => { core with ports := core.ports.access access }

/-- What commands are answered, one after the other. -/
def replies (m : Machine) : List Command → List Reply
  | [] => []
  | command :: commands => m.reply command :: (m.obey command).replies commands

/-- The machine after commands, one after the other. -/
def after (m : Machine) (commands : List Command) : Machine :=
  commands.foldl obey m

theorem after_append (m : Machine) (commands more : List Command) :
    m.after (commands ++ more) = (m.after commands).after more :=
  List.foldl_append

theorem after_concat (m : Machine) (commands : List Command) (command : Command) :
    m.after (commands ++ [command]) = (m.after commands).obey command :=
  m.after_append commands [command]

/-- What holds before any command, and is kept by each, holds after all of them. -/
theorem after_of_kept {P : Machine → List Command → Prop} {m : Machine} (start : P m [])
    (kept : ∀ last commands command, P last commands →
      P (last.obey command) (commands ++ [command]))
    (commands : List Command) : P (m.after commands) commands :=
  foldl_of_kept start kept commands

/-! ### Frames -/

/-- A core that parts of a frame lead to. -/
def ByParts (m : Machine) (core : Core Bus) : Prop :=
  ∃ parts : List Command, (∀ part ∈ parts, part.OfFrame) ∧ core = (m.after parts).core

theorem byParts_self (m : Machine) : m.ByParts m.core :=
  ⟨[], List.forall_mem_nil _, rfl⟩

variable {m : Machine} {core : Core Bus}

/-- One part more. -/
theorem ByParts.obey (h : m.ByParts core) {part : Command} (ofFrame : part.OfFrame) :
    ∃ last : Machine, last.core = core ∧ m.ByParts (last.obey part).core := by
  obtain ⟨parts, ofFrames, rfl⟩ := h
  refine ⟨m.after parts, rfl, parts ++ [part], ?_, by rw [after_concat]⟩
  intro part among
  rcases List.mem_append.mp among with earlier | last
  · exact ofFrames part earlier
  · rw [List.mem_singleton.mp last]
    exact ofFrame

theorem ByParts.tick (h : m.ByParts core) : m.ByParts core.tick.2 := by
  obtain ⟨last, rfl, next⟩ := h.obey .step
  exact next

theorem ByParts.request (h : m.ByParts core) (interrupt : FrameInterrupt) :
    m.ByParts (core.request interrupt) := by
  obtain ⟨last, rfl, next⟩ := h.obey (.request interrupt)
  exact next

/-- What each part of a frame keeps, parts keep. -/
theorem ByParts.kept {P : Core Bus → Prop} (h : m.ByParts core) (start : P m.core)
    (tick : ∀ core, P core → P core.tick.2)
    (request : ∀ core (interrupt : FrameInterrupt), P core → P (core.request interrupt)) :
    P core := by
  obtain ⟨parts, ofFrames, rfl⟩ := h
  induction parts generalizing m with
  | nil => exact start
  | cons part parts ih =>
    obtain ⟨ofFrame, ofFrames⟩ := List.forall_mem_cons.mp ofFrames
    have next : P (m.obey part).core := by
      cases ofFrame with
      | step => exact tick m.core start
      | request interrupt => exact request m.core interrupt start
    exact ih next ofFrames

theorem ByParts.runUntil (h : m.ByParts core) (target ran : Nat) :
    m.ByParts (core.runUntil target ran).2 :=
  runUntil_kept (fun _ among => among.tick) h target ran

/-- **A frame is instructions and interrupt requests**, whether it succeeds or fails. -/
theorem byParts_stepFrame (m : Machine) : m.ByParts m.stepFrame.2.core := by
  have first := m.byParts_self.runUntil (m.budget / 2) 0
  match early : m.core.runUntil (m.budget / 2) 0 with
  | (.error fault, last) =>
    rw [early] at first
    rw [stepFrame_of_early early]
    exact first
  | (.ok ran, mid) =>
    rw [early] at first
    have second := (first.request m.nextInterrupt).runUntil m.budget ran
    match late : (mid.request m.nextInterrupt).runUntil m.budget ran with
    | (.error fault, last) =>
      rw [late] at second
      rw [stepFrame_of_late early late]
      exact second
    | (.ok total, last) =>
      rw [late] at second
      rw [stepFrame_of_parts early late]
      exact second.request m.nextInterrupt.other

end Machine

/-! ### What the bus keeps -/

section Kept

variable {P : Bus → Prop} (note : ∀ bus event, P bus → P (bus.note event))
  (access : ∀ bus access, P bus → P (bus.access access))

include note

theorem Core.kept_report {core : Core Bus} (h : P core.ports) : P core.report.ports := by
  unfold report
  cases core.traceLine? with
  | some line => exact note core.ports (.executing line) h
  | none => exact h

theorem Core.kept_request {core : Core Bus} (h : P core.ports) (interrupt : FrameInterrupt) :
    P (core.request interrupt).ports := by
  unfold request Core.interrupt
  split_ifs
  · exact h
  · exact note core.ports (.interruptDropped interrupt.vector) h

include access

theorem Core.kept_tick {core : Core Bus} (h : P core.ports) : P core.tick.2.ports := by
  have reported := kept_report note h
  rcases core.ports_tick with unused | ⟨use, used⟩
  · rw [unused]
    exact reported
  · rw [used]
    exact access core.report.ports use reported

/-- **What entries in the journal and the use of a port keep, a command keeps**, unless it is about
the board itself. -/
theorem Machine.kept_of_bus {m : Machine} {command : Command} (start : P m.core.ports)
    (buttons : ∀ changed pressed, command = .operate (.setButtons changed pressed) →
      P (m.setButtons changed pressed).core.ports)
    (reset : P m.reset.core.ports) : P (m.obey command).core.ports := by
  cases command with
  | operate operation =>
    cases operation with
    | stepFrame =>
      refine m.byParts_stepFrame.kept (P := fun core => P core.ports) start ?_ ?_
      · intro core kept
        exact Core.kept_tick note access kept
      · intro core interrupt kept
        exact Core.kept_request note kept interrupt
    | loadRom image =>
      obtain ⟨cpu, memory, loaded⟩ := m.perform_loadRom image
      rw [obey, loaded]
      exact start
    | loadRomSet files directory =>
      obtain ⟨cpu, memory, loaded⟩ := m.perform_loadRomSet files directory
      rw [obey, loaded]
      exact start
    | setButtons changed pressed => exact buttons changed pressed rfl
    | reset => exact reset
    | changeCpu _ | changeMemory _ => exact start
  | step => exact Core.kept_tick note access start
  | request interrupt => exact Core.kept_request note start interrupt
  | access use => exact access m.core.ports use start

end Kept

end Arcade
