import Arcade.Proofs.Machine.Command

/-! # The journal is never read

A machine writes to its journal and looks at no entry of it. So what happens to a machine does not
depend on what had been reported before, and with earlier entries in its journal it does the same
and has them in its journal still.

* `Bus.continuing`, `Core.continuing`, `Machine.continuing`: the same with earlier entries;
* `answers_continuing`: a bus with earlier entries answers alike;
* `Core.tick_continuing`, `Core.request_continuing`, `Core.runUntil_continuing`: the parts of a
  frame;
* `stepFrame_continuing`, `perform_continuing`, `obey_continuing`, `after_continuing`: a frame, an
  operation, a command and any number of them. -/

namespace Arcade

variable (earlier : Array Arcade.Event)

/-! ### The bus -/

namespace Bus

/-- The bus with earlier entries in its journal. -/
def continuing (bus : Bus) : Bus :=
  { bus with journal := earlier ++ bus.journal }

theorem note_continuing (bus : Bus) (event : Event) :
    (bus.continuing earlier).note event = (bus.note event).continuing earlier := by
  simp only [note, continuing, Array.push_append]

theorem noteTransfer_continuing (bus : Bus) (event : Event) :
    (bus.continuing earlier).noteTransfer event = (bus.noteTransfer event).continuing earlier := by
  have same : (bus.continuing earlier).traced = bus.traced := rfl
  unfold noteTransfer
  rw [same, note_continuing]
  split_ifs <;> rfl

theorem input_continuing (bus : Bus) (port : UInt8) :
    (bus.continuing earlier).input port =
      ((bus.input port).1, (bus.input port).2.continuing earlier) := by
  have same : (bus.continuing earlier).board = bus.board := rfl
  simp only [input, same, note_continuing]
  split_ifs
  · rw [noteTransfer_continuing]
  · rw [noteTransfer_continuing]

theorem foldl_push_append (effects : List SoundEffect) (journal : Array Event) :
    effects.foldl (fun journal effect => journal.push (.sound effect)) (earlier ++ journal) =
      earlier ++ effects.foldl (fun journal effect => journal.push (.sound effect)) journal := by
  induction effects generalizing journal with
  | nil => rfl
  | cons effect effects ih => rw [List.foldl_cons, List.foldl_cons, ← ih, Array.push_append]

theorem output_continuing (bus : Bus) (port value : UInt8) :
    (bus.continuing earlier).output port value = (bus.output port value).continuing earlier := by
  simp only [output, noteTransfer_continuing]
  generalize bus.noteTransfer (.portWritten port value) = noted
  have sent : ∀ {board : Board} {effects : List SoundEffect},
      (⟨board, noted.traced, effects.foldl (fun journal effect => journal.push (.sound effect))
        (noted.continuing earlier).journal⟩ : Bus) =
      continuing earlier ⟨board, noted.traced,
        effects.foldl (fun journal effect => journal.push (.sound effect)) noted.journal⟩ := by
    intro board effects
    simp only [continuing, foldl_push_append]
  split_ifs
  · rw [← note_continuing, ← sent]
    rfl
  · exact sent

theorem sounds_continuing (bus : Bus) :
    (bus.continuing earlier).sounds = earlier.toList.filterMap Event.effect? ++ bus.sounds := by
  simp only [sounds, continuing, Array.toList_append, List.filterMap_append]

end Bus

/-- **A bus with earlier entries answers alike.** -/
theorem answers_continuing : Answers fun bus bus' : Bus => bus' = bus.continuing earlier where
  input := by
    rintro bus _ rfl port
    have answered := bus.input_continuing earlier port
    exact ⟨(congrArg Prod.fst answered).symm, congrArg Prod.snd answered⟩
  output := by
    rintro bus _ rfl port value
    exact bus.output_continuing earlier port value

/-! ### The parts of a frame -/

namespace Core

/-- The core with earlier entries in its journal. -/
def continuing (core : Core Bus) : Core Bus :=
  { core with ports := core.ports.continuing earlier }

theorem step_continuing (core : Core Bus) :
    (core.continuing earlier).step = (core.step.1, core.step.2.continuing earlier) := by
  have twins : Twin (fun bus bus' : Bus => bus' = bus.continuing earlier) core
      (core.continuing earlier) := ⟨⟨core.cpu.trace, rfl⟩, rfl, rfl⟩
  obtain ⟨same, ⟨trace, cpu⟩, memory, ports⟩ := twins.step (answers_continuing earlier)
  -- twins may differ in their trace switches, and these two do not
  have switch : trace = core.step.2.cpu.trace := by
    obtain ⟨-, kept⟩ := (core.continuing earlier).switches_step
    obtain ⟨-, kept'⟩ := core.switches_step
    rw [cpu] at kept
    exact kept.trans kept'.symm
  subst switch
  refine Prod.ext same ?_
  generalize (core.continuing earlier).step.2 = after at cpu memory ports
  obtain ⟨_, _, _⟩ := after
  subst cpu memory ports
  rfl

theorem report_continuing (core : Core Bus) :
    (core.continuing earlier).report = core.report.continuing earlier := by
  have same : (core.continuing earlier).traceLine? = core.traceLine? := rfl
  unfold report
  rw [same]
  cases core.traceLine? with
  | none => rfl
  | some line =>
    have noted := core.ports.note_continuing earlier (.executing line)
    exact congrArg (fun ports => ({ core with ports } : Core Bus)) noted

theorem tick_continuing (core : Core Bus) :
    (core.continuing earlier).tick = (core.tick.1, core.tick.2.continuing earlier) := by
  rw [tick, report_continuing, step_continuing]
  rfl

theorem interrupt_continuing (core : Core Bus) (vector : UInt16) :
    (core.continuing earlier).interrupt vector =
      ((core.interrupt vector).1, (core.interrupt vector).2.continuing earlier) := by
  have same : (core.continuing earlier).cpu = core.cpu := rfl
  unfold interrupt
  rw [same]
  split_ifs <;> rfl

theorem request_continuing (core : Core Bus) (interrupt : FrameInterrupt) :
    (core.continuing earlier).request interrupt =
      (core.request interrupt).continuing earlier := by
  unfold request
  rw [interrupt_continuing]
  match core.interrupt interrupt.vector with
  | (true, after) => rfl
  | (false, after) =>
    have noted := after.ports.note_continuing earlier (.interruptDropped interrupt.vector)
    exact congrArg (fun ports => ({ after with ports } : Core Bus)) noted

/-- A core with earlier entries answers each instruction alike. -/
theorem bisimulation_continuing :
    Bisimulation fun core other => other = core.continuing earlier where
  halted := by
    rintro core _ rfl
    rfl
  tick := by
    rintro core _ rfl
    rw [tick_continuing]
    exact ⟨rfl, rfl⟩

theorem runUntil_continuing (core : Core Bus) (target ran : Nat) :
    (core.continuing earlier).runUntil target ran =
      ((core.runUntil target ran).1, (core.runUntil target ran).2.continuing earlier) := by
  obtain ⟨_, same, rfl⟩ := (bisimulation_continuing earlier).runUntil (a := core) rfl target ran
  exact same

end Core

namespace Machine

open Arcade.Core

/-- The machine with earlier entries in its journal. -/
def continuing (m : Machine) : Machine :=
  m.mapCore (Core.continuing earlier)

theorem stepFrame_continuing (m : Machine) :
    (m.continuing earlier).stepFrame = (m.stepFrame.1, m.stepFrame.2.continuing earlier) := by
  have first := m.core.runUntil_continuing earlier (m.budget / 2) 0
  match early : m.core.runUntil (m.budget / 2) 0 with
  | (.error fault, last) =>
    rw [early] at first
    rw [stepFrame_of_early early, stepFrame_of_early (m := m.continuing earlier) first]
    rfl
  | (.ok ran, mid) =>
    rw [early] at first
    have second := (mid.request m.nextInterrupt).runUntil_continuing earlier m.budget ran
    rw [← request_continuing] at second
    match late : (mid.request m.nextInterrupt).runUntil m.budget ran with
    | (.error fault, last) =>
      rw [late] at second
      rw [stepFrame_of_late early late,
        stepFrame_of_late (m := m.continuing earlier) first second]
      rfl
    | (.ok total, last) =>
      rw [late] at second
      have offered := last.request_continuing earlier m.nextInterrupt.other
      rw [stepFrame_of_parts early late,
        stepFrame_of_parts (m := m.continuing earlier) first second]
      exact congrArg (fun core => (Except.ok (), ({ m with core, frames := m.frames + 1 } : Machine)))
        offered

/-! ### Commands -/

theorem loadRom_continuing (m : Machine) (image : Array UInt8) :
    (m.continuing earlier).loadRom image =
      (m.loadRom image).map (Machine.continuing earlier) := by
  have same : (m.continuing earlier).memory = m.memory := rfl
  unfold loadRom
  rw [same]
  cases m.memory.load 0 image <;> rfl

theorem loadRomSet_continuing (m : Machine) (files : FileSystem) (directory : String) :
    (m.continuing earlier).loadRomSet files directory =
      ((m.loadRomSet files directory).1, (m.loadRomSet files directory).2.1.continuing earlier,
        (m.loadRomSet files directory).2.2) := by
  have same : (m.continuing earlier).memory = m.memory := rfl
  simp only [loadRomSet, same]
  cases (RomSet.load files directory m.memory).result <;> rfl

/-- **A machine with earlier entries does the same in an operation**, and is answered alike. -/
theorem perform_continuing (m : Machine) (operation : Operation) :
    (m.continuing earlier).answer operation = m.answer operation ∧
      (m.continuing earlier).perform operation = (m.perform operation).continuing earlier := by
  cases operation with
  | stepFrame =>
    have stepped := m.stepFrame_continuing earlier
    have same : (m.continuing earlier).stepFrame.1 = m.stepFrame.1 := by rw [stepped]
    have next : (m.continuing earlier).stepFrame.2 = m.stepFrame.2.continuing earlier := by
      rw [stepped]
    exact ⟨congrArg Reply.frame same, next⟩
  | loadRom image =>
    simp only [answer, perform, loadRom_continuing]
    cases m.loadRom image with
    | error error => exact ⟨rfl, rfl⟩
    | ok loaded => exact ⟨rfl, rfl⟩
  | loadRomSet files directory =>
    simp only [answer, perform, loadRomSet_continuing, and_self]
  | changeCpu _ | changeMemory _ | setButtons _ _ | reset => exact ⟨rfl, rfl⟩

theorem obey_continuing (m : Machine) (command : Command) :
    (m.continuing earlier).reply command = m.reply command ∧
      (m.continuing earlier).obey command = (m.obey command).continuing earlier := by
  cases command with
  | operate operation => exact m.perform_continuing earlier operation
  | step =>
    have ticked := m.core.tick_continuing earlier
    have same : (m.core.continuing earlier).tick.1 = m.core.tick.1 := by rw [ticked]
    have next : (m.core.continuing earlier).tick.2 = m.core.tick.2.continuing earlier := by
      rw [ticked]
    exact ⟨congrArg Reply.stepped same, congrArg (fun core => ({ m with core } : Machine)) next⟩
  | request interrupt =>
    have offered := m.core.interrupt_continuing earlier interrupt.vector
    have same : ((m.core.continuing earlier).interrupt interrupt.vector).1 =
        (m.core.interrupt interrupt.vector).1 := by rw [offered]
    have next := m.core.request_continuing earlier interrupt
    exact ⟨congrArg Reply.requested same, congrArg (fun core => ({ m with core } : Machine)) next⟩
  | access access =>
    cases access with
    | input port =>
      have answered := m.core.ports.input_continuing earlier port
      have same : ((m.core.ports.continuing earlier).input port).1 =
          (m.core.ports.input port).1 := by rw [answered]
      have next : ((m.core.ports.continuing earlier).input port).2 =
          (m.core.ports.input port).2.continuing earlier := by rw [answered]
      exact ⟨congrArg Reply.read same,
        congrArg (fun ports => m.mapCore fun core => { core with ports }) next⟩
    | output port value =>
      have written := m.core.ports.output_continuing earlier port value
      exact ⟨rfl, congrArg (fun ports => m.mapCore fun core => { core with ports }) written⟩

/-- **A machine with earlier entries does the same in all commands**, and is answered alike. -/
theorem after_continuing (m : Machine) (commands : List Command) :
    (m.continuing earlier).replies commands = m.replies commands ∧
      (m.continuing earlier).after commands = (m.after commands).continuing earlier := by
  induction commands generalizing m with
  | nil => exact ⟨rfl, rfl⟩
  | cons command commands ih =>
    obtain ⟨answered, obeyed⟩ := m.obey_continuing earlier command
    obtain ⟨replies, last⟩ := ih (m.obey command)
    constructor
    · rw [Machine.replies, Machine.replies, answered, obeyed, replies]
    · change ((m.continuing earlier).obey command).after commands = _
      rw [obeyed, last]
      rfl

end Machine

end Arcade
