import Arcade.Proofs.Machine.Command

/-! # Machines with and without reports

Two machines that differ in what they report and in what they have played, and in nothing else,
answer every command alike and stay like that. From then on they play the same sounds.

* `Bus.SameBoard`, `Bus.InStep`: buses with the same devices, and such buses that have played the
  same sounds since some time. They answer alike (`answers_inStep`), whatever is reported
  (`Core.Twin.of_alike`);
* `Core.Twin.tick`, `Core.Twin.request`, `Core.Twin.runUntil`: the parts of a frame;
* `Twin`: machines that differ in the switches for reports only, with related buses;
* `Twin.stepFrame`, `Twin.perform`, `Twin.obey`, `Twin.after`: a frame, an operation, a command and
  any number of them;
* `twins_answer_alike`: **reports and earlier sounds do not influence a machine**. -/

namespace Arcade

/-! ### Buses -/

/-- Buses with the same devices. -/
def Bus.SameBoard (p q : Bus) : Prop :=
  q.board = p.board

/-- Buses with the same devices, which have played the same sounds since: what was heard before, on
the one and on the other, is not compared. -/
structure Bus.InStep (heard heard' : List SoundEffect) (p q : Bus) : Prop where
  board : p.SameBoard q
  sounds : ∃ played, p.sounds = heard ++ played ∧ q.sounds = heard' ++ played

theorem Bus.SameBoard.inStep {p q : Bus} (h : p.SameBoard q) : p.InStep p.sounds q.sounds q where
  board := h
  sounds := ⟨[], (List.append_nil _).symm, (List.append_nil _).symm⟩

variable {heard heard' : List SoundEffect}

/-- Changing the devices plays no sound. -/
theorem Bus.InStep.mapBoard {p q : Bus} (h : p.InStep heard heard' q) (change : Board → Board) :
    ({ p with board := change p.board } : Bus).InStep heard heard'
      { q with board := change q.board } where
  board := congrArg change h.board
  sounds := h.sounds

/-- **Buses in step answer alike and stay in step.** -/
theorem answers_inStep (heard heard' : List SoundEffect) : Answers (Bus.InStep heard heard') where
  input := by
    rintro p q ⟨board, sounds⟩ port
    refine ⟨congrArg (·.read port) board.symm, ?_, ?_⟩
    · exact (q.board_input port).trans (board.trans (p.board_input port).symm)
    · rw [show (Ports.input port p).2.sounds = _ from p.sounds_input port,
        show (Ports.input port q).2.sounds = _ from q.sounds_input port]
      exact sounds
  output := by
    rintro p q ⟨board, played, sounds, sounds'⟩ port value
    refine ⟨?_, played ++ (p.board.write port value).2, ?_, ?_⟩
    · change (q.output port value).board = (p.output port value).board
      rw [Bus.board_output, Bus.board_output, board]
    · exact (p.sounds_output port value).trans (by rw [sounds, List.append_assoc])
    · exact (q.sounds_output port value).trans (by rw [sounds', List.append_assoc, board])

namespace Core

variable {a b a' b' : Core Bus}

/-- Reports make no difference to twins. -/
theorem Twin.of_alike (h : Twin (Bus.InStep heard heard') a b) (alike : a'.Alike a)
    (alike' : b'.Alike b) : Twin (Bus.InStep heard heard') a' b' where
  cpu := by
    rw [alike.cpu, alike'.cpu]
    exact h.cpu
  memory := by rw [alike.memory, alike'.memory, h.memory]
  ports :=
    { board := by
        rw [Bus.SameBoard, alike.board, alike'.board]
        exact h.ports.board
      sounds := by
        rw [alike.sounds, alike'.sounds]
        exact h.ports.sounds }

/-! ### The parts of a frame -/

theorem Twin.tick (h : Twin (Bus.InStep heard heard') a b) :
    b.tick.1 = a.tick.1 ∧ Twin (Bus.InStep heard heard') a.tick.2 b.tick.2 :=
  (h.of_alike a.report_alike b.report_alike).step (answers_inStep heard heard')

theorem Twin.request (h : Twin (Bus.InStep heard heard') a b) (interrupt : FrameInterrupt) :
    Twin (Bus.InStep heard heard') (a.request interrupt) (b.request interrupt) :=
  (h.interrupt interrupt.vector).2.of_alike (a.request_alike interrupt) (b.request_alike interrupt)

/-- Twins answer each instruction alike. -/
theorem bisimulation_twin (heard heard' : List SoundEffect) :
    Bisimulation (Twin (Bus.InStep heard heard')) :=
  ⟨Twin.halted, Twin.tick⟩

/-- **Twins run the same part of a frame.** -/
theorem Twin.runUntil (h : Twin (Bus.InStep heard heard') a b) (target ran : Nat) :
    ∃ last, b.runUntil target ran = ((a.runUntil target ran).1, last) ∧
      Twin (Bus.InStep heard heard') (a.runUntil target ran).2 last :=
  (bisimulation_twin heard heard').runUntil h target ran

end Core

/-- A command that does not depend on the trace switch. -/
def Command.Blind : Command → Prop
  | .operate (.changeCpu change) => Cpu.Blind change
  | _ => True

namespace Machine

/-- Machines that differ in the switches for reports only, with related buses. -/
structure Twin (R : Bus → Bus → Prop) (a b : Machine) : Prop where
  core : Core.Twin R a.core b.core
  settings : ∃ debug, b.settings = { a.settings with debug }
  nextInterrupt : b.nextInterrupt = a.nextInterrupt
  frames : b.frames = a.frames

variable {a b : Machine}

/-- Any two machines that differ in the switches only are in step from now on. -/
theorem Twin.inStep (h : Twin Bus.SameBoard a b) :
    Twin (Bus.InStep a.core.ports.sounds b.core.ports.sounds) a b where
  core := ⟨h.core.cpu, h.core.memory, h.core.ports.inStep⟩
  settings := h.settings
  nextInterrupt := h.nextInterrupt
  frames := h.frames

theorem Twin.budget {R : Bus → Bus → Prop} (h : Twin R a b) : b.budget = a.budget := by
  obtain ⟨debug, same⟩ := h.settings
  rw [Machine.budget, Machine.budget, same]
  rfl

/-- **Twins take the same frame.** -/
theorem Twin.stepFrame (h : Twin (Bus.InStep heard heard') a b) :
    b.stepFrame.1 = a.stepFrame.1 ∧
      Twin (Bus.InStep heard heard') a.stepFrame.2 b.stepFrame.2 := by
  obtain ⟨mid', first, middle⟩ := h.core.runUntil (a.budget / 2) 0
  match early : a.core.runUntil (a.budget / 2) 0 with
  | (.error fault, last) =>
    rw [early] at first middle
    rw [← h.budget] at first
    rw [stepFrame_of_early early, stepFrame_of_early first]
    exact ⟨rfl, middle, h.settings, h.nextInterrupt, h.frames⟩
  | (.ok ran, mid) =>
    rw [early] at first middle
    rw [← h.budget] at first
    obtain ⟨last', second, twins⟩ := (middle.request a.nextInterrupt).runUntil a.budget ran
    match late : (mid.request a.nextInterrupt).runUntil a.budget ran with
    | (.error fault, last) =>
      rw [late] at second twins
      rw [← h.budget, ← h.nextInterrupt] at second
      rw [stepFrame_of_late early late, stepFrame_of_late first second, h.nextInterrupt]
      exact ⟨rfl, twins, h.settings, rfl, h.frames⟩
    | (.ok total, last) =>
      rw [late] at second twins
      rw [← h.budget, ← h.nextInterrupt] at second
      rw [stepFrame_of_parts early late, stepFrame_of_parts first second, h.nextInterrupt, h.frames]
      exact ⟨rfl, twins.request _, h.settings, rfl, rfl⟩

/-! ### Commands -/

/-- Setting the program counter does not depend on the trace switch. -/
theorem blind_restart : Cpu.Blind fun cpu => { cpu with pc := 0 } :=
  fun _ trace => ⟨trace, rfl⟩

theorem blind_reset : Cpu.Blind Cpu.reset :=
  fun _ trace => ⟨trace, rfl⟩

/-- Twins remain twins with cores that are. -/
theorem Twin.ofCore {R S : Bus → Bus → Prop} (h : Twin R a b) {core core' : Core Bus}
    (twins : Core.Twin S core core') :
    Twin S { a with core } { b with core := core' } :=
  ⟨twins, h.settings, h.nextInterrupt, h.frames⟩

theorem Twin.loadRom {R : Bus → Bus → Prop} (h : Twin R a b) (image : Array UInt8) :
    b.answer (.loadRom image) = a.answer (.loadRom image) ∧
      Twin R (a.perform (.loadRom image)) (b.perform (.loadRom image)) := by
  have same : b.memory = a.memory := h.core.memory
  simp only [answer, perform, Machine.loadRom, same]
  cases a.memory.load 0 image with
  | error error => exact ⟨rfl, h⟩
  | ok memory => exact ⟨rfl, h.ofCore (h.core.change blind_restart memory)⟩

theorem Twin.loadRomSet {R : Bus → Bus → Prop} (h : Twin R a b) (files : FileSystem)
    (directory : String) :
    b.answer (.loadRomSet files directory) = a.answer (.loadRomSet files directory) ∧
      Twin R (a.perform (.loadRomSet files directory))
        (b.perform (.loadRomSet files directory)) := by
  have same : b.memory = a.memory := h.core.memory
  simp only [answer, perform, Machine.loadRomSet, same]
  cases (RomSet.load files directory a.memory).result with
  | error error => exact ⟨rfl, h.ofCore ⟨h.core.cpu, rfl, h.core.ports⟩⟩
  | ok _ => exact ⟨rfl, h.ofCore (h.core.change blind_restart _)⟩

theorem Twin.mapBoard (h : Twin (Bus.InStep heard heard') a b) (change : Board → Board) :
    Twin (Bus.InStep heard heard') (a.mapBoard change) (b.mapBoard change) :=
  h.ofCore ⟨h.core.cpu, h.core.memory, h.core.ports.mapBoard change⟩

/-- **Twins answer an operation alike**, and are twins after it. -/
theorem Twin.perform (h : Twin (Bus.InStep heard heard') a b) {operation : Operation}
    (blind : (Command.operate operation).Blind) :
    b.answer operation = a.answer operation ∧
      Twin (Bus.InStep heard heard') (a.perform operation) (b.perform operation) := by
  cases operation with
  | stepFrame =>
    obtain ⟨same, twins⟩ := h.stepFrame
    exact ⟨congrArg Reply.frame same, twins⟩
  | changeCpu change =>
    have twins := h.core.change blind a.core.memory
    exact ⟨rfl, h.ofCore ⟨twins.cpu, h.core.memory, twins.ports⟩⟩
  | changeMemory change =>
    exact ⟨rfl, h.ofCore ⟨h.core.cpu, congrArg change h.core.memory, h.core.ports⟩⟩
  | loadRom image => exact h.loadRom image
  | loadRomSet files directory => exact h.loadRomSet files directory
  | setButtons changed pressed =>
    exact ⟨rfl, h.mapBoard fun board =>
      { board with buttons := board.buttons.update changed pressed }⟩
  | reset =>
    obtain ⟨core, settings, -, -⟩ := h.mapBoard Board.reset
    have twins := core.change blind_reset a.core.memory
    exact ⟨rfl, ⟨twins.cpu, h.core.memory, twins.ports⟩, settings, rfl, rfl⟩

/-- **Twins answer a command alike**, and are twins after it. -/
theorem Twin.obey (h : Twin (Bus.InStep heard heard') a b) {command : Command}
    (blind : command.Blind) :
    b.reply command = a.reply command ∧
      Twin (Bus.InStep heard heard') (a.obey command) (b.obey command) := by
  cases command with
  | operate operation => exact h.perform blind
  | step =>
    obtain ⟨same, twins⟩ := h.core.tick
    exact ⟨congrArg Reply.stepped same, h.ofCore twins⟩
  | request interrupt =>
    obtain ⟨same, -⟩ := h.core.interrupt interrupt.vector
    exact ⟨congrArg Reply.requested same, h.ofCore (h.core.request interrupt)⟩
  | access access =>
    cases access with
    | input port =>
      obtain ⟨same, inStep⟩ := (answers_inStep heard heard').input h.core.ports port
      exact ⟨congrArg Reply.read same.symm, h.ofCore ⟨h.core.cpu, h.core.memory, inStep⟩⟩
    | output port value =>
      have inStep := (answers_inStep heard heard').output h.core.ports port value
      exact ⟨rfl, h.ofCore ⟨h.core.cpu, h.core.memory, inStep⟩⟩

theorem Twin.after (h : Twin (Bus.InStep heard heard') a b) {commands : List Command}
    (blind : ∀ command ∈ commands, command.Blind) :
    b.replies commands = a.replies commands ∧
      Twin (Bus.InStep heard heard') (a.after commands) (b.after commands) := by
  induction commands generalizing a b with
  | nil => exact ⟨rfl, h⟩
  | cons command commands ih =>
    obtain ⟨first, later⟩ := List.forall_mem_cons.mp blind
    obtain ⟨same, twins⟩ := h.obey first
    obtain ⟨rest, last⟩ := ih twins later
    refine ⟨?_, last⟩
    rw [replies, replies, same, rest]

/-- **Reports and earlier sounds do not influence a machine.** Two machines that differ in the
switches for reports only, and in what they have reported and played, give the same answers to
commands that do not depend on those switches. They still differ in nothing else, and have played
the same sounds since. -/
theorem twins_answer_alike (h : Twin Bus.SameBoard a b) {commands : List Command}
    (blind : ∀ command ∈ commands, command.Blind) :
    b.replies commands = a.replies commands ∧
      Twin (Bus.InStep a.core.ports.sounds b.core.ports.sounds) (a.after commands)
        (b.after commands) :=
  h.inStep.after blind

/-- A machine that is switched on with reports is a twin of the one without. -/
theorem twin_new (settings : Settings) (debug : Bool) :
    Twin Bus.SameBoard (new settings) (new { settings with debug }) :=
  ⟨⟨⟨debug, rfl⟩, rfl, rfl⟩, ⟨debug, rfl⟩, rfl, rfl⟩

/-- A coin, three sounds with a reset before the last one, and a read between them. -/
def rehearsal : List Command :=
  [.operate (.setButtons (.single .coin) true), .access (.output 3 0x02), .access (.input 1),
    .access (.output 3 0x06), .operate (.changeCpu Cpu.reset), .operate .reset,
    .access (.output 3 0x02)]

/-- The rehearsal sounds the same with reports and without, and is reported with them only. -/
theorem twins_answer_alike_rehearsal :
    Twin Bus.SameBoard (new {}) (new { debug := true }) ∧
      (∀ command ∈ rehearsal, command.Blind) ∧
      (new { debug := true }).replies rehearsal = (new {}).replies rehearsal ∧
      ((new {}).after rehearsal).core.ports.sounds = [.shot, .playerDies, .shot] ∧
      ((new { debug := true }).after rehearsal).core.ports.sounds = [.shot, .playerDies, .shot] ∧
      ((new {}).after rehearsal).core.ports.journal.size = 3 ∧
      ((new { debug := true }).after rehearsal).core.ports.journal.size = 7 := by
  have twins : Twin Bus.SameBoard (new {}) (new { debug := true }) := twin_new {} true
  have blind : ∀ command ∈ rehearsal, command.Blind := by
    simp [rehearsal, Command.Blind, blind_reset]
  obtain ⟨replies, last⟩ := twins_answer_alike twins blind
  obtain ⟨played, sounds, sounds'⟩ := last.core.ports.sounds
  have heard : ((new {}).after rehearsal).core.ports.sounds = [.shot, .playerDies, .shot] := by
    decide
  refine ⟨twins, blind, replies, heard, ?_, by decide, by decide⟩
  rw [sounds', ← heard, sounds]
  rfl

end Machine

end Arcade
