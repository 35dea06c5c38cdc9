import Arcade.Proofs.Board.Inputs
import Arcade.Proofs.Machine.Command

/-! # Inputs of a machine

Whatever a machine was told and whatever its program did, the control ports show the buttons as they
were told last, and the switches as they were set at the start.

* `Command.told?`, `Command.held`: what a command tells of a button, and what commands come to;
* `Board.controls`: the buttons and switches of a board, which the program cannot change
  (`controls_write`, `Bus.controls_access`);
* `controls_obey_of_other`: of all commands only one changes them;
* `dips_after`, `holds_after`: the switches and the buttons after commands;
* `inputs_show_what_was_told`: **inputs are never lost or crossed**. -/

namespace Arcade

namespace Command

/-- What a command tells of a button. -/
def told? (button : Button) : Command → Option Bool
  | .operate (.setButtons changed pressed) =>
    if changed.holds button then some pressed else none
  | _ => none

/-- Whether commands leave a button held: the last one that names it decides, and a button that none
of them names is released. -/
def held (commands : List Command) (button : Button) : Bool :=
  (commands.filterMap (told? button)).getLastD false

theorem held_concat (commands : List Command) (command : Command) (button : Button) :
    held (commands ++ [command]) button = (command.told? button).getD (held commands button) := by
  rw [held, List.filterMap_append]
  cases told : command.told? button with
  | none => simp [held, told]
  | some pressed => simp [told]

end Command

/-! ### What changes the controls -/

/-- The switches and the buttons of a board. -/
def Board.controls (board : Board) : DipSwitches × Buttons :=
  (board.dips, board.buttons)

theorem Board.controls_write (board : Board) (n value : UInt8) :
    (board.write n value).1.controls = board.controls := by
  rcases board.write_cases n value with ⟨port, -, sent⟩ | ⟨-, ignored⟩
  · rw [sent]
    cases port <;> rfl
  · rw [ignored]

theorem Bus.controls_access (bus : Bus) (access : Bus.Access) :
    (bus.access access).board.controls = bus.board.controls := by
  cases access with
  | input port => rw [Bus.access, Bus.board_input]
  | output port value => rw [Bus.access, Bus.board_output, Board.controls_write]

namespace Core

/-- **The accumulator after IN**: what the port shows. -/
theorem tick_of_input {core : Core Bus} {port : UInt8} (running : core.cpu.halted = false)
    (fetched : core.fetch = 0xdb) (operand : core.memory.read (core.cpu.pc + 1) = port) :
    ∃ after, core.tick = (.ok 10, after) ∧ after.cpu.a = core.ports.board.read port := by
  refine ⟨_, tick_of_fetch running fetched rfl, ?_⟩
  have shown : (Ports.input (core.memory.read (core.cpu.pc + 1)) core.report.ports).1 =
      core.ports.board.read port := by
    rw [operand, ← core.report_alike.board]
    rfl
  exact shown

end Core

namespace Machine

/-- **Of all commands only `setButtons` changes the controls.** -/
theorem controls_obey_of_other (m : Machine) {command : Command}
    (h : ∀ changed pressed, command ≠ .operate (.setButtons changed pressed)) :
    (m.obey command).board.controls = m.board.controls := by
  refine kept_of_bus (P := fun bus => bus.board.controls = m.board.controls) ?_ ?_ rfl ?_ rfl
  · intro bus event kept
    exact kept
  · intro bus access kept
    exact (bus.controls_access access).trans kept
  · intro changed pressed same
    exact absurd same (h changed pressed)

theorem dips_obey (m : Machine) (command : Command) :
    (m.obey command).board.dips = m.board.dips := by
  by_cases other : ∀ changed pressed, command ≠ .operate (.setButtons changed pressed)
  · exact congrArg Prod.fst (m.controls_obey_of_other other)
  · push Not at other
    obtain ⟨changed, pressed, rfl⟩ := other
    rfl

theorem holds_obey (m : Machine) (command : Command) (button : Button) :
    (m.obey command).board.buttons.holds button =
      (command.told? button).getD (m.board.buttons.holds button) := by
  by_cases other : ∀ changed pressed, command ≠ .operate (.setButtons changed pressed)
  · have same : (m.obey command).board.buttons = m.board.buttons :=
      congrArg Prod.snd (m.controls_obey_of_other other)
    have silent : command.told? button = none := by
      unfold Command.told?
      split
      · exact absurd rfl (other _ _)
      · rfl
    rw [same, silent]
    rfl
  · push Not at other
    obtain ⟨changed, pressed, rfl⟩ := other
    have held : (m.obey (.operate (.setButtons changed pressed))).board.buttons =
        m.board.buttons.update changed pressed := rfl
    rw [held, Buttons.holds_update, Command.told?]
    split_ifs <;> rfl

/-! ### After commands -/

theorem dips_after (m : Machine) (commands : List Command) :
    (m.after commands).board.dips = m.board.dips :=
  after_of_kept (P := fun last _ => last.board.dips = m.board.dips) rfl
    (fun last _ command kept => (last.dips_obey command).trans kept) commands

/-- **The buttons are held as they were told last.** -/
theorem holds_after (settings : Settings) (commands : List Command) (button : Button) :
    ((new settings).after commands).board.buttons.holds button = Command.held commands button := by
  have released : (new settings).board.buttons.holds button = false := Buttons.holds_none button
  refine after_of_kept
    (P := fun last commands => last.board.buttons.holds button = Command.held commands button)
    released (fun last commands command kept => ?_) commands
  rw [holds_obey, Command.held_concat, kept]

/-- What a control port shows. -/
def shown (m : Machine) (port : ControlPort) : UInt8 :=
  m.board.read port.number

theorem shown_eq (m : Machine) : m.shown = m.board.controlByte :=
  funext m.board.read_number

theorem inputsShow_after (settings : Settings) (commands : List Command) :
    InputsShow settings.dips (Command.held commands) ((new settings).after commands).shown := by
  have shows := ((new settings).after commands).board.inputsShow
  have held : ((new settings).after commands).board.buttons.holds = Command.held commands :=
    funext (holds_after settings commands)
  rw [dips_after, held] at shows
  rw [shown_eq]
  exact shows

/-- **Inputs are never lost or crossed.** Whatever a machine was told and did, its two control ports
show each button as it was told last, and the switches as they were set; no two buttons share a bit.
That is what the program reads there, also in the midst of a frame, which is instructions and
interrupt requests. The two bytes are the same for another machine with another past exactly if the
same buttons are held and the switches are set alike, as far as ships are shown. A button that is
pressed or released changes its own bit only, and a reset changes no bit. -/
theorem inputs_show_what_was_told (settings : Settings) (commands : List Command) :
    let m := (new settings).after commands
    InputsShow settings.dips (Command.held commands) m.shown ∧
      Function.Injective Button.wire ∧
      (∀ port, m.reply (.access (.input port.number)) = .read (m.shown port)) ∧
      (∀ port : ControlPort, m.cpu.halted = false → m.core.fetch = 0xdb →
        m.memory.read (m.cpu.pc + 1) = port.number →
        ∃ after, m.core.tick = (.ok 10, after) ∧ after.cpu.a = m.shown port) ∧
      (∃ parts : List Command, (∀ part ∈ parts, part.OfFrame) ∧
        m.stepFrame.2.core = (m.after parts).core) ∧
      (∀ settings' commands',
        (∀ port, m.shown port = ((new settings').after commands').shown port) ↔
          (∀ button, Command.held commands button = Command.held commands' button) ∧
            max 3 (min settings.dips.ships.toNat 6) = max 3 (min settings'.dips.ships.toNat 6) ∧
            settings.dips.bonusAt1000 = settings'.dips.bonusAt1000 ∧
            settings.dips.coinInfo = settings'.dips.coinInfo) ∧
      (∀ (changed : Buttons) pressed port bit,
        (∀ button, changed.holds button = true → button.wire ≠ (port, bit)) →
        ((m.setButtons changed pressed).shown port).toNat.testBit bit =
          (m.shown port).toNat.testBit bit) ∧
      m.reset.shown = m.shown := by
  intro m
  have shows := inputsShow_after settings commands
  refine ⟨shows, fun _ _ => Button.wire_inj, fun _ => rfl, fun port running fetched operand => ?_,
    m.byParts_stepFrame, fun settings' commands' => ?_, fun changed pressed port bit unnamed => ?_,
    ?_⟩
  · exact Core.tick_of_input running fetched operand
  · exact shows.eq_iff (inputsShow_after settings' commands')
  · rw [shown_eq, shown_eq]
    exact m.board.testBit_controlByte_update changed pressed unnamed
  · rw [shown_eq, shown_eq]
    funext port
    cases port <;> rfl

/-- Two buttons are pressed and one of them is released behind a reset; nine ships count as six. -/
example : ((new { dips := { ships := 9 } }).after
    [.operate (.setButtons (.ofList [.coin, .tilt]) true), .operate .reset,
      .operate (.setButtons (.single .coin) false)]).shown .second = 0x07 := by
  decide

end Machine

end Arcade
