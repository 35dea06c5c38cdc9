import Arcade.Board.Buttons
import Arcade.Board.DipSwitches
import Arcade.Board.Shifter
import Arcade.Board.Sound

/-!
# The board

The devices behind the ports: the controls and switches, the shifter, the sound latches and the
watchdog.

* `InputPort.ofNumber?`, `OutputPort.ofNumber?` say which ports have a device;
* `Board.read` is what a port shows. Reading changes nothing;
* `Board.write` sends a byte to a port, and lists the effects that start.
-/

namespace Arcade

/-- The ports the game can read. -/
inductive InputPort
  /-- Wired on the board, and always 0. -/
  | spare
  | controls (port : ControlPort)
  | shifter
  deriving DecidableEq, Repr

/-- The input port of a number. -/
def InputPort.ofNumber? (number : UInt8) : Option InputPort :=
  match number.toNat with
  | 0 => some spare
  | 1 => some (controls .first)
  | 2 => some (controls .second)
  | 3 => some shifter
  | _ => none

/-- The ports the game can write. -/
inductive OutputPort
  | shiftOffset
  | shiftData
  | sound (bank : SoundBank)
  | watchdog
  deriving DecidableEq, Repr

/-- The output port of a number. -/
def OutputPort.ofNumber? (number : UInt8) : Option OutputPort :=
  match number.toNat with
  | 2 => some shiftOffset
  | 3 => some (sound .first)
  | 4 => some shiftData
  | 5 => some (sound .second)
  | 6 => some watchdog
  | _ => none

/-- The devices of the board. -/
structure Board where
  dips : DipSwitches := {}
  buttons : Buttons := .none
  shifter : Shifter := {}
  sound : SoundLatches := {}
  watchdog : UInt8 := 0
  deriving DecidableEq, Repr, Inhabited

namespace Board

/-- Every device as it is switched on; buttons stay held. -/
def reset (board : Board) : Board :=
  { dips := board.dips, buttons := board.buttons }

/-- What a control port shows. Bit 3 of the first one is tied high, and the second one shows the
switches of the operator too. -/
def controlByte (board : Board) : ControlPort → UInt8
  | .first => 0x08 ||| board.buttons.bits .first
  | .second => board.dips.bits ||| board.buttons.bits .second

/-- What a port shows. -/
def shown (board : Board) : InputPort → UInt8
  | .spare => 0
  | .controls port => board.controlByte port
  | .shifter => board.shifter.result

/-- What is read from a numbered port: 0 where there is none. -/
def read (board : Board) (number : UInt8) : UInt8 :=
  match InputPort.ofNumber? number with
  | some port => board.shown port
  | none => 0

/-- The board after a byte was sent to a port, and the effects it starts. -/
def send (board : Board) (port : OutputPort) (value : UInt8) : Board × List SoundEffect :=
  match port with
  | .shiftOffset => ({ board with shifter := board.shifter.setOffset value }, [])
  | .shiftData => ({ board with shifter := board.shifter.push value }, [])
  | .sound bank =>
    let (sound, effects) := board.sound.write bank value
    ({ board with sound }, effects)
  | .watchdog => ({ board with watchdog := value }, [])

/-- The board after a byte was sent to a numbered port, and the effects it starts; nothing happens
where there is no port. -/
def write (board : Board) (number value : UInt8) : Board × List SoundEffect :=
  match OutputPort.ofNumber? number with
  | some port => board.send port value
  | none => (board, [])

end Board

end Arcade
