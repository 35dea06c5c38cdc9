import Arcade.Board
import Arcade.Core.Trace

/-!
# The bus

The board as the processor sees it through its ports, with a journal of what there is to report:
the transfers, the effects that start, and what the machine around it adds.

* `Event` is an entry of the journal, `Event.log` its log line;
* `Bus.sounds` is the part of the journal there is something to hear of.
-/

namespace Arcade

/-- Something to report. -/
inductive Event
  /-- An instruction is about to be executed. -/
  | executing (line : TraceLine)
  | portRead (port value : UInt8)
  | portWritten (port value : UInt8)
  | unmappedRead (port : UInt8)
  | unmappedWrite (port : UInt8)
  | sound (effect : SoundEffect)
  /-- The processor did not accept an interrupt. -/
  | interruptDropped (vector : UInt16)
  deriving DecidableEq, Repr

namespace Event

/-- An entry as a log line. -/
def log : Event → Log.Line
  | executing line => line.log
  | portRead port value => ⟨.debug, "IN 0x" ++ Hex.byte port ++ " -> 0x" ++ Hex.byte value⟩
  | portWritten port value => ⟨.debug, "OUT 0x" ++ Hex.byte port ++ " <- 0x" ++ Hex.byte value⟩
  | unmappedRead port => ⟨.debug, "IN from unmapped port 0x" ++ Hex.byte port⟩
  | unmappedWrite port => ⟨.debug, "OUT to unmapped port 0x" ++ Hex.byte port⟩
  | sound effect => ⟨.debug, "sound " ++ effect.name⟩
  | interruptDropped vector =>
    ⟨.trace, "interrupt 0x" ++ Hex.atLeast 2 vector.toNat ++ " dropped, interrupts disabled"⟩

/-- The effect an entry tells of. -/
def effect? : Event → Option SoundEffect
  | sound effect => some effect
  | _ => none

end Event

/-- The board behind the ports, and the journal. -/
structure Bus where
  board : Board := {}
  /-- Transfers are entered in the journal. -/
  traced : Bool := false
  journal : Array Event := #[]
  deriving DecidableEq, Repr, Inhabited

namespace Bus

/-- The bus with an entry added to its journal. -/
def note (bus : Bus) (event : Event) : Bus :=
  { bus with journal := bus.journal.push event }

/-- The bus with an entry added if transfers are traced. -/
def noteTransfer (bus : Bus) (event : Event) : Bus :=
  if bus.traced then bus.note event else bus

/-- The byte a port gives; nothing but the journal changes. -/
def input (bus : Bus) (port : UInt8) : UInt8 × Bus :=
  let value := bus.board.read port
  let bus := if (InputPort.ofNumber? port).isNone then bus.note (.unmappedRead port) else bus
  (value, bus.noteTransfer (.portRead port value))

/-- The bus after a byte was sent to a port: the transfer is entered first, then its effects. -/
def output (bus : Bus) (port value : UInt8) : Bus :=
  let { board, traced, journal } := bus.noteTransfer (.portWritten port value)
  let (board, effects) := board.write port value
  let journal := effects.foldl (fun journal effect => journal.push (.sound effect)) journal
  let bus : Bus := { board, traced, journal }
  if (OutputPort.ofNumber? port).isNone then bus.note (.unmappedWrite port) else bus

instance : Ports Bus where
  input port bus := bus.input port
  output port value bus := bus.output port value

/-- The effects that were started, in order. -/
def sounds (bus : Bus) : List SoundEffect :=
  bus.journal.toList.filterMap Event.effect?

/-- The log lines of the journal. -/
def log (bus : Bus) : List Log.Line :=
  bus.journal.toList.map Event.log

end Bus

end Arcade
