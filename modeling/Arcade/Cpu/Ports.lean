/-!
# Input and output ports

The processor has 256 ports of each kind and does not know what is behind them.

* `Ports` is what the processor needs of a thing that can be behind its ports;
* `Unconnected` has nothing there; `Script` answers from a list and notes every transfer.
-/

namespace Arcade

/-- Devices behind the ports. -/
class Ports (δ : Type) where
  /-- The byte a port gives, and the devices afterwards. -/
  input : (port : UInt8) → δ → UInt8 × δ
  /-- The devices after a byte was sent to a port. -/
  output : (port value : UInt8) → δ → δ

/-- Nothing behind any port: reads give 0. -/
inductive Unconnected
  | unconnected
  deriving DecidableEq, Repr

instance : Ports Unconnected where
  input _ ports := (0, ports)
  output _ _ ports := ports

/-- One use of a port. -/
inductive Transfer
  | input (port value : UInt8)
  | output (port value : UInt8)
  deriving DecidableEq, Repr

/-- Ports that answer from a list, and with the number of the port once the list is used up. -/
structure Script where
  answers : List UInt8
  transfers : Array Transfer := #[]
  deriving DecidableEq, Repr

/-- The next answer of a script and what is left of it. -/
def Script.answer (s : Script) (port : UInt8) : UInt8 × List UInt8 :=
  match s.answers with
  | [] => (port, [])
  | value :: rest => (value, rest)

instance : Ports Script where
  input port s :=
    let (value, rest) := s.answer port
    (value, { answers := rest, transfers := s.transfers.push (.input port value) })
  output port value s :=
    { s with transfers := s.transfers.push (.output port value) }

end Arcade
