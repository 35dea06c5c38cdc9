import Arcade.Board.DipSwitches

/-!
# Settings

What is chosen when a machine is built.

* `Settings.cyclesPerFrame` is the share of the processor's clock that one picture gets.
-/

namespace Arcade

/-- The choices a machine is built with. -/
structure Settings where
  /-- Processor cycles in a second. -/
  clockSpeed : UInt32 := 2000000
  /-- Pictures in a second; there are two interrupts in each. -/
  refreshRate : UInt32 := 60
  dips : DipSwitches := {}
  /-- Instructions and transfers are reported. -/
  debug : Bool := false
  /-- Undocumented instructions are refused. -/
  strict : Bool := true
  deriving DecidableEq, Repr, Inhabited

/-- The cycles of one picture; a rate of 0 counts as one picture in a second. -/
def Settings.cyclesPerFrame (settings : Settings) : UInt32 :=
  if settings.refreshRate = 0 then settings.clockSpeed
  else settings.clockSpeed / settings.refreshRate

end Arcade
