/-!
# The switches of the operator

Three settings inside the cabinet, which the game reads on the second control port.

* `DipSwitches.bits` is what they put on the port;
* `DipSwitches.shownShips` is the number of ships the port can tell, from three to six.
-/

namespace Arcade

/-- The settings of the operator. -/
structure DipSwitches where
  /-- Ships in a game. -/
  ships : UInt8 := 3
  /-- The extra ship comes at 1000 points and not at 1500. -/
  bonusAt1000 : Bool := false
  /-- The price of a game is shown while nobody plays. -/
  coinInfo : Bool := true
  deriving DecidableEq, Repr, Inhabited

namespace DipSwitches

/-- The ships of a game as the switches can show them: at least three and at most six. -/
def shownShips (dips : DipSwitches) : UInt8 :=
  if dips.ships < 3 then 3 else if 6 < dips.ships then 6 else dips.ships

theorem three_le_shownShips (dips : DipSwitches) : 3 ≤ dips.shownShips := by
  unfold shownShips
  split
  · decide
  · split
    · decide
    · exact UInt8.not_lt.mp ‹_›

/-- Ships less three in the two lowest bits, the bonus in bit 3, hidden prices in bit 7. -/
def bits (dips : DipSwitches) : UInt8 :=
  (dips.shownShips - 3) ||| (if dips.bonusAt1000 then 0x08 else 0) |||
    (if dips.coinInfo then 0 else 0x80)

end DipSwitches

end Arcade
