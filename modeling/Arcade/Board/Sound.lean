/-!
# Sounds

Nine effects on two output ports, one bit each. An effect starts when its bit becomes 1 and was 0
in the byte before; a bit that stays 1 starts nothing.

* `SoundBank.effects` is the wiring of a port, lowest bit first;
* `SoundLatches.write` latches a byte and lists the effects it starts.
-/

namespace Arcade

/-- An effect the cabinet can play. -/
inductive SoundEffect
  | ufo
  | shot
  | playerDies
  | invaderDies
  | fleet1
  | fleet2
  | fleet3
  | fleet4
  | ufoHit
  deriving DecidableEq, Repr

namespace SoundEffect

/-- Every effect. -/
def all : List SoundEffect :=
  [ufo, shot, playerDies, invaderDies, fleet1, fleet2, fleet3, fleet4, ufoHit]

/-- The name of an effect. -/
def name : SoundEffect → String
  | ufo => "Ufo"
  | shot => "Shot"
  | playerDies => "PlayerDies"
  | invaderDies => "InvaderDies"
  | fleet1 => "Fleet1"
  | fleet2 => "Fleet2"
  | fleet3 => "Fleet3"
  | fleet4 => "Fleet4"
  | ufoHit => "UfoHit"

end SoundEffect

/-- One of the two ports effects are wired to. -/
inductive SoundBank
  | first
  | second
  deriving DecidableEq, Repr

/-- The effects of a port's bits, lowest bit first; higher bits start nothing. -/
def SoundBank.effects : SoundBank → List SoundEffect
  | first => [.ufo, .shot, .playerDies, .invaderDies]
  | second => [.fleet1, .fleet2, .fleet3, .fleet4, .ufoHit]

/-- The last byte sent to each port. -/
structure SoundLatches where
  first : UInt8 := 0
  second : UInt8 := 0
  deriving DecidableEq, Repr, Inhabited

namespace SoundLatches

/-- The byte latched for a port. -/
def value (latches : SoundLatches) : SoundBank → UInt8
  | .first => latches.first
  | .second => latches.second

/-- The latches with a byte latched for a port. -/
def set (latches : SoundLatches) (bank : SoundBank) (value : UInt8) : SoundLatches :=
  match bank with
  | .first => { latches with first := value }
  | .second => { latches with second := value }

/-- The effects of a list whose bits are set, the first one having the lowest bit. -/
def started (effects : List SoundEffect) (rising : UInt8) : List SoundEffect :=
  match effects with
  | [] => []
  | effect :: rest =>
    if rising &&& 1 = 1 then effect :: started rest (rising >>> 1) else started rest (rising >>> 1)

/-- The latches after a byte was sent to a port, and the effects whose bits rose. -/
def write (latches : SoundLatches) (bank : SoundBank) (value : UInt8) :
    SoundLatches × List SoundEffect :=
  (latches.set bank value, started bank.effects (value &&& ~~~latches.value bank))

end SoundLatches

end Arcade
