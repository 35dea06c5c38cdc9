/-!
# The controls of the cabinet

Ten buttons, each wired to one bit of one of two input ports, and the set of those held down.

* `Buttons` is a set of buttons, `Buttons.update` presses or releases some of them;
* `Buttons.bits` is what the held buttons put on a port;
* `holds_update`: after an update a named button is as it was told, any other as it was.
-/

namespace Arcade

/-- A control of the cabinet. -/
inductive Button
  | coin
  | p1Start
  | p2Start
  | p1Fire
  | p1Left
  | p1Right
  | p2Fire
  | p2Left
  | p2Right
  | tilt
  deriving DecidableEq, Repr

namespace Button

/-- Every button, in the order of their bits in a set. -/
def all : List Button :=
  [coin, p1Start, p2Start, p1Fire, p1Left, p1Right, p2Fire, p2Left, p2Right, tilt]

/-- The bit of a button in a set. -/
def index : Button → Nat
  | coin => 0
  | p1Start => 1
  | p2Start => 2
  | p1Fire => 3
  | p1Left => 4
  | p1Right => 5
  | p2Fire => 6
  | p2Left => 7
  | p2Right => 8
  | tilt => 9

/-- The name of a button. -/
def name : Button → String
  | coin => "COIN"
  | p1Start => "P1_START"
  | p2Start => "P2_START"
  | p1Fire => "P1_FIRE"
  | p1Left => "P1_LEFT"
  | p1Right => "P1_RIGHT"
  | p2Fire => "P2_FIRE"
  | p2Left => "P2_LEFT"
  | p2Right => "P2_RIGHT"
  | tilt => "TILT"

/-- The button of a name. -/
def ofName? (name : String) : Option Button :=
  all.find? fun button => button.name == name

theorem mem_all (button : Button) : button ∈ all := by
  cases button <;> decide

theorem index_lt (button : Button) : button.index < 10 := by
  cases button <;> decide

theorem index_inj {button other : Button} (h : button.index = other.index) : button = other := by
  cases button <;> cases other <;> simp_all [index]

/-- No two buttons share a name. -/
theorem ofName?_name (button : Button) : ofName? button.name = some button := by
  cases button <;> decide

end Button

/-- The two ports buttons are wired to. -/
inductive ControlPort
  | first
  | second
  deriving DecidableEq, Repr

/-- The port a button is wired to, and its bit there. -/
def Button.wire : Button → ControlPort × Nat
  | coin => (.first, 0)
  | p2Start => (.first, 1)
  | p1Start => (.first, 2)
  | p1Fire => (.first, 4)
  | p1Left => (.first, 5)
  | p1Right => (.first, 6)
  | tilt => (.second, 2)
  | p2Fire => (.second, 4)
  | p2Left => (.second, 5)
  | p2Right => (.second, 6)

/-- A set of buttons, one bit for each. -/
structure Buttons where
  mask : BitVec 10
  deriving DecidableEq, Repr, Inhabited

namespace Buttons

/-- No button. -/
def none : Buttons :=
  ⟨0⟩

/-- One button. -/
def single (button : Button) : Buttons :=
  ⟨BitVec.twoPow 10 button.index⟩

/-- The set with the given bits; bits that stand for no button are dropped. -/
def ofNat (bits : Nat) : Buttons :=
  ⟨BitVec.ofNat 10 bits⟩

/-- The set as a number. -/
def toNat (buttons : Buttons) : Nat :=
  buttons.mask.toNat

/-- Whether a button is in the set. -/
def holds (buttons : Buttons) (button : Button) : Bool :=
  buttons.mask.getLsbD button.index

/-- The buttons of two sets. -/
def union (buttons others : Buttons) : Buttons :=
  ⟨buttons.mask ||| others.mask⟩

/-- The buttons of the first set that are not in the second. -/
def without (buttons others : Buttons) : Buttons :=
  ⟨buttons.mask &&& ~~~others.mask⟩

/-- The buttons held after some of them were pressed or released. -/
def update (held changed : Buttons) (pressed : Bool) : Buttons :=
  if pressed then held.union changed else held.without changed

/-- The set of a list of buttons. -/
def ofList (buttons : List Button) : Buttons :=
  buttons.foldl (fun set button => set.union (single button)) none

/-- The buttons of a set, in the order of their bits. -/
def toList (buttons : Buttons) : List Button :=
  Button.all.filter buttons.holds

/-- The bits the held buttons set on a port. -/
def bits (held : Buttons) (port : ControlPort) : UInt8 :=
  Button.all.foldl
    (fun acc button =>
      if held.holds button && button.wire.1 = port then acc ||| 1 <<< UInt8.ofNat button.wire.2
      else acc)
    0

@[simp]
theorem holds_none (button : Button) : none.holds button = false := by
  simp [holds, none]

@[simp]
theorem holds_single (button other : Button) :
    (single button).holds other = decide (button = other) := by
  have := other.index_lt
  by_cases h : button = other
  · subst h
    simp [holds, single, this]
  · have hne : button.index ≠ other.index := fun e => h (Button.index_inj e)
    simp [holds, single, BitVec.getLsbD_twoPow, h, hne]

theorem holds_update (held changed : Buttons) (pressed : Bool) (button : Button) :
    (held.update changed pressed).holds button =
      if changed.holds button then pressed else held.holds button := by
  have := button.index_lt
  cases pressed <;> cases h : changed.holds button <;>
    simp_all [update, union, without, holds]

end Buttons

end Arcade
