import Arcade.Keyboard
import Arcade.Machine.Frame
import Arcade.Screen

/-!
# A session

A machine in front of a player: with keys and a screen, it can be paused and left.

* `Session.handle` is the effect of a control going down or up. Pressing any button of the cabinet
  resumes a paused game;
* `Session.update` runs a frame unless the game is paused, and draws the picture. A frame that
  fails leaves the screen as it was;
* `Session.window` describes the window the screen is shown in.
-/

namespace Arcade

/-- A machine and what a player has done with it. -/
structure Session where
  machine : Machine
  /-- The size of a pixel in the window. -/
  scale : Nat := 1
  paused : Bool := false
  shouldExit : Bool := false

/-- A window and the picture in it. -/
structure Window where
  width : Nat
  height : Nat
  scale : Nat
  refreshRate : Nat
  title : String
  bytesPerPixel : Nat
  deriving DecidableEq, Repr

namespace Session

/-- A session with a machine; pixels have at least their own size. -/
def new (machine : Machine) (scale : Nat) : Session where
  machine := machine
  scale := max scale 1

/-- A control goes down or up. -/
def handle (s : Session) (control : Control) (down : Bool) : Session :=
  match control with
  | .quit => { s with shouldExit := s.shouldExit || down }
  | .pause => { s with paused := if down then !s.paused else s.paused }
  | .buttons changed =>
    let ⟨machine, scale, paused, shouldExit⟩ := s
    ⟨machine.setButtons changed down, scale, paused && !down, shouldExit⟩

/-- A key goes down or up. -/
def handleKey (s : Session) (key : Key) (down : Bool) : Session :=
  match key.control? with
  | some control => s.handle control down
  | none => s

/-- The picture of a session over whatever was on the screen. -/
def draw (s : Session) (screen : Screen) : Screen :=
  let screen := screen.paint s.machine.videoRam
  if s.paused then screen.drawBanner else screen

/-- A frame, unless the game is paused. -/
def advance (s : Session) : Except FrameFault Unit × Session :=
  if s.paused then
    (.ok (), s)
  else
    let ⟨machine, scale, paused, shouldExit⟩ := s
    let (result, machine) := machine.stepFrame
    (result, ⟨machine, scale, paused, shouldExit⟩)

/-- A frame, unless the game is paused, and its picture. -/
def update (s : Session) (screen : Screen) : Except FrameFault Unit × Session × Screen :=
  match s.advance with
  | (.ok _, s) => (.ok (), s, s.draw screen)
  | (.error fault, s) => (.error fault, s, screen)

/-- The title of the window. -/
def title : String := "Space Invaders"

/-- The window of a session. -/
def window (s : Session) : Window where
  width := Screen.width
  height := Screen.height
  scale := s.scale
  refreshRate := 60
  title := title
  bytesPerPixel := 3

/-- What is reported when a session starts. -/
def greeting : Log.Line :=
  ⟨.info, title ++ " init"⟩

/-- What is reported when a session ends. -/
def farewell (s : Session) : Log.Line :=
  ⟨.info, title ++ " exit after " ++ toString s.machine.frames.toNat ++ " frames"⟩

end Session

end Arcade
