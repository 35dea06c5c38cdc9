import Arcade.Bus
import Arcade.Settings

/-!
# The machine

The board with its processor and memory, and what a frame needs to know: which interrupt comes
next and how many frames were run.

* `Machine.new` is a machine as it is switched on, with empty memory;
* `Machine.reset` restarts the processor and the devices and keeps the memory;
* `Machine.videoRam` is the part of the memory the picture is made of.
-/

namespace Arcade

/-- The two interrupts of a frame. -/
inductive FrameInterrupt
  | midFrame
  | verticalBlank
  deriving DecidableEq, Repr, Inhabited

namespace FrameInterrupt

/-- The address an interrupt calls. -/
def vector : FrameInterrupt → UInt16
  | midFrame => 0x0008
  | verticalBlank => 0x0010

/-- The interrupt that follows. -/
def other : FrameInterrupt → FrameInterrupt
  | midFrame => verticalBlank
  | verticalBlank => midFrame

@[simp]
theorem other_other (i : FrameInterrupt) : i.other.other = i := by
  cases i <;> rfl

end FrameInterrupt

/-- A machine. -/
structure Machine where
  core : Core Bus
  settings : Settings := {}
  nextInterrupt : FrameInterrupt := .midFrame
  /-- The frames run since the last reset. -/
  frames : UInt64 := 0

namespace Machine

/-- A machine with the given settings and 64 KiB of zeros. -/
def new (settings : Settings) : Machine where
  core := {
    cpu := { strict := settings.strict, trace := settings.debug }
    memory := .full
    ports := { board := { dips := settings.dips }, traced := settings.debug } }
  settings := settings

instance : Inhabited Machine := ⟨new {}⟩

/-- The processor. -/
def cpu (m : Machine) : Cpu :=
  m.core.cpu

/-- The memory. -/
def memory (m : Machine) : Memory :=
  m.core.memory

/-- The devices. -/
def board (m : Machine) : Board :=
  m.core.ports.board

/-- The machine with its core changed. -/
def mapCore (f : Core Bus → Core Bus) (m : Machine) : Machine :=
  let ⟨core, settings, nextInterrupt, frames⟩ := m
  ⟨f core, settings, nextInterrupt, frames⟩

/-- The machine with its devices changed. -/
def mapBoard (f : Board → Board) (m : Machine) : Machine :=
  m.mapCore fun ⟨cpu, memory, ports⟩ => ⟨cpu, memory, { ports with board := f ports.board }⟩

/-- Some buttons are pressed or released. -/
def setButtons (m : Machine) (changed : Buttons) (pressed : Bool) : Machine :=
  m.mapBoard fun board => { board with buttons := board.buttons.update changed pressed }

/-- A program image is placed at address 0, and the program counter with it. -/
def loadRom (m : Machine) (image : Array UInt8) : Except Memory.OutOfBounds Machine :=
  (m.memory.load 0 image).map fun memory =>
    m.mapCore fun core => { core with memory, cpu := { core.cpu with pc := 0 } }

/-- The processor and the devices start again; memory and held buttons stay. -/
def reset (m : Machine) : Machine :=
  let m := m.mapBoard Board.reset
  { m.mapCore (Core.mapCpu Cpu.reset) with nextInterrupt := .midFrame, frames := 0 }

/-- Where the picture starts in memory. -/
def videoStart : Nat := 0x2400

/-- The bytes of the picture: 32 for each of 224 columns. -/
def videoSize : Nat := 0x1c00

/-- The bytes the picture is made of. -/
def videoRam (m : Machine) : Array UInt8 :=
  m.memory.slice videoStart videoSize

theorem size_videoRam (m : Machine) : m.videoRam.size = videoSize := by
  have h : m.memory.bytes.size = 0x4000 ∨ m.memory.bytes.size = 0x8000 ∨
      m.memory.bytes.size = 0x10000 := m.memory.accepted
  simp only [videoRam, Memory.slice, Array.size_extract, videoStart, videoSize]
  omega

/-- What there is to report, and the machine with an empty journal. -/
def takeJournal (m : Machine) : Array Event × Machine :=
  let ⟨⟨cpu, memory, ⟨board, traced, journal⟩⟩, settings, nextInterrupt, frames⟩ := m
  (journal, ⟨⟨cpu, memory, ⟨board, traced, #[]⟩⟩, settings, nextInterrupt, frames⟩)

end Machine

end Arcade
