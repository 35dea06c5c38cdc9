import Arcade.Machine

/-!
# One frame

A frame is half its cycles, the interrupt in the middle of the picture, the rest of the cycles and
the interrupt at the end of the picture. A part ends after the first instruction that reaches its
number of cycles, or when the processor halts. The cycles are counted in 32 bits: a count that goes
beyond them begins again at zero, and may come to the number of cycles later or never.

* `Core.countedStep` is one turn of a part of a frame, and `Core.runUntil?` the recursion, without a
  result where it has no end;
* `Core.runUntil` is a part of a frame, with that as one more reason why it is not finished;
* `Machine.stepFrame` is the frame. Where it fails, the machine is left as the last instruction
  left it.
-/

namespace Arcade

/-- Why a frame was not finished. -/
inductive FrameFault
  /-- The processor refused an instruction. -/
  | refused (fault : Fault)
  /-- The frame has no end: its count wraps around below the number of cycles for ever. Nothing
  comes after such a frame, and nobody is told of it. -/
  | endless
  deriving DecidableEq, Repr

/-- What is said of a frame that was not finished, if anything is. -/
def FrameFault.message? : FrameFault → Option String
  | refused fault => some fault.message
  | endless => none

namespace Core

/-- The core with the next instruction reported, if it is to be. -/
def report (core : Core Bus) : Core Bus :=
  match core.traceLine? with
  | some line => { core with ports := core.ports.note (.executing line) }
  | none => core

theorem cpu_report (core : Core Bus) : core.report.cpu = core.cpu := by
  unfold report
  cases core.traceLine? <;> rfl

/-- One turn of a part of a frame: the count and the core it goes on with, or what the part comes to
and the core it leaves. The count wraps around at 2^32. -/
@[inline]
def countedStep (target ran : Nat) (core : Core Bus) :
    Nat × Core Bus ⊕ Except Fault Nat × Core Bus :=
  if ran < target ∧ core.cpu.halted = false then
    match core.report.step with
    | (.error fault, after) => .inr (.error fault, after)
    | (.ok cycles, after) => .inl ((ran + cycles) % 0x100000000, after)
  else
    .inr (.ok ran, core)

section

variable (target : Nat)

/-- Turns until one comes to something: the count of cycles, `ran` at first, or why an instruction
was refused. If the count never comes to the target, and the processor neither halts nor refuses an
instruction, there is no result. -/
def runUntil? (ran : Nat) (core : Core Bus) : Option (Except Fault Nat × Core Bus) :=
  match core.countedStep target ran with
  | .inl next => runUntil?.uncurry next
  | .inr outcome => some outcome
partial_fixpoint monotonicity by
  -- only a turn that goes on uses the recursion
  intro rest rest' below ran core
  dsimp only
  split
  · exact below _ _
  · exact .refl

end

/-- A part of a frame. What has no end leaves nothing behind; as its outcome stands the core it
began with. -/
def runUntil (target ran : Nat) (core : Core Bus) : Except FrameFault Nat × Core Bus :=
  match core.runUntil? target ran with
  | some (result, after) => (result.mapError .refused, after)
  | none => (.error .endless, core)

/-- An interrupt request, reported if it is dropped. -/
def request (core : Core Bus) (interrupt : FrameInterrupt) : Core Bus :=
  match core.interrupt interrupt.vector with
  | (true, core) => core
  | (false, core) => { core with ports := core.ports.note (.interruptDropped interrupt.vector) }

end Core

namespace Machine

/-- The next interrupt is requested, and the other one is next. -/
def raiseInterrupt (m : Machine) : Machine :=
  let ⟨core, settings, nextInterrupt, frames⟩ := m
  ⟨core.request nextInterrupt, settings, nextInterrupt.other, frames⟩

/-- A part of a frame. -/
def runUntil (target ran : Nat) (m : Machine) : Except FrameFault Nat × Machine :=
  let ⟨core, settings, nextInterrupt, frames⟩ := m
  let (result, core) := core.runUntil target ran
  (result, ⟨core, settings, nextInterrupt, frames⟩)

/-- One frame. -/
def stepFrame (m : Machine) : Except FrameFault Unit × Machine :=
  let budget := m.settings.cyclesPerFrame.toNat
  match m.runUntil (budget / 2) 0 with
  | (.error fault, m) => (.error fault, m)
  | (.ok ran, m) =>
    match m.raiseInterrupt.runUntil budget ran with
    | (.error fault, m) => (.error fault, m)
    | (.ok _, m) =>
      let m := m.raiseInterrupt
      (.ok (), { m with frames := m.frames + 1 })

/-- A number of frames, up to the first one that fails. -/
def stepFrames : (count : Nat) → Machine → Except FrameFault Unit × Machine
  | 0, m => (.ok (), m)
  | count + 1, m =>
    match m.stepFrame with
    | (.error fault, m) => (.error fault, m)
    | (.ok _, m) => stepFrames count m

end Machine

end Arcade
