import Arcade.Machine.Frame
import Arcade.Schedule

/-!
# Running by the clock

Frames are run as the clock on the wall allows until somebody asks to stop or enough of them were
run. Clock and request come from outside: a run is a function of what was read of them.

* `Run.poll` is what one reading leads to, `Run.pollAll` what a list of them leads to;
* `Run.poll_of_enough`: a run that is to end does so without another frame.
-/

namespace Arcade.Machine

/-- What is read from outside before a frame. -/
structure Poll where
  /-- Somebody asked to stop. -/
  stop : Bool
  /-- The time. -/
  now : Nat
  deriving DecidableEq, Repr

/-- How a run ends. -/
inductive RunEnd
  /-- It was stopped, or enough frames were run. -/
  | finished
  /-- A frame failed. -/
  | failed (fault : FrameFault)
  deriving DecidableEq, Repr, Inhabited

/-- A machine that is run by the clock. -/
structure Run where
  machine : Machine
  schedule : Schedule
  /-- The number of frames that is enough. -/
  limit? : Option Nat := none
  /-- The frames that were run. -/
  frames : Nat := 0
  deriving Inhabited

namespace Run

/-- A run of a machine at its own rate. -/
def ofMachine (machine : Machine) (limit? : Option Nat) : Run where
  machine := machine
  schedule := .ofRate machine.settings.refreshRate.toNat
  limit? := limit?

/-- Whether a number of frames is enough. -/
def enough (limit? : Option Nat) (frames : Nat) : Bool :=
  match limit? with
  | none => false
  | some limit => limit ≤ frames

/-- One reading: a run that is to end does so, and otherwise a frame is run if one is due. -/
def poll (run : Run) (reading : Poll) : Option RunEnd × Run :=
  let ⟨machine, schedule, limit?, frames⟩ := run
  if reading.stop || enough limit? frames then
    (some .finished, ⟨machine, schedule, limit?, frames⟩)
  else
    match schedule.poll reading.now with
    | (false, schedule) => (none, ⟨machine, schedule, limit?, frames⟩)
    | (true, schedule) =>
      match machine.stepFrame with
      | (.error fault, machine) => (some (.failed fault), ⟨machine, schedule, limit?, frames⟩)
      | (.ok _, machine) => (none, ⟨machine, schedule, limit?, frames + 1⟩)

/-- Readings up to the one the run ends with. -/
def pollAll (run : Run) : List Poll → Option RunEnd × Run
  | [] => (none, run)
  | reading :: readings =>
    match run.poll reading with
    | (some ended, run) => (some ended, run)
    | (none, run) => run.pollAll readings

/-- What is reported when a run has come to its end. -/
def farewell (run : Run) : Log.Line :=
  ⟨.info, "Ran " ++ toString run.frames ++ " frames headless"⟩

theorem poll_of_enough {run : Run} {reading : Poll}
    (h : reading.stop || enough run.limit? run.frames) :
    run.poll reading = (some .finished, run) := by
  unfold poll
  simp only [h, if_true]

end Run

end Arcade.Machine
