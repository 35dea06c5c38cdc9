/-!
# The frame schedule

When frames are due by the clock on the wall. Times are nanoseconds after some start. Each frame
that is run books the slot of the next one, a frame's duration later; after a long delay the
schedule starts anew and does not catch up.

* `Schedule.poll` asks whether a frame is due, and books the next slot if one is;
* `Schedule.timeUntilDue` is how long nothing is due.
-/

namespace Arcade

/-- The duration of a frame, and the slot that is booked. -/
structure Schedule where
  frame : Nat
  next? : Option Nat := none
  deriving DecidableEq, Repr, Inhabited

namespace Schedule

/-- The nanoseconds of a second. -/
def second : Nat := 1000000000

/-- A schedule for a number of frames in a second; a rate of 0 counts as 1. -/
def ofRate (rate : Nat) : Schedule where
  frame := second / max rate 1

/-- Whether a frame is due, and the schedule afterwards. -/
def poll (s : Schedule) (now : Nat) : Bool × Schedule :=
  match s.next? with
  | none => (true, { s with next? := some (now + s.frame) })
  | some next =>
    if now < next then (false, s)
    else
      let start := if s.frame < now - next then now else next
      (true, { s with next? := some (start + s.frame) })

/-- The time until a frame is due. -/
def timeUntilDue (s : Schedule) (now : Nat) : Nat :=
  match s.next? with
  | none => 0
  | some next => next - now

/-- The longest nap while no frame is due. -/
def longestNap : Nat := 1000000

/-- How long to rest before the next poll. -/
def nap (s : Schedule) (now : Nat) : Nat :=
  min (s.timeUntilDue now) longestNap

/-- A poll is granted exactly when no time is left. -/
theorem poll_fst_eq_true_iff (s : Schedule) (now : Nat) :
    (s.poll now).1 = true ↔ s.timeUntilDue now = 0 := by
  unfold poll timeUntilDue
  cases s.next? with
  | none => simp
  | some next =>
    by_cases h : now < next
    · simp [h]
      omega
    · simp [h]
      omega

end Schedule

end Arcade
