import Arcade.Machine.Run
import Arcade.Proofs.Machine.Standstill

/-! # Runs by the clock

A run polls its schedule with what it reads of the clock, and looks at the stop flag before that.
The readings decide when a frame is run and when the run ends. What a frame does they do not decide:
the machine of a run is always the one that its number of frames leads to.

* `stepFrames_eq_ok_iff`, `stepFrames_eq_error_iff`: frames in a row are the first one and,
  if it succeeds, the others; `stepFrames_succ`: one frame more, at the end;
* `frames_of_stepFrames`: the machine counts its frames;
* `Run.poll_cases`: what one reading comes to;
* `Run.pollAll_eq_some`: a run that ends does so at one of its readings, after others that let it go
  on;
* `Run.Paces`: a run whose machine is a number of frames further, kept by each reading that lets the
  run go on (`Run.Paces.poll`) and so by all of them (`Run.Paces.pollAll`);
* `paces_frames`: **what a run ends with depends on the number of its frames only**. -/

namespace Arcade.Machine

/-! ### Frames in a row -/

theorem stepFrames_of_ok {m mid : Machine} (first : m.stepFrame = (.ok (), mid)) (count : Nat) :
    m.stepFrames (count + 1) = mid.stepFrames count := by
  rw [stepFrames, first]

theorem stepFrames_of_error {m mid : Machine} {fault : FrameFault}
    (first : m.stepFrame = (.error fault, mid)) (count : Nat) :
    m.stepFrames (count + 1) = (.error fault, mid) := by
  rw [stepFrames, first]

theorem stepFrames_eq_ok_iff {m after : Machine} {count : Nat} :
    m.stepFrames (count + 1) = (.ok (), after) ↔
      ∃ mid, m.stepFrame = (.ok (), mid) ∧ mid.stepFrames count = (.ok (), after) := by
  cases first : m.stepFrame with
  | mk result mid =>
    cases result with
    | error fault => simp [stepFrames_of_error first]
    | ok _ => simp [stepFrames_of_ok first]

theorem stepFrames_eq_error_iff {m after : Machine} {count : Nat} {fault : FrameFault} :
    m.stepFrames (count + 1) = (.error fault, after) ↔
      m.stepFrame = (.error fault, after) ∨
        ∃ mid, m.stepFrame = (.ok (), mid) ∧ mid.stepFrames count = (.error fault, after) := by
  cases first : m.stepFrame with
  | mk result mid =>
    cases result with
    | error fault => simp [stepFrames_of_error first]
    | ok _ => simp [stepFrames_of_ok first]

/-- **One frame more, at the end**, after a number of frames that succeed. -/
theorem stepFrames_succ {m mid : Machine} {count : Nat} (h : m.stepFrames count = (.ok (), mid)) :
    m.stepFrames (count + 1) = mid.stepFrame := by
  induction count generalizing m with
  | zero =>
    cases h
    cases first : mid.stepFrame with
    | mk result after =>
      cases result with
      | error fault => exact stepFrames_of_error first 0
      | ok _ => exact stepFrames_of_ok first 0
  | succ count ih =>
    obtain ⟨next, first, rest⟩ := stepFrames_eq_ok_iff.mp h
    rw [stepFrames_of_ok first, ih rest]

/-- A frame that succeeds is counted, and one that fails is not. -/
theorem frames_stepFrame (m : Machine) :
    m.stepFrame.2.frames = if m.stepFrame.1.isOk then m.frames + 1 else m.frames := by
  match first : m.core.runUntil (m.budget / 2) 0 with
  | (.error fault, last) => rw [stepFrame_of_early first]; rfl
  | (.ok ran, mid) =>
    match second : (mid.request m.nextInterrupt).runUntil m.budget ran with
    | (.error fault, last) => rw [stepFrame_of_late first second]; rfl
    | (.ok total, last) => rw [stepFrame_of_parts first second]; rfl

theorem frames_of_ok {m after : Machine} (h : m.stepFrame = (.ok (), after)) :
    after.frames = m.frames + 1 := by
  have counted := m.frames_stepFrame
  rw [h] at counted
  exact counted

theorem frames_of_error {m after : Machine} {fault : FrameFault}
    (h : m.stepFrame = (.error fault, after)) : after.frames = m.frames := by
  have counted := m.frames_stepFrame
  rw [h] at counted
  exact counted

/-- A machine counts the frames it runs. -/
theorem frames_of_stepFrames {m after : Machine} {count : Nat}
    (h : m.stepFrames count = (.ok (), after)) :
    after.frames = m.frames + UInt64.ofNat count := by
  induction count generalizing m with
  | zero =>
    cases h
    exact (UInt64.add_zero _).symm
  | succ count ih =>
    obtain ⟨mid, first, rest⟩ := stepFrames_eq_ok_iff.mp h
    rw [ih rest, frames_of_ok first, UInt64.add_assoc, UInt64.add_comm 1, UInt64.ofNat_add]
    rfl

/-! ### Readings -/

namespace Run

theorem enough_eq_true_iff {limit? : Option Nat} {frames : Nat} :
    enough limit? frames = true ↔ ∃ limit, limit? = some limit ∧ limit ≤ frames := by
  cases limit? with
  | none => simp [enough]
  | some limit => simp [enough]

/-- **What a reading comes to**: the run ends, or waits, or runs a frame, which succeeds or
fails. -/
theorem poll_cases (run : Run) (reading : Poll) :
    ((reading.stop = true ∨ enough run.limit? run.frames = true) ∧
      run.poll reading = (some .finished, run)) ∨
    enough run.limit? run.frames = false ∧ ∃ schedule,
      run.poll reading = (none, { run with schedule }) ∨
      (∃ machine, run.machine.stepFrame = (.ok (), machine) ∧
        run.poll reading = (none, ⟨machine, schedule, run.limit?, run.frames + 1⟩)) ∨
      ∃ fault machine, run.machine.stepFrame = (.error fault, machine) ∧
        run.poll reading = (some (.failed fault), ⟨machine, schedule, run.limit?, run.frames⟩) := by
  by_cases ends : (reading.stop || enough run.limit? run.frames) = true
  · rw [Bool.or_eq_true] at ends
    exact Or.inl ⟨ends, poll_of_enough (by rw [Bool.or_eq_true]; exact ends)⟩
  · obtain ⟨-, short⟩ := Bool.or_eq_false_iff.mp (eq_false_of_ne_true ends)
    refine Or.inr ⟨short, (run.schedule.poll reading.now).2, ?_⟩
    unfold poll
    simp only [ends]
    match run.schedule.poll reading.now with
    | (false, schedule) => exact Or.inl rfl
    | (true, schedule) =>
      match run.machine.stepFrame with
      | (.ok _, machine) => exact Or.inr (Or.inl ⟨machine, rfl, rfl⟩)
      | (.error fault, machine) => exact Or.inr (Or.inr ⟨fault, machine, rfl, rfl⟩)

/-- **A run ends at a reading**, and what was read before let it go on. -/
theorem pollAll_eq_some {run last : Run} {readings : List Poll} {ended : RunEnd}
    (h : run.pollAll readings = (some ended, last)) :
    ∃ seen reading rest before, readings = seen ++ reading :: rest ∧
      run.pollAll seen = (none, before) ∧ before.poll reading = (some ended, last) := by
  induction readings generalizing run with
  | nil => cases h
  | cons reading readings ih =>
    rw [pollAll] at h
    match polled : run.poll reading with
    | (some _, next) =>
      rw [polled] at h
      cases h
      exact ⟨[], reading, readings, run, rfl, rfl, polled⟩
    | (none, next) =>
      rw [polled] at h
      obtain ⟨seen, reading', rest, before, rfl, goesOn, ends⟩ := ih h
      refine ⟨reading :: seen, reading', rest, before, rfl, ?_, ends⟩
      rw [pollAll, polled]
      exact goesOn

/-- A run whose machine is the one its frames lead to, and whose frames are within its limit. -/
structure Paces (m : Machine) (limit? : Option Nat) (run : Run) : Prop where
  machine : m.stepFrames run.frames = (.ok (), run.machine)
  limit : run.limit? = limit?
  within : ∀ limit, limit? = some limit → run.frames ≤ limit

theorem paces_ofMachine (m : Machine) (limit? : Option Nat) :
    (ofMachine m limit?).Paces m limit? where
  machine := rfl
  limit := rfl
  within _ _ := Nat.zero_le _

variable {m : Machine} {limit? : Option Nat} {run last : Run}

/-- **What a reading does to a run in pace.** It lets the run go on in pace, or finishes it as it
is, or leaves the machine that a failed frame left. -/
theorem Paces.poll (h : run.Paces m limit?) (reading : Poll) :
    match run.poll reading with
    | (none, next) => next.Paces m limit?
    | (some .finished, next) => next = run ∧ (limit? = some run.frames ∨ reading.stop = true)
    | (some (.failed fault), next) =>
      run.machine.stepFrame = (.error fault, next.machine) ∧ next.frames = run.frames := by
  rcases run.poll_cases reading with ⟨ends, polled⟩ | ⟨short, schedule, waits | ran | failed⟩
  · rw [polled]
    refine ⟨rfl, ends.symm.imp_left fun reached => ?_⟩
    obtain ⟨limit, limited, enough⟩ := enough_eq_true_iff.mp reached
    have bounded := h.limit.symm.trans limited
    rw [bounded, Nat.le_antisymm enough (h.within limit bounded)]
  · rw [waits]
    exact ⟨h.machine, h.limit, h.within⟩
  · obtain ⟨machine, stepped, polled⟩ := ran
    rw [polled]
    refine ⟨(stepFrames_succ h.machine).trans stepped, h.limit, fun limit bounded => ?_⟩
    have more : ¬limit ≤ run.frames := fun reached => by
      rw [enough_eq_true_iff.mpr ⟨limit, h.limit.trans bounded, reached⟩] at short
      cases short
    exact Nat.lt_of_not_le more
  · obtain ⟨fault, machine, stepped, polled⟩ := failed
    rw [polled]
    exact ⟨stepped, rfl⟩

/-- **A run that goes on keeps the pace.** -/
theorem Paces.pollAll (h : run.Paces m limit?) {readings : List Poll}
    (goesOn : run.pollAll readings = (none, last)) : last.Paces m limit? := by
  induction readings generalizing run with
  | nil =>
    cases goesOn
    exact h
  | cons reading readings ih =>
    have kept := h.poll reading
    rw [Run.pollAll] at goesOn
    match polled : run.poll reading with
    | (some _, next) =>
      rw [polled] at goesOn
      cases goesOn
    | (none, next) =>
      rw [polled] at goesOn kept
      exact ih kept goesOn

theorem Paces.finished (h : run.Paces m limit?) {readings : List Poll}
    (ended : run.pollAll readings = (some .finished, last)) :
    last.Paces m limit? ∧ (limit? = some last.frames ∨
      ∃ seen reading rest, readings = seen ++ reading :: rest ∧
        run.pollAll seen = (none, last) ∧ reading.stop = true) := by
  obtain ⟨seen, reading, rest, before, rfl, goesOn, polled⟩ := pollAll_eq_some ended
  have paces := h.pollAll goesOn
  have finished := paces.poll reading
  rw [polled] at finished
  obtain ⟨rfl, limited | stopped⟩ := finished
  · exact ⟨paces, Or.inl limited⟩
  · exact ⟨paces, Or.inr ⟨seen, reading, rest, rfl, goesOn, stopped⟩⟩

theorem Paces.failed (h : run.Paces m limit?) {readings : List Poll} {fault : FrameFault}
    (ended : run.pollAll readings = (some (.failed fault), last)) :
    ∃ before : Run, before.Paces m limit? ∧ last.frames = before.frames ∧
      before.machine.stepFrame = (.error fault, last.machine) := by
  obtain ⟨seen, reading, rest, before, rfl, goesOn, polled⟩ := pollAll_eq_some ended
  have paces := h.pollAll goesOn
  have failed := paces.poll reading
  rw [polled] at failed
  exact ⟨before, paces, failed.2, failed.1⟩

end Run

/-! ### The end of a run -/

/-- Frames that fail, and more of them. -/
theorem stepFrames_of_failed {m after : Machine} {count : Nat} {fault : FrameFault}
    (h : m.stepFrames count = (.error fault, after)) (more : Nat) :
    m.stepFrames (count + more) = (.error fault, after) := by
  induction count generalizing m with
  | zero => cases h
  | succ count ih =>
    rw [Nat.add_right_comm]
    rcases stepFrames_eq_error_iff.mp h with first | ⟨mid, first, rest⟩
    · exact stepFrames_of_error first _
    · rw [stepFrames_of_ok first, ih rest]

/-- Frames do not succeed where fewer of them failed. -/
theorem le_of_failed {m mid mid' after : Machine} {count count' : Nat} {fault : FrameFault}
    (h : m.stepFrames count = (.ok (), mid)) (failed : mid.stepFrame = (.error fault, after))
    (h' : m.stepFrames count' = (.ok (), mid')) : count' ≤ count := by
  by_contra fewer
  obtain ⟨more, rfl⟩ := Nat.exists_eq_add_of_lt (Nat.lt_of_not_le fewer)
  have fails := stepFrames_of_failed ((stepFrames_succ h).trans failed) more
  rw [Nat.add_right_comm, h'] at fails
  cases fails

/-- **The clock decides how many frames a run has, and nothing else.** A run that finishes has the
machine its frames lead to, one after the other; they are within its limit, and as many, unless the
stop flag was seen set. A run that fails has the machine the first failing frame left, and counts
those before it. So two runs of a machine that finish with the same number of frames end with the
same machine, and so do two runs that fail. -/
theorem paces_frames (m : Machine) (limit? : Option Nat) (readings : List Poll) :
    (∀ last, (Run.ofMachine m limit?).pollAll readings = (some .finished, last) →
      m.stepFrames last.frames = (.ok (), last.machine) ∧
      last.machine.frames = m.frames + UInt64.ofNat last.frames ∧
      (∀ limit, limit? = some limit → last.frames ≤ limit) ∧
      (limit? = some last.frames ∨ ∃ seen reading rest, readings = seen ++ reading :: rest ∧
        (Run.ofMachine m limit?).pollAll seen = (none, last) ∧ reading.stop = true)) ∧
    (∀ fault last, (Run.ofMachine m limit?).pollAll readings = (some (.failed fault), last) →
      ∃ before, m.stepFrames last.frames = (.ok (), before) ∧
        before.stepFrame = (.error fault, last.machine) ∧
        last.machine.frames = m.frames + UInt64.ofNat last.frames) ∧
    ∀ limit'? readings' last last',
      ((Run.ofMachine m limit?).pollAll readings = (some .finished, last) →
        (Run.ofMachine m limit'?).pollAll readings' = (some .finished, last') →
        last.frames = last'.frames → last.machine = last'.machine) ∧
      ∀ fault fault', (Run.ofMachine m limit?).pollAll readings = (some (.failed fault), last) →
        (Run.ofMachine m limit'?).pollAll readings' = (some (.failed fault'), last') →
        fault = fault' ∧ last.frames = last'.frames ∧ last.machine = last'.machine := by
  have paces := Run.paces_ofMachine m
  refine ⟨fun last ended => ?_, fun fault last ended => ?_, fun limit'? readings' last last' =>
    ⟨fun ended ended' same => ?_, fun fault fault' ended ended' => ?_⟩⟩
  · obtain ⟨inPace, ends⟩ := (paces limit?).finished ended
    exact ⟨inPace.machine, frames_of_stepFrames inPace.machine, inPace.within, ends⟩
  · obtain ⟨before, inPace, counted, failed⟩ := (paces limit?).failed ended
    rw [counted]
    exact ⟨before.machine, inPace.machine, failed,
      (frames_of_error failed).trans (frames_of_stepFrames inPace.machine)⟩
  · have frames := ((paces limit?).finished ended).1.machine
    have frames' := ((paces limit'?).finished ended').1.machine
    rw [same, frames'] at frames
    exact (Prod.mk.inj frames).2.symm
  · obtain ⟨before, inPace, counted, failed⟩ := (paces limit?).failed ended
    obtain ⟨before', inPace', counted', failed'⟩ := (paces limit'?).failed ended'
    have same : before.frames = before'.frames := Nat.le_antisymm
      (le_of_failed inPace'.machine failed' inPace.machine)
      (le_of_failed inPace.machine failed inPace'.machine)
    have frames := inPace.machine
    rw [same, inPace'.machine] at frames
    obtain ⟨-, machine⟩ := Prod.mk.inj frames
    rw [← machine, failed'] at failed
    obtain ⟨fault', left⟩ := Prod.mk.inj failed
    exact ⟨(Except.error.inj fault').symm, by rw [counted, counted', same], left.symm⟩

/-- Two frames of a machine that stands still: at times that just allow them and up to a limit, and
with an idle reading, a delay and a stop. -/
theorem paces_frames_standstill :
    ∃ last last' : Run,
      (Run.ofMachine standstill (some 2)).pollAll
        [⟨false, 0⟩, ⟨false, 16666666⟩, ⟨false, 16666667⟩] = (some .finished, last) ∧
      (Run.ofMachine standstill none).pollAll
        [⟨false, 5⟩, ⟨false, 6⟩, ⟨false, 1000000000⟩, ⟨true, 1000000001⟩] =
          (some .finished, last') ∧
      last.frames = 2 ∧ last.machine.frames = 2 ∧ last.machine = last'.machine := by
  obtain ⟨mid, first, inert⟩ :
      ∃ mid, standstill.stepFrame = (.ok (), mid) ∧ mid.core.Inert :=
    ⟨_, stepFrame_of_inert ⟨rfl, rfl⟩, rfl, rfl⟩
  obtain ⟨after, second⟩ : ∃ after, mid.stepFrame = (.ok (), after) :=
    ⟨_, stepFrame_of_inert inert⟩
  have rate : Schedule.ofRate standstill.settings.refreshRate.toNat = ⟨16666666, none⟩ := by
    decide
  have ended : (Run.ofMachine standstill (some 2)).pollAll
      [⟨false, 0⟩, ⟨false, 16666666⟩, ⟨false, 16666667⟩] =
        (some .finished, ⟨after, ⟨16666666, some 33333332⟩, some 2, 2⟩) := by
    simp [Run.pollAll, Run.poll, Run.ofMachine, Run.enough, rate, Schedule.poll, first, second]
  have ended' : (Run.ofMachine standstill none).pollAll
      [⟨false, 5⟩, ⟨false, 6⟩, ⟨false, 1000000000⟩, ⟨true, 1000000001⟩] =
        (some .finished, ⟨after, ⟨16666666, some 1016666666⟩, none, 2⟩) := by
    simp [Run.pollAll, Run.poll, Run.ofMachine, Run.enough, rate, Schedule.poll, first, second]
  obtain ⟨finished, -, apart⟩ := paces_frames standstill (some 2)
    [⟨false, 0⟩, ⟨false, 16666666⟩, ⟨false, 16666667⟩]
  obtain ⟨-, frames, -⟩ := finished _ ended
  exact ⟨_, _, ended, ended', rfl, frames, (apart none _ _ _).1 ended ended' rfl⟩

end Arcade.Machine
