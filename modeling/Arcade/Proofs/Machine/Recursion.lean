import Arcade.Proofs.Machine.Part
import Mathlib.Tactic.SplitIfs

/-! # The recursion of a part

A part of a frame is a recursion that may have no end, since its counter wraps around. What it comes
to is proved by its turns where it comes to anything, and up to the first overflow by the cycles that
are left.

* `runUntil?_of_over`, `runUntil?_of_refused`, `runUntil?_of_ok`: the turns, and `runUntil?_induct`:
  what they keep holds of what the recursion comes to;
* `Stretch.runUntil?`, `Wrap.runUntil?`: the recursion takes the instructions of a stretch, and
  **behind an overflow it goes on from what is beyond the limit**;
* `runUntil_cases`: **a part ends, or stops short, or overflows its counter**;
* `runUntil_kept`: what each instruction keeps, a part keeps;
* `Bisimulation.runUntil`: cores that answer each instruction alike take the same part. -/

namespace Arcade.Core

variable {target ran : Nat} {core : Core Bus}

/-! ### The turns -/

theorem runUntil?_of_stays (stays : ¬(ran < target ∧ core.cpu.halted = false)) :
    core.runUntil? target ran = some (.ok ran, core) := by
  rw [Core.runUntil?, countedStep, if_neg stays]

theorem runUntil?_of_over (h : target ≤ ran ∨ core.cpu.halted = true) :
    core.runUntil? target ran = some (.ok ran, core) := by
  refine runUntil?_of_stays ?_
  rintro ⟨short, running⟩
  rcases h with reached | halted
  · omega
  · rw [running] at halted
    cases halted

theorem runUntil?_of_refused {fault : Fault} (short : ran < target)
    (running : core.cpu.halted = false) (refused : core.refusal? = some fault) :
    core.runUntil? target ran = some (.error fault, core.report) := by
  have ticked : core.report.step = (.error fault, core.report) :=
    tick_eq_error_iff.mpr ⟨running, refused, rfl⟩
  rw [Core.runUntil?, countedStep, if_pos ⟨short, running⟩, ticked]

theorem runUntil?_of_ok {cycles : Nat} {mid : Core Bus} (short : ran < target)
    (running : core.cpu.halted = false) (ticked : core.tick = (.ok cycles, mid)) :
    core.runUntil? target ran = mid.runUntil? target ((ran + cycles) % 0x100000000) := by
  rw [tick] at ticked
  rw [Core.runUntil?, countedStep, if_pos ⟨short, running⟩, ticked]
  rfl

/-- An instruction whose cycles the counter holds. -/
theorem runUntil?_of_tick {cycles : Nat} {mid : Core Bus} (short : ran < target)
    (running : core.cpu.halted = false) (ticked : core.tick = (.ok cycles, mid))
    (fits : ran + cycles < 0x100000000) :
    core.runUntil? target ran = mid.runUntil? target (ran + cycles) := by
  rw [runUntil?_of_ok short running ticked, Nat.mod_eq_of_lt fits]

/-- **What the turns keep holds of what the recursion comes to.** Nothing is to be executed, or an
instruction is refused, or one is executed and the rest comes to the same. A recursion without an
end comes to nothing. -/
theorem runUntil?_induct {motive : Nat → Core Bus → Except Fault Nat → Core Bus → Prop}
    (stays : ∀ ran core, ¬(ran < target ∧ core.cpu.halted = false) →
      motive ran core (.ok ran) core)
    (refused : ∀ ran core fault after, ran < target → core.cpu.halted = false →
      core.tick = (.error fault, after) → motive ran core (.error fault) after)
    (executed : ∀ ran core cycles mid result last, ran < target → core.cpu.halted = false →
      core.tick = (.ok cycles, mid) → motive ((ran + cycles) % 0x100000000) mid result last →
      motive ran core result last)
    {result : Except Fault Nat} {last : Core Bus}
    (ended : core.runUntil? target ran = some (result, last)) : motive ran core result last := by
  refine runUntil?.partial_correctness target
    (fun ran core outcome => motive ran core outcome.1 outcome.2) ?_ ran core (result, last) ended
  intro rest ih ran core outcome turned
  unfold countedStep at turned
  split_ifs at turned with going
  · match ticked : core.report.step with
    | (.error fault, after) =>
      rw [ticked] at turned
      cases turned
      exact refused ran core fault after going.1 going.2 ticked
    | (.ok cycles, mid) =>
      rw [ticked] at turned
      exact executed ran core cycles mid outcome.1 outcome.2 going.1 going.2 ticked
        (ih _ mid outcome turned)
  · cases turned
    exact stays ran core going

/-! ### Up to an overflow and behind it -/

/-- The recursion takes the instructions of a stretch, if the counter holds their cycles. -/
theorem Stretch.runUntil? (s : Stretch target ran core)
    (fits : ran + s.cycles < 0x100000000) :
    core.runUntil? target ran = s.after.runUntil? target (ran + s.cycles) := by
  induction h : s.count generalizing ran core with
  | zero =>
    obtain ⟨_, _, _, executed, _⟩ := s
    subst h
    cases executed
    rfl
  | succ count ih =>
    obtain ⟨cycles, mid, rest, short, running, ticked, hcount, hcycles, hafter⟩ := s.eq_cons h
    rw [runUntil?_of_tick short running ticked (by omega), ih rest (by omega) hcount, hcycles,
      hafter, Nat.add_assoc]

/-- **Behind an overflow the recursion goes on from what is beyond the limit**, and is below the
target again. -/
theorem Wrap.runUntil? (wrap : Wrap target ran core) (bound : target ≤ 0x100000000) :
    core.runUntil? target ran =
      wrap.next.runUntil? target (ran + wrap.cycles + wrap.cost - 0x100000000) := by
  obtain ⟨-, cheap⟩ := cycles_of_tick wrap.running wrap.ticked
  have short := wrap.short
  have overflows := wrap.overflows
  have beyond : (ran + wrap.cycles + wrap.cost) % 0x100000000 =
      ran + wrap.cycles + wrap.cost - 0x100000000 := by omega
  rw [wrap.toStretch.runUntil? (by omega),
    runUntil?_of_ok short wrap.running wrap.ticked, beyond]

/-! ### A part as a frame takes it -/

theorem runUntil_of_ok {total : Nat} {last : Core Bus}
    (h : core.runUntil? target ran = some (.ok total, last)) :
    core.runUntil target ran = (.ok total, last) := by
  rw [runUntil, h]
  rfl

theorem runUntil_of_error {fault : Fault} {last : Core Bus}
    (h : core.runUntil? target ran = some (.error fault, last)) :
    core.runUntil target ran = (.error (.refused fault), last) := by
  rw [runUntil, h]
  rfl

theorem runUntil_of_none (h : core.runUntil? target ran = none) :
    core.runUntil target ran = (.error .endless, core) := by
  rw [runUntil, h]

theorem runUntil_of_over (h : target ≤ ran ∨ core.cpu.halted = true) :
    core.runUntil target ran = (.ok ran, core) :=
  runUntil_of_ok (runUntil?_of_over h)

theorem runUntil_of_refused {fault : Fault} (short : ran < target)
    (running : core.cpu.halted = false) (refused : core.refusal? = some fault) :
    core.runUntil target ran = (.error (.refused fault), core.report) :=
  runUntil_of_error (runUntil?_of_refused short running refused)

/-- What the recursion comes to up to the first overflow. -/
theorem runUntil?_cases (target ran : Nat) (core : Core Bus) :
    (∃ part : Part target ran core,
      core.runUntil? target ran = some (.ok (ran + part.cycles), part.after) ∧
      (ran < 0x100000000 → ran + part.cycles < 0x100000000)) ∨
    (∃ stop : Stop target ran core,
      core.runUntil? target ran = some (.error stop.fault, stop.after.report)) ∨
    Nonempty (Wrap target ran core) := by
  -- Up to an overflow the cycles that are left become fewer. A stretch grows at its front.
  induction left : target - ran using Nat.strongRecOn generalizing ran core with
  | ind left ih =>
    by_cases going : ran < target ∧ core.cpu.halted = false
    · obtain ⟨short, running⟩ := going
      match ticked : core.tick with
      | (.error fault, after) =>
        obtain ⟨-, refused, -⟩ := tick_eq_error_iff.mp ticked
        exact Or.inr (Or.inl ⟨⟨.nil target ran core, fault, short, running, refused⟩,
          runUntil?_of_refused short running refused⟩)
      | (.ok cycles, mid) =>
        obtain ⟨dear, -⟩ := cycles_of_tick running ticked
        by_cases fits : ran + cycles < 0x100000000
        · rw [runUntil?_of_tick short running ticked fits]
          rcases ih (target - (ran + cycles)) (by omega) (ran + cycles) mid rfl with
            ⟨part, h, below⟩ | ⟨stop, h⟩ | wraps
          · refine Or.inl ⟨⟨.cons short running ticked part.toStretch, ?_⟩, ?_, fun _ => ?_⟩
            · have := part.ended
              simpa only [Stretch.cons, Nat.add_assoc] using this
            · simpa only [Stretch.cons, Nat.add_assoc] using h
            · have := below fits
              simpa only [Stretch.cons, Nat.add_assoc] using this
          · refine Or.inr (Or.inl ⟨⟨.cons short running ticked stop.toStretch, stop.fault, ?_,
              stop.running, stop.refused⟩, h⟩)
            have := stop.short
            simpa only [Stretch.cons, Nat.add_assoc] using this
          · obtain ⟨wrap⟩ := wraps
            refine Or.inr (Or.inr ⟨⟨.cons short running ticked wrap.toStretch, wrap.cost,
              wrap.next, ?_, wrap.running, wrap.ticked, ?_⟩⟩)
            · have := wrap.short
              simpa only [Stretch.cons, Nat.add_assoc] using this
            · have := wrap.overflows
              simpa only [Stretch.cons, Nat.add_assoc] using this
        · exact Or.inr (Or.inr ⟨⟨.nil target ran core, cycles, mid, short, running, ticked,
            Nat.le_of_not_lt fits⟩⟩)
    · have ended : target ≤ ran ∨ core.cpu.halted = true := by
        by_cases reached : target ≤ ran
        · exact Or.inl reached
        · exact Or.inr (eq_true_of_ne_false fun running => going ⟨by omega, running⟩)
      exact Or.inl ⟨⟨.nil target ran core, ended⟩, runUntil?_of_over ended, id⟩

/-- **A part of a frame ends, stops at a refused instruction, or overflows its counter.** -/
theorem runUntil_cases (target ran : Nat) (core : Core Bus) :
    (∃ part : Part target ran core,
      core.runUntil target ran = (.ok (ran + part.cycles), part.after)) ∨
    (∃ stop : Stop target ran core,
      core.runUntil target ran = (.error (.refused stop.fault), stop.after.report)) ∨
    Nonempty (Wrap target ran core) := by
  rcases runUntil?_cases target ran core with ⟨part, h, -⟩ | ⟨stop, h⟩ | wraps
  · exact Or.inl ⟨part, runUntil_of_ok h⟩
  · exact Or.inr (Or.inl ⟨stop, runUntil_of_error h⟩)
  · exact Or.inr (Or.inr wraps)

/-! ### What each instruction keeps -/

/-- **What each instruction keeps, a part keeps**, however often its counter wraps around. -/
theorem runUntil_kept {P : Core Bus → Prop} (tick : ∀ core, P core → P core.tick.2) (start : P core)
    (target ran : Nat) : P (core.runUntil target ran).2 := by
  match ended : core.runUntil? target ran with
  | none =>
    rw [runUntil_of_none ended]
    exact start
  | some (result, last) =>
    rw [runUntil, ended]
    refine runUntil?_induct (motive := fun _ core _ last => P core → P last) ?_ ?_ ?_ ended start
    · intro ran core stays kept
      exact kept
    · intro ran core fault after short running ticked kept
      have next := tick core kept
      rwa [ticked] at next
    · intro ran core cycles mid result last short running ticked rest kept
      have next := tick core kept
      rw [ticked] at next
      exact rest next

/-- Cores that answer each instruction alike: both are halted or none is, the next instruction comes
to the same, and they are related after it. -/
structure Bisimulation (R : Core Bus → Core Bus → Prop) : Prop where
  halted : ∀ {a b}, R a b → b.cpu.halted = a.cpu.halted
  tick : ∀ {a b}, R a b → b.tick.1 = a.tick.1 ∧ R a.tick.2 b.tick.2

namespace Bisimulation

variable {R : Core Bus → Core Bus → Prop} {a b a' : Core Bus}

theorem symm (h : Bisimulation R) : Bisimulation fun b a => R a b where
  halted related := (h.halted related).symm
  tick related := ⟨(h.tick related).1.symm, (h.tick related).2⟩

theorem tick_of_eq {result : Except Fault Nat} (h : Bisimulation R) (related : R a b)
    (ticked : a.tick = (result, a')) : b.tick = (result, b.tick.2) ∧ R a' b.tick.2 := by
  obtain ⟨same, next⟩ := h.tick related
  rw [ticked] at same next
  exact ⟨Prod.ext same rfl, next⟩

/-- What the one comes to, the other one comes to. -/
theorem runUntil?_of_some (h : Bisimulation R) (related : R a b) {result : Except Fault Nat}
    {last : Core Bus} (ended : a.runUntil? target ran = some (result, last)) :
    ∃ last', b.runUntil? target ran = some (result, last') ∧ R last last' := by
  -- the turns of the one; the other one takes the same turn each time
  refine runUntil?_induct (motive := fun ran a result last => ∀ b, R a b →
    ∃ last', b.runUntil? target ran = some (result, last') ∧ R last last') ?_ ?_ ?_ ended b related
  · intro ran a stays b related
    have stays' : ¬(ran < target ∧ b.cpu.halted = false) := by rwa [h.halted related]
    exact ⟨b, runUntil?_of_stays stays', related⟩
  · intro ran a fault after short running ticked b related
    obtain ⟨ticked', next⟩ := h.tick_of_eq related ticked
    obtain ⟨-, refused, same⟩ := tick_eq_error_iff.mp ticked'
    rw [same] at next
    exact ⟨b.report, runUntil?_of_refused short ((h.halted related).trans running) refused, next⟩
  · intro ran a cycles mid result last short running ticked rest b related
    obtain ⟨ticked', next⟩ := h.tick_of_eq related ticked
    rw [runUntil?_of_ok short ((h.halted related).trans running) ticked']
    exact rest _ next

/-- **Cores that answer each instruction alike take the same part**, or both take one without an
end. -/
theorem runUntil (h : Bisimulation R) (related : R a b) (target ran : Nat) :
    ∃ last, b.runUntil target ran = ((a.runUntil target ran).1, last) ∧
      R (a.runUntil target ran).2 last := by
  match ended : a.runUntil? target ran with
  | some (result, last) =>
    obtain ⟨last', ended', related'⟩ := h.runUntil?_of_some related ended
    rw [Core.runUntil, Core.runUntil, ended, ended']
    exact ⟨last', rfl, related'⟩
  | none =>
    match ended' : b.runUntil? target ran with
    | some (result, last) =>
      obtain ⟨last', ended'', -⟩ := h.symm.runUntil?_of_some related ended'
      rw [ended] at ended''
      cases ended''
    | none =>
      rw [runUntil_of_none ended, runUntil_of_none ended']
      exact ⟨b, rfl, related⟩

end Bisimulation

end Arcade.Core
