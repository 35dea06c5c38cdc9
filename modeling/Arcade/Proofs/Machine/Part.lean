import Arcade.Machine.Frame
import Arcade.Proofs.Core.Cost
import Arcade.Proofs.Core.Policy

/-! # A part of a frame

The machine reports an instruction, if it is to, and executes it (`tick`). A part of a frame is the
least number of such instructions after which the cycles reach a target or the processor is halted;
it may also stop short at an instruction that is refused, or at one whose cycles do not fit in the
counter.

* `Alike`: cores that differ in their reports at most; reporting makes no other difference
  (`report_alike`);
* `ticks`: a number of instructions with the sum of their cycles;
* `Stretch`: a number of instructions before each of which the part was to go on. A `Part` is one
  that ends there, a `Stop` one that is refused the next instruction, a `Wrap` one whose next
  instruction overflows the counter;
* `Stretch.cycles_le`, `Stretch.four_mul_count_le`: a stretch goes beyond its target by 17 cycles
  at most, and each of its instructions takes 4 cycles at least;
* `Wrap.great`: **the counter overflows under a target that is within 17 of its limit only**. -/

namespace Arcade.Core

/-! ### Reports -/

/-- Cores with the same processor, memory and devices, where the same sounds were played. -/
structure Alike (a b : Core Bus) : Prop where
  cpu : a.cpu = b.cpu
  memory : a.memory = b.memory
  board : a.ports.board = b.ports.board
  sounds : a.ports.sounds = b.ports.sounds

theorem Alike.refl (core : Core Bus) : core.Alike core :=
  ⟨rfl, rfl, rfl, rfl⟩

theorem report_alike (core : Core Bus) : core.report.Alike core := by
  unfold report
  cases core.traceLine? with
  | none => exact .refl core
  | some line =>
    refine ⟨rfl, rfl, rfl, ?_⟩
    simp [Bus.sounds, Bus.note, Event.effect?]

theorem fetch_report (core : Core Bus) : core.report.fetch = core.fetch := by
  rw [fetch, fetch, core.report_alike.cpu, core.report_alike.memory]

theorem refusal?_report (core : Core Bus) : core.report.refusal? = core.refusal? := by
  rw [refusal?, refusal?, fetch_report, cpu_report]

theorem report_of_halted {core : Core Bus} (h : core.cpu.halted = true) : core.report = core := by
  simp [report, traceLine?, h]

/-! ### Instructions -/

/-- One instruction of a machine: it is reported, if it is to be, and executed. -/
def tick (core : Core Bus) : Except Fault Nat × Core Bus :=
  core.report.step

theorem tick_eq_ok_iff {core after : Core Bus} {cycles : Nat} :
    core.tick = (.ok cycles, after) ↔
      core.cpu.halted = true ∧ cycles = 0 ∧ after = core ∨
      core.cpu.halted = false ∧ core.refusal? = none ∧ cycles = core.report.cost ∧
        after = core.report.next := by
  rw [tick, step_eq_ok_iff, cpu_report, refusal?_report]
  cases halted : core.cpu.halted with
  | true => rw [report_of_halted halted]
  | false => simp

theorem tick_eq_error_iff {core after : Core Bus} {fault : Fault} :
    core.tick = (.error fault, after) ↔
      core.cpu.halted = false ∧ core.refusal? = some fault ∧ after = core.report := by
  rw [tick, step_eq_error_iff, cpu_report, refusal?_report]

/-- The cycles of an instruction. -/
theorem cycles_of_tick {core after : Core Bus} {cycles : Nat} (running : core.cpu.halted = false)
    (h : core.tick = (.ok cycles, after)) : 4 ≤ cycles ∧ cycles ≤ 18 := by
  rcases tick_eq_ok_iff.mp h with ⟨halted, -⟩ | ⟨-, -, rfl, -⟩
  · rw [running] at halted
    cases halted
  · exact ⟨four_le_cost _, cost_le _⟩

/-- The processor counts the cycles of an instruction. -/
theorem counted_of_tick {core after : Core Bus} {cycles : Nat}
    (h : core.tick = (.ok cycles, after)) :
    after.cpu.cycles = core.cpu.cycles + UInt64.ofNat cycles := by
  rcases tick_eq_ok_iff.mp h with ⟨-, rfl, rfl⟩ | ⟨-, -, rfl, rfl⟩
  · simp
  · rw [cycles_next, cpu_report]

theorem strict_of_tick {core after : Core Bus} {cycles : Nat}
    (h : core.tick = (.ok cycles, after)) : after.cpu.strict = core.cpu.strict := by
  rcases tick_eq_ok_iff.mp h with ⟨-, -, rfl⟩ | ⟨-, -, -, rfl⟩
  · rfl
  · rw [strict_next, cpu_report]

/-! ### Instructions in a row -/

/-- The cycles a number of instructions take, and the core after them, if none of them is
refused. -/
def ticks (core : Core Bus) : (count : Nat) → Except Fault (Nat × Core Bus)
  | 0 => .ok (0, core)
  | count + 1 =>
    match core.tick with
    | (.error fault, _) => .error fault
    | (.ok cycles, mid) => do
      let (more, after) ← mid.ticks count
      .ok (cycles + more, after)

theorem ticks_succ_eq_ok_iff {core after : Core Bus} {count total : Nat} :
    core.ticks (count + 1) = .ok (total, after) ↔
      ∃ cycles mid more, core.tick = (.ok cycles, mid) ∧ mid.ticks count = .ok (more, after) ∧
        total = cycles + more := by
  rw [ticks]
  match core.tick with
  | (.error fault, _) => simp
  | (.ok cycles, mid) =>
    dsimp only
    rw [bind_eq_ok_iff]
    constructor
    · rintro ⟨⟨more, last⟩, rest, h⟩
      cases h
      exact ⟨cycles, mid, more, rfl, rest, rfl⟩
    · rintro ⟨_, _, more, ticked, rest, rfl⟩
      cases ticked
      exact ⟨(more, after), rest, rfl⟩

theorem counted_of_ticks {core after : Core Bus} {count cycles : Nat}
    (h : core.ticks count = .ok (cycles, after)) :
    after.cpu.cycles = core.cpu.cycles + UInt64.ofNat cycles := by
  induction count generalizing core cycles with
  | zero =>
    cases h
    simp
  | succ count ih =>
    obtain ⟨cycles, mid, more, ticked, rest, rfl⟩ := ticks_succ_eq_ok_iff.mp h
    rw [ih rest, counted_of_tick ticked, UInt64.ofNat_add, UInt64.add_assoc]

theorem strict_of_ticks {core after : Core Bus} {count cycles : Nat}
    (h : core.ticks count = .ok (cycles, after)) : after.cpu.strict = core.cpu.strict := by
  induction count generalizing core cycles with
  | zero =>
    cases h
    rfl
  | succ count ih =>
    obtain ⟨cycles, mid, more, ticked, rest, rfl⟩ := ticks_succ_eq_ok_iff.mp h
    rw [ih rest, strict_of_tick ticked]

/-! ### Interrupt requests -/

theorem request_alike (core : Core Bus) (interrupt : FrameInterrupt) :
    (core.request interrupt).Alike (core.interrupt interrupt.vector).2 := by
  unfold request
  match core.interrupt interrupt.vector with
  | (true, after) => exact .refl after
  | (false, after) =>
    refine ⟨rfl, rfl, rfl, ?_⟩
    simp [Bus.sounds, Bus.note, Event.effect?]

/-- A request makes no difference to a processor that accepts none. -/
theorem request_alike_of_disabled {core : Core Bus} (h : core.cpu.interruptsEnabled = false)
    (interrupt : FrameInterrupt) : (core.request interrupt).Alike core := by
  have drops := core.request_alike interrupt
  rwa [interrupt_of_disabled h] at drops

theorem cycles_request (core : Core Bus) (interrupt : FrameInterrupt) :
    (core.request interrupt).cpu.cycles =
      core.cpu.cycles +
        UInt64.ofNat (Opcode.interruptCycles * (core.interrupt interrupt.vector).1.toNat) := by
  rw [(core.request_alike interrupt).cpu, cycles_interrupt]

theorem strict_request (core : Core Bus) (interrupt : FrameInterrupt) :
    (core.request interrupt).cpu.strict = core.cpu.strict := by
  rw [(core.request_alike interrupt).cpu, strict_interrupt]

/-- A core leads to another one by instructions with at most one request of an interrupt between
them. -/
def LeadsTo (core : Core Bus) (interrupt : FrameInterrupt) (last : Core Bus) : Prop :=
  (∃ count cycles, core.ticks count = .ok (cycles, last)) ∨
    ∃ count cycles mid count' cycles', core.ticks count = .ok (cycles, mid) ∧
      (mid.request interrupt).ticks count' = .ok (cycles', last)

/-! ### Stretches -/

/-- A number of instructions of a part of a frame, where `ran` cycles were counted before: before
each of them the target was not reached and the processor was running. -/
structure Stretch (target ran : Nat) (core : Core Bus) where
  count : Nat
  cycles : Nat
  after : Core Bus
  executed : core.ticks count = .ok (cycles, after)
  going : ∀ fewer < count, ∀ spent mid, core.ticks fewer = .ok (spent, mid) →
    ran + spent < target ∧ mid.cpu.halted = false

/-- A part of a frame: the stretch ends with the target reached or the processor halted. -/
structure Part (target ran : Nat) (core : Core Bus) extends Stretch target ran core where
  ended : target ≤ ran + cycles ∨ after.cpu.halted = true

/-- A part that stops short: the stretch ends where an instruction is refused. -/
structure Stop (target ran : Nat) (core : Core Bus) extends Stretch target ran core where
  fault : Fault
  short : ran + cycles < target
  running : after.cpu.halted = false
  refused : after.refusal? = some fault

/-- A part whose counter overflows: the stretch ends short of the target, and the cycles of the next
instruction make the count 2^32 or more. -/
structure Wrap (target ran : Nat) (core : Core Bus) extends Stretch target ran core where
  cost : Nat
  next : Core Bus
  short : ran + cycles < target
  running : after.cpu.halted = false
  ticked : after.tick = (.ok cost, next)
  overflows : 0x100000000 ≤ ran + cycles + cost

variable {target ran : Nat} {core : Core Bus}

/-- No instruction at all. -/
def Stretch.nil (target ran : Nat) (core : Core Bus) : Stretch target ran core where
  count := 0
  cycles := 0
  after := core
  executed := rfl
  going := by
    intro fewer h
    omega

/-- An instruction before a stretch. -/
def Stretch.cons {cycles : Nat} {mid : Core Bus} (short : ran < target)
    (running : core.cpu.halted = false) (ticked : core.tick = (.ok cycles, mid))
    (rest : Stretch target (ran + cycles) mid) : Stretch target ran core where
  count := rest.count + 1
  cycles := cycles + rest.cycles
  after := rest.after
  executed := ticks_succ_eq_ok_iff.mpr ⟨cycles, mid, rest.cycles, ticked, rest.executed, rfl⟩
  going := by
    intro fewer h spent mid' executed
    cases fewer with
    | zero =>
      cases executed
      exact ⟨short, running⟩
    | succ fewer =>
      obtain ⟨_, _, more, ticked', executed', rfl⟩ := ticks_succ_eq_ok_iff.mp executed
      rw [ticked] at ticked'
      cases ticked'
      obtain ⟨short', running'⟩ := rest.going fewer (by omega) more mid' executed'
      exact ⟨by omega, running'⟩

/-- A stretch that is not empty is an instruction and a stretch after it. -/
theorem Stretch.eq_cons {count : Nat} (s : Stretch target ran core) (h : s.count = count + 1) :
    ∃ cycles mid, ∃ rest : Stretch target (ran + cycles) mid,
      ran < target ∧ core.cpu.halted = false ∧ core.tick = (.ok cycles, mid) ∧
        rest.count = count ∧ s.cycles = cycles + rest.cycles ∧ s.after = rest.after := by
  obtain ⟨_, total, after, executed, going⟩ := s
  subst h
  obtain ⟨cycles, mid, more, ticked, rest, rfl⟩ := ticks_succ_eq_ok_iff.mp executed
  obtain ⟨short, running⟩ := going 0 (Nat.succ_pos _) 0 core rfl
  refine ⟨cycles, mid, ⟨count, more, after, rest, ?_⟩, short, running, ticked, rfl, rfl, rfl⟩
  intro fewer h spent mid' executed'
  obtain ⟨short', running'⟩ := going (fewer + 1) (by omega) (cycles + spent) mid'
    (ticks_succ_eq_ok_iff.mpr ⟨cycles, mid, spent, ticked, executed', rfl⟩)
  exact ⟨by omega, running'⟩

theorem Stretch.cycles_eq_zero (s : Stretch target ran core) (h : s.count = 0) : s.cycles = 0 := by
  obtain ⟨_, _, _, executed, _⟩ := s
  subst h
  cases executed
  rfl

/-- **The last instruction of a stretch begins before the target.** -/
theorem Stretch.cycles_le (s : Stretch target ran core) :
    s.cycles = 0 ∨ ran + s.cycles ≤ target + 17 := by
  induction h : s.count generalizing ran core with
  | zero => exact Or.inl (s.cycles_eq_zero h)
  | succ count ih =>
    obtain ⟨cycles, mid, rest, short, running, ticked, hcount, hcycles, -⟩ := s.eq_cons h
    obtain ⟨-, cheap⟩ := cycles_of_tick running ticked
    have := ih rest hcount
    omega

/-- **Time passes with every instruction of a stretch.** -/
theorem Stretch.four_mul_count_le (s : Stretch target ran core) : 4 * s.count ≤ s.cycles := by
  induction h : s.count generalizing ran core with
  | zero => omega
  | succ count ih =>
    obtain ⟨cycles, mid, rest, short, running, ticked, hcount, hcycles, -⟩ := s.eq_cons h
    obtain ⟨dear, -⟩ := cycles_of_tick running ticked
    have := ih rest hcount
    omega

/-- Nothing is executed where nothing is to be. -/
theorem Stretch.cycles_of_reached (s : Stretch target ran core) (h : target ≤ ran) :
    s.cycles = 0 := by
  cases hcount : s.count with
  | zero => exact s.cycles_eq_zero hcount
  | succ count =>
    obtain ⟨_, _, _, short, -⟩ := s.eq_cons hcount
    omega

/-- The last instruction before an overflow begins below the target. -/
theorem Wrap.great (wrap : Wrap target ran core) : 0x100000000 - 18 < target := by
  obtain ⟨-, cheap⟩ := cycles_of_tick wrap.running wrap.ticked
  have short := wrap.short
  have overflows := wrap.overflows
  omega

end Arcade.Core
