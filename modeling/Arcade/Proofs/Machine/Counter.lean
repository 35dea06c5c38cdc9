import Arcade.Proofs.Machine.Frame

/-! # The counter of a frame

The cycles of a frame are counted in 32 bits. An instruction begins below the budget and takes 18
cycles at most, so the counter holds the cycles of every frame whose budget is at most 2^32 - 18.
Under each greater budget a program can come to 2^32 - 18 cycles and then take 18 more. The count
begins again then, and the frame goes on as if it had hardly begun.

* `Loop`: programs that have no end, with what is known of their count of cycles;
* `exists_overflow_of_loop`: if no such count lies between the budget and the limit, the counter
  overflows;
* `Overflow.goes_on`: what the frame comes to behind an overflow;
* `overflows_iff_of_settings`: **the counter of a frame can overflow under the settings with a
  budget above 2^32 - 18, and under no others**;
* `loading_overflows`: a machine whose clock makes it so. -/

namespace Arcade.Core

/-! ### Loops -/

/-- A program that goes on and on. What `P` says of the cycles that were counted and of the core is
kept by each instruction, and by a request of an interrupt. -/
structure Loop (P : Nat → Core Bus → Prop) : Prop where
  running : ∀ {ran core}, P ran core → core.cpu.halted = false
  tick : ∀ {ran core}, P ran core →
    ∃ cost after, core.tick = (.ok cost, after) ∧ P (ran + cost) after
  request : ∀ {ran core}, P ran core → ∀ interrupt, P ran (core.request interrupt)

namespace Loop

variable {P : Nat → Core Bus → Prop} {target ran : Nat} {core : Core Bus}

theorem stretch (loop : Loop P) (s : Stretch target ran core) (holds : P ran core) :
    P (ran + s.cycles) s.after := by
  induction h : s.count generalizing ran core with
  | zero =>
    obtain ⟨_, _, _, executed, _⟩ := s
    subst h
    cases executed
    exact holds
  | succ count ih =>
    obtain ⟨cycles, mid, rest, -, -, ticked, hcount, hcycles, hafter⟩ := s.eq_cons h
    obtain ⟨cost, after, ticked', next⟩ := loop.tick holds
    cases ticked.symm.trans ticked'
    have last := ih rest next hcount
    rwa [hcycles, hafter, ← Nat.add_assoc]

/-- A loop is refused nothing. -/
theorem not_stop (loop : Loop P) (holds : P ran core) (stop : Stop target ran core) : False := by
  obtain ⟨cost, after, ticked, -⟩ := loop.tick (loop.stretch stop.toStretch holds)
  have refused := tick_eq_error_iff.mpr ⟨stop.running, stop.refused, rfl⟩
  cases ticked.symm.trans refused

/-- A loop ends a part by reaching its target. -/
theorem reached (loop : Loop P) (holds : P ran core) (part : Part target ran core) :
    target ≤ ran + part.cycles := by
  rcases part.ended with reached | halted
  · exact reached
  · rw [loop.running (loop.stretch part.toStretch holds)] at halted
    cases halted

end Loop

/-! ### A memory of one byte -/

/-- A core that executes the same byte at every address and accepts no interrupts. -/
structure Filled (byte : UInt8) (core : Core Bus) : Prop where
  running : core.cpu.halted = false
  deaf : core.cpu.interruptsEnabled = false
  bytes : ∀ address, core.memory.read address = byte

theorem Filled.of_alike {byte : UInt8} {core other : Core Bus} (h : core.Filled byte)
    (alike : other.Alike core) : other.Filled byte where
  running := by rw [alike.cpu, h.running]
  deaf := by rw [alike.cpu, h.deaf]
  bytes := by
    rw [alike.memory]
    exact h.bytes

theorem Filled.request {byte : UInt8} {core : Core Bus} (h : core.Filled byte)
    (interrupt : FrameInterrupt) : (core.request interrupt).Filled byte :=
  h.of_alike (core.request_alike_of_disabled h.deaf interrupt)

/-- LDA. -/
theorem Filled.tick_lda {core : Core Bus} (h : core.Filled 0x3a) :
    ∃ after, core.tick = (.ok 13, after) ∧ after.Filled 0x3a := by
  obtain ⟨after, ticked, hcpu, hmemory⟩ := tick_of_effect h.running (h.bytes _) rfl fun _ => rfl
  refine ⟨after, ticked, ?_, ?_, ?_⟩
  · rw [hcpu]
    exact h.running
  · rw [hcpu]
    exact h.deaf
  · rw [hmemory]
    exact h.bytes

/-- LDA everywhere. -/
theorem loop_lda : Loop fun ran core => core.Filled 0x3a ∧ 13 ∣ ran where
  running h := h.1.running
  tick := by
    rintro ran core ⟨filled, whole⟩
    obtain ⟨after, ticked, filled'⟩ := filled.tick_lda
    exact ⟨13, after, ticked, filled', by omega⟩
  request h interrupt := ⟨h.1.request interrupt, h.2⟩

/-- A core that executes XTHL at every address and holds its byte twice in HL: what is exchanged is
the same. -/
structure Exchanging (core : Core Bus) : Prop extends core.Filled 0xe3 where
  hl : core.cpu.hl = 0xe3e3

theorem Exchanging.request {core : Core Bus} (h : core.Exchanging) (interrupt : FrameInterrupt) :
    (core.request interrupt).Exchanging := by
  refine ⟨h.toFilled.request interrupt, ?_⟩
  rw [(core.request_alike_of_disabled h.deaf interrupt).cpu, h.hl]

theorem Exchanging.tick {core : Core Bus} (h : core.Exchanging) :
    ∃ after, core.tick = (.ok 18, after) ∧ after.Exchanging := by
  have top : core.memory.readWord core.cpu.sp = 0xe3e3 := by
    rw [Memory.readWord, h.bytes, h.bytes]
    rfl
  obtain ⟨after, ticked, hcpu, hmemory⟩ := tick_of_effect h.running (h.bytes _) rfl fun _ => rfl
  refine ⟨after, ticked, ⟨?_, ?_, fun address => ?_⟩, ?_⟩
  · rw [hcpu]
    exact h.running
  · rw [hcpu]
    exact h.deaf
  · rw [hmemory]
    refine Memory.read_writeWord_of_eq (w := core.cpu.hl) ?_ ?_ fun _ _ => h.bytes address
    · rw [h.hl]
      rfl
    · rw [h.hl]
      rfl
  · rw [hcpu]
    exact (Registers.pair_setPair_self _ .hl _).trans top

/-! ### Two instructions before a loop -/

/-- A core that is to write HL to the stack. XTHL is at every address but two, and its byte is twice
in HL. -/
structure Pushing (sp : UInt16) (core : Core Bus) : Prop where
  running : core.cpu.halted = false
  deaf : core.cpu.interruptsEnabled = false
  fetched : core.fetch = 0xe5
  sp : core.cpu.sp = sp
  hl : core.cpu.hl = 0xe3e3
  others : ∀ address, address ≠ 0 → address ≠ 1 → core.memory.read address = 0xe3

/-- A core that executes PUSH H twice. The second one replaces both by XTHL. -/
structure Primed (core : Core Bus) : Prop extends core.Pushing 4 where
  pc : core.cpu.pc = 0
  second : core.memory.read 1 = 0xe5

theorem Pushing.request {sp : UInt16} {core : Core Bus} (h : core.Pushing sp)
    (interrupt : FrameInterrupt) : (core.request interrupt).Pushing sp := by
  have alike := core.request_alike_of_disabled h.deaf interrupt
  refine ⟨?_, ?_, ?_, ?_, ?_, ?_⟩
  · rw [alike.cpu, h.running]
  · rw [alike.cpu, h.deaf]
  · rw [fetch, alike.cpu, alike.memory]
    exact h.fetched
  · rw [alike.cpu, h.sp]
  · rw [alike.cpu, h.hl]
  · rw [alike.memory]
    exact h.others

theorem Primed.request {core : Core Bus} (h : core.Primed) (interrupt : FrameInterrupt) :
    (core.request interrupt).Primed := by
  have alike := core.request_alike_of_disabled h.deaf interrupt
  refine ⟨h.toPushing.request interrupt, ?_, ?_⟩
  · rw [alike.cpu, h.pc]
  · rw [alike.memory, h.second]

/-- PUSH H. -/
theorem Pushing.tick {sp top : UInt16} {core : Core Bus} (h : core.Pushing sp)
    (below : sp - 2 = top) :
    ∃ after, core.tick = (.ok 11, after) ∧
      after.cpu =
        { core.cpu with
          pc := core.cpu.pc + 1
          sp := top
          cycles := core.cpu.cycles + 11 } ∧
      after.memory = core.memory.writeWord top 0xe3e3 := by
  obtain ⟨after, ticked, hcpu, hmemory⟩ := tick_of_effect h.running h.fetched rfl fun _ => rfl
  rw [← below, ← h.sp, ← h.hl]
  exact ⟨after, ticked, hcpu, hmemory⟩

/-- The first PUSH H writes behind the second one. -/
theorem Primed.tick {core : Core Bus} (h : core.Primed) :
    ∃ after, core.tick = (.ok 11, after) ∧ after.Pushing 2 := by
  obtain ⟨after, ticked, hcpu, hmemory⟩ := h.toPushing.tick (show (4 : UInt16) - 2 = 2 by decide)
  have apart : core.memory.cell 1 ∉ [core.memory.cell 2, core.memory.cell (2 + 1)] := by
    rw [Memory.cell_of_lt _ (by decide), Memory.cell_of_lt _ (by decide),
      Memory.cell_of_lt _ (by decide)]
    decide
  refine ⟨after, ticked, ?_, ?_, ?_, ?_, ?_, fun address first second => ?_⟩
  · rw [hcpu]
    exact h.running
  · rw [hcpu]
    exact h.deaf
  · rw [fetch, hcpu, hmemory, h.pc]
    exact ((core.memory.sameBut_writeWord 2 0xe3e3).read apart).trans h.second
  · rw [hcpu]
  · rw [hcpu]
    exact h.hl
  · rw [hmemory]
    exact Memory.read_writeWord_of_eq rfl rfl fun _ _ => h.others address first second

/-- The second one writes over both. -/
theorem Pushing.exchanging {core : Core Bus} (h : core.Pushing 2) :
    ∃ after, core.tick = (.ok 11, after) ∧ after.Exchanging := by
  obtain ⟨after, ticked, hcpu, hmemory⟩ := h.tick (show (2 : UInt16) - 2 = 0 by decide)
  refine ⟨after, ticked, ⟨?_, ?_, fun address => ?_⟩, ?_⟩
  · rw [hcpu]
    exact h.running
  · rw [hcpu]
    exact h.deaf
  · rw [hmemory]
    exact Memory.read_writeWord_of_eq rfl rfl fun first second => h.others address first second
  · rw [hcpu]
    exact h.hl

/-- PUSH H twice, and XTHL from then on. -/
inductive Priming : Nat → Core Bus → Prop
  | primed {core : Core Bus} (h : core.Primed) : Priming 0 core
  | pushing {core : Core Bus} (h : core.Pushing 2) : Priming 11 core
  | exchanging {core : Core Bus} (n : Nat) (h : core.Exchanging) : Priming (22 + 18 * n) core

theorem loop_priming : Loop Priming where
  running holds := by
    cases holds with
    | primed h => exact h.running
    | pushing h => exact h.running
    | exchanging n h => exact h.running
  tick holds := by
    cases holds with
    | primed h =>
      obtain ⟨after, ticked, next⟩ := h.tick
      exact ⟨11, after, ticked, .pushing next⟩
    | pushing h =>
      obtain ⟨after, ticked, next⟩ := h.exchanging
      exact ⟨11, after, ticked, .exchanging 0 next⟩
    | exchanging n h =>
      obtain ⟨after, ticked, next⟩ := h.tick
      exact ⟨18, after, ticked, .exchanging (n + 1) next⟩
  request holds interrupt := by
    cases holds with
    | primed h => exact .primed (h.request interrupt)
    | pushing h => exact .pushing (h.request interrupt)
    | exchanging n h => exact .exchanging n (h.request interrupt)

end Arcade.Core

namespace Arcade.Machine

open Arcade.Core

/-- **A frame in a loop overflows its counter if the loop counts from below the budget to beyond the
limit.** -/
theorem exists_overflow_of_loop {P : Nat → Core Bus → Prop} {m : Machine} (loop : Loop P)
    (holds : P 0 m.core) (misses : ∀ ran core, P ran core → ran < 2 ^ 32 → ran < m.budget) :
    ∃ overflow : Overflow m,
      P (overflow.first.cycles + overflow.wrap.cycles) overflow.wrap.after := by
  rcases runUntil?_cases (m.budget / 2) 0 m.core with ⟨first, -, below⟩ | ⟨stop, -⟩ | ⟨⟨wrap⟩⟩
  · have mid := loop.stretch first.toStretch holds
    have counted := below (by decide)
    rw [Nat.zero_add] at mid counted
    have start := loop.request mid m.nextInterrupt
    rcases runUntil?_cases m.budget first.cycles (first.after.request m.nextInterrupt) with
      ⟨second, -, below⟩ | ⟨stop, -⟩ | ⟨⟨wrap⟩⟩
    · -- a loop does not halt, so the second part would have reached the budget
      have short := misses _ _ (loop.stretch second.toStretch start) (below counted)
      exact absurd (loop.reached start second) (Nat.not_le_of_lt short)
    · exact (loop.not_stop start stop).elim
    · exact ⟨⟨first, wrap⟩, loop.stretch wrap.toStretch start⟩
  · exact (loop.not_stop holds stop).elim
  · have great := wrap.great
    have small := m.budget_lt
    omega

/-- A machine that comes to 2^32 - 18 cycles, if its budget is greater. -/
def primed (settings : Settings) : Machine where
  core := {
    cpu := { sp := 4, h := 0xe3, l := 0xe3 }
    memory := ((Memory.filled 0xe3).write 0 0xe5).write 1 0xe5
    ports := {} }
  settings := settings

theorem primed_core (settings : Settings) : (primed settings).core.Primed where
  running := rfl
  deaf := rfl
  fetched := Memory.read_write_of_eq fun _ => Memory.read_write_self _ _ _
  sp := rfl
  hl := by
    change Word.ofBytes 0xe3 0xe3 = 0xe3e3
    decide
  others := by
    intro address first second
    have full := Memory.size_filled 0xe3
    change (((Memory.filled 0xe3).write 0 0xe5).write 1 0xe5).read address = 0xe3
    rw [Memory.read_write_of_ne (Memory.cell_ne_of_size (by rwa [Memory.size_write]) second.symm),
      Memory.read_write_of_ne (Memory.cell_ne_of_size full first.symm), Memory.read_filled]
  pc := rfl
  second := Memory.read_write_self _ _ _

/-- An overflow is on the way of the frame: its first part ends, and its second part goes on behind
the overflow from what is beyond the limit. -/
theorem Overflow.goes_on {m : Machine} (overflow : Overflow m) :
    ∃ beyond < 18,
      overflow.first.cycles + overflow.wrap.cycles + overflow.wrap.cost = 2 ^ 32 + beyond ∧
      m.core.runUntil? (m.budget / 2) 0 =
        some (.ok overflow.first.cycles, overflow.first.after) ∧
      (overflow.first.after.request m.nextInterrupt).runUntil? m.budget overflow.first.cycles =
        overflow.wrap.next.runUntil? m.budget beyond := by
  obtain ⟨-, cheap⟩ := cycles_of_tick overflow.wrap.running overflow.wrap.ticked
  have short := overflow.wrap.short
  have overflows := overflow.wrap.overflows
  have small := m.budget_lt
  have most := overflow.first.cycles_le
  have ended := overflow.first.toStretch.runUntil? (by omega)
  have reached := overflow.first.ended
  rw [Nat.zero_add] at ended reached
  exact ⟨overflow.first.cycles + overflow.wrap.cycles + overflow.wrap.cost - 0x100000000,
    by omega, by omega, ended.trans (runUntil?_of_over reached), overflow.wrap.runUntil? (by omega)⟩

/-- **The settings under which a frame can overflow its counter.** An instruction takes 18 cycles at
most, and begins below the budget. Behind an overflow the count is below 18, so the frame goes on as
if it had hardly begun. -/
theorem overflows_iff_of_settings (settings : Settings) :
    ((∃ m : Machine, m.settings = settings ∧ Nonempty (Overflow m)) ↔
      2 ^ 32 - 18 < settings.cyclesPerFrame.toNat) ∧
    ∀ m : Machine, m.settings = settings → ∀ overflow : Overflow m,
      ∃ beyond < 18,
        overflow.first.cycles + overflow.wrap.cycles + overflow.wrap.cost = 2 ^ 32 + beyond ∧
        m.core.runUntil? (m.budget / 2) 0 =
          some (.ok overflow.first.cycles, overflow.first.after) ∧
        (overflow.first.after.request m.nextInterrupt).runUntil? m.budget overflow.first.cycles =
          overflow.wrap.next.runUntil? m.budget beyond := by
  refine ⟨⟨?_, fun great => ?_⟩, fun m _ overflow => overflow.goes_on⟩
  · rintro ⟨m, rfl, ⟨overflow⟩⟩
    exact overflow.great
  · -- The loop counts 22 + 18 * n cycles, and 2^32 - 18 is such a number.
    have great' : 2 ^ 32 - 18 < (primed settings).budget := great
    have misses : ∀ ran core, Priming ran core → ran < 2 ^ 32 →
        ran < (primed settings).budget := by
      intro ran core holds below
      cases holds with
      | primed => omega
      | pushing => omega
      | exchanging n => omega
    obtain ⟨overflow, -⟩ :=
      exists_overflow_of_loop loop_priming (.primed (primed_core settings)) misses
    exact ⟨primed settings, rfl, ⟨overflow⟩⟩

/-- A machine with LDA in its whole memory, and a clock of 2^32 - 5 cycles for each picture. -/
def loading : Machine :=
  (new { clockSpeed := 4294967291, refreshRate := 1 }).mapCore (mapMemory fun _ => .filled 0x3a)

theorem budget_loading : loading.budget = 4294967291 := by
  decide

/-- After 2^32 - 9 cycles there are still some left, but not the 13 of an LDA. -/
theorem loading_overflows :
    ∃ overflow : Overflow loading,
      overflow.first.cycles + overflow.wrap.cycles = 2 ^ 32 - 9 ∧ overflow.wrap.cost = 13 := by
  have filled : loading.core.Filled 0x3a := ⟨rfl, rfl, Memory.read_filled 0x3a⟩
  obtain ⟨overflow, last, whole⟩ := exists_overflow_of_loop loop_lda ⟨filled, by decide⟩ (by
    rintro ran core ⟨-, whole⟩ below
    rw [budget_loading]
    omega)
  obtain ⟨after, ticked, -⟩ := last.tick_lda
  have cost : overflow.wrap.cost = 13 := by
    have same := overflow.wrap.ticked.symm.trans ticked
    rw [Prod.mk.injEq, Except.ok.injEq] at same
    exact same.1
  have short := overflow.wrap.short
  have overflows := overflow.wrap.overflows
  have budget := budget_loading
  exact ⟨overflow, by omega, cost⟩

end Arcade.Machine
