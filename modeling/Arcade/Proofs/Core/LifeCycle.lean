import Arcade.Proofs.Core.History
import Arcade.Proofs.Cpu.Encoding
import Arcade.Proofs.Memory

/-! # Halting and waking up

A processor halts at HLT and is woken up by an interrupt. It accepts one only while interrupts are
enabled, and then has to enable them again itself.

* `switches_execute`: HLT is the only opcode that halts, EI and DI are the only ones that switch
  interrupts on and off;
* `Interrupted`: what an accepted interrupt does, `interrupted_of_enabled`;
* `Event.Lawful`: what one event can do, `lawful_of_acted`;
* `LifeCycle`: **what events one after the other can do**, `lifeCycle_of_linked`;
* `Inert`: a core that is halted for good, `history_of_inert`. -/

namespace Arcade

variable {δ : Type}

/-! ### Two switches of the processor -/

theorem Cpu.switches_put (cpu : Cpu) (ports : δ) (target : Operand) (value : UInt8) :
    (cpu.put ports target value).cpu.halted = cpu.halted ∧
      (cpu.put ports target value).cpu.interruptsEnabled = cpu.interruptsEnabled := by
  cases target <;> exact ⟨rfl, rfl⟩

namespace Opcode

theorem switches_execute [Ports δ] (op : Opcode) (cpu : Cpu) (memory : Memory) (ports : δ) :
    (op.execute cpu memory ports).cpu.halted = (op == hlt || cpu.halted) ∧
      (op.execute cpu memory ports).cpu.interruptsEnabled =
        (op == ei || op != di && cpu.interruptsEnabled) := by
  cases op with
  | mov target _ | mvi target | inr target | dcr target => exact Cpu.switches_put _ ports target _
  | lxi target | inx target | dcx target | dad target => cases target <;> exact ⟨rfl, rfl⟩
  | pop target => cases target <;> exact ⟨rfl, rfl⟩
  | jumpIf _ | callIf _ | retIf _ =>
    simp only [execute]
    split_ifs <;> exact ⟨rfl, rfl⟩
  | _ => exact ⟨rfl, rfl⟩

theorem ofByte_eq_hlt_iff {byte : UInt8} : ofByte byte = hlt ↔ byte = 0x76 :=
  forall_byte (p := fun byte => ofByte byte = hlt ↔ byte = 0x76) (by decide +kernel) byte

theorem ofByte_eq_ei_iff {byte : UInt8} : ofByte byte = ei ↔ byte = 0xfb :=
  forall_byte (p := fun byte => ofByte byte = ei ↔ byte = 0xfb) (by decide +kernel) byte

end Opcode

namespace Core

/-! ### Interrupts -/

/-- The processor has called a vector, with interrupts disabled, whether it was halted or not: the
address it stood at is pushed. -/
structure Interrupted (core : Core δ) (vector : UInt16) (after : Core δ) : Prop where
  cpu : after.cpu =
    { core.cpu with
      pc := vector
      sp := core.cpu.sp - 2
      interruptsEnabled := false
      halted := false
      cycles := after.cpu.cycles }
  memory : after.memory = core.memory.writeWord (core.cpu.sp - 2) core.cpu.pc
  ports : after.ports = core.ports

theorem interrupted_of_enabled {core : Core δ} (h : core.cpu.interruptsEnabled = true)
    (vector : UInt16) :
    (core.interrupt vector).1 = true ∧ core.Interrupted vector (core.interrupt vector).2 := by
  simp only [interrupt, h, if_true]
  exact ⟨trivial, rfl, rfl, rfl⟩

theorem Interrupted.running {core after : Core δ} {vector : UInt16}
    (h : core.Interrupted vector after) : after.cpu.halted = false := by
  rw [h.cpu]

theorem Interrupted.disabled {core after : Core δ} {vector : UInt16}
    (h : core.Interrupted vector after) : after.cpu.interruptsEnabled = false := by
  rw [h.cpu]

/-- The address a processor was interrupted at is on top of its stack. -/
theorem Interrupted.top {core after : Core δ} {vector : UInt16}
    (h : core.Interrupted vector after) :
    after.memory.readWord after.cpu.sp = core.cpu.pc := by
  have sp : after.cpu.sp = core.cpu.sp - 2 := by
    rw [h.cpu]
  rw [sp, h.memory, Memory.readWord, Memory.read_writeWord_low, Memory.read_writeWord_high,
    Word.ofBytes_high_low]

/-! ### One event -/

/-- An interrupt request that was accepted. -/
def Event.Accepted (event : Event δ) : Prop :=
  event.answer = .requested true

/-- A step of a running processor that stands at a byte. -/
structure Event.Executes (event : Event δ) (byte : UInt8) : Prop where
  action : event.action = .step
  running : event.before.cpu.halted = false
  fetched : event.before.fetch = byte

/-- An event keeps to these rules. -/
structure Event.Lawful (event : Event δ) : Prop where
  /-- A request is accepted exactly if interrupts are enabled, and otherwise has no effect. -/
  request : ∀ vector, event.action = .interrupt vector →
    event.before.cpu.interruptsEnabled = true ∧ event.Accepted ∧
        event.before.Interrupted vector event.after ∨
      event.before.cpu.interruptsEnabled = false ∧ event.answer = .requested false ∧
        event.after = event.before
  /-- Only HLT halts, and leaves the program counter behind it. -/
  halts : event.before.cpu.halted = false → event.after.cpu.halted = true →
    event.Executes 0x76 ∧ event.after.cpu.pc = event.before.cpu.pc + 1
  /-- Only an interrupt that is accepted wakes the processor up. -/
  wakes : event.before.cpu.halted = true → event.after.cpu.halted = false →
    event.Accepted ∧ ∃ vector, event.action = .interrupt vector ∧
      event.before.Interrupted vector event.after
  /-- Only EI enables interrupts. -/
  enables : event.before.cpu.interruptsEnabled = false →
    event.after.cpu.interruptsEnabled = true → event.Executes 0xfb
  /-- A halted processor takes no time for a step, and does nothing. -/
  sleeps : event.before.cpu.halted = true → event.action = .step →
    event.answer = .took 0 ∧ event.after = event.before

variable [Ports δ]

theorem halted_next (core : Core δ) :
    core.next.cpu.halted = (core.opcode == .hlt || core.cpu.halted) :=
  (core.opcode.switches_execute core.cpu core.memory core.ports).1

theorem interruptsEnabled_next (core : Core δ) :
    core.next.cpu.interruptsEnabled =
      (core.opcode == .ei || core.opcode != .di && core.cpu.interruptsEnabled) :=
  (core.opcode.switches_execute core.cpu core.memory core.ports).2

theorem fetch_of_halts {core : Core δ} (running : core.cpu.halted = false)
    (halts : core.next.cpu.halted = true) :
    core.fetch = 0x76 ∧ core.next.cpu.pc = core.cpu.pc + 1 := by
  rw [halted_next, running, Bool.or_false, beq_iff_eq] at halts
  refine ⟨Opcode.ofByte_eq_hlt_iff.mp halts, ?_⟩
  rw [next, effect, halts]
  rfl

theorem fetch_of_enables {core : Core δ} (disabled : core.cpu.interruptsEnabled = false)
    (enables : core.next.cpu.interruptsEnabled = true) : core.fetch = 0xfb := by
  rw [interruptsEnabled_next, disabled, Bool.and_false, Bool.or_false, beq_iff_eq] at enables
  exact Opcode.ofByte_eq_ei_iff.mp enables

/-- What an event can be: a step of a halted processor or of a running one, or a request that is
accepted or dropped. -/
inductive Event.Outcome : Event δ → Prop
  | asleep {core : Core δ} (halted : core.cpu.halted = true) :
      Outcome ⟨core, .step, .took 0, core⟩
  | executed {core : Core δ} (running : core.cpu.halted = false) :
      Outcome ⟨core, .step, .took core.cost, core.next⟩
  | accepted {core after : Core δ} {vector : UInt16}
      (enabled : core.cpu.interruptsEnabled = true) (interrupted : core.Interrupted vector after) :
      Outcome ⟨core, .interrupt vector, .requested true, after⟩
  | dropped {core : Core δ} {vector : UInt16} (disabled : core.cpu.interruptsEnabled = false) :
      Outcome ⟨core, .interrupt vector, .requested false, core⟩

theorem Event.Acted.outcome {event : Event δ} (h : event.Acted) : event.Outcome := by
  obtain ⟨core, action, answer, after⟩ := event
  cases action with
  | step =>
    obtain ⟨cycles, rfl, (stepped : core.step = (.ok cycles, after))⟩ := act_step_eq_ok_iff.mp h
    rcases step_eq_ok_iff.mp stepped with ⟨halted, rfl, rfl⟩ | ⟨running, -, rfl, rfl⟩
    · exact .asleep halted
    · exact .executed running
  | interrupt vector =>
    have acted := (act_interrupt core vector).symm.trans h
    obtain ⟨answered, came⟩ := Prod.mk.inj (Except.ok.inj acted)
    subst answered came
    cases enabled : core.cpu.interruptsEnabled with
    | true =>
      obtain ⟨yes, interrupted⟩ := interrupted_of_enabled enabled vector
      rw [yes]
      exact .accepted enabled interrupted
    | false =>
      rw [interrupt_of_disabled enabled]
      exact .dropped enabled

/-- **Every event keeps to the rules.** -/
theorem lawful_of_acted {event : Event δ} (h : event.Acted) : event.Lawful := by
  cases h.outcome with
  | asleep halted =>
    exact
      { request := nofun
        halts := fun running => absurd (running.symm.trans halted) nofun
        wakes := fun halted running => absurd (running.symm.trans halted) nofun
        enables := fun disabled enabled => absurd (disabled.symm.trans enabled) nofun
        sleeps := fun _ _ => ⟨rfl, rfl⟩ }
  | executed running =>
    exact
      { request := nofun
        halts := fun _ halts =>
          ⟨⟨rfl, running, (fetch_of_halts running halts).1⟩, (fetch_of_halts running halts).2⟩
        wakes := fun halted _ => absurd (running.symm.trans halted) nofun
        enables := fun disabled enables => ⟨rfl, running, fetch_of_enables disabled enables⟩
        sleeps := fun halted _ => absurd (running.symm.trans halted) nofun }
  | accepted enabled interrupted =>
    exact
      { request := fun _ requested => by
          cases requested
          exact Or.inl ⟨enabled, rfl, interrupted⟩
        halts := fun _ halted => absurd (interrupted.running.symm.trans halted) nofun
        wakes := fun _ _ => ⟨rfl, _, rfl, interrupted⟩
        enables := fun disabled _ => absurd (disabled.symm.trans enabled) nofun
        sleeps := nofun }
  | dropped disabled =>
    exact
      { request := fun _ _ => Or.inr ⟨disabled, rfl, rfl⟩
        halts := fun running halted => absurd (running.symm.trans halted) nofun
        wakes := fun halted running => absurd (running.symm.trans halted) nofun
        enables := fun _ enabled => absurd (disabled.symm.trans enabled) nofun
        sleeps := nofun }

/-! ### Events one after the other -/

/-- A request is accepted if interrupts are enabled, and disables them. -/
theorem Event.Acted.switches_of_accepted {event : Event δ} (h : event.Acted)
    (accepted : event.Accepted) :
    event.before.cpu.interruptsEnabled = true ∧ event.after.cpu.interruptsEnabled = false := by
  cases h.outcome with
  | accepted enabled interrupted => exact ⟨enabled, interrupted.disabled⟩
  | _ => cases accepted

/-- Interrupts stay disabled until EI is executed. -/
theorem Event.Acted.stays_disabled {event : Event δ} (h : event.Acted)
    (disabled : event.before.cpu.interruptsEnabled = false) (other : ¬ event.Executes 0xfb) :
    event.after.cpu.interruptsEnabled = false :=
  eq_false_of_ne_true fun enabled => other ((lawful_of_acted h).enables disabled enabled)

/-- An event that does not wake a halted processor up does nothing. -/
theorem Event.Acted.eq_of_halted {event : Event δ} (h : event.Acted)
    (halted : event.before.cpu.halted = true) (halted' : event.after.cpu.halted = true) :
    event.after = event.before := by
  cases h.outcome with
  | asleep _ | dropped _ => rfl
  | executed running => exact absurd (running.symm.trans halted) nofun
  | accepted _ interrupted => exact absurd (interrupted.running.symm.trans halted') nofun

/-- A core with a processor that is halted and accepts no interrupt. -/
structure Inert (core : Core δ) : Prop where
  halted : core.cpu.halted = true
  disabled : core.cpu.interruptsEnabled = false

theorem Event.Acted.eq_of_inert {event : Event δ} (h : event.Acted) (inert : event.before.Inert) :
    event.after = event.before := by
  cases h.outcome with
  | asleep _ | dropped _ => rfl
  | executed running => exact absurd (running.symm.trans inert.halted) nofun
  | accepted enabled _ => exact absurd (inert.disabled.symm.trans enabled) nofun

/-- What can happen to a core, by steps and interrupt requests in any order. -/
structure LifeCycle (core : Core δ) (events : List (Event δ)) : Prop where
  lawful : ∀ event ∈ events, event.Lawful
  /-- Between two interrupts that are accepted EI is executed. -/
  rearmed : ∀ (earlier between later : List (Event δ)) (first second : Event δ),
    events = earlier ++ first :: (between ++ second :: later) →
    first.Accepted → second.Accepted → ∃ event ∈ between, event.Executes 0xfb
  /-- While a processor is halted nothing happens to it. So an interrupt that wakes it up pushes the
  address it was halted at. -/
  woken : ∀ (earlier between later : List (Event δ)) (waking : Event δ),
    events = earlier ++ (between ++ waking :: later) →
    (core.last earlier).cpu.halted = true → (∀ event ∈ between, event.after.cpu.halted = true) →
    waking.before = core.last earlier ∧
      (waking.after.cpu.halted = false →
        waking.after.memory.readWord waking.after.cpu.sp = (core.last earlier).cpu.pc)
  /-- A processor that is halted with interrupts disabled is halted for good. -/
  ended : ∀ earlier later : List (Event δ), events = earlier ++ later →
    (core.last earlier).Inert →
      ∀ event ∈ later, event.before = core.last earlier ∧ event.after = core.last earlier

/-- Interrupts are disabled by one interrupt and enabled at the next one. -/
theorem Linked.rearmed {core : Core δ} {between : List (Event δ)} {first second : Event δ}
    {later : List (Event δ)} (linked : core.Linked (first :: (between ++ second :: later)))
    (accepted : first.Accepted) (accepted' : second.Accepted) :
    ∃ event ∈ between, event.Executes 0xfb := by
  obtain ⟨-, acted, rest⟩ := linked
  obtain ⟨linked, before, acted', -⟩ := linked_append.mp rest
  by_contra none
  -- the first request disables interrupts, and no event after it enables them
  have still : (first.after.last between).cpu.interruptsEnabled = false :=
    linked.last_of_kept (P := fun core => core.cpu.interruptsEnabled = false)
      (fun event among disabled =>
        (linked.acted event among).stays_disabled disabled fun executes =>
          none ⟨event, among, executes⟩)
      (acted.switches_of_accepted accepted).2
  rw [← before, (acted'.switches_of_accepted accepted').1] at still
  cases still

/-- The interrupt that wakes a processor up finds it as it was halted. -/
theorem Linked.woken {core : Core δ} {between : List (Event δ)} {waking : Event δ}
    {later : List (Event δ)} (linked : core.Linked (between ++ waking :: later))
    (halted : core.cpu.halted = true) (asleep : ∀ event ∈ between, event.after.cpu.halted = true) :
    waking.before = core ∧
      (waking.after.cpu.halted = false →
        waking.after.memory.readWord waking.after.cpu.sp = core.cpu.pc) := by
  obtain ⟨linked, before, acted, -⟩ := linked_append.mp linked
  have still : core.last between = core :=
    linked.last_of_kept (P := (· = core))
      (fun event among same => by
        have halted : event.before.cpu.halted = true := by
          rw [same]
          exact halted
        exact ((linked.acted event among).eq_of_halted halted (asleep event among)).trans same) rfl
  rw [still] at before
  refine ⟨before, fun running => ?_⟩
  rw [← before] at halted ⊢
  obtain ⟨-, vector, -, interrupted⟩ := (lawful_of_acted acted).wakes halted running
  exact interrupted.top

theorem Linked.ended {core : Core δ} {events : List (Event δ)} (linked : core.Linked events)
    (inert : core.Inert) : ∀ event ∈ events, event.before = core ∧ event.after = core := by
  induction events with
  | nil => exact List.forall_mem_nil _
  | cons event events ih =>
    obtain ⟨rfl, acted, rest⟩ := linked
    have same := acted.eq_of_inert inert
    rw [same] at rest
    exact List.forall_mem_cons.mpr ⟨⟨rfl, same⟩, ih rest⟩

/-- **Whatever happens to a core keeps to its life cycle.** -/
theorem lifeCycle_of_linked {core : Core δ} {events : List (Event δ)}
    (linked : core.Linked events) : core.LifeCycle events where
  lawful event among := lawful_of_acted (linked.acted event among)
  rearmed := by
    rintro earlier between later first second rfl
    exact (linked_append.mp linked).2.rearmed
  woken := by
    rintro earlier between later waking rfl
    exact (linked_append.mp linked).2.woken
  ended := by
    rintro earlier later rfl
    exact (linked_append.mp linked).2.ended

/-- What a core answers that does nothing. -/
def Action.ignored : Action → Answer
  | .step => .took 0
  | .interrupt _ => .requested false

/-- **An inert core answers everything and stays as it is.** -/
theorem history_of_inert {core : Core δ} (inert : core.Inert) (actions : List Action) :
    core.history actions =
      .ok (actions.map fun action => ⟨core, action, action.ignored, core⟩) := by
  induction actions with
  | nil => rfl
  | cons action actions ih =>
    have ignored : core.act action = .ok (action.ignored, core) := by
      cases action with
      | step => exact act_step_eq_ok_iff.mpr ⟨0, rfl, step_of_halted inert.halted⟩
      | interrupt vector =>
        rw [act_interrupt, interrupt_of_disabled inert.disabled]
        rfl
    exact history_cons_eq_ok_iff.mpr ⟨_, core, _, ignored, ih, rfl⟩

end Core

end Arcade
