import Arcade.Proofs.Core.History
import Mathlib.Tactic.SplitIfs

/-! # The policy for undocumented bytes

A strict processor refuses undocumented bytes and a lenient one takes them as others. The switch
that says which, like the one for reports, is read before an instruction and by no instruction: with
the switches set otherwise an instruction does the same (`execute_switched`), and so does an
interrupt.

* `next_switched`, `interrupt_switched`: the two ways a core moves on, with the switches set
  otherwise;
* `act_lenient`, `history_lenient`: what a core does it also does if it is lenient;
* `history_of_lenient`: a lenient core is never refused anything;
* `strict_only_restricts`: these together, with when and how a step fails. -/

namespace Arcade

variable {δ : Type}

/-! ### The switches -/

/-- The processor with its two switches set. -/
def Cpu.switched (cpu : Cpu) (strict trace : Bool) : Cpu :=
  { cpu with strict, trace }

/-- The effect with the two switches set. -/
def Effect.switched (effect : Effect δ) (strict trace : Bool) : Effect δ :=
  { effect with cpu := effect.cpu.switched strict trace }

/-- The core with the two switches set. -/
def Core.switched (core : Core δ) (strict trace : Bool) : Core δ :=
  { core with cpu := core.cpu.switched strict trace }

/-- **No instruction reads or sets a switch.** -/
theorem Opcode.execute_switched [Ports δ] (op : Opcode) (cpu : Cpu) (memory : Memory) (ports : δ)
    (strict trace : Bool) :
    op.execute (cpu.switched strict trace) memory ports =
      (op.execute cpu memory ports).switched strict trace := by
  have holds : ∀ condition : Condition,
      condition.holds (cpu.switched strict trace).flags = condition.holds cpu.flags := fun _ => rfl
  cases op with
  | mov target source => cases target <;> cases source <;> rfl
  | alu _ source => cases source <;> rfl
  | mvi target | inr target | dcr target => cases target <;> rfl
  | lxi target | inx target | dcx target | dad target => cases target <;> rfl
  | ldax pointer | stax pointer => cases pointer <;> rfl
  | push source | pop source => cases source <;> rfl
  | jumpIf condition | callIf condition | retIf condition =>
    simp only [execute, holds]
    split_ifs <;> rfl
  | _ => rfl

/-- An instruction leaves the switches as they are. -/
theorem Opcode.switched_execute [Ports δ] (op : Opcode) (cpu : Cpu) (memory : Memory) (ports : δ) :
    (op.execute cpu memory ports).switched cpu.strict cpu.trace = op.execute cpu memory ports :=
  (op.execute_switched cpu memory ports cpu.strict cpu.trace).symm

namespace Core

theorem interrupt_switched (core : Core δ) (vector : UInt16) (strict trace : Bool) :
    (core.switched strict trace).interrupt vector =
      ((core.interrupt vector).1, (core.interrupt vector).2.switched strict trace) := by
  cases h : core.cpu.interruptsEnabled with
  | true => simp only [interrupt, switched, Cpu.switched, h, if_true]
  | false =>
    have h' : (core.switched strict trace).cpu.interruptsEnabled = false := h
    rw [interrupt_of_disabled h, interrupt_of_disabled h']

theorem strict_interrupt (core : Core δ) (vector : UInt16) :
    (core.interrupt vector).2.cpu.strict = core.cpu.strict := by
  unfold interrupt
  split_ifs <;> rfl

theorem trace_interrupt (core : Core δ) (vector : UInt16) :
    (core.interrupt vector).2.cpu.trace = core.cpu.trace := by
  unfold interrupt
  split_ifs <;> rfl

variable [Ports δ]

theorem effect_switched (core : Core δ) (strict trace : Bool) :
    (core.switched strict trace).effect = core.effect.switched strict trace :=
  core.opcode.execute_switched core.cpu core.memory core.ports strict trace

theorem cost_switched (core : Core δ) (strict trace : Bool) :
    (core.switched strict trace).cost = core.cost := by
  rw [cost, effect_switched]
  rfl

theorem next_switched (core : Core δ) (strict trace : Bool) :
    (core.switched strict trace).next = core.next.switched strict trace := by
  rw [next, effect_switched, cost_switched]
  rfl

theorem strict_next (core : Core δ) : core.next.cpu.strict = core.cpu.strict := by
  rw [next, effect, ← Opcode.switched_execute]
  rfl

theorem trace_next (core : Core δ) : core.next.cpu.trace = core.cpu.trace := by
  rw [next, effect, ← Opcode.switched_execute]
  rfl

/-- No step sets a switch, whether it succeeds or fails. -/
theorem switches_step (core : Core δ) :
    core.step.2.cpu.strict = core.cpu.strict ∧ core.step.2.cpu.trace = core.cpu.trace := by
  cases halted : core.cpu.halted with
  | true =>
    rw [step_of_halted halted]
    exact ⟨rfl, rfl⟩
  | false =>
    cases refused : core.refusal? with
    | some fault =>
      rw [step_of_refused halted refused]
      exact ⟨rfl, rfl⟩
    | none =>
      rw [step_of_accepted halted refused]
      exact ⟨core.strict_next, core.trace_next⟩

end Core

/-! ### The lenient policy -/

/-- The core with undocumented bytes taken as others. -/
def Core.lenient (core : Core δ) : Core δ :=
  { core with cpu := { core.cpu with strict := false } }

/-- The event with both its cores lenient. -/
def Core.Event.lenient (event : Core.Event δ) : Core.Event δ :=
  { event with before := event.before.lenient, after := event.after.lenient }

namespace Core

theorem refusal?_of_lenient {core : Core δ} (h : core.cpu.strict = false) :
    core.refusal? = none := by
  rw [refusal?_eq_none_iff, h]
  exact nofun

theorem switched_eq_lenient {core : Core δ} {trace : Bool} (h : core.cpu.trace = trace) :
    core.switched false trace = core.lenient := by
  subst h
  rfl

theorem lenient_interrupt (core : Core δ) (vector : UInt16) :
    core.lenient.interrupt vector =
      ((core.interrupt vector).1, (core.interrupt vector).2.lenient) := by
  rw [← switched_eq_lenient rfl, interrupt_switched,
    switched_eq_lenient (core.trace_interrupt vector)]

variable [Ports δ]

theorem lenient_next (core : Core δ) : core.lenient.next = core.next.lenient := by
  rw [← switched_eq_lenient rfl, next_switched, switched_eq_lenient core.trace_next]

/-- What an action comes to, it comes to under the lenient policy. -/
theorem act_lenient {core after : Core δ} {action : Action} {answer : Answer}
    (h : core.act action = .ok (answer, after)) :
    core.lenient.act action = .ok (answer, after.lenient) := by
  cases action with
  | step =>
    obtain ⟨cycles, rfl, stepped⟩ := act_step_eq_ok_iff.mp h
    refine act_step_eq_ok_iff.mpr ⟨cycles, rfl, step_eq_ok_iff.mpr ?_⟩
    rcases step_eq_ok_iff.mp stepped with ⟨halted, hcycles, rfl⟩ | ⟨running, -, rfl, rfl⟩
    · exact Or.inl ⟨halted, hcycles, rfl⟩
    · refine Or.inr ⟨running, refusal?_of_lenient rfl, ?_, (lenient_next core).symm⟩
      exact (core.cost_switched false core.cpu.trace).symm
  | interrupt vector =>
    rw [act_interrupt] at h
    cases h
    rw [act_interrupt, lenient_interrupt]

/-- A lenient core answers every action and stays lenient. -/
theorem act_of_lenient {core : Core δ} (h : core.cpu.strict = false) (action : Action) :
    ∃ answer after, core.act action = .ok (answer, after) ∧ after.cpu.strict = false := by
  cases action with
  | step =>
    cases hh : core.cpu.halted with
    | true => exact ⟨_, core, act_step_eq_ok_iff.mpr ⟨0, rfl, step_of_halted hh⟩, h⟩
    | false =>
      have stepped := step_of_accepted hh (refusal?_of_lenient h)
      exact ⟨_, core.next, act_step_eq_ok_iff.mpr ⟨core.cost, rfl, stepped⟩,
        (strict_next core).trans h⟩
  | interrupt vector =>
    exact ⟨_, _, act_interrupt core vector, (strict_interrupt core vector).trans h⟩

theorem history_lenient {core : Core δ} {actions : List Action} {events : List (Event δ)}
    (h : core.history actions = .ok events) :
    core.lenient.history actions = .ok (events.map Event.lenient) := by
  induction actions generalizing core events with
  | nil =>
    cases h
    rfl
  | cons action actions ih =>
    obtain ⟨answer, after, rest, acted, later, rfl⟩ := history_cons_eq_ok_iff.mp h
    exact history_cons_eq_ok_iff.mpr
      ⟨answer, after.lenient, rest.map Event.lenient, act_lenient acted, ih later, rfl⟩

theorem history_of_lenient {core : Core δ} (h : core.cpu.strict = false) (actions : List Action) :
    ∃ events, core.history actions = .ok events := by
  induction actions generalizing core with
  | nil => exact ⟨[], rfl⟩
  | cons action actions ih =>
    obtain ⟨answer, after, acted, stays⟩ := act_of_lenient h action
    obtain ⟨rest, later⟩ := ih stays
    exact ⟨_, history_cons_eq_ok_iff.mpr ⟨answer, after, rest, acted, later, rfl⟩⟩

/-- **The strict policy only restricts.** A running core fails at exactly the undocumented bytes,
if it is strict, and names the byte and its address; nothing changes then. A lenient core goes
through any history, and one that any core goes through a lenient one goes through alike. -/
theorem strict_only_restricts (core : Core δ) :
    ((∃ fault after, core.step = (.error fault, after)) ↔
      core.cpu.halted = false ∧ core.cpu.strict = true ∧
        (Opcode.alias? core.fetch).isSome = true) ∧
    (∀ fault after, core.step = (.error fault, after) →
      fault = ⟨core.fetch, core.cpu.pc⟩ ∧ after = core) ∧
    (core.cpu.strict = false → ∀ actions, ∃ events, core.history actions = .ok events) ∧
    ∀ actions events, core.history actions = .ok events →
      core.lenient.history actions = .ok (events.map Event.lenient) :=
  ⟨step_fails_iff, fun _ _ => eq_of_step_error, history_of_lenient, fun _ _ => history_lenient⟩

end Core

end Arcade
