import Arcade.Proofs.Core.Policy

/-! # The processor and its ports

Of all instructions only IN and OUT have to do with the ports, and each of them uses one port once.
So a processor does the same with any two things behind its ports that answer alike.

* `Opcode.execute_of_quiet`: what any other instruction does, it does with any ports;
* `ports_next`: the ports after an instruction were used at most once;
* `Answers`: a relation between ports that give the same bytes and are related again after each use;
* `Twin`: cores that differ in their trace switches and their related ports only. Twins take the
  same step (`Twin.step`) and the same interrupt (`Twin.interrupt`), and are twins afterwards. -/

namespace Arcade

variable {δ ε : Type}

/-- The effect, with other ports. -/
def Effect.on (effect : Effect δ) (ports : ε) : Effect ε :=
  ⟨effect.cpu, effect.stores, ports, effect.taken⟩

/-- **An instruction that is neither IN nor OUT does not look at the ports.** -/
theorem Opcode.execute_of_quiet [Ports δ] [Ports ε] {op : Opcode} (reads : op ≠ .input)
    (writes : op ≠ .output) (cpu : Cpu) (memory : Memory) (p : δ) (q : ε) :
    op.execute cpu memory q = (op.execute cpu memory p).on q := by
  cases op with
  | mov target source => cases target <;> cases source <;> rfl
  | alu _ source => cases source <;> rfl
  | mvi target | inr target | dcr target => cases target <;> rfl
  | callIf condition | retIf condition =>
    simp only [execute]
    split_ifs <;> rfl
  | input => exact absurd rfl reads
  | output => exact absurd rfl writes
  | _ => rfl

namespace Core

/-- **The ports after an instruction**: as they were, or read once, or written once. -/
theorem ports_next [Ports δ] (core : Core δ) :
    core.next.ports = core.ports ∨ (∃ port, core.next.ports = (Ports.input port core.ports).2) ∨
      ∃ port value, core.next.ports = Ports.output port value core.ports := by
  have ports : core.next.ports = core.effect.ports := rfl
  rw [ports, effect]
  by_cases reads : core.opcode = .input
  · rw [reads]
    exact Or.inr (Or.inl ⟨_, rfl⟩)
  · by_cases writes : core.opcode = .output
    · rw [writes]
      exact Or.inr (Or.inr ⟨_, _, rfl⟩)
    · rw [Opcode.execute_of_quiet reads writes core.cpu core.memory core.ports]
      exact Or.inl rfl

end Core

/-! ### Ports that answer alike -/

/-- Related ports give the same bytes, and stay related whichever port is used. -/
structure Answers [Ports δ] [Ports ε] (R : δ → ε → Prop) : Prop where
  input : ∀ {p q}, R p q → ∀ port,
    (Ports.input port p).1 = (Ports.input port q).1 ∧
      R (Ports.input port p).2 (Ports.input port q).2
  output : ∀ {p q}, R p q → ∀ port value, R (Ports.output port value p) (Ports.output port value q)

/-- **An instruction does the same with ports that answer alike.** -/
theorem Opcode.execute_of_answers [Ports δ] [Ports ε] {R : δ → ε → Prop} (alike : Answers R)
    (op : Opcode) (cpu : Cpu) (memory : Memory) {p : δ} {q : ε} (h : R p q) :
    ∃ ports, op.execute cpu memory q = (op.execute cpu memory p).on ports ∧
      R (op.execute cpu memory p).ports ports := by
  by_cases reads : op = .input
  · subst reads
    obtain ⟨value, related⟩ := alike.input h (memory.read (cpu.pc + 1))
    refine ⟨_, ?_, related⟩
    simp only [execute, Effect.ofCpu, Effect.on, value]
  · by_cases writes : op = .output
    · subst writes
      exact ⟨_, rfl, alike.output h _ _⟩
    · have quiet : ∀ ports : δ, op.execute cpu memory ports = (op.execute cpu memory p).on ports :=
        execute_of_quiet reads writes cpu memory p
      have kept : (op.execute cpu memory p).ports = p := congrArg Effect.ports (quiet p)
      refine ⟨q, execute_of_quiet reads writes cpu memory p q, ?_⟩
      rw [kept]
      exact h

/-- A change of the processor that does not depend on the trace switch, but may set it. -/
def Cpu.Blind (change : Cpu → Cpu) : Prop :=
  ∀ (cpu : Cpu) (trace : Bool), ∃ trace', change { cpu with trace } =
    { change cpu with trace := trace' }

namespace Core

/-- Cores that differ in their trace switches only, with related ports. -/
structure Twin (R : δ → ε → Prop) (a : Core δ) (b : Core ε) : Prop where
  cpu : ∃ trace, b.cpu = { a.cpu with trace }
  memory : b.memory = a.memory
  ports : R a.ports b.ports

variable {R : δ → ε → Prop} {a : Core δ} {b : Core ε}

theorem Twin.halted (h : Twin R a b) : b.cpu.halted = a.cpu.halted := by
  obtain ⟨trace, same⟩ := h.cpu
  rw [same]

theorem Twin.fetch (h : Twin R a b) : b.fetch = a.fetch := by
  obtain ⟨trace, same⟩ := h.cpu
  rw [Core.fetch, Core.fetch, same, h.memory]

theorem Twin.refusal? (h : Twin R a b) : b.refusal? = a.refusal? := by
  obtain ⟨trace, same⟩ := h.cpu
  rw [Core.refusal?, Core.refusal?, h.fetch, same]
  rfl

/-- Twins remain twins when their processors are changed alike and their memories set alike. -/
theorem Twin.change (h : Twin R a b) {change : Cpu → Cpu} (blind : Cpu.Blind change)
    (memory : Memory) :
    Twin R ⟨change a.cpu, memory, a.ports⟩ ⟨change b.cpu, memory, b.ports⟩ := by
  obtain ⟨trace, same⟩ := h.cpu
  obtain ⟨trace', changed⟩ := blind a.cpu trace
  refine ⟨⟨trace', ?_⟩, rfl, h.ports⟩
  rw [same]
  exact changed

/-- **Twins take the same interrupts.** -/
theorem Twin.interrupt (h : Twin R a b) (vector : UInt16) :
    (b.interrupt vector).1 = (a.interrupt vector).1 ∧
      Twin R (a.interrupt vector).2 (b.interrupt vector).2 := by
  obtain ⟨cpu, memory, ports⟩ := b
  obtain ⟨⟨trace, rfl⟩, rfl, related⟩ := h
  unfold Core.interrupt
  split_ifs
  · exact ⟨rfl, ⟨trace, rfl⟩, rfl, related⟩
  · exact ⟨rfl, ⟨trace, rfl⟩, rfl, related⟩

variable [Ports δ] [Ports ε]

/-- The next instructions of twins have the same effect, but for the switch and the ports. -/
theorem Twin.effect (alike : Answers R) (h : Twin R a b) :
    ∃ trace ports, b.effect = (a.effect.switched a.cpu.strict trace).on ports ∧
      R a.effect.ports ports := by
  obtain ⟨trace, same⟩ := h.cpu
  obtain ⟨ports, alike, related⟩ := a.opcode.execute_of_answers alike b.cpu a.memory h.ports
  have switched : a.opcode.execute b.cpu a.memory a.ports =
      a.effect.switched a.cpu.strict trace := by
    rw [same]
    exact a.opcode.execute_switched a.cpu a.memory a.ports a.cpu.strict trace
  rw [switched] at alike related
  refine ⟨trace, ports, ?_, related⟩
  rw [Core.effect, opcode, h.fetch, h.memory]
  exact alike

theorem Twin.cost (alike : Answers R) (h : Twin R a b) : b.cost = a.cost := by
  obtain ⟨trace, ports, same, -⟩ := h.effect alike
  rw [Core.cost, Core.cost, same, opcode, h.fetch]
  rfl

theorem Twin.next (alike : Answers R) (h : Twin R a b) : Twin R a.next b.next := by
  obtain ⟨trace, ports, same, related⟩ := h.effect alike
  have strict : a.effect.cpu.strict = a.cpu.strict := a.strict_next
  rw [Core.next, Core.next, h.cost alike, same, h.memory]
  refine ⟨⟨trace, ?_⟩, rfl, related⟩
  simp only [afterEffect, Effect.on, Effect.switched, Cpu.switched, ← strict]

/-- **Twins take the same steps**, and are twins afterwards. -/
theorem Twin.step (alike : Answers R) (h : Twin R a b) :
    b.step.1 = a.step.1 ∧ Twin R a.step.2 b.step.2 := by
  cases halted : a.cpu.halted with
  | true =>
    rw [step_of_halted halted, step_of_halted (h.halted.trans halted)]
    exact ⟨rfl, h⟩
  | false =>
    have running := h.halted.trans halted
    cases refused : a.refusal? with
    | some fault =>
      rw [step_of_refused halted refused, step_of_refused running (h.refusal?.trans refused)]
      exact ⟨rfl, h⟩
    | none =>
      rw [step_of_accepted halted refused, step_of_accepted running (h.refusal?.trans refused)]
      exact ⟨congrArg Except.ok (h.cost alike), h.next alike⟩

end Core

end Arcade
