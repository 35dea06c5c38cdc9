import Arcade.Proofs.Core.Step

/-! # Histories

Steps and interrupt requests in any order, with all that came of them.

* `act`: what one action comes to;
* `history`: what a list of actions comes to, an event for each action, unless one is refused;
* `act_step_eq_ok_iff`, `history_cons_eq_ok_iff`: when they are not refused;
* `Linked`: each event begins where the one before it led to, which is `last` at the end; so do
  those of a history (`linked_of_history`), and so do the parts of such events (`linked_append`);
* `Linked.last_of_kept`: what each event keeps, all of them keep. -/

namespace Arcade.Core

/-- What can happen to a core from outside. -/
inductive Action
  | step
  | interrupt (vector : UInt16)
  deriving DecidableEq, Repr

/-- The answer to an action that is not refused. -/
inductive Answer
  /-- The cycles a step took. -/
  | took (cycles : Nat)
  /-- Whether an interrupt was accepted. -/
  | requested (accepted : Bool)
  deriving DecidableEq, Repr

/-- One action of a history, between the core before it and the core after it. -/
structure Event (δ : Type) where
  before : Core δ
  action : Action
  answer : Answer
  after : Core δ

variable {δ : Type} [Ports δ]

/-- What an action comes to: the answer and the core afterwards, or why a step was refused. -/
def act (core : Core δ) : Action → Except Fault (Answer × Core δ)
  | .step =>
    match core.step with
    | (.error fault, _) => .error fault
    | (.ok cycles, after) => .ok (.took cycles, after)
  | .interrupt vector =>
    let (accepted, after) := core.interrupt vector
    .ok (.requested accepted, after)

/-- The events of actions one after the other, unless a step is refused. -/
def history (core : Core δ) : List Action → Except Fault (List (Event δ))
  | [] => .ok []
  | action :: actions => do
    let (answer, after) ← core.act action
    let events ← after.history actions
    .ok (⟨core, action, answer, after⟩ :: events)

theorem act_step_eq_ok_iff {core after : Core δ} {answer : Answer} :
    core.act .step = .ok (answer, after) ↔
      ∃ cycles, answer = .took cycles ∧ core.step = (.ok cycles, after) := by
  unfold act
  match core.step with
  | (.error fault, _) => simp
  | (.ok cycles, _) =>
    simp only [Except.ok.injEq, Prod.mk.injEq]
    constructor
    · rintro ⟨rfl, rfl⟩
      exact ⟨cycles, rfl, rfl, rfl⟩
    · rintro ⟨_, rfl, rfl, rfl⟩
      exact ⟨rfl, rfl⟩

/-- A documented instruction is executed, whatever the policy. -/
theorem act_step_of_documented {core : Core δ} (running : core.cpu.halted = false)
    (documented : Opcode.alias? core.fetch = none) :
    core.act .step = .ok (.took core.cost, core.next) :=
  act_step_eq_ok_iff.mpr ⟨_, rfl, step_of_accepted running (refusal?_of_documented documented)⟩

theorem act_interrupt (core : Core δ) (vector : UInt16) :
    core.act (.interrupt vector) =
      .ok (.requested (core.interrupt vector).1, (core.interrupt vector).2) := rfl

@[simp]
theorem history_nil (core : Core δ) : core.history [] = .ok [] := rfl

/-- A computation that succeeds has succeeded in both its parts. -/
theorem bind_eq_ok_iff {ε α β : Type} {x : Except ε α} {f : α → Except ε β} {y : β} :
    x >>= f = .ok y ↔ ∃ a, x = .ok a ∧ f a = .ok y := by
  cases x with
  | error e => simp [bind, Except.bind]
  | ok a => simp [bind, Except.bind]

theorem history_cons_eq_ok_iff {core : Core δ} {action : Action} {actions : List Action}
    {events : List (Event δ)} :
    core.history (action :: actions) = .ok events ↔
      ∃ answer after rest, core.act action = .ok (answer, after) ∧
        after.history actions = .ok rest ∧ events = ⟨core, action, answer, after⟩ :: rest := by
  rw [history, bind_eq_ok_iff]
  constructor
  · rintro ⟨⟨answer, after⟩, acted, h⟩
    obtain ⟨rest, later, h⟩ := bind_eq_ok_iff.mp h
    cases h
    exact ⟨answer, after, rest, acted, later, rfl⟩
  · rintro ⟨answer, after, rest, acted, later, rfl⟩
    exact ⟨(answer, after), acted, bind_eq_ok_iff.mpr ⟨rest, later, rfl⟩⟩

/-! ### Events one after the other -/

/-- An event is what its action comes to. -/
def Event.Acted (event : Event δ) : Prop :=
  event.before.act event.action = .ok (event.answer, event.after)

/-- The core some events lead to. -/
def last (core : Core δ) : List (Event δ) → Core δ
  | [] => core
  | event :: events => event.after.last events

/-- Each event begins at the core the one before it led to, the first one at the given core. -/
def Linked (core : Core δ) : List (Event δ) → Prop
  | [] => True
  | event :: events => event.before = core ∧ event.Acted ∧ event.after.Linked events

theorem linked_of_history {core : Core δ} {actions : List Action} {events : List (Event δ)}
    (h : core.history actions = .ok events) : core.Linked events := by
  induction actions generalizing core events with
  | nil =>
    cases h
    trivial
  | cons action actions ih =>
    obtain ⟨answer, after, rest, acted, later, rfl⟩ := history_cons_eq_ok_iff.mp h
    exact ⟨rfl, acted, ih later⟩

theorem linked_append {core : Core δ} {earlier later : List (Event δ)} :
    core.Linked (earlier ++ later) ↔ core.Linked earlier ∧ (core.last earlier).Linked later := by
  induction earlier generalizing core with
  | nil => simp [Linked, last]
  | cons event earlier ih => simp [Linked, last, ih, and_assoc]

theorem Linked.acted {core : Core δ} {events : List (Event δ)} (h : core.Linked events) :
    ∀ event ∈ events, event.Acted := by
  induction events generalizing core with
  | nil => exact List.forall_mem_nil _
  | cons event events ih => exact List.forall_mem_cons.mpr ⟨h.2.1, ih h.2.2⟩

/-- What each event keeps, all of them keep. -/
theorem Linked.last_of_kept {core : Core δ} {events : List (Event δ)} (h : core.Linked events)
    {P : Core δ → Prop} (kept : ∀ event ∈ events, P event.before → P event.after) (start : P core) :
    P (core.last events) := by
  induction events generalizing core with
  | nil => exact start
  | cons event events ih =>
    obtain ⟨rfl, -, rest⟩ := h
    obtain ⟨first, kept⟩ := List.forall_mem_cons.mp kept
    exact ih rest kept (first start)

end Arcade.Core
