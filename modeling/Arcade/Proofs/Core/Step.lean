import Arcade.Core
import Arcade.Proofs.Cpu.Encoding
import Mathlib.Tactic.SplitIfs

/-! # One instruction

A step has three outcomes: a halted processor does nothing, a refused instruction changes nothing,
and an accepted one has the effect of its opcode.

* `refusal?`: what falls through the decoder, and `refusal?_eq_some_iff`: **that is the bytes with
  an alias, if the processor is strict**;
* `step_eq_ok_iff`, `step_eq_error_iff`: when a step succeeds and when it fails, and with what;
  `step_fails_iff` and `eq_of_step_error` say it of the byte it stands at;
* `step_of_fetch`: the step at a documented byte, whatever the policy;
* `advance`: a number of steps in a row, with `advance_of_step` and `advance_trans`;
* `Reaches`: where they lead, but for the count of cycles; `Reaches.step` adds one step at a
  documented byte. -/

namespace Arcade.Core

variable {δ : Type}

/-- The opcode the program counter stands at. -/
def opcode (core : Core δ) : Opcode :=
  .ofByte core.fetch

/-! ### Refusals -/

/-- Why the next instruction is refused, if it is: the byte that is to be executed falls through the
decoder. -/
def refusal? (core : Core δ) : Option Fault :=
  let byte := core.cpu.decode core.fetch
  match Opcode.ofDocumented? byte with
  | none => some ⟨byte, core.cpu.pc⟩
  | some _ => none

theorem refusal?_eq_some_iff {core : Core δ} {fault : Fault} :
    core.refusal? = some fault ↔
      core.cpu.strict = true ∧ (Opcode.alias? core.fetch).isSome = true ∧
        fault = ⟨core.fetch, core.cpu.pc⟩ := by
  rw [refusal?, Cpu.ofDocumented?_decode]
  split_ifs with h
  · have stays : core.cpu.decode core.fetch = core.fetch := by rw [Cpu.decode, if_pos h.1]
    simp [h.1, h.2, stays, eq_comm]
  · constructor
    · rintro ⟨⟩
    · rintro ⟨strict, undocumented, -⟩
      exact absurd ⟨strict, undocumented⟩ h

theorem refusal?_eq_none_iff {core : Core δ} :
    core.refusal? = none ↔ core.cpu.strict = true → Opcode.alias? core.fetch = none := by
  rw [refusal?, Cpu.ofDocumented?_decode]
  split_ifs with h
  · have undocumented := Option.isSome_iff_ne_none.mp h.2
    simp [h.1, undocumented]
  · simpa using h

theorem refusal?_of_documented {core : Core δ} (h : Opcode.alias? core.fetch = none) :
    core.refusal? = none :=
  refusal?_eq_none_iff.mpr fun _ => h

/-! ### The three outcomes -/

variable [Ports δ]

/-- What the next instruction does. -/
def effect (core : Core δ) : Effect δ :=
  core.opcode.execute core.cpu core.memory core.ports

/-- The cycles the next instruction takes. -/
def cost (core : Core δ) : Nat :=
  core.opcode.cycles + if core.effect.taken then Opcode.takenCycles else 0

/-- The core after the next instruction. -/
def next (core : Core δ) : Core δ :=
  afterEffect core.memory core.effect core.cost

theorem step_of_refused {core : Core δ} {fault : Fault} (running : core.cpu.halted = false)
    (refused : core.refusal? = some fault) : core.step = (.error fault, core) := by
  rw [refusal?] at refused
  cases decoded : Opcode.ofDocumented? (core.cpu.decode core.fetch) with
  | none =>
    rw [decoded] at refused
    cases refused
    simp [step, running, decoded]
  | some op =>
    rw [decoded] at refused
    cases refused

theorem step_of_accepted {core : Core δ} (running : core.cpu.halted = false)
    (accepted : core.refusal? = none) : core.step = (.ok core.cost, core.next) := by
  have decoded : Opcode.ofDocumented? (core.cpu.decode core.fetch) = some core.opcode := by
    rw [Cpu.ofDocumented?_decode, if_neg, opcode]
    rintro ⟨strict, undocumented⟩
    rw [refusal?_eq_none_iff.mp accepted strict] at undocumented
    cases undocumented
  simp only [step, running, decoded]
  rfl

theorem step_eq_ok_iff {core after : Core δ} {cycles : Nat} :
    core.step = (.ok cycles, after) ↔
      core.cpu.halted = true ∧ cycles = 0 ∧ after = core ∨
      core.cpu.halted = false ∧ core.refusal? = none ∧ cycles = core.cost ∧ after = core.next := by
  cases hh : core.cpu.halted with
  | true => simp [step_of_halted hh, eq_comm]
  | false =>
    cases hr : core.refusal? with
    | some fault => simp [step_of_refused hh hr]
    | none => simp [step_of_accepted hh hr, eq_comm]

theorem step_eq_error_iff {core after : Core δ} {fault : Fault} :
    core.step = (.error fault, after) ↔
      core.cpu.halted = false ∧ core.refusal? = some fault ∧ after = core := by
  cases hh : core.cpu.halted with
  | true => simp [step_of_halted hh]
  | false =>
    cases hr : core.refusal? with
    | some _ => simp [step_of_refused hh hr, eq_comm]
    | none => simp [step_of_accepted hh hr]

/-- A step fails at exactly the undocumented bytes, if the processor runs and is strict. -/
theorem step_fails_iff {core : Core δ} :
    (∃ fault after, core.step = (.error fault, after)) ↔
      core.cpu.halted = false ∧ core.cpu.strict = true ∧
        (Opcode.alias? core.fetch).isSome = true := by
  constructor
  · rintro ⟨fault, after, failed⟩
    obtain ⟨running, refused, -⟩ := step_eq_error_iff.mp failed
    obtain ⟨strict, undocumented, -⟩ := refusal?_eq_some_iff.mp refused
    exact ⟨running, strict, undocumented⟩
  · rintro ⟨running, strict, undocumented⟩
    have refused := refusal?_eq_some_iff.mpr ⟨strict, undocumented, rfl⟩
    exact ⟨_, core, step_eq_error_iff.mpr ⟨running, refused, rfl⟩⟩

/-- A step that fails names the byte and its address, and changes nothing. -/
theorem eq_of_step_error {core after : Core δ} {fault : Fault}
    (h : core.step = (.error fault, after)) : fault = ⟨core.fetch, core.cpu.pc⟩ ∧ after = core := by
  obtain ⟨-, refused, unchanged⟩ := step_eq_error_iff.mp h
  obtain ⟨-, -, named⟩ := refusal?_eq_some_iff.mp refused
  exact ⟨named, unchanged⟩

/-- The step at a documented byte. -/
theorem step_of_fetch {core : Core δ} {byte : UInt8} (running : core.cpu.halted = false)
    (fetched : core.fetch = byte) (documented : Opcode.alias? byte = none) :
    core.step =
      let effect := (Opcode.ofByte byte).execute core.cpu core.memory core.ports
      let cycles := (Opcode.ofByte byte).cycles + if effect.taken then Opcode.takenCycles else 0
      (.ok cycles, afterEffect core.memory effect cycles) := by
  subst fetched
  exact step_of_accepted running (refusal?_of_documented documented)

/-! ### A number of steps -/

/-- The core after a number of instructions, if none of them is refused. -/
def advance (core : Core δ) : (count : Nat) → Except Fault (Core δ)
  | 0 => .ok core
  | count + 1 =>
    match core.step with
    | (.error fault, _) => .error fault
    | (.ok _, after) => after.advance count

@[simp]
theorem advance_zero (core : Core δ) : core.advance 0 = .ok core := rfl

theorem advance_of_step {core after : Core δ} {cycles : Nat} (h : core.step = (.ok cycles, after))
    (n : Nat) : core.advance (n + 1) = after.advance n := by
  rw [advance, h]

theorem advance_trans {core mid : Core δ} {m : Nat} (h : core.advance m = .ok mid) (n : Nat) :
    core.advance (m + n) = mid.advance n := by
  induction m generalizing core with
  | zero =>
    cases h
    rw [Nat.zero_add]
  | succ m ih =>
    rw [advance] at h
    match hs : core.step with
    | (.error fault, _) =>
      rw [hs] at h
      cases h
    | (.ok _, after) =>
      rw [hs] at h
      rw [Nat.add_right_comm, advance_of_step hs]
      exact ih h

/-- A number of steps leads to a processor, but for its count of cycles, and a memory. -/
def Reaches (core : Core δ) (count : Nat) (cpu : Cpu) (memory : Memory) : Prop :=
  ∃ after, core.advance count = .ok after ∧
    after.cpu = { cpu with cycles := after.cpu.cycles } ∧ after.memory = memory

theorem reaches_zero (core : Core δ) : core.Reaches 0 core.cpu core.memory :=
  ⟨core, rfl, rfl, rfl⟩

theorem Reaches.step {core : Core δ} {count : Nat} {cpu cpu' : Cpu} {memory memory' : Memory}
    {byte : UInt8} (h : core.Reaches count cpu memory) (running : cpu.halted = false)
    (fetched : memory.read cpu.pc = byte) (documented : Opcode.alias? byte = none)
    (effect : ∀ cycles (ports : δ),
      let effect := (Opcode.ofByte byte).execute { cpu with cycles } memory ports
      effect.cpu = { cpu' with cycles := effect.cpu.cycles } ∧
        memory.storeAll effect.stores = memory') :
    core.Reaches (count + 1) cpu' memory' := by
  obtain ⟨mid, advanced, hcpu, rfl⟩ := h
  have running' : mid.cpu.halted = false := by
    rw [hcpu]
    exact running
  have fetched' : mid.fetch = byte := by
    rw [fetch, hcpu]
    exact fetched
  have stepped := step_of_fetch running' fetched' documented
  obtain ⟨hcpu', hmemory'⟩ := effect mid.cpu.cycles mid.ports
  rw [← hcpu] at hcpu' hmemory'
  refine ⟨_, (advance_trans advanced 1).trans (advance_of_step stepped 0), ?_, hmemory'⟩
  simp only [afterEffect]
  rw [hcpu']

end Arcade.Core
