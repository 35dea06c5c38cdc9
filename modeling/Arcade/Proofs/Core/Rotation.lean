import Arcade.Proofs.Core.Arithmetic
import Arcade.Proofs.Core.FlagUse
import Arcade.Proofs.Cpu.Rotation

/-! # Rotations by instructions

The rotations act on the accumulator and the carry. A number is rotated by putting its bytes into
the accumulator one after the other, while the carry stays as the rotation before left it.

* `Carries`: nothing else than the accumulator and the carry changes, as after a rotation
  (`carries_next`);
* `stepEach`: an instruction executed for some bytes; `stepEach_eq_chain`: it rotates them as the
  unit does;
* `shifts_whole_numbers`: **numbers of any length are doubled and halved**, and the one undoes the
  other;
* `chain_of_linked`, `shifts_within_run`: the same for a run, whatever it executes in between, as
  long as that leaves the carry alone. -/

namespace Arcade

theorem Opcode.ofByte_rotate (rotation : Rotation) :
    ofByte (rotate rotation).toByte = .rotate rotation := by
  cases rotation <;> rfl

namespace Core

variable {δ : Type}

/-! ### The accumulator and the carry -/

/-- The core at an address, with a byte in its accumulator. -/
def loaded (core : Core δ) (address : UInt16) (byte : UInt8) : Core δ :=
  core.mapCpu fun cpu => { cpu with a := byte, pc := address }

/-- Nothing changes but the accumulator, the carry, the program counter and the count of cycles. -/
def Carries (core after : Core δ) (carry : Bool) : Prop :=
  core.Settles after { core.cpu with a := after.cpu.a, flags.carry := carry }

theorem carries_refl (core : Core δ) : core.Carries core core.cpu.flags.carry :=
  ⟨rfl, rfl, rfl⟩

theorem carries_loaded (core : Core δ) (address : UInt16) (byte : UInt8) :
    core.Carries (core.loaded address byte) core.cpu.flags.carry :=
  ⟨rfl, rfl, rfl⟩

namespace Carries

variable {core mid after : Core δ} {out out' : Bool}

theorem trans (h : core.Carries mid out) (h' : mid.Carries after out') :
    core.Carries after out' := by
  refine ⟨?_, h'.memory.trans h.memory, h'.ports.trans h.ports⟩
  have later := h'.cpu
  rw [h.cpu] at later
  exact later

theorem running (h : core.Carries after out) (running : core.cpu.halted = false) :
    after.cpu.halted = false := by
  rw [h.cpu]
  exact running

theorem flags (h : core.Carries after out) :
    after.cpu.flags = { core.cpu.flags with carry := out } := by
  rw [h.cpu]

theorem carry (h : core.Carries after out) : after.cpu.flags.carry = out := by
  rw [h.flags]

end Carries

/-! ### Bytes put into the accumulator -/

section Bytes
variable [Ports δ] {core : Core δ} (rotation : Rotation)

/-- A rotation sets the accumulator and the carry, and nothing else. -/
theorem carries_next (fetched : core.fetch = (Opcode.rotate rotation).toByte) :
    core.next.cpu.a = (rotation.apply core.cpu.a core.cpu.flags.carry).1 ∧
      core.Carries core.next (rotation.apply core.cpu.a core.cpu.flags.carry).2 := by
  have opcode : core.opcode = .rotate rotation := by
    rw [opcode, fetched, Opcode.ofByte_rotate]
  rw [next, effect, opcode]
  exact ⟨rfl, rfl, rfl, rfl⟩

/-- The instruction at an address is executed for some bytes: each one is put into the accumulator,
and what the step leaves there is kept. All else is as the step before left it. -/
def stepEach (core : Core δ) (address : UInt16) : List UInt8 → Except Fault (List UInt8 × Core δ)
  | [] => .ok ([], core)
  | byte :: bytes =>
    match (core.loaded address byte).step with
    | (.error fault, _) => .error fault
    | (.ok _, after) => do
      let (results, last) ← after.stepEach address bytes
      .ok (after.cpu.a :: results, last)

/-- **A rotation at an address rotates bytes as the unit does**, and no step is refused. -/
theorem stepEach_eq_chain {address : UInt16} (running : core.cpu.halted = false)
    (stands : core.memory.read address = (Opcode.rotate rotation).toByte) (bytes : List UInt8) :
    ∃ after, core.stepEach address bytes =
        .ok ((rotation.chain bytes core.cpu.flags.carry).1, after) ∧
      core.Carries after (rotation.chain bytes core.cpu.flags.carry).2 := by
  induction bytes generalizing core with
  | nil => exact ⟨core, rfl, core.carries_refl⟩
  | cons byte bytes ih =>
    have running' : (core.loaded address byte).cpu.halted = false := running
    have fetched : (core.loaded address byte).fetch = (Opcode.rotate rotation).toByte := stands
    have documented : Opcode.alias? (core.loaded address byte).fetch = none := by
      rw [fetched, Opcode.alias?_toByte]
    have stepped := step_of_accepted running' (refusal?_of_documented documented)
    obtain ⟨result, carries⟩ := carries_next rotation fetched
    generalize (core.loaded address byte).next = mid at stepped result carries
    have first := (core.carries_loaded address byte).trans carries
    have stands' : mid.memory.read address = (Opcode.rotate rotation).toByte := by
      rw [first.memory]
      exact stands
    obtain ⟨after, later, rest⟩ := ih (first.running running) stands'
    rw [first.carry] at later rest
    refine ⟨after, ?_, first.trans rest⟩
    rw [stepEach, stepped]
    simp only [later, result]
    rfl

/-- **Rotations through the carry shift numbers of any length.** RAL and RAR stand somewhere in
memory, and the bytes of a number are put into the accumulator one after the other. RAL for the
lowest byte first leaves the bytes of twice the number and the carry that came in, and the highest
bit as the carry. RAR for the highest byte first leaves the bytes of half the number with the carry
before it, and the lowest bit as the carry. RAR for the bytes that RAL has left, with the carry it
has left, gives back both. No other flag changes, nor does memory. -/
theorem shifts_whole_numbers {left right : UInt16} {bytes : List UInt8} {n x : Nat}
    (running : core.cpu.halted = false) (ral : core.memory.read left = 0x17)
    (rar : core.memory.read right = 0x1f) (isNumber : IsNumber bytes n x) (positive : 0 < n) :
    let carry := core.cpu.flags.carry
    (∃ doubled after, core.stepEach left bytes = .ok (doubled, after) ∧
      IsNumber doubled n ((2 * x + carry.toNat) % 256 ^ n) ∧
      core.Carries after (x.testBit (8 * n - 1)) ∧
      ∃ restored, after.stepEach right doubled.reverse = .ok (bytes.reverse, restored) ∧
        core.Carries restored carry) ∧
    ∃ halved after, core.stepEach right bytes.reverse = .ok (halved.reverse, after) ∧
      IsNumber halved n ((x + carry.toNat * 256 ^ n) / 2) ∧ core.Carries after (x % 2 == 1) := by
  intro carry
  constructor
  · obtain ⟨after, stepped, carries⟩ := stepEach_eq_chain .ral running ral bytes
    have rar' : after.memory.read right = 0x1f := by
      rw [carries.memory]
      exact rar
    obtain ⟨restored, stepped', carries'⟩ := stepEach_eq_chain .rar (carries.running running) rar'
      (Rotation.ral.chain bytes carry).1.reverse
    rw [carries.carry, Rotation.chain_rar_chain_ral] at stepped' carries'
    refine ⟨_, after, stepped, Rotation.isNumber_chain_ral isNumber carry, ?_, restored, stepped',
      carries.trans carries'⟩
    rwa [← Rotation.carry_chain_ral isNumber carry positive]
  · obtain ⟨after, stepped, carries⟩ := stepEach_eq_chain .rar running rar bytes.reverse
    refine ⟨(Rotation.rar.chain bytes.reverse carry).1.reverse, after, ?_,
      Rotation.isNumber_chain_rar isNumber carry, ?_⟩
    · rw [List.reverse_reverse]
      exact stepped
    · rwa [← Rotation.carry_chain_rar isNumber carry positive]

/-- A core with both rotations in memory, and three flags set. -/
def rotating : Core Unconnected where
  cpu := { flags := { zero := true, auxCarry := true, carry := true } }
  memory := .holding [(0x0000, 0x17), (0x0001, 0x1f)]
  ports := .unconnected

/-- Twice 0x4081 and the carry is 0x8103, which clears the carry; to the right, the carry becomes
the highest bit. -/
theorem shifts_whole_numbers_rotating :
    IsNumber [0x81, 0x40] 2 0x4081 ∧
      (∃ doubled after, rotating.stepEach 0x0000 [0x81, 0x40] = .ok (doubled, after) ∧
        IsNumber doubled 2 0x8103 ∧
        after.cpu.flags = { zero := true, auxCarry := true, carry := false } ∧
        ∃ restored, after.stepEach 0x0001 doubled.reverse = .ok ([0x40, 0x81], restored) ∧
          restored.cpu.flags = rotating.cpu.flags) ∧
      ∃ halved after, rotating.stepEach 0x0001 [0x40, 0x81] = .ok (halved.reverse, after) ∧
        IsNumber halved 2 0xa040 ∧ after.cpu.flags = rotating.cpu.flags := by
  have isNumber : IsNumber [0x81, 0x40] 2 0x4081 := ⟨rfl, rfl⟩
  have running : rotating.cpu.halted = false := rfl
  have ral : rotating.memory.read 0x0000 = 0x17 := Memory.read_holding (by decide)
  have rar : rotating.memory.read 0x0001 = 0x1f := Memory.read_holding (by decide)
  have flags : rotating.cpu.flags = { zero := true, auxCarry := true, carry := true } := rfl
  -- from here on only these facts count, and the bytes of the memory are not looked at
  generalize rotating = core at *
  obtain ⟨⟨doubled, after, stepped, twice, carries, restored, stepped', carries'⟩,
    halved, last, steppedRight, half, carriesRight⟩ :=
    shifts_whole_numbers running ral rar isNumber (by decide)
  rw [flags] at twice half
  refine ⟨isNumber, ⟨doubled, after, stepped, twice, ?_, restored, stepped', ?_⟩,
    halved, last, steppedRight, half, ?_⟩
  · rw [carries.flags, flags]
    rfl
  · exact carries'.flags
  · rw [carriesRight.flags, flags]
    rfl

end Bytes

/-! ### Rotations within a run -/

variable {event : Event δ} {rotation : Rotation}

/-- The accumulator before and after a rotation, if an event executes it. -/
def Event.turned? (event : Event δ) (rotation : Rotation) : Option (UInt8 × UInt8) :=
  if event.action = .step ∧ event.before.cpu.halted = false ∧
      event.before.fetch = (Opcode.rotate rotation).toByte then
    some (event.before.cpu.a, event.after.cpu.a)
  else
    none

/-- The accumulator before and after each execution of a rotation. -/
def turned (rotation : Rotation) (events : List (Event δ)) : List (UInt8 × UInt8) :=
  events.filterMap fun event => event.turned? rotation

theorem turned_cons_of_executes (executes : event.Executes (Opcode.rotate rotation).toByte)
    (events : List (Event δ)) :
    turned rotation (event :: events) =
      (event.before.cpu.a, event.after.cpu.a) :: turned rotation events :=
  List.filterMap_cons_some (if_pos ⟨executes.action, executes.running, executes.fetched⟩)

theorem turned_cons_of_not_executes
    (other : ¬ event.Executes (Opcode.rotate rotation).toByte) (events : List (Event δ)) :
    turned rotation (event :: events) = turned rotation events :=
  List.filterMap_cons_none (if_neg fun ⟨action, running, fetched⟩ =>
    other ⟨action, running, fetched⟩)

variable [Ports δ] {core : Core δ}

theorem Event.Acted.after_of_executes {byte : UInt8} (h : event.Acted)
    (executes : event.Executes byte) : event.after = event.before.next := by
  cases h.outcome with
  | executed _ => rfl
  | asleep halted => exact absurd (executes.running.symm.trans halted) nofun
  | accepted _ _ | dropped _ => cases executes.action

/-- The carry goes from one rotation to the next if what is executed in between leaves it alone. -/
theorem chain_of_linked (rotation : Rotation) {events : List (Event δ)} (linked : core.Linked events)
    (only : ∀ event ∈ events, event.Executes (Opcode.rotate rotation).toByte ∨
      event.Uses [.keepsAll, .keepsCarry]) :
    rotation.chain ((turned rotation events).map (·.1)) core.cpu.flags.carry =
      ((turned rotation events).map (·.2), (core.last events).cpu.flags.carry) := by
  induction events generalizing core with
  | nil => rfl
  | cons event events ih =>
    obtain ⟨rfl, acted, rest⟩ := linked
    obtain ⟨first, only⟩ := List.forall_mem_cons.mp only
    have later := ih rest only
    by_cases executes : event.Executes (Opcode.rotate rotation).toByte
    · obtain ⟨result, carries⟩ := carries_next rotation executes.fetched
      rw [← acted.after_of_executes executes] at result carries
      rw [carries.carry] at later
      rw [turned_cons_of_executes executes, List.map_cons, List.map_cons, Rotation.chain_cons,
        later, result]
      rfl
    · rw [acted.carry (first.resolve_left executes)] at later
      rw [turned_cons_of_not_executes executes]
      exact later

/-- **A run shifts whole numbers as well**, whatever it executes between the rotations and wherever
the bytes come from and go to, as long as nothing but the rotations sets the carry. -/
theorem shifts_within_run {actions : List Action} {events : List (Event δ)} {n x : Nat}
    (ran : core.history actions = .ok events) (positive : 0 < n) :
    let carry := core.cpu.flags.carry
    let last := core.last events
    ((∀ event ∈ events, event.Executes 0x17 ∨ event.Uses [.keepsAll, .keepsCarry]) →
      IsNumber ((turned .ral events).map (·.1)) n x →
        IsNumber ((turned .ral events).map (·.2)) n ((2 * x + carry.toNat) % 256 ^ n) ∧
          last.cpu.flags.carry = x.testBit (8 * n - 1)) ∧
    ((∀ event ∈ events, event.Executes 0x1f ∨ event.Uses [.keepsAll, .keepsCarry]) →
      IsNumber ((turned .rar events).map (·.1)).reverse n x →
        IsNumber ((turned .rar events).map (·.2)).reverse n ((x + carry.toNat * 256 ^ n) / 2) ∧
          last.cpu.flags.carry = (x % 2 == 1)) := by
  intro carry last
  have linked := linked_of_history ran
  constructor
  · intro only isNumber
    have chained := chain_of_linked .ral linked only
    have doubled := Rotation.isNumber_chain_ral isNumber carry
    have highest := Rotation.carry_chain_ral isNumber carry positive
    rw [chained] at doubled highest
    exact ⟨doubled, highest⟩
  · intro only isNumber
    have chained := chain_of_linked .rar linked only
    have halved := Rotation.isNumber_chain_rar isNumber carry
    have lowest := Rotation.carry_chain_rar isNumber carry positive
    rw [List.reverse_reverse, chained] at halved lowest
    exact ⟨halved, lowest⟩

end Core

end Arcade
