import Arcade.Proofs.Core.Flow
import Arcade.Proofs.Cpu.Disassembly

/-! # What the tables say of a step

Three tables describe the instructions by their first byte: the length, the cycles and the class,
whether the instruction sets the program counter itself. A step decodes the byte without them.

* `costs`: the cycles of the instructions as a table;
* `branches_eq`: the bytes that are listed as branches are the documented ones whose opcode is a
  branch;
* `branches_documented`: the class of the documented byte is the class of the opcode;
* `Core.target?`: where a branch leads, if it is taken;
* `pc_next`, `cost_eq`: the program counter and the cycles of an instruction that may be a branch;
* `step_agrees_with_tables`: **every step that succeeds is as the tables say**, with the class of
  the documented byte. The class of the byte itself misses the five undocumented branches;
* `unlisted_jump`: one of them, which jumps and is not listed as a branch. -/

namespace Arcade

namespace Opcode

/-- The cycles of the instructions, sixteen bytes to a row. Conditional calls and returns list
those of a branch that is not taken. -/
def costs : List Nat :=
  [4, 10, 7, 5, 5, 5, 7, 4, 4, 10, 7, 5, 5, 5, 7, 4,
   4, 10, 7, 5, 5, 5, 7, 4, 4, 10, 7, 5, 5, 5, 7, 4,
   4, 10, 16, 5, 5, 5, 7, 4, 4, 10, 16, 5, 5, 5, 7, 4,
   4, 10, 13, 5, 10, 10, 10, 4, 4, 10, 13, 5, 5, 5, 7, 4,
   5, 5, 5, 5, 5, 5, 7, 5, 5, 5, 5, 5, 5, 5, 7, 5,
   5, 5, 5, 5, 5, 5, 7, 5, 5, 5, 5, 5, 5, 5, 7, 5,
   5, 5, 5, 5, 5, 5, 7, 5, 5, 5, 5, 5, 5, 5, 7, 5,
   7, 7, 7, 7, 7, 7, 7, 7, 5, 5, 5, 5, 5, 5, 7, 5,
   4, 4, 4, 4, 4, 4, 7, 4, 4, 4, 4, 4, 4, 4, 7, 4,
   4, 4, 4, 4, 4, 4, 7, 4, 4, 4, 4, 4, 4, 4, 7, 4,
   4, 4, 4, 4, 4, 4, 7, 4, 4, 4, 4, 4, 4, 4, 7, 4,
   4, 4, 4, 4, 4, 4, 7, 4, 4, 4, 4, 4, 4, 4, 7, 4,
   5, 10, 10, 10, 11, 11, 7, 11, 5, 10, 10, 10, 11, 17, 7, 11,
   5, 10, 10, 10, 11, 11, 7, 11, 5, 10, 10, 10, 11, 17, 7, 11,
   5, 10, 10, 18, 11, 11, 7, 11, 5, 5, 10, 4, 11, 17, 7, 11,
   5, 10, 10, 4, 11, 11, 7, 11, 5, 5, 10, 4, 11, 17, 7, 11]

theorem costs_getElem? (byte : UInt8) : costs[byte.toNat]? = some (ofByte byte).cycles :=
  forall_byte (p := fun byte => costs[byte.toNat]? = some (ofByte byte).cycles)
    (by decide +kernel) byte

/-- Whether an instruction sets the program counter itself, at least under its condition. -/
def setsCounter : Opcode → Bool
  | jmp | jumpIf _ | call | callIf _ | ret | retIf _ | rst _ | pchl => true
  | _ => false

/-- The list of branches agrees with the decoder on all 256 bytes. -/
theorem branches_eq (byte : UInt8) :
    branches byte = ((alias? byte).isNone && (ofByte byte).setsCounter) :=
  forall_byte (p := fun byte => branches byte = ((alias? byte).isNone && (ofByte byte).setsCounter))
    (by decide +kernel) byte

/-- The documented byte is in the class of the opcode. -/
theorem branches_documented (byte : UInt8) :
    branches (documented byte) = (ofByte byte).setsCounter := by
  rw [branches_eq, alias?_documented, ofByte_documented, Option.isNone_none, Bool.true_and]

/-- The bytes that are not in the class of the byte they act as. -/
theorem branches_eq_documented_iff (byte : UInt8) :
    branches byte = branches (documented byte) ↔ byte ∉ [0xcb, 0xd9, 0xdd, 0xed, 0xfd] :=
  forall_byte (p := fun byte =>
    branches byte = branches (documented byte) ↔ byte ∉ [0xcb, 0xd9, 0xdd, 0xed, 0xfd])
    (by decide +kernel) byte

end Opcode

/-- The bytes up to the next instruction. -/
def Flow.length : Flow → Nat
  | next length => length
  | jump _ | call _ => 3
  | ret _ | restart _ | indirect => 1

/-- The cycles it takes on top if the branch is taken: none but those of a conditional call or
return. -/
def Flow.extraCycles : Flow → Nat
  | call (some _) | ret (some _) => Opcode.takenCycles
  | _ => 0

theorem Opcode.length_flow (op : Opcode) : op.flow.length = op.length := by
  cases op <;> rfl

namespace Core

variable {δ : Type} {core after : Core δ} {target back : UInt16}

/-- Where a branch leads, if it is taken. -/
def target? (core : Core δ) (flow : Flow) : Option UInt16 :=
  let operand := core.memory.readWord (core.cpu.pc + 1)
  match flow with
  | .next _ => none
  | .jump condition? | .call condition? =>
    if core.cpu.flags.takes condition? then some operand else none
  | .ret condition? =>
    if core.cpu.flags.takes condition? then some (core.memory.readWord core.cpu.sp) else none
  | .restart number => some (.ofNat (8 * number))
  | .indirect => some core.cpu.hl

/-- What is not in the class has no target. -/
theorem target?_of_setsCounter {op : Opcode} (stays : op.setsCounter = false) (core : Core δ) :
    core.target? op.flow = none := by
  cases op with
  | jmp | jumpIf _ | call | callIf _ | ret | retIf _ | rst _ | pchl => cases stays
  | _ => rfl

theorem Jumps.pc (h : core.Jumps after target) : after.cpu.pc = target :=
  congrArg (·.pc) h.cpu

theorem Calls.pc (h : core.Calls after target back) : after.cpu.pc = target :=
  congrArg (·.pc) h.cpu

theorem Returns.pc (h : core.Returns after) :
    after.cpu.pc = core.memory.readWord core.cpu.sp :=
  congrArg (·.pc) h.cpu

/-- The program counter is at the target, and without one behind the instruction. -/
theorem pc_of_follows {flow : Flow} (h : core.Follows flow after) :
    after.cpu.pc = (core.target? flow).getD (core.cpu.pc + .ofNat flow.length) := by
  cases flow with
  | next length => exact h
  | jump condition? =>
    rw [Follows, ← Memory.readWord_succ] at h
    rw [h.pc, target?]
    split_ifs <;> rfl
  | call condition? =>
    rw [Follows, ← Memory.readWord_succ] at h
    rw [target?]
    split_ifs at h ⊢
    · exact h.pc
    · exact h.pc
  | ret condition? =>
    rw [Follows] at h
    rw [target?]
    split_ifs at h ⊢
    · exact h.pc
    · exact h.pc
  | restart number => exact h.pc
  | indirect => exact h.pc

variable [Ports δ]

/-- Cycles come on top of those that are listed if the branch is taken. -/
theorem extra_cycles (op : Opcode) (core : Core δ) :
    (if (op.execute core.cpu core.memory core.ports).taken then Opcode.takenCycles else 0) =
      if (core.target? op.flow).isSome then op.flow.extraCycles else 0 := by
  cases op with
  | callIf condition | retIf condition =>
    simp only [Opcode.execute, Opcode.flow, target?, Flags.takes, Option.all_some, meets_code]
    cases condition.holds core.cpu.flags <;> rfl
  | mov target _ | mvi target | inr target | dcr target => cases target <;> rfl
  | jumpIf condition => exact (ite_self 0).symm
  | _ => rfl

theorem pc_next (core : Core δ) :
    let flow := Flow.ofByte (Opcode.documented core.fetch)
    core.next.cpu.pc = (core.target? flow).getD (core.cpu.pc + .ofNat flow.length) :=
  pc_of_follows core.follows_next

theorem cost_eq (core : Core δ) :
    core.cost = core.opcode.cycles +
      if (core.target? core.opcode.flow).isSome then core.opcode.flow.extraCycles else 0 := by
  rw [cost, effect, extra_cycles]

/-- **Every step that succeeds is as the tables say**, under either policy. Where the documented
byte is not listed as a branch, control goes on behind the instruction, which took the cycles that
are listed. Where it is, either the same holds and there is no target, or control goes to the target
of the branch, and six cycles come on top for a conditional call or return. The byte itself is
listed as the documented byte is, but for five undocumented ones, which branch and are not
listed. -/
theorem step_agrees_with_tables {cycles : Nat} (running : core.cpu.halted = false)
    (stepped : core.step = (.ok cycles, after)) :
    let documented := Opcode.documented core.fetch
    ∃ length cost, Disassembly.lengths[core.fetch.toNat]? = some length ∧
      Opcode.costs[core.fetch.toNat]? = some cost ∧
      (Opcode.branches documented = false →
        after.cpu.pc = core.cpu.pc + .ofNat length ∧ cycles = cost) ∧
      (Opcode.branches documented = true →
        core.target? (.ofByte documented) = none ∧
            after.cpu.pc = core.cpu.pc + .ofNat length ∧ cycles = cost ∨
          ∃ target, core.target? (.ofByte documented) = some target ∧ after.cpu.pc = target ∧
            cycles = cost + (Flow.ofByte documented).extraCycles) ∧
      (Opcode.branches core.fetch = Opcode.branches documented ↔
        core.fetch ∉ [0xcb, 0xd9, 0xdd, 0xed, 0xfd]) := by
  intro documented
  obtain ⟨rfl, rfl⟩ : cycles = core.cost ∧ after = core.next := by
    rcases step_eq_ok_iff.mp stepped with ⟨halted, -⟩ | ⟨-, -, cost, next⟩
    · rw [running] at halted
      cases halted
    · exact ⟨cost, next⟩
  have flow : Flow.ofByte documented = core.opcode.flow := flow_ofByte core.fetch
  have listed : Opcode.branches documented = core.opcode.setsCounter :=
    Opcode.branches_documented core.fetch
  have pc : core.next.cpu.pc = (core.target? (.ofByte documented)).getD
      (core.cpu.pc + .ofNat (Flow.ofByte documented).length) := core.pc_next
  have cost := core.cost_eq
  rw [flow] at pc ⊢
  rw [Opcode.length_flow] at pc
  rw [listed]
  refine ⟨core.opcode.length, core.opcode.cycles,
    Disassembly.lengths_getElem? ⟨0, core.fetch, 0, 0⟩, Opcode.costs_getElem? core.fetch,
    fun stays => ?_, fun _ => ?_, ?_⟩
  · rw [target?_of_setsCounter stays] at pc cost
    exact ⟨pc, cost⟩
  · cases leads : core.target? core.opcode.flow with
    | none =>
      rw [leads] at pc cost
      exact Or.inl ⟨rfl, pc, cost⟩
    | some target =>
      rw [leads] at pc cost
      exact Or.inr ⟨target, rfl, pc, cost⟩
  · rw [← listed]
    exact Opcode.branches_eq_documented_iff core.fetch

/-- A core in 16 KiB that stands at a call on not zero, and whose result was not zero. -/
def callingIf : Core Unconnected where
  cpu := { pc := 0xfffe, sp := 0x2400 }
  memory := .holding [(0xfffe, 0xc4), (0xffff, 0x34), (0x0000, 0x12)]
  ports := .unconnected

/-- The call is listed with 11 cycles, and takes 17. -/
theorem step_agrees_with_tables_callingIf :
    callingIf.cpu.halted = false ∧ callingIf.step = (.ok 17, callingIf.next) ∧
      callingIf.next.cpu.pc = 0x1234 ∧ Opcode.costs[0xc4]? = some 11 := by
  have fetched : callingIf.fetch = 0xc4 := Memory.read_holding (by decide)
  have accepted : callingIf.refusal? = none := refusal?_of_documented (by rw [fetched]; rfl)
  have cost : callingIf.cost = 17 := by
    rw [cost, effect, opcode, fetched]
    rfl
  have stepped : callingIf.step = (.ok 17, callingIf.next) := by
    rw [step_of_accepted rfl accepted, cost]
  have low : callingIf.memory.read (callingIf.cpu.pc + 1) = 0x34 :=
    Memory.read_holding (by decide)
  have high : callingIf.memory.read (callingIf.cpu.pc + 1 + 1) = 0x12 :=
    Memory.read_holding (by decide)
  have leads : callingIf.target? (.ofByte 0xc4) = some 0x1234 := by
    change some (callingIf.memory.readWord (callingIf.cpu.pc + 1)) = some 0x1234
    rw [Memory.readWord, low, high]
    rfl
  obtain ⟨length, listed, -, costs, -, taken, -⟩ := step_agrees_with_tables rfl stepped
  rw [fetched] at costs taken
  obtain rfl : 11 = listed := Option.some.inj costs
  rcases taken (by decide) with ⟨-, -, same⟩ | ⟨target, led, pc, -⟩
  · cases same
  · rw [show Opcode.documented 0xc4 = 0xc4 from rfl, leads] at led
    exact ⟨rfl, stepped, pc.trans (Option.some.inj led).symm, costs⟩

/-- A core in 16 KiB that refuses nothing and stands at an undocumented jump. -/
def undocumentedJump : Core Unconnected where
  cpu := { strict := false }
  memory := .holding [(0x0000, 0xcb), (0x0001, 0x34), (0x0002, 0x12)]
  ports := .unconnected

/-- **A byte that is not listed as a branch, and jumps.** -/
theorem unlisted_jump :
    Opcode.branches undocumentedJump.fetch = false ∧
      undocumentedJump.step = (.ok 10, undocumentedJump.next) ∧
      undocumentedJump.next.cpu.pc = 0x1234 ∧
      Disassembly.lengths[undocumentedJump.fetch.toNat]? = some 3 ∧
      undocumentedJump.next.cpu.pc ≠ undocumentedJump.cpu.pc + 3 := by
  have fetched : undocumentedJump.fetch = 0xcb := Memory.read_holding (by decide)
  have accepted : undocumentedJump.refusal? = none := refusal?_eq_none_iff.mpr nofun
  have cost : undocumentedJump.cost = 10 := by
    rw [cost, effect, opcode, fetched]
    rfl
  have stepped : undocumentedJump.step = (.ok 10, undocumentedJump.next) := by
    rw [step_of_accepted rfl accepted, cost]
  have low : undocumentedJump.memory.read 0x0001 = 0x34 := Memory.read_holding (by decide)
  have high : undocumentedJump.memory.read 0x0002 = 0x12 := Memory.read_holding (by decide)
  have leads : undocumentedJump.target? (.ofByte 0xc3) = some 0x1234 := by
    change some (Word.ofBytes (undocumentedJump.memory.read 0x0002)
      (undocumentedJump.memory.read 0x0001)) = some 0x1234
    rw [low, high]
    rfl
  have pc : undocumentedJump.next.cpu.pc = 0x1234 := by
    rw [pc_next, fetched, show Opcode.documented 0xcb = 0xc3 from rfl, leads]
    rfl
  refine ⟨?_, stepped, pc, ?_, ?_⟩
  · rw [fetched]
    rfl
  · rw [fetched]
    rfl
  · rw [pc]
    decide

end Core

end Arcade
