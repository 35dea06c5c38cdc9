import Arcade.Proofs.Core.LifeCycle

/-! # Which flags an instruction may change

Most instructions leave all five condition flags alone, and some all but one or the one. The bits of
a byte say what its instruction may do to them (`FlagUse.ofByte`), undocumented bytes included: all
of these leave them alone. An interrupt leaves them alone as well. So flags that were set by one
instruction can be asked for many instructions later, if only these come between.

* `flagUse_ofByte`: the bits agree with the decoder on all 256 bytes;
* `allows_execute`: an opcode does to the flags what its bits allow, for one step `allows_of_step`;
* `Event.Acted.flags_cases`: what one event does to them;
* `flags_change_as_allowed`: **steps and interrupts change flags only as allowed**, and what the
  instructions of a run leave alone is at its end as it was. -/

namespace Arcade

/-- What an instruction may do to the condition flags. -/
inductive FlagUse
  /-- None of them changes. -/
  | keepsAll
  /-- Any of them may change but the carry. -/
  | keepsCarry
  /-- None of them may change but the carry. -/
  | setsCarry
  /-- Only the carry changes, to the bit of the accumulator that is rotated out of it. -/
  | carriesOut (bit : Nat)
  /-- Only the carry changes, to 1. -/
  | raisesCarry
  /-- Only the carry changes, to its complement. -/
  | flipsCarry
  /-- Any of them may change. -/
  | setsAll
  deriving DecidableEq, Repr

namespace FlagUse

/-- What the instruction of a byte may do to the flags. Those of single steps leave the carry alone,
the sum of pairs, the rotations and the two instructions for the carry all but the carry. Besides
the arithmetic of the accumulator only the status byte from the stack sets all. -/
def ofByte (byte : UInt8) : FlagUse :=
  if byte &&& 0xc7 = 0x04 ∨ byte &&& 0xc7 = 0x05 then keepsCarry
  else if byte &&& 0xcf = 0x09 then setsCarry
  else if byte = 0x07 ∨ byte = 0x17 then carriesOut 7
  else if byte = 0x0f ∨ byte = 0x1f then carriesOut 0
  else if byte = 0x37 then raisesCarry
  else if byte = 0x3f then flipsCarry
  else if byte &&& 0xc0 = 0x80 ∨ byte &&& 0xc7 = 0xc6 ∨ byte = 0x27 ∨ byte = 0xf1 then setsAll
  else keepsAll

/-- The flags after an instruction are among those its use allows, for the accumulator and the flags
before it. -/
def Allows (use : FlagUse) (a : UInt8) (before after : Flags) : Prop :=
  match use with
  | keepsAll => after = before
  | keepsCarry => after.carry = before.carry
  | setsCarry => ∃ carry, after = { before with carry }
  | carriesOut bit => after = { before with carry := a.toNat.testBit bit }
  | raisesCarry => after = { before with carry := true }
  | flipsCarry => after = { before with carry := !before.carry }
  | setsAll => True

end FlagUse

variable {δ : Type}

/-! ### The bits of a byte and the decoder -/

/-- What an opcode may do to the flags. -/
def Opcode.flagUse : Opcode → FlagUse
  | inr _ | dcr _ => .keepsCarry
  | dad _ => .setsCarry
  | rotate .rlc | rotate .ral => .carriesOut 7
  | rotate .rrc | rotate .rar => .carriesOut 0
  | stc => .raisesCarry
  | cmc => .flipsCarry
  | alu _ _ | aluImmediate _ | daa | pop .psw => .setsAll
  | _ => .keepsAll

/-- **The bits of a byte agree with the decoder.** -/
theorem flagUse_ofByte (byte : UInt8) : FlagUse.ofByte byte = (Opcode.ofByte byte).flagUse :=
  forall_byte (p := fun byte => FlagUse.ofByte byte = (Opcode.ofByte byte).flagUse)
    (by decide +kernel) byte

/-! ### One instruction -/

theorem Cpu.flags_put (cpu : Cpu) (ports : δ) (target : Operand) (value : UInt8) :
    (cpu.put ports target value).cpu.flags = cpu.flags := by
  cases target <;> rfl

/-- The bit a rotation moves out of the accumulator. -/
theorem carry_apply_rotation (rotation : Rotation) (a : UInt8) (carry : Bool) :
    (rotation.apply a carry).2 =
      a.toNat.testBit (match rotation with | .rlc | .ral => 7 | .rrc | .rar => 0) := by
  have highest : (a &&& 0x80 != 0) = a.toNat.testBit 7 :=
    forall_byte (p := fun a => (a &&& 0x80 != 0) = a.toNat.testBit 7) (by decide +kernel) a
  have lowest : (a &&& 0x01 != 0) = a.toNat.testBit 0 :=
    forall_byte (p := fun a => (a &&& 0x01 != 0) = a.toNat.testBit 0) (by decide +kernel) a
  cases rotation with
  | rlc | ral => exact highest
  | rrc | rar => exact lowest

/-- **An opcode does to the flags what it may.** -/
theorem Opcode.allows_execute [Ports δ] (op : Opcode) (cpu : Cpu) (memory : Memory) (ports : δ) :
    op.flagUse.Allows cpu.a cpu.flags (op.execute cpu memory ports).cpu.flags := by
  cases op with
  | mov target _ | mvi target => exact Cpu.flags_put _ ports target _
  | inr target | dcr target =>
    -- the unit itself keeps the carry, and putting the result away changes no flag
    simp only [execute, flagUse, FlagUse.Allows, Cpu.flags_put]
    rfl
  | dad source => exact ⟨_, rfl⟩
  | rotate rotation =>
    have carried := carry_apply_rotation rotation cpu.a cpu.flags.carry
    cases rotation <;>
      exact congrArg (fun carry => { cpu.flags with carry }) carried
  | lxi target | inx target | dcx target => cases target <;> rfl
  | pop target => cases target <;> trivial
  | jumpIf _ | callIf _ | retIf _ =>
    simp only [execute]
    split_ifs <;> rfl
  | alu _ _ | aluImmediate _ | daa => trivial
  | _ => rfl

namespace Core

theorem flags_interrupt (core : Core δ) (vector : UInt16) :
    (core.interrupt vector).2.cpu.flags = core.cpu.flags := by
  unfold interrupt
  split_ifs <;> rfl

/-- What is executed in an event, if anything is, has one of some uses for the flags. -/
def Event.Uses (event : Event δ) (uses : List FlagUse) : Prop :=
  ∀ byte, event.Executes byte → FlagUse.ofByte byte ∈ uses

variable [Ports δ]

theorem allows_next (core : Core δ) :
    (FlagUse.ofByte core.fetch).Allows core.cpu.a core.cpu.flags core.next.cpu.flags := by
  rw [flagUse_ofByte]
  exact core.opcode.allows_execute core.cpu core.memory core.ports

/-- A step of a running processor does to the flags what the byte it stands at allows, and one of a
halted processor nothing. -/
theorem allows_of_step {core after : Core δ} {cycles : Nat}
    (stepped : core.step = (.ok cycles, after)) :
    (core.cpu.halted = false →
      (FlagUse.ofByte core.fetch).Allows core.cpu.a core.cpu.flags after.cpu.flags) ∧
    (core.cpu.halted = true → after.cpu.flags = core.cpu.flags) := by
  rcases step_eq_ok_iff.mp stepped with ⟨halted, -, rfl⟩ | ⟨running, -, -, rfl⟩
  · exact ⟨fun running => absurd (running.symm.trans halted) nofun, fun _ => rfl⟩
  · exact ⟨fun _ => core.allows_next, fun halted => absurd (running.symm.trans halted) nofun⟩

/-! ### Runs -/

/-- An event leaves the flags alone, or it executes an instruction that may change them. -/
theorem Event.Acted.flags_cases {event : Event δ} (h : event.Acted) :
    event.after.cpu.flags = event.before.cpu.flags ∨
      ∃ byte, event.Executes byte ∧
        (FlagUse.ofByte byte).Allows event.before.cpu.a event.before.cpu.flags
          event.after.cpu.flags := by
  cases h.outcome with
  | asleep _ | dropped _ => exact Or.inl rfl
  | accepted _ interrupted =>
    left
    rw [interrupted.cpu]
  | executed running => exact Or.inr ⟨_, ⟨rfl, running, rfl⟩, allows_next _⟩

/-- Flags that what is executed leaves alone stay. -/
theorem Event.Acted.flags {event : Event δ} (h : event.Acted) (spared : event.Uses [.keepsAll]) :
    event.after.cpu.flags = event.before.cpu.flags := by
  rcases h.flags_cases with same | ⟨byte, executes, allows⟩
  · exact same
  · rw [List.mem_singleton.mp (spared byte executes)] at allows
    exact allows

/-- A carry that what is executed leaves alone stays. -/
theorem Event.Acted.carry {event : Event δ} (h : event.Acted)
    (spared : event.Uses [.keepsAll, .keepsCarry]) :
    event.after.cpu.flags.carry = event.before.cpu.flags.carry := by
  rcases h.flags_cases with same | ⟨byte, executes, allows⟩
  · rw [same]
  · have use : FlagUse.ofByte byte = .keepsAll ∨ FlagUse.ofByte byte = .keepsCarry := by
      simpa using spared byte executes
    rcases use with use | use
    · rw [use] at allows
      exact congrArg Flags.carry allows
    · rw [use] at allows
      exact allows

/-- **Flags change only as instructions allow.** A step that succeeds does to them what its byte
allows, under either policy, and an interrupt request leaves them alone. So all flags are at the end
of a run as they were if it executes only what keeps all of them, and the carry is if it executes
only what keeps the carry. -/
theorem flags_change_as_allowed (core : Core δ) :
    (∀ cycles after, core.step = (.ok cycles, after) →
      (core.cpu.halted = false →
        (FlagUse.ofByte core.fetch).Allows core.cpu.a core.cpu.flags after.cpu.flags) ∧
      (core.cpu.halted = true → after.cpu.flags = core.cpu.flags)) ∧
    (∀ vector, (core.interrupt vector).2.cpu.flags = core.cpu.flags) ∧
    ∀ actions events, core.history actions = .ok events →
      ((∀ event ∈ events, event.Uses [.keepsAll]) →
        (core.last events).cpu.flags = core.cpu.flags) ∧
      ((∀ event ∈ events, event.Uses [.keepsAll, .keepsCarry]) →
        (core.last events).cpu.flags.carry = core.cpu.flags.carry) := by
  refine ⟨fun _ _ => allows_of_step, flags_interrupt core, fun actions events ran => ?_⟩
  have linked := linked_of_history ran
  constructor
  · intro spared
    refine linked.last_of_kept (P := fun last => last.cpu.flags = core.cpu.flags) ?_ rfl
    intro event among same
    exact ((linked.acted event among).flags (spared event among)).trans same
  · intro spared
    refine linked.last_of_kept (P := fun last => last.cpu.flags.carry = core.cpu.flags.carry) ?_ rfl
    intro event among same
    exact ((linked.acted event among).carry (spared event among)).trans same

/-- INR A and an interrupt request, one after the other: only the increment sets flags. -/
theorem history_counting {core : Core δ} (running : core.cpu.halted = false)
    (fetched : core.fetch = 0x3c) (vector : UInt16) :
    ∃ events, core.history [.step, .interrupt vector] = .ok events ∧
      (∀ event ∈ events, event.Uses [.keepsAll, .keepsCarry]) ∧
      (core.last events).cpu.flags = (increment core.cpu.a core.cpu.flags).2 := by
  have opcode : core.opcode = .inr .a := by
    rw [Core.opcode, fetched]
    rfl
  have counts := act_step_of_documented running (by rw [fetched]; rfl)
  have flags : core.next.cpu.flags = (increment core.cpu.a core.cpu.flags).2 := by
    rw [next, effect, opcode]
    rfl
  refine ⟨_, history_cons_eq_ok_iff.mpr ⟨_, _, _, counts,
    history_cons_eq_ok_iff.mpr ⟨_, _, _, act_interrupt _ vector, history_nil _, rfl⟩, rfl⟩,
    List.forall_mem_cons.mpr ⟨?_, List.forall_mem_singleton.mpr ?_⟩, ?_⟩
  · intro byte executes
    rw [← executes.fetched, fetched]
    decide
  · intro byte executes
    cases executes.action
  · exact (flags_interrupt core.next vector).trans flags

/-- A core that is about to count an accumulator of ones up, while the carry is set. -/
def carrying : Core Unconnected where
  cpu := { a := 0xff, sp := 0x2400, flags := { carry := true }, interruptsEnabled := true }
  memory := .holding [(0x0000, 0x3c)]
  ports := .unconnected

/-- The accumulator becomes 0 and an interrupt comes; the carry is still set. -/
theorem flags_change_as_allowed_carrying :
    ∃ events, carrying.history [.step, .interrupt 0x0008] = .ok events ∧
      carrying.cpu.flags.zero = false ∧ (carrying.last events).cpu.flags.zero = true ∧
      (carrying.last events).cpu.flags.carry = true := by
  have fetched : carrying.fetch = 0x3c :=
    Memory.read_holding (by decide)
  obtain ⟨events, ran, spared, flags⟩ := history_counting rfl fetched 0x0008
  obtain ⟨-, -, runs⟩ := flags_change_as_allowed carrying
  refine ⟨events, ran, rfl, ?_, (runs _ _ ran).2 spared⟩
  rw [flags]
  rfl

end Core

end Arcade
