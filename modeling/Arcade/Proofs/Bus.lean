import Arcade.Bus
import Arcade.Proofs.Word
import Mathlib.Data.List.Induction
import Mathlib.Tactic.SplitIfs

/-! # Traffic on the bus

The processor reads and writes ports in any order. What a device has become by then depends on the
bytes that were sent to its own ports (`Access.sentTo`), of which the most recent ones count
(`Access.recent`).

* `Board.Fresh`: a board that was made or reset;
* `Board.write_cases`: what a byte sent to a port does;
* `Bus.after`: the bus after some accesses; what each access keeps holds after all of them
  (`Bus.after_of_kept`);
* `board_input`, `sounds_input`: reading a port changes no device and starts no sound;
* `board_output`, `sounds_output`: writing one does to the devices what the board does;
* `recent_concat_output_zero`, `recent_concat_output_succ`, `recent_concat_of_other`: what is most
  recent after one more access. -/

namespace Arcade

/-- What holds of the start of a fold before any element, and is kept by each, holds of the result
with all elements. -/
theorem foldl_of_kept {σ α : Type} {f : σ → α → σ} {P : σ → List α → Prop} {start : σ}
    (holds : P start []) (kept : ∀ last earlier x, P last earlier → P (f last x) (earlier ++ [x]))
    (xs : List α) : P (xs.foldl f start) xs := by
  induction xs using List.reverseRecOn with
  | nil => exact holds
  | append_singleton xs x ih =>
    rw [List.foldl_append]
    exact kept _ xs x ih

/-- A board that was just made, or just reset. -/
inductive Board.Fresh : Board → Prop
  | new (dips : DipSwitches) : Fresh { dips }
  | reset (board : Board) : Fresh board.reset

theorem Board.Fresh.shifter {board : Board} (h : board.Fresh) : board.shifter = {} := by
  cases h <;> rfl

theorem Board.Fresh.sound {board : Board} (h : board.Fresh) : board.sound = {} := by
  cases h <;> rfl

namespace OutputPort

/-- The number of an output port. -/
def number : OutputPort → UInt8
  | shiftOffset => 2
  | sound .first => 3
  | shiftData => 4
  | sound .second => 5
  | watchdog => 6

/-- **Every output port has one number**, and no two ports share one. -/
theorem ofNumber?_eq_some_iff {n : UInt8} {port : OutputPort} :
    ofNumber? n = some port ↔ n = port.number := by
  have numbered : ∀ n, ofNumber? n = some port ↔ n = port.number := by
    rcases port with _ | _ | (_ | _) | _ <;> exact forall_byte (by decide +kernel)
  exact numbered n

end OutputPort

/-- **What a byte sent to a numbered port does**: it goes to the port of that number, and nothing
happens if there is none. -/
theorem Board.write_cases (board : Board) (n value : UInt8) :
    (∃ port : OutputPort, n = port.number ∧ board.write n value = board.send port value) ∨
      (∀ port : OutputPort, n ≠ port.number) ∧ board.write n value = (board, []) := by
  unfold Board.write
  cases found : OutputPort.ofNumber? n with
  | some port => exact Or.inl ⟨port, OutputPort.ofNumber?_eq_some_iff.mp found, rfl⟩
  | none =>
    refine Or.inr ⟨fun port same => ?_, rfl⟩
    exact absurd (found.symm.trans (OutputPort.ofNumber?_eq_some_iff.mpr same)) nofun

namespace Bus

/-- A use of a port by the processor. -/
inductive Access
  | input (port : UInt8)
  | output (port value : UInt8)
  deriving DecidableEq, Repr

namespace Access

/-- The byte an access sends to a port. -/
def sent? (port : UInt8) : Access → Option UInt8
  | input _ => none
  | output other value => if other = port then some value else none

/-- The bytes sent to a port, in order. -/
def sentTo (port : UInt8) (accesses : List Access) : List UInt8 :=
  accesses.filterMap (sent? port)

/-- The byte sent to a port last, or a number of bytes before that, and 0 if there was none. -/
def recent (port : UInt8) (accesses : List Access) (back : Nat) : UInt8 :=
  (sentTo port accesses).reverse.getD back 0

variable {port : UInt8} {accesses : List Access} {access : Access} {value : UInt8}

theorem sentTo_concat_output (port : UInt8) (accesses : List Access) (value : UInt8) :
    sentTo port (accesses ++ [.output port value]) = sentTo port accesses ++ [value] := by
  simp [sentTo, sent?]

theorem sentTo_concat_of_other (h : access.sent? port = none) :
    sentTo port (accesses ++ [access]) = sentTo port accesses := by
  simp [sentTo, h]

theorem recent_concat_output_zero (port : UInt8) (accesses : List Access) (value : UInt8) :
    recent port (accesses ++ [.output port value]) 0 = value := by
  rw [recent, sentTo_concat_output, List.reverse_concat]
  rfl

theorem recent_concat_output_succ (port : UInt8) (accesses : List Access) (value : UInt8)
    (back : Nat) :
    recent port (accesses ++ [.output port value]) (back + 1) = recent port accesses back := by
  rw [recent, sentTo_concat_output, List.reverse_concat]
  rfl

theorem recent_concat_of_other (h : access.sent? port = none) (back : Nat) :
    recent port (accesses ++ [access]) back = recent port accesses back := by
  rw [recent, sentTo_concat_of_other h]
  rfl

theorem sent?_eq_some_iff : access.sent? port = some value ↔ access = .output port value := by
  cases access with
  | input _ => simp [sent?]
  | output other sent => simp [sent?]

theorem sent?_output_of_ne {other : UInt8} (h : other ≠ port) (value : UInt8) :
    sent? port (.output other value) = none :=
  if_neg h

end Access

/-- The bus after an access. -/
def access (bus : Bus) : Access → Bus
  | .input port => (bus.input port).2
  | .output port value => bus.output port value

/-- The bus after some accesses, one after the other. -/
def after (bus : Bus) (accesses : List Access) : Bus :=
  accesses.foldl access bus

theorem after_concat (bus : Bus) (accesses : List Access) (access : Access) :
    bus.after (accesses ++ [access]) = (bus.after accesses).access access :=
  List.foldl_append

/-- What holds before any access, and is kept by each, holds after all of them. -/
theorem after_of_kept {P : Bus → List Access → Prop} {bus : Bus} (start : P bus [])
    (kept : ∀ last accesses access, P last accesses → P (last.access access) (accesses ++ [access]))
    (accesses : List Access) : P (bus.after accesses) accesses :=
  foldl_of_kept start kept accesses

/-! ### What an access does -/

@[simp]
theorem board_noteTransfer (bus : Bus) (event : Event) :
    (bus.noteTransfer event).board = bus.board := by
  unfold noteTransfer
  split_ifs <;> rfl

theorem sounds_note (bus : Bus) (event : Event) :
    (bus.note event).sounds = bus.sounds ++ event.effect?.toList := by
  simp only [sounds, note, Array.toList_push, List.filterMap_append]
  cases event <;> rfl

theorem sounds_noteTransfer (bus : Bus) {event : Event} (silent : event.effect? = none) :
    (bus.noteTransfer event).sounds = bus.sounds := by
  unfold noteTransfer
  split_ifs
  · rw [sounds_note, silent, Option.toList_none, List.append_nil]
  · rfl

/-- Reading a port changes no device. -/
@[simp]
theorem board_input (bus : Bus) (port : UInt8) : (bus.input port).2.board = bus.board := by
  simp only [input, board_noteTransfer]
  split_ifs <;> rfl

/-- Reading a port starts no sound. -/
@[simp]
theorem sounds_input (bus : Bus) (port : UInt8) : (bus.input port).2.sounds = bus.sounds := by
  simp only [input]
  rw [sounds_noteTransfer _ rfl]
  split_ifs
  · rw [sounds_note]
    exact List.append_nil _
  · rfl

theorem sounds_foldl_push (board : Board) (traced : Bool) (effects : List SoundEffect)
    (journal : Array Event) :
    sounds ⟨board, traced, effects.foldl (fun journal effect => journal.push (.sound effect)) journal⟩
      = sounds ⟨board, traced, journal⟩ ++ effects := by
  induction effects generalizing journal with
  | nil => exact (List.append_nil _).symm
  | cons effect effects ih =>
    rw [List.foldl_cons, ih]
    have first := sounds_note ⟨board, traced, journal⟩ (.sound effect)
    simp only [note] at first
    rw [first, List.append_assoc]
    rfl

/-- Writing a port does to the devices what the board does. -/
@[simp]
theorem board_output (bus : Bus) (port value : UInt8) :
    (bus.output port value).board = (bus.board.write port value).1 := by
  simp only [output, board_noteTransfer]
  split_ifs <;> rfl

/-- Writing a port starts the sounds the board starts, and no others. -/
theorem sounds_output (bus : Bus) (port value : UInt8) :
    (bus.output port value).sounds = bus.sounds ++ (bus.board.write port value).2 := by
  have silent : (bus.noteTransfer (.portWritten port value)).sounds = bus.sounds :=
    sounds_noteTransfer bus rfl
  simp only [output, board_noteTransfer]
  split_ifs
  · rw [sounds_note, sounds_foldl_push]
    exact (List.append_nil _).trans (congrArg (· ++ _) silent)
  · rw [sounds_foldl_push]
    exact congrArg (· ++ _) silent

end Bus

end Arcade
