import Arcade.Proofs.Bus
import Mathlib.Tactic.IntervalCases

/-! # The window of the shifter

The shifter keeps a word that every byte sent to port 4 rolls on, and the place of a window that
every byte sent to port 2 moves. What port 3 shows depends only on the last two of the one and the
last one of the other, in whatever order they came.

* `window`: the top eight bits of two bytes shifted to the left;
* `Shifter.Holds`: what the shifter holds after some accesses, kept by each (`Holds.access`) and so
  by all of them (`holds_after`);
* `Shifter.Holds.result`: so it shows the window of the last two bytes;
* `shows_window`: **after any traffic port 3 shows that window**, and reading leaves no trace. -/

namespace Arcade

open Bus Bus.Access

/-- The top eight bits of a word of two bytes, once it is shifted to the left within sixteen bits. -/
def window (high low : UInt8) (offset : Nat) : Nat :=
  (high.toNat * 256 + low.toNat) * 2 ^ offset % 65536 / 256

/-- To shift a word to the left and take its high byte is to shift it to the right by what is left
of eight bits and take its low byte. -/
theorem shiftRight_mod_eq_window (high low : UInt8) {offset : Nat} (h : offset < 8) :
    (high.toNat * 256 + low.toNat) >>> (8 - offset) % 256 = window high low offset := by
  rw [window, Nat.shiftRight_eq_div_pow]
  generalize high.toNat * 256 + low.toNat = word
  interval_cases offset <;> omega

theorem Board.shifter_write (board : Board) (n value : UInt8) :
    (board.write n value).1.shifter =
      if n = 4 then board.shifter.push value
      else if n = 2 then board.shifter.setOffset value
      else board.shifter := by
  rcases board.write_cases n value with ⟨port, rfl, sent⟩ | ⟨unwired, ignored⟩
  · rw [sent]
    rcases port with _ | _ | (_ | _) | _ <;> rfl
  · have data : n ≠ 4 := unwired .shiftData
    have offset : n ≠ 2 := unwired .shiftOffset
    rw [ignored, if_neg data, if_neg offset]

/-- A shifter holds the last two bytes sent to port 4, and the last three bits sent to port 2. -/
structure Shifter.Holds (s : Shifter) (accesses : List Access) : Prop where
  high : Word.high s.data = recent 4 accesses 0
  low : Word.low s.data = recent 4 accesses 1
  offset : s.offset.val = (recent 2 accesses 0).toNat % 8

namespace Shifter

theorem holds_nil : Holds {} [] :=
  ⟨rfl, rfl, rfl⟩

/-- A byte sent to port 4 becomes the last one, and the last one the one before. -/
theorem Holds.push {s : Shifter} {accesses : List Access} (h : s.Holds accesses) (value : UInt8) :
    (s.push value).Holds (accesses ++ [.output 4 value]) where
  high := by rw [high_data_push, recent_concat_output_zero]
  low := by rw [low_data_push, recent_concat_output_succ, h.high]
  offset := by
    rw [recent_concat_of_other (sent?_output_of_ne (by decide) value)]
    exact h.offset

theorem Holds.setOffset {s : Shifter} {accesses : List Access} (h : s.Holds accesses)
    (value : UInt8) : (s.setOffset value).Holds (accesses ++ [.output 2 value]) where
  high := by
    rw [recent_concat_of_other (sent?_output_of_ne (by decide) value)]
    exact h.high
  low := by
    rw [recent_concat_of_other (sent?_output_of_ne (by decide) value)]
    exact h.low
  offset := by
    rw [recent_concat_output_zero]
    rfl

/-- An access to any other port leaves the shifter alone. -/
theorem Holds.of_other {s : Shifter} {accesses : List Access} {access : Access}
    (h : s.Holds accesses) (data : access.sent? 4 = none) (offset : access.sent? 2 = none) :
    s.Holds (accesses ++ [access]) where
  high := by rw [recent_concat_of_other data, h.high]
  low := by rw [recent_concat_of_other data, h.low]
  offset := by rw [recent_concat_of_other offset, h.offset]

theorem Holds.access {bus : Bus} {accesses : List Access} (h : bus.board.shifter.Holds accesses)
    (access : Access) : (bus.access access).board.shifter.Holds (accesses ++ [access]) := by
  cases access with
  | input port =>
    rw [Bus.access, board_input]
    exact h.of_other rfl rfl
  | output port value =>
    rw [Bus.access, board_output, Board.shifter_write]
    split_ifs with data offset
    · subst data
      exact h.push value
    · subst offset
      exact h.setOffset value
    · exact h.of_other (sent?_output_of_ne data value) (sent?_output_of_ne offset value)

/-- **The shifter holds what was sent to its ports last**, whatever else happened on the bus. -/
theorem holds_after {bus : Bus} (fresh : bus.board.Fresh) (accesses : List Access) :
    (bus.after accesses).board.shifter.Holds accesses := by
  have start : bus.board.shifter.Holds [] := fresh.shifter ▸ holds_nil
  exact after_of_kept (P := fun last accesses => last.board.shifter.Holds accesses) start
    (fun _ _ access held => held.access access) accesses

theorem Holds.result {s : Shifter} {accesses : List Access} (h : s.Holds accesses) :
    s.result.toNat =
      window (recent 4 accesses 0) (recent 4 accesses 1) ((recent 2 accesses 0).toNat % 8) := by
  have data : s.data.toNat = (recent 4 accesses 0).toNat * 256 + (recent 4 accesses 1).toNat := by
    rw [← h.high, ← h.low, ← Word.toNat_ofBytes, Word.ofBytes_high_low]
  rw [toNat_result, amount, h.offset, data, shiftRight_mod_eq_window _ _ (mod_eight_lt _)]

end Shifter

namespace Bus

/-- Port 3 shows the window of the shifter. -/
theorem input_three (bus : Bus) : (bus.input 3).1 = bus.board.shifter.result := rfl

/-- Reading a port leaves no trace in the devices. -/
theorem board_after_input (bus : Bus) (earlier later : List Access) (port : UInt8) :
    (bus.after (earlier ++ .input port :: later)).board = (bus.after (earlier ++ later)).board := by
  induction later using List.reverseRecOn with
  | nil =>
    rw [after_concat, access, board_input, List.append_nil]
  | append_singleton later last ih =>
    rw [← List.cons_append, ← List.append_assoc, ← List.append_assoc, after_concat, after_concat]
    cases last with
    | input _ => simpa only [access, board_input] using ih
    | output _ _ => simp only [access, board_output, ih]

/-- **Port 3 shows the window of the last two bytes sent to port 4**, moved by the last byte sent to
port 2, after any traffic that began with a board that was just made or reset. Whether a port was
read between makes no difference to what any port shows later. The word is shifted by at least one
bit and by at most eight. -/
theorem shows_window {bus : Bus} (fresh : bus.board.Fresh) (accesses : List Access) :
    ((bus.after accesses).input 3).1.toNat =
        window (recent 4 accesses 0) (recent 4 accesses 1) ((recent 2 accesses 0).toNat % 8) ∧
      (∀ earlier later port shown, ((bus.after (earlier ++ .input port :: later)).input shown).1 =
        ((bus.after (earlier ++ later)).input shown).1) ∧
      1 ≤ (bus.after accesses).board.shifter.amount ∧
      (bus.after accesses).board.shifter.amount ≤ 8 := by
  refine ⟨?_, fun earlier later port shown => ?_, Shifter.amount_pos _, Shifter.amount_le _⟩
  · rw [input_three]
    exact (Shifter.holds_after fresh accesses).result
  · exact congrArg (fun board : Board => board.read shown) (bus.board_after_input earlier later port)

/-- A bus with a board that was reset when its shifter was full of ones. -/
def cleared : Bus where
  board := Board.reset { shifter := { data := 0xffff } }

/-- Three bytes and two offsets, mixed with other traffic: the window lies across the last two bytes,
four bits below the top. -/
theorem shows_window_across :
    cleared.board.Fresh ∧
      ((cleared.after [.output 4 0x12, .output 2 0x07, .input 3, .output 4 0xa5, .output 3 0xff,
        .output 2 0xfc, .output 4 0x3c, .input 1]).input 3).1.toNat = 0xca := by
  have fresh : cleared.board.Fresh := .reset _
  exact ⟨fresh, (shows_window fresh _).1.trans (by decide)⟩

end Bus

end Arcade
