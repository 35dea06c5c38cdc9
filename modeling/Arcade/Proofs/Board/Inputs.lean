import Arcade.Proofs.Bus
import Mathlib.Tactic.IntervalCases

/-! # Inputs

Every bit of the two control ports belongs to one button, or to the switches of the operator, or is
tied. So the bytes on the ports tell which buttons are held and, up to the number of ships, how the
switches are set.

* `Button.wire_inj`: no two buttons share a bit;
* `Buttons.testBit_bits_iff`: the bits that held buttons set;
* `InputsShow`: what the bits of two bytes show of held buttons and switches, and
  `Board.inputsShow`: a board's ports show its buttons and switches;
* `InputsShow.eq_iff`: **the two bytes determine the buttons and the switches**, and are determined
  by them;
* `Board.testBit_controlByte_update`: pressing or releasing a button leaves the other bits alone. -/

namespace Arcade

/-- The number of a control port. -/
def ControlPort.number : ControlPort → UInt8
  | first => 1
  | second => 2

/-! ### Wires -/

/-- **No two buttons share a bit.** -/
theorem Button.wire_inj {button other : Button} (h : button.wire = other.wire) :
    button = other := by
  revert h
  cases button <;> cases other <;> decide

theorem Button.toNat_wire (button : Button) :
    (1 <<< UInt8.ofNat button.wire.2 : UInt8).toNat = 2 ^ button.wire.2 := by
  cases button <;> rfl

namespace Buttons

theorem testBit_foldl_iff (held : Buttons) (port : ControlPort) (bit : Nat) (buttons : List Button)
    (acc : UInt8) :
    (buttons.foldl
        (fun acc button =>
          if held.holds button && button.wire.1 = port then
            acc ||| 1 <<< UInt8.ofNat button.wire.2
          else acc)
        acc).toNat.testBit bit = true ↔
      acc.toNat.testBit bit = true ∨
        ∃ button ∈ buttons, held.holds button = true ∧ button.wire = (port, bit) := by
  induction buttons generalizing acc with
  | nil => simp
  | cons button buttons ih =>
    have head : (if held.holds button && button.wire.1 = port then
          acc ||| 1 <<< UInt8.ofNat button.wire.2
        else acc).toNat.testBit bit = true ↔
        acc.toNat.testBit bit = true ∨ held.holds button = true ∧ button.wire = (port, bit) := by
      split_ifs with set
      · rw [Bool.and_eq_true, decide_eq_true_iff] at set
        rw [UInt8.toNat_or, Nat.testBit_or, Button.toNat_wire, Nat.testBit_two_pow, Bool.or_eq_true,
          decide_eq_true_iff, Prod.ext_iff]
        simp [set]
      · rw [Bool.and_eq_true, decide_eq_true_iff] at set
        refine ⟨Or.inl, fun h => h.resolve_right fun ⟨holds, wired⟩ => set ⟨holds, ?_⟩⟩
        rw [wired]
    rw [List.foldl_cons, ih, head, or_assoc]
    simp

/-- **The bits that held buttons set on a port.** -/
theorem testBit_bits_iff (held : Buttons) (port : ControlPort) (bit : Nat) :
    (held.bits port).toNat.testBit bit = true ↔
      ∃ button, held.holds button = true ∧ button.wire = (port, bit) := by
  rw [bits, testBit_foldl_iff]
  simp [Button.mem_all]

theorem testBit_bits_wire (held : Buttons) (button : Button) :
    (held.bits button.wire.1).toNat.testBit button.wire.2 = held.holds button := by
  rw [Bool.eq_iff_iff, testBit_bits_iff]
  refine ⟨fun ⟨other, holds, wired⟩ => ?_, fun holds => ⟨button, holds, rfl⟩⟩
  rwa [← Button.wire_inj wired]

/-- A bit without a button is not set. -/
theorem testBit_bits_of_unwired (held : Buttons) {port : ControlPort} {bit : Nat}
    (h : ∀ button : Button, button.wire ≠ (port, bit)) :
    (held.bits port).toNat.testBit bit = false := by
  rw [Bool.eq_false_iff]
  intro set
  obtain ⟨button, -, wired⟩ := (held.testBit_bits_iff port bit).mp set
  exact h button wired

end Buttons

/-! ### Switches -/

namespace DipSwitches

theorem toNat_shownShips (dips : DipSwitches) :
    dips.shownShips.toNat = max 3 (min dips.ships.toNat 6) := by
  unfold shownShips
  split_ifs with few many
  · have fewer : dips.ships.toNat < 3 := UInt8.lt_iff_toNat_lt.mp few
    change 3 = _
    omega
  · have more : 6 < dips.ships.toNat := UInt8.lt_iff_toNat_lt.mp many
    change 6 = _
    omega
  · have enough : ¬dips.ships.toNat < 3 := fun h => few (UInt8.lt_iff_toNat_lt.mpr h)
    have within : ¬6 < dips.ships.toNat := fun h => many (UInt8.lt_iff_toNat_lt.mpr h)
    omega

/-- The bits of the switches, whichever ships are shown. -/
theorem testBit_switches (ships : Fin 4) (bonus coinInfo : Bool) :
    let byte := UInt8.ofNat ships.val ||| (if bonus then 0x08 else 0) |||
      (if coinInfo then 0 else 0x80)
    byte.toNat % 4 = ships.val ∧ byte.toNat.testBit 3 = bonus ∧
      byte.toNat.testBit 7 = !coinInfo ∧ ∀ bit ∈ [2, 4, 5, 6], byte.toNat.testBit bit = false := by
  revert ships bonus coinInfo
  decide

theorem bits_eq (dips : DipSwitches) :
    ∃ ships : Fin 4, ships.val = max 3 (min dips.ships.toNat 6) - 3 ∧
      dips.bits = UInt8.ofNat ships.val ||| (if dips.bonusAt1000 then 0x08 else 0) |||
        (if dips.coinInfo then 0 else 0x80) := by
  refine ⟨⟨max 3 (min dips.ships.toNat 6) - 3, by omega⟩, rfl, ?_⟩
  have shown : dips.shownShips - 3 = UInt8.ofNat (max 3 (min dips.ships.toNat 6) - 3) := by
    rw [← UInt8.toNat_inj, UInt8.toNat_sub_of_le _ _ dips.three_le_shownShips,
      dips.toNat_shownShips, UInt8.toNat_ofNat_of_lt']
    · rfl
    · change _ < 256
      omega
  rw [bits, shown]

end DipSwitches

/-! ### The ports -/

/-- What two bytes show of held buttons and of the switches of the operator: each button has a bit
of its own on one of them, and the other bits are tied or show the switches. -/
structure InputsShow (dips : DipSwitches) (held : Button → Bool) (shown : ControlPort → UInt8) :
    Prop where
  buttons : ∀ button : Button, (shown button.wire.1).toNat.testBit button.wire.2 = held button
  tiedHigh : (shown .first).toNat.testBit 3 = true
  tiedLow : (shown .first).toNat.testBit 7 = false
  ships : (shown .second).toNat % 4 = max 3 (min dips.ships.toNat 6) - 3
  bonus : (shown .second).toNat.testBit 3 = dips.bonusAt1000
  coinInfo : (shown .second).toNat.testBit 7 = !dips.coinInfo

namespace InputsShow

variable {dips dips' : DipSwitches} {held held' : Button → Bool}
  {shown shown' : ControlPort → UInt8}

/-- Every bit of a port has a meaning. -/
theorem testBit_eq (h : InputsShow dips held shown) (h' : InputsShow dips' held' shown')
    (buttons : ∀ button, held button = held' button)
    (ships : max 3 (min dips.ships.toNat 6) = max 3 (min dips'.ships.toNat 6))
    (bonus : dips.bonusAt1000 = dips'.bonusAt1000) (coinInfo : dips.coinInfo = dips'.coinInfo)
    (port : ControlPort) {bit : Nat} (within : bit < 8) :
    (shown port).toNat.testBit bit = (shown' port).toNat.testBit bit := by
  have wired : ∀ button : Button, (shown button.wire.1).toNat.testBit button.wire.2 =
      (shown' button.wire.1).toNat.testBit button.wire.2 := fun button => by
    rw [h.buttons, h'.buttons, buttons]
  have low : (shown .second).toNat % 2 ^ 2 = (shown' .second).toNat % 2 ^ 2 := by
    rw [show 2 ^ 2 = 4 from rfl, h.ships, h'.ships, ships]
  have lowest : ∀ bit < 2,
      (shown .second).toNat.testBit bit = (shown' .second).toNat.testBit bit := by
    intro bit within
    have same := congrArg (·.testBit bit) low
    simpa only [Nat.testBit_mod_two_pow, within, decide_true, Bool.true_and] using same
  cases port with
  | first =>
    interval_cases bit
    · exact wired .coin
    · exact wired .p2Start
    · exact wired .p1Start
    · rw [h.tiedHigh, h'.tiedHigh]
    · exact wired .p1Fire
    · exact wired .p1Left
    · exact wired .p1Right
    · rw [h.tiedLow, h'.tiedLow]
  | second =>
    interval_cases bit
    · exact lowest 0 (by decide)
    · exact lowest 1 (by decide)
    · exact wired .tilt
    · rw [h.bonus, h'.bonus, bonus]
    · exact wired .p2Fire
    · exact wired .p2Left
    · exact wired .p2Right
    · rw [h.coinInfo, h'.coinInfo, coinInfo]

/-- **The bytes on the two ports determine the buttons and the switches**, the ships as far as they
are shown, and nothing else has a part in the bytes. -/
theorem eq_iff (h : InputsShow dips held shown) (h' : InputsShow dips' held' shown') :
    (∀ port, shown port = shown' port) ↔
      (∀ button, held button = held' button) ∧
        max 3 (min dips.ships.toNat 6) = max 3 (min dips'.ships.toNat 6) ∧
        dips.bonusAt1000 = dips'.bonusAt1000 ∧ dips.coinInfo = dips'.coinInfo := by
  constructor
  · intro same
    refine ⟨fun button => ?_, ?_, ?_, ?_⟩
    · rw [← h.buttons, ← h'.buttons, same]
    · have ships := h.ships
      rw [same, h'.ships] at ships
      omega
    · rw [← h.bonus, ← h'.bonus, same]
    · rw [← Bool.not_inj_iff, ← h.coinInfo, ← h'.coinInfo, same]
  · rintro ⟨buttons, ships, bonus, coinInfo⟩ port
    rw [← UInt8.toNat_inj]
    refine Nat.eq_of_testBit_eq fun bit => ?_
    by_cases within : bit < 8
    · exact testBit_eq h h' buttons ships bonus coinInfo port within
    · rw [testBit_of_le _ (Nat.not_lt.mp within), testBit_of_le _ (Nat.not_lt.mp within)]

end InputsShow

namespace Board

/-- What is on a control port while no button is held. -/
def released (board : Board) : ControlPort → UInt8
  | .first => 0x08
  | .second => board.dips.bits

theorem read_number (board : Board) (port : ControlPort) :
    board.read port.number = board.controlByte port := by
  cases port <;> rfl

theorem testBit_controlByte (board : Board) (port : ControlPort) (bit : Nat) :
    (board.controlByte port).toNat.testBit bit =
      ((board.released port).toNat.testBit bit || (board.buttons.bits port).toNat.testBit bit) := by
  have byte : board.controlByte port = board.released port ||| board.buttons.bits port := by
    cases port <;> rfl
  rw [byte, UInt8.toNat_or, Nat.testBit_or]

/-- The bit of a button is not set while the button is released. -/
theorem testBit_released_wire (board : Board) (button : Button) :
    (board.released button.wire.1).toNat.testBit button.wire.2 = false := by
  obtain ⟨ships, -, bits⟩ := board.dips.bits_eq
  obtain ⟨-, -, -, unused⟩ :=
    DipSwitches.testBit_switches ships board.dips.bonusAt1000 board.dips.coinInfo
  rw [← bits] at unused
  have tied : ∀ bit ∈ [0, 1, 2, 4, 5, 6], (0x08 : UInt8).toNat.testBit bit = false := by decide
  cases button
  case tilt => exact unused 2 (by decide)
  case p2Fire => exact unused 4 (by decide)
  case p2Left => exact unused 5 (by decide)
  case p2Right => exact unused 6 (by decide)
  all_goals exact tied _ (by decide)

/-- A bit without a button is as it is while no button is held. -/
theorem testBit_controlByte_of_unwired (board : Board) {port : ControlPort} {bit : Nat}
    (h : ∀ button : Button, button.wire ≠ (port, bit)) :
    (board.controlByte port).toNat.testBit bit = (board.released port).toNat.testBit bit := by
  rw [testBit_controlByte, Buttons.testBit_bits_of_unwired _ h, Bool.or_false]

/-- **The control ports show the buttons that are held, and the switches.** -/
theorem inputsShow (board : Board) :
    InputsShow board.dips board.buttons.holds board.controlByte := by
  obtain ⟨ships, clamped, bits⟩ := board.dips.bits_eq
  obtain ⟨shown, bonus, coinInfo, -⟩ :=
    DipSwitches.testBit_switches ships board.dips.bonusAt1000 board.dips.coinInfo
  rw [← bits] at shown bonus coinInfo
  have unwired : ∀ port bit, (∀ button : Button, button.wire ≠ (port, bit)) →
      (board.controlByte port).toNat.testBit bit = (board.released port).toNat.testBit bit :=
    fun _ _ => board.testBit_controlByte_of_unwired
  constructor
  case buttons =>
    intro button
    rw [testBit_controlByte, testBit_released_wire, Buttons.testBit_bits_wire, Bool.false_or]
  case tiedHigh =>
    rw [unwired .first 3 (by rintro (_ | _) <;> decide), released]
    decide
  case tiedLow =>
    rw [unwired .first 7 (by rintro (_ | _) <;> decide), released]
    decide
  case ships =>
    rw [← clamped, ← shown]
    refine Nat.eq_of_testBit_eq fun bit => ?_
    change (_ % 2 ^ 2).testBit bit = (_ % 2 ^ 2).testBit bit
    rw [Nat.testBit_mod_two_pow, Nat.testBit_mod_two_pow]
    by_cases low : bit < 2
    · have free : ∀ button : Button, button.wire ≠ (.second, bit) := by
        interval_cases bit <;> rintro (_ | _) <;> decide
      rw [unwired .second bit free]
      rfl
    · rw [decide_eq_false low, Bool.false_and, Bool.false_and]
  case bonus => exact (unwired .second 3 (by rintro (_ | _) <;> decide)).trans bonus
  case coinInfo => exact (unwired .second 7 (by rintro (_ | _) <;> decide)).trans coinInfo

/-- **Pressing or releasing some buttons leaves every bit alone that is not one of theirs.** -/
theorem testBit_controlByte_update (board : Board) (changed : Buttons) (pressed : Bool)
    {port : ControlPort} {bit : Nat}
    (h : ∀ button, changed.holds button = true → button.wire ≠ (port, bit)) :
    (({ board with buttons := board.buttons.update changed pressed } : Board).controlByte
        port).toNat.testBit bit = (board.controlByte port).toNat.testBit bit := by
  have same : ((board.buttons.update changed pressed).bits port).toNat.testBit bit =
      (board.buttons.bits port).toNat.testBit bit := by
    rw [Bool.eq_iff_iff, Buttons.testBit_bits_iff, Buttons.testBit_bits_iff]
    refine exists_congr fun button => and_congr_left fun wired => ?_
    have unnamed : changed.holds button = false := by
      rw [Bool.eq_false_iff]
      exact fun named => h button named wired
    rw [Buttons.holds_update, unnamed]
    rfl
  rw [testBit_controlByte, testBit_controlByte, same]
  cases port <;> rfl

end Board

end Arcade
