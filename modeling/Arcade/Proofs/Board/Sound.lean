import Arcade.Proofs.Bus
import Mathlib.Data.List.Basic

/-! # Sounds and the bits that rise

An effect starts when its bit rises: when it is 1 in a byte sent to the effect's port, and was 0 in
the byte sent there before. Which effects start is stated for the traffic alone, without latches.

* `rose`, `SoundBank.risen`: the bits that rise from one byte to the next, and their effects;
* `heard`: the effects that some traffic starts, each access judged by the ones before it;
* `started_eq_risen`: the latches start the effects whose bits rise;
* `Latched.access`, `sounds_after`: the latches hold the last bytes, so what is heard is what starts;
* `count_heard`: an effect starts as often as its bit rises in the bytes of its port (`rises`);
* `sounds_on_rising_bits`: **these together, and a reset forgets the bytes before it**. -/

namespace Arcade

open Bus Bus.Access

/-- Whether a bit is set in a byte and was not in the byte before. -/
def rose (bit : Nat) (before byte : UInt8) : Bool :=
  byte.toNat.testBit bit && !before.toNat.testBit bit

/-- How often a bit rises in a sequence of bytes that follows a byte. -/
def rises (bit : Nat) (before : UInt8) : List UInt8 → Nat
  | [] => 0
  | byte :: bytes => (rose bit before byte).toNat + rises bit byte bytes

theorem rises_concat (bit : Nat) (before : UInt8) (bytes : List UInt8) (byte : UInt8) :
    rises bit before (bytes ++ [byte]) =
      rises bit before bytes + (rose bit (bytes.reverse.getD 0 before) byte).toNat := by
  induction bytes generalizing before with
  | nil => simp [rises]
  | cons first bytes ih =>
    have last : (first :: bytes).reverse.getD 0 before = bytes.reverse.getD 0 first := by
      cases h : bytes.reverse <;> simp [h]
    rw [List.cons_append, rises, rises, ih, last, Nat.add_assoc]

/-- The effects of a list whose bits are chosen; the bits are numbered from some number on. -/
def SoundEffect.chosen (effects : List SoundEffect) (first : Nat) (set : Nat → Bool) :
    List SoundEffect :=
  ((effects.zipIdx first).filter fun wired => set wired.2).map Prod.fst

theorem SoundEffect.chosen_cons (effect : SoundEffect) (effects : List SoundEffect) (first : Nat)
    (set : Nat → Bool) :
    chosen (effect :: effects) first set =
      if set first then effect :: chosen effects (first + 1) set
      else chosen effects (first + 1) set := by
  rw [chosen, List.zipIdx_cons, List.filter_cons]
  split_ifs <;> rfl

namespace SoundBank

/-- The number of the port a bank of effects is wired to. -/
def port : SoundBank → UInt8
  | first => 3
  | second => 5

/-- The effects of a bank whose bits rise from one byte to the next, lowest bit first. -/
def risen (bank : SoundBank) (before byte : UInt8) : List SoundEffect :=
  SoundEffect.chosen bank.effects 0 fun bit => rose bit before byte

end SoundBank

namespace Bus

/-- The effects an access starts after some others. -/
def starts (earlier : List Access) : Access → List SoundEffect
  | .input _ => []
  | .output port value =>
    if port = 3 then SoundBank.first.risen (recent 3 earlier 0) value
    else if port = 5 then SoundBank.second.risen (recent 5 earlier 0) value
    else []

/-- The effects that accesses start, in order. -/
def heard (accesses : List Access) : List SoundEffect :=
  accesses.zipIdx.flatMap fun (access, count) => starts (accesses.take count) access

/-- One more access adds what it starts. -/
theorem heard_concat (accesses : List Access) (access : Access) :
    heard (accesses ++ [access]) = heard accesses ++ starts accesses access := by
  have last : (accesses ++ [access]).take accesses.length = accesses := List.take_left
  have before : accesses.zipIdx.flatMap
        (fun (earlier, count) => starts ((accesses ++ [access]).take count) earlier) =
      heard accesses := by
    refine List.flatMap_congr fun ⟨earlier, count⟩ among => ?_
    have within : count ≤ accesses.length := (List.snd_lt_of_mem_zipIdx among).le
    simp only [List.take_append_of_le_length within]
  rw [heard, List.zipIdx_append, List.flatMap_append, before]
  simp [last]

end Bus

/-! ### The latches -/

namespace SoundLatches

/-- The bits the latches take as the difference of two bytes are those that rise. -/
theorem testBit_difference (before byte : UInt8) (bit : Nat) :
    (byte &&& ~~~before).toNat.testBit bit = rose bit before byte := by
  have complement : (~~~before).toNat = 2 ^ 8 - (before.toNat + 1) := by
    have size : UInt8.size = 2 ^ 8 := rfl
    rw [UInt8.toNat_not]
    omega
  rw [rose, UInt8.toNat_and, Nat.testBit_and, complement,
    Nat.testBit_two_pow_sub_succ before.toNat_lt]
  by_cases within : bit < 8
  · rw [decide_eq_true within, Bool.true_and]
  · rw [testBit_of_le byte (Nat.not_lt.mp within), Bool.false_and, Bool.false_and]

theorem lowest_eq_one_iff (byte : UInt8) : byte &&& 1 = 1 ↔ byte.toNat.testBit 0 = true :=
  forall_byte (p := fun byte => byte &&& 1 = 1 ↔ byte.toNat.testBit 0 = true)
    (by decide +kernel) byte

/-- The effects of a list that are started are those whose bits are set, wherever the numbering of
the bits begins. -/
theorem started_eq (effects : List SoundEffect) (rising : UInt8) (first : Nat) (set : Nat → Bool)
    (h : ∀ i, set (first + i) = rising.toNat.testBit i) :
    started effects rising = SoundEffect.chosen effects first set := by
  induction effects generalizing rising first with
  | nil => rfl
  | cons effect effects ih =>
    have shifted : ∀ i, (rising >>> 1).toNat.testBit i = rising.toNat.testBit (1 + i) := fun i => by
      rw [UInt8.toNat_shiftRight]
      exact Nat.testBit_shiftRight _
    have rest := ih (rising >>> 1) (first + 1) fun i => by rw [Nat.add_assoc, h, shifted]
    have lowest : set first = rising.toNat.testBit 0 := h 0
    rw [started, SoundEffect.chosen_cons, rest, lowest]
    simp only [lowest_eq_one_iff]

/-- **The latches start the effects whose bits rise.** -/
theorem started_eq_risen (bank : SoundBank) (before byte : UInt8) :
    started bank.effects (byte &&& ~~~before) = bank.risen before byte :=
  started_eq _ _ 0 _ fun i => by rw [Nat.zero_add, testBit_difference]

end SoundLatches

namespace Board

/-- A latch takes the bytes sent to its port. -/
theorem value_sound_write (board : Board) (n value : UInt8) (bank : SoundBank) :
    (board.write n value).1.sound.value bank =
      if n = bank.port then value else board.sound.value bank := by
  rcases board.write_cases n value with ⟨port, rfl, sent⟩ | ⟨unwired, ignored⟩
  · rw [sent]
    rcases port with _ | _ | (_ | _) | _ <;> cases bank <;> rfl
  · have other : n ≠ bank.port := by
      have absent := unwired (.sound bank)
      cases bank <;> exact absent
    rw [ignored, if_neg other]

/-- The effects a board starts. -/
theorem snd_write (board : Board) (n value : UInt8) :
    (board.write n value).2 =
      if n = 3 then SoundBank.first.risen board.sound.first value
      else if n = 5 then SoundBank.second.risen board.sound.second value
      else [] := by
  rcases board.write_cases n value with ⟨port, rfl, sent⟩ | ⟨unwired, ignored⟩
  · rw [sent]
    rcases port with _ | _ | (_ | _) | _
    case sound.first => exact SoundLatches.started_eq_risen .first _ _
    case sound.second => exact SoundLatches.started_eq_risen .second _ _
    all_goals rfl
  · have first : n ≠ 3 := unwired (.sound .first)
    have second : n ≠ 5 := unwired (.sound .second)
    rw [ignored, if_neg first, if_neg second]

end Board

/-! ### What is heard -/

namespace Bus

/-- The latches hold the last bytes sent to their ports. -/
def Latched (bus : Bus) (accesses : List Access) : Prop :=
  ∀ bank : SoundBank, bus.board.sound.value bank = recent bank.port accesses 0

theorem Latched.access {bus : Bus} {accesses : List Access} (h : bus.Latched accesses)
    (access : Access) : (bus.access access).Latched (accesses ++ [access]) := by
  intro bank
  cases access with
  | input port =>
    rw [Bus.access, board_input, recent_concat_of_other rfl]
    exact h bank
  | output port value =>
    rw [Bus.access, board_output, Board.value_sound_write]
    split_ifs with own
    · rw [own, recent_concat_output_zero]
    · rw [recent_concat_of_other (sent?_output_of_ne own value)]
      exact h bank

/-- An access starts what it starts after the ones before it. -/
theorem Latched.sounds_access {bus : Bus} {accesses : List Access} (h : bus.Latched accesses)
    (access : Access) : (bus.access access).sounds = bus.sounds ++ starts accesses access := by
  cases access with
  | input port =>
    rw [Bus.access, sounds_input]
    exact (List.append_nil _).symm
  | output port value =>
    have first : bus.board.sound.first = recent 3 accesses 0 := h .first
    have second : bus.board.sound.second = recent 5 accesses 0 := h .second
    rw [Bus.access, sounds_output, Board.snd_write, first, second, starts]

theorem latched_nil {bus : Bus} (fresh : bus.board.Fresh) : bus.Latched [] := by
  intro bank
  rw [fresh.sound]
  cases bank <;> rfl

/-- **What is heard is what the traffic starts**, as the latches hold the bytes it is judged by. -/
theorem sounds_after {bus : Bus} (fresh : bus.board.Fresh) (accesses : List Access) :
    (bus.after accesses).sounds = bus.sounds ++ heard accesses := by
  refine (after_of_kept
    (P := fun last accesses => last.Latched accesses ∧ last.sounds = bus.sounds ++ heard accesses)
    ⟨latched_nil fresh, (List.append_nil _).symm⟩ ?_ accesses).2
  rintro last accesses access ⟨latched, played⟩
  refine ⟨latched.access access, ?_⟩
  rw [latched.sounds_access, played, heard_concat, List.append_assoc]

end Bus

/-! ### How often an effect starts -/

namespace SoundBank

theorem nodup_effects (bank : SoundBank) : bank.effects.Nodup := by
  cases bank <;> decide

/-- No effect is wired to both banks. -/
theorem eq_of_mem_effects {bank other : SoundBank} {effect : SoundEffect}
    (h : effect ∈ bank.effects) (h' : effect ∈ other.effects) : bank = other := by
  cases bank <;> cases other <;> cases effect <;> first | rfl | (exfalso; revert h h'; decide)

/-- The effects of chosen bits are effects of the list. -/
theorem mem_of_mem_chosen {effects : List SoundEffect} {first : Nat} {set : Nat → Bool}
    {effect : SoundEffect} (h : effect ∈ SoundEffect.chosen effects first set) :
    effect ∈ effects := by
  obtain ⟨⟨_, bit⟩, numbered, rfl⟩ := List.mem_map.mp h
  exact List.fst_mem_of_mem_zipIdx (List.mem_filter.mp numbered).1

/-- An effect is chosen once if its own bit is, and otherwise not at all. -/
theorem count_chosen {effects : List SoundEffect} (nodup : effects.Nodup) {effect : SoundEffect}
    {bit : Nat} (h : effects[bit]? = some effect) (first : Nat) (set : Nat → Bool) :
    (SoundEffect.chosen effects first set).count effect = (set (first + bit)).toNat := by
  induction effects generalizing bit first with
  | nil => cases h
  | cons head effects ih =>
    obtain ⟨apart, nodup⟩ := List.nodup_cons.mp nodup
    rw [SoundEffect.chosen_cons]
    cases bit with
    | zero =>
      obtain rfl : head = effect := Option.some.inj h
      have absent : (SoundEffect.chosen effects (first + 1) set).count head = 0 :=
        List.count_eq_zero_of_not_mem fun among => apart (mem_of_mem_chosen among)
      show _ = (set first).toNat
      split_ifs with own
      · rw [List.count_cons_self, absent, own]
        rfl
      · rw [absent, Bool.eq_false_iff.mpr own]
        rfl
    | succ bit =>
      have later : effects[bit]? = some effect := h
      have ne : head ≠ effect := fun same => apart (same ▸ List.mem_of_getElem? later)
      have rest := ih nodup later (first + 1)
      rw [Nat.add_assoc, Nat.add_comm 1] at rest
      split_ifs
      · rw [List.count_cons_of_ne ne, rest]
      · exact rest

theorem count_risen {bank : SoundBank} {bit : Nat} {effect : SoundEffect}
    (h : bank.effects[bit]? = some effect) (before byte : UInt8) :
    (bank.risen before byte).count effect = (rose bit before byte).toNat := by
  rw [risen, count_chosen bank.nodup_effects h 0 fun bit => rose bit before byte, Nat.zero_add]

theorem count_risen_of_ne {bank other : SoundBank} (ne : bank ≠ other) {effect : SoundEffect}
    (h : effect ∈ bank.effects) (before byte : UInt8) :
    (other.risen before byte).count effect = 0 :=
  List.count_eq_zero_of_not_mem fun among => ne (eq_of_mem_effects h (mem_of_mem_chosen among))

end SoundBank

namespace Bus

theorem starts_output_port (earlier : List Access) (bank : SoundBank) (value : UInt8) :
    starts earlier (.output bank.port value) =
      bank.risen (recent bank.port earlier 0) value := by
  cases bank <;> rfl

/-- No effect of a bank starts but by a byte sent to its port. -/
theorem count_starts_of_other {bank : SoundBank} {effect : SoundEffect} (h : effect ∈ bank.effects)
    (earlier : List Access) {access : Access} (other : access.sent? bank.port = none) :
    (starts earlier access).count effect = 0 := by
  cases access with
  | input port => rfl
  | output port value =>
    have apart : ∀ wired : SoundBank, port = wired.port → bank ≠ wired := by
      rintro wired rfl rfl
      simp [sent?] at other
    rw [starts]
    split_ifs with first second
    · exact SoundBank.count_risen_of_ne (apart .first first) h _ _
    · exact SoundBank.count_risen_of_ne (apart .second second) h _ _
    · rfl

/-- **An effect starts as often as its bit rises** in the bytes sent to its port. -/
theorem count_heard {bank : SoundBank} {bit : Nat} {effect : SoundEffect}
    (h : bank.effects[bit]? = some effect) (accesses : List Access) :
    (heard accesses).count effect = rises bit 0 (sentTo bank.port accesses) := by
  induction accesses using List.reverseRecOn with
  | nil => rfl
  | append_singleton accesses access ih =>
    rw [heard_concat, List.count_append, ih]
    cases sent : access.sent? bank.port with
    | some value =>
      obtain rfl := sent?_eq_some_iff.mp sent
      rw [starts_output_port, SoundBank.count_risen h, sentTo_concat_output, rises_concat]
      rfl
    | none =>
      have wired : effect ∈ bank.effects := List.mem_of_getElem? h
      rw [count_starts_of_other wired accesses sent, sentTo_concat_of_other sent, Nat.add_zero]

/-- The bus with its board reset. -/
def restarted (bus : Bus) : Bus :=
  { bus with board := bus.board.reset }

/-- After a reset a bit that is set rises, whatever was sent before. -/
theorem count_output_restarted {bank : SoundBank} {bit : Nat} {effect : SoundEffect}
    (h : bank.effects[bit]? = some effect) (bus : Bus) {value : UInt8}
    (set : value.toNat.testBit bit = true) :
    (bus.restarted.output bank.port value).sounds.count effect = bus.sounds.count effect + 1 := by
  have fresh : bus.restarted.board.Fresh := .reset bus.board
  have played := sounds_after fresh [.output bank.port value]
  have sent : sentTo bank.port [.output bank.port value] = [value] :=
    sentTo_concat_output bank.port [] value
  have risen : rose bit 0 value = true := by
    rw [rose, set]
    simp
  have once : (heard [.output bank.port value]).count effect = 1 := by
    rw [count_heard h, sent, rises, rises, risen]
    rfl
  have counted := congrArg (List.count effect) played
  rw [List.count_append, once] at counted
  exact counted

/-- **Sounds start where bits rise.** After any traffic that began with a board that was just made or
reset, the effects heard since are those whose bits rose, in order, and each of them was heard as
often as its bit rose in the bytes sent to its own port. After a reset a bit that was held rises once
more. -/
theorem sounds_on_rising_bits {bus : Bus} (fresh : bus.board.Fresh) (accesses : List Access) :
    (bus.after accesses).sounds = bus.sounds ++ heard accesses ∧
      (∀ (bank : SoundBank) bit effect, bank.effects[bit]? = some effect →
        (heard accesses).count effect = rises bit 0 (sentTo bank.port accesses)) ∧
      ∀ (bank : SoundBank) bit effect (value : UInt8), bank.effects[bit]? = some effect →
        value.toNat.testBit bit = true →
        ((bus.after accesses).restarted.output bank.port value).sounds.count effect =
          (bus.after accesses).sounds.count effect + 1 :=
  ⟨sounds_after fresh accesses, fun _ _ _ wired => count_heard wired accesses,
    fun _ _ _ _ wired set => count_output_restarted wired _ set⟩

/-- The shot is held, and the hit of the saucer falls between; then a third effect rises. -/
def salvo : List Access :=
  [.output 3 0x22, .input 3, .output 5 0xf0, .output 3 0x22, .output 6 0x01, .output 3 0x06]

/-- Each effect of the salvo is heard once, and after a reset the shot is heard again. -/
theorem sounds_on_rising_bits_salvo :
    ({} : Bus).board.Fresh ∧
      (after {} salvo).sounds = [.shot, .ufoHit, .playerDies] ∧
      ((after {} salvo).restarted.output 3 0x06).sounds.count .shot = 2 := by
  have fresh : ({} : Bus).board.Fresh := .new {}
  obtain ⟨heard, -, again⟩ := sounds_on_rising_bits fresh salvo
  have played : (after {} salvo).sounds = [.shot, .ufoHit, .playerDies] :=
    heard.trans (by decide)
  refine ⟨fresh, played, (again .first 1 .shot 0x06 rfl (by decide)).trans ?_⟩
  rw [played]
  rfl

end Bus

end Arcade
