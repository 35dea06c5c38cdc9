import Arcade.Proofs.Cpu.Arithmetic

/-! # Sums and differences of decimal numbers

A byte holds two decimal digits, and a number has any number of bytes. The unit adds two bytes as
binary numbers and corrects the sum. To subtract, it adds the digits that are missing to 9.

* `Packed`, `decimal`, `IsDecimal`: digits and the numbers they stand for;
* `decimalAdjust_of_isSum`: **the correction makes a decimal sum of a binary one**;
* `DecimalOperation.digits`: what is done to two bytes, `digits_sum`;
* `DecimalOperation.chain`: the same for the bytes of two numbers, with the carry that is left each
  time, `chain_sum`;
* `DecimalOperation.gives_of_sum`: the number and the last carry, as they are usually stated
  (`Gives`). -/

namespace Arcade

/-! ### Decimal digits -/

/-- Both halves of a byte are decimal digits. -/
structure Packed (byte : UInt8) : Prop where
  low : byte.toNat % 16 ≤ 9
  high : byte.toNat / 16 ≤ 9

instance (byte : UInt8) : Decidable (Packed byte) :=
  decidable_of_iff (byte.toNat % 16 ≤ 9 ∧ byte.toNat / 16 ≤ 9)
    ⟨fun ⟨low, high⟩ => ⟨low, high⟩, fun ⟨low, high⟩ => ⟨low, high⟩⟩

/-- The number of two digits. -/
def decimal (byte : UInt8) : Nat :=
  10 * (byte.toNat / 16) + byte.toNat % 16

/-- The number that pairs of digits stand for, the lowest one first. -/
def decimals (bytes : List UInt8) : Nat :=
  Nat.ofDigits 100 (bytes.map decimal)

@[simp]
theorem decimals_nil : decimals [] = 0 := rfl

@[simp]
theorem decimals_cons (byte : UInt8) (bytes : List UInt8) :
    decimals (byte :: bytes) = decimal byte + 100 * decimals bytes := by
  rw [decimals, List.map_cons, Nat.ofDigits_cons]
  rfl

/-- Some bytes are the digits of a number. -/
structure IsDecimal (bytes : List UInt8) (n z : Nat) : Prop where
  length : bytes.length = n
  packed : ∀ byte ∈ bytes, Packed byte
  value : decimals bytes = z

theorem isDecimal_nil : IsDecimal [] 0 0 :=
  ⟨rfl, nofun, rfl⟩

theorem IsDecimal.cons {byte : UInt8} {bytes : List UInt8} {n z : Nat} (low : Packed byte)
    (high : IsDecimal bytes n z) : IsDecimal (byte :: bytes) (n + 1) (decimal byte + 100 * z) where
  length := congrArg (· + 1) high.length
  packed := List.forall_mem_cons.mpr ⟨low, high.packed⟩
  value := by rw [decimals_cons, high.value]

theorem IsDecimal.lt {bytes : List UInt8} {n z : Nat} (h : IsDecimal bytes n z) : z < 100 ^ n := by
  have digits : ∀ digit ∈ bytes.map decimal, digit < 100 := by
    intro digit among
    obtain ⟨byte, held, rfl⟩ := List.mem_map.mp among
    have low := (h.packed byte held).low
    have high := (h.packed byte held).high
    rw [decimal]
    omega
  have bound := Nat.ofDigits_lt_base_pow_length (by decide) digits
  rw [List.length_map, h.length] at bound
  rwa [← h.value]

/-! ### The correction -/

/-- A byte is the decimal sum of two others and a carry. -/
structure IsDecimalSum (x y : UInt8) (c : Bool) (result : UInt8) (carry : Bool) : Prop where
  packed : Packed result
  sum : decimal result + 100 * carry.toNat = decimal x + decimal y + c.toNat

/-- The low digit is corrected if the low digits of the two bytes have a carry. -/
theorem low_corrected_iff {x y s : UInt8} {c : Bool} {f : Flags} (hx : Packed x) (hy : Packed y)
    (h : IsSum x y c s f) :
    9 < s.toNat % 16 ∨ f.auxCarry = true ↔ 9 < x.toNat % 16 + y.toNat % 16 + c.toNat := by
  have value := h.value
  have xl := hx.low
  have yl := hy.low
  have bit := c.toNat_le
  rw [h.auxCarry]
  omega

/-- The high digit is corrected if the high digits have a carry, with the one of the low digits. -/
theorem high_corrected_iff {x y s : UInt8} {c : Bool} {f : Flags} (hx : Packed x) (hy : Packed y)
    (h : IsSum x y c s f) :
    0x99 < s.toNat ∨ f.carry = true ↔ 100 ≤ decimal x + decimal y + c.toNat := by
  have value := h.value
  obtain ⟨xl, xh⟩ := hx
  obtain ⟨yl, yh⟩ := hy
  have bit := c.toNat_le
  rw [h.carry, decimal, decimal]
  omega

/-- **The correction makes a decimal sum of a binary one.** -/
theorem decimalAdjust_of_isSum {x y s : UInt8} {c : Bool} {f : Flags} (hx : Packed x)
    (hy : Packed y) (h : IsSum x y c s f) :
    IsDecimalSum x y c (decimalAdjust s f).1 (decimalAdjust s f).2.carry := by
  have adjusted := isAdjusted_decimalAdjust s f
  have carry := adjusted.carry.trans (high_corrected_iff hx hy h)
  have value := adjusted.value
  simp only [correction, low_corrected_iff hx hy h, high_corrected_iff hx hy h] at value
  rw [h.value, Nat.mod_add_mod] at value
  generalize (decimalAdjust s f).1 = result at value ⊢
  generalize (decimalAdjust s f).2.carry = out at carry ⊢
  have bit := c.toNat_le
  obtain ⟨xl, xh⟩ := hx
  obtain ⟨yl, yh⟩ := hy
  have digits (byte : UInt8) : decimal byte = 10 * (byte.toNat / 16) + byte.toNat % 16 := rfl
  have dx := digits x
  have dy := digits y
  have dr := digits result
  -- a carry out of 10 becomes one out of 16, for each of the two digits
  have exact : decimal result + 100 * out.toNat = decimal x + decimal y + c.toNat ∧
      result.toNat % 16 ≤ 9 ∧ result.toNat / 16 ≤ 9 := by
    cases out with
    | true =>
      have high := carry.mp rfl
      rw [if_pos high] at value
      show decimal result + 100 * 1 = _ ∧ _
      split_ifs at value with low
      · have sum : result.toNat + 256 = x.toNat + y.toNat + c.toNat + (6 + 0x60) := by omega
        omega
      · have sum : result.toNat + 256 = x.toNat + y.toNat + c.toNat + (0 + 0x60) := by omega
        omega
    | false =>
      have high := mt carry.mpr Bool.false_ne_true
      rw [if_neg high] at value
      show decimal result + 100 * 0 = _ ∧ _
      split_ifs at value <;> omega
  obtain ⟨sum, low, high⟩ := exact
  exact ⟨⟨low, high⟩, sum⟩

/-! ### What is missing to 99 -/

theorem toNat_missing {y : UInt8} (hy : Packed y) : (0x99 - y).toNat = 0x99 - y.toNat := by
  obtain ⟨low, high⟩ := hy
  have bound := y.toNat_lt
  have nines : (0x99 : UInt8).toNat = 0x99 := rfl
  rw [UInt8.toNat_sub, nines]
  omega

/-- What is missing to 99, computed with a carry. -/
theorem toNat_missing_carried {y : UInt8} (hy : Packed y) (c : Bool) :
    (subtract (add 0x99 0 c).1 y false).1.toNat = 0x99 - y.toNat + c.toNat := by
  have nines : (add 0x99 0 c).1.toNat = (0x99 + 0 + c.toNat) % 256 := (isSum_add 0x99 0 c).value
  have value := (isDifference_subtract (add 0x99 0 c).1 y false).value
  have bit := c.toNat_le
  obtain ⟨low, high⟩ := hy
  rw [nines, Bool.toNat_false] at value
  omega

/-- A carry that is added first, to a byte whose low digit has room for it, is the same as one that
is added last. -/
theorem isSum_of_carried {x y u s : UInt8} {c : Bool} {f : Flags} (hy : Packed y)
    (carried : u.toNat = y.toNat + c.toNat) (h : IsSum u x false s f) : IsSum x y c s f := by
  obtain ⟨low, high⟩ := hy
  have bit := c.toNat_le
  refine ⟨h.toDescribe, ?_, ?_, ?_⟩
  · rw [h.value, carried, Bool.toNat_false]
    omega
  · rw [h.carry, carried, Bool.toNat_false]
    omega
  · rw [h.auxCarry, carried, Bool.toNat_false]
    omega

/-! ### One pair of digits -/

/-- What is computed of two decimal numbers. -/
inductive DecimalOperation
  | add
  | subtract
  deriving DecidableEq, Repr

/-- The accumulator and the flags after some operations with bytes. -/
def accumulate (a : UInt8) (f : Flags) (terms : List (AluOp × UInt8)) : UInt8 × Flags :=
  terms.foldl (fun state term => term.1.apply state.1 term.2 state.2) (a, f)

namespace DecimalOperation

/-- What the accumulator holds first. -/
def load : DecimalOperation → UInt8 → UInt8
  | add, x => x
  | subtract, _ => 0x99

/-- The operations that follow. What is missing to 99 is computed with the carry, which stands for
one more, and is then added. -/
def terms : DecimalOperation → UInt8 → UInt8 → List (AluOp × UInt8)
  | add, _, y => [(.adc, y)]
  | subtract, x, y => [(.adc, 0), (.sub, y), (.add, x)]

/-- The two digits that are computed of two bytes, and the flags with the carry that is left. -/
def digits (operation : DecimalOperation) (x y : UInt8) (f : Flags) : UInt8 × Flags :=
  let (a, f) := accumulate (operation.load x) f (operation.terms x y)
  decimalAdjust a f

/-- The digits that are added in the end. -/
def addend : DecimalOperation → UInt8 → UInt8
  | add, y => y
  | subtract, y => 0x99 - y

variable {operation : DecimalOperation} {x y : UInt8}

theorem packed_addend (hy : Packed y) : Packed (operation.addend y) := by
  cases operation with
  | add => exact hy
  | subtract =>
    have missing := toNat_missing hy
    obtain ⟨low, high⟩ := hy
    constructor
    · rw [addend, missing]
      omega
    · rw [addend, missing]
      omega

theorem decimal_addend (hy : Packed y) :
    decimal (subtract.addend y) + decimal y = 99 := by
  have missing := toNat_missing hy
  obtain ⟨low, high⟩ := hy
  rw [addend, decimal, decimal, missing]
  omega

/-- **Two bytes leave a decimal sum**, for a difference the one with what is missing to 99. -/
theorem digits_sum (operation : DecimalOperation) (hx : Packed x) (hy : Packed y) (f : Flags) :
    IsDecimalSum x (operation.addend y) f.carry (operation.digits x y f).1
      (operation.digits x y f).2.carry := by
  cases operation with
  | add => exact decimalAdjust_of_isSum hx hy (isSum_add x y f.carry)
  | subtract =>
    have missing := toNat_missing_carried hy f.carry
    rw [← toNat_missing hy] at missing
    exact decimalAdjust_of_isSum hx (packed_addend hy)
      (isSum_of_carried (packed_addend hy) missing (isSum_add _ x false))

/-! ### All digits of two numbers -/

/-- What is computed of the bytes of two numbers one after the other, the lowest ones first, and the
flags that are left. -/
def chain (operation : DecimalOperation) : List (UInt8 × UInt8) → Flags → List UInt8 × Flags
  | [], f => ([], f)
  | (x, y) :: pairs, f =>
    let (result, f) := operation.digits x y f
    let (results, f) := operation.chain pairs f
    (result :: results, f)

/-- The carry that must be there at first. For a difference it is the one that is missing to 100. -/
def carryIn : DecimalOperation → Bool
  | add => false
  | subtract => true

/-- The result and the carry for two numbers of `n` bytes. -/
def Gives (operation : DecimalOperation) (n x y result : Nat) (carry : Bool) : Prop :=
  match operation with
  | add => result = (x + y) % 100 ^ n ∧ (carry = true ↔ 100 ^ n ≤ x + y)
  | subtract => (result : Int) = ((x : Int) - y) % 100 ^ n ∧ (carry = true ↔ y ≤ x)

theorem chain_cons (operation : DecimalOperation) (pair : UInt8 × UInt8)
    (pairs : List (UInt8 × UInt8)) (f : Flags) :
    operation.chain (pair :: pairs) f =
      ((operation.digits pair.1 pair.2 f).1 ::
          (operation.chain pairs (operation.digits pair.1 pair.2 f).2).1,
        (operation.chain pairs (operation.digits pair.1 pair.2 f).2).2) :=
  rfl

/-- **The carry goes through all digits.** With the one that came in and the one that went out,
nothing is lost. -/
theorem chain_sum (operation : DecimalOperation) (pairs : List (UInt8 × UInt8))
    (packed : ∀ pair ∈ pairs, Packed pair.1 ∧ Packed pair.2) (f : Flags) :
    ∃ z, IsDecimal (operation.chain pairs f).1 pairs.length z ∧
      z + 100 ^ pairs.length * (operation.chain pairs f).2.carry.toNat =
        decimals (pairs.map (·.1)) + decimals (pairs.map fun pair => operation.addend pair.2) +
          f.carry.toNat := by
  induction pairs generalizing f with
  | nil =>
    refine ⟨0, isDecimal_nil, ?_⟩
    show 0 + 1 * f.carry.toNat = 0 + 0 + f.carry.toNat
    omega
  | cons pair pairs ih =>
    obtain ⟨first, others⟩ := List.forall_mem_cons.mp packed
    have one := operation.digits_sum first.1 first.2 f
    rw [chain_cons]
    generalize operation.digits pair.1 pair.2 f = low at one ⊢
    obtain ⟨z, rest, more⟩ := ih others low.2
    generalize operation.chain pairs low.2 = high at rest more ⊢
    refine ⟨decimal low.1 + 100 * z, .cons one.packed rest, ?_⟩
    have sum := one.sum
    have shifted : 100 ^ (pairs.length + 1) * high.2.carry.toNat =
        100 * (100 ^ pairs.length * high.2.carry.toNat) := by
      rw [Nat.pow_succ', Nat.mul_assoc]
    rw [List.length_cons, shifted, List.map_cons, List.map_cons, decimals_cons, decimals_cons]
    omega

theorem decimals_addend (bytes : List UInt8) (packed : ∀ byte ∈ bytes, Packed byte) :
    decimals (bytes.map subtract.addend) + decimals bytes + 1 = 100 ^ bytes.length := by
  induction bytes with
  | nil => rfl
  | cons byte bytes ih =>
    obtain ⟨first, others⟩ := List.forall_mem_cons.mp packed
    have low := decimal_addend first
    have high := ih others
    rw [List.map_cons, decimals_cons, decimals_cons, List.length_cons, Nat.pow_succ]
    omega

theorem gives_add_of_sum {n x y z : Nat} {carry : Bool} (below : z < 100 ^ n)
    (sum : z + 100 ^ n * carry.toNat = x + y) : add.Gives n x y z carry := by
  rw [Gives, ← sum]
  constructor
  · rw [Nat.add_mul_mod_self_left, Nat.mod_eq_of_lt below]
  · cases carry with
    | true => simp
    | false => simp [below]

theorem gives_subtract_of_sum {n x y z : Nat} {carry : Bool} (below : z < 100 ^ n)
    (sum : z + y + 100 ^ n * carry.toNat = x + 100 ^ n) : subtract.Gives n x y z carry := by
  have positive : 0 ≤ (z : Int) := Int.natCast_nonneg z
  have below' : (z : Int) < 100 ^ n := by exact_mod_cast below
  cases carry with
  | true =>
    rw [Bool.toNat_true, Nat.mul_one] at sum
    refine ⟨?_, fun _ => by omega, fun _ => rfl⟩
    have difference : (x : Int) - y = z := by omega
    rw [difference, Int.emod_eq_of_lt positive below']
  | false =>
    rw [Bool.toNat_false, Nat.mul_zero, Nat.add_zero] at sum
    refine ⟨?_, nofun, fun _ => by omega⟩
    have difference : (x : Int) - y = z + 100 ^ n * (-1) := by
      have sum' : (z : Int) + y = x + 100 ^ n := by exact_mod_cast sum
      omega
    rw [difference, Int.add_mul_emod_self_left, Int.emod_eq_of_lt positive below']

/-- **Digits and carry are those of the sum or the difference**, whatever the auxiliary carry was at
first. -/
theorem gives_chain (operation : DecimalOperation) {xs ys : List UInt8} {n x y : Nat}
    (hx : IsDecimal xs n x) (hy : IsDecimal ys n y) {f : Flags}
    (starts : f.carry = operation.carryIn) :
    ∃ z, IsDecimal (operation.chain (xs.zip ys) f).1 n z ∧
      operation.Gives n x y z (operation.chain (xs.zip ys) f).2.carry := by
  have packed : ∀ pair ∈ xs.zip ys, Packed pair.1 ∧ Packed pair.2 := by
    intro pair among
    obtain ⟨left, right⟩ := List.of_mem_zip among
    exact ⟨hx.packed _ left, hy.packed _ right⟩
  have length : (xs.zip ys).length = n := by
    rw [List.length_zip, hx.length, hy.length, Nat.min_self]
  have lefts : (xs.zip ys).map (·.1) = xs :=
    List.map_fst_zip (Nat.le_of_eq (hx.length.trans hy.length.symm))
  have rights : (xs.zip ys).map (·.2) = ys :=
    List.map_snd_zip (Nat.le_of_eq (hy.length.trans hx.length.symm))
  have addends : ((xs.zip ys).map fun pair => operation.addend pair.2) = ys.map operation.addend := by
    conv_rhs => rw [← rights, List.map_map]
    rfl
  obtain ⟨z, isDecimal, sum⟩ := operation.chain_sum (xs.zip ys) packed f
  rw [length] at isDecimal sum
  rw [lefts, addends, hx.value, starts] at sum
  refine ⟨z, isDecimal, ?_⟩
  cases operation with
  | add =>
    have same : ys.map add.addend = ys := List.map_id' ys
    rw [same, hy.value] at sum
    exact gives_add_of_sum isDecimal.lt sum
  | subtract =>
    have missing := decimals_addend ys hy.packed
    rw [hy.value, hy.length] at missing
    have carried : subtract.carryIn.toNat = 1 := rfl
    exact gives_subtract_of_sum isDecimal.lt (by omega)

end DecimalOperation

end Arcade
