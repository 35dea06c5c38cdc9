import Arcade.Text.Hex
import Arcade.Word

/-!
# Memory

A flat array of 16, 32 or 64 KiB behind 16-bit addresses. A smaller memory appears several times
in the address space: an address is taken modulo the size, so no access is out of range.

* `Memory.ofSize` is a memory of zeros, if its size is a power of two within bounds
  (`accepted_iff`);
* `Memory.read`, `Memory.write` work on one byte, `readWord` and `writeWord` on two, the low byte
  first; the address after the last one is the first;
* `Memory.load` places a block of bytes at a physical offset, or fails if the block does not fit;
* `read_write`: a write changes the cell its address stands for and no other;
* `getElem?_load`: a load changes the cells of the block and no others.
-/

namespace Arcade

/-- The sizes a memory may have. -/
def Memory.Accepted (size : Nat) : Prop :=
  size = 0x4000 ∨ size = 0x8000 ∨ size = 0x10000

/-- The accepted sizes are the powers of two from 16 to 64 KiB. -/
theorem Memory.accepted_iff {size : Nat} :
    Accepted size ↔ size.isPowerOfTwo ∧ 0x4000 ≤ size ∧ size ≤ 0x10000 := by
  constructor
  · rintro (rfl | rfl | rfl) <;> decide
  · rintro ⟨⟨k, rfl⟩, least, most⟩
    have low : 14 ≤ k := (Nat.pow_le_pow_iff_right (by decide : 1 < 2)).mp least
    have high : k ≤ 16 := (Nat.pow_le_pow_iff_right (by decide : 1 < 2)).mp most
    obtain rfl | rfl | rfl : k = 14 ∨ k = 15 ∨ k = 16 := by omega
    · exact Or.inl rfl
    · exact Or.inr (Or.inl rfl)
    · exact Or.inr (Or.inr rfl)

/-- The bytes behind the address bus. -/
structure Memory where
  bytes : Array UInt8
  accepted : Memory.Accepted bytes.size

namespace Memory

/-- A size no memory may have. -/
structure InvalidSize where
  size : Nat
  deriving DecidableEq, Repr

/-- What is said of a refused size. -/
def InvalidSize.message (e : InvalidSize) : String :=
  "memory size 0x" ++ Hex.atLeast 1 e.size ++
    " must be a power of two between 0x4000 and 0x10000"

/-- A block of bytes that does not fit at its offset. -/
structure OutOfBounds where
  offset : Nat
  length : Nat
  size : Nat
  deriving DecidableEq, Repr

/-- What is said of a block that does not fit. -/
def OutOfBounds.message (e : OutOfBounds) : String :=
  "0x" ++ Hex.atLeast 1 e.length ++ " bytes at offset 0x" ++ Hex.atLeast 4 e.offset ++
    " do not fit in 0x" ++ Hex.atLeast 1 e.size ++ " bytes of memory"

/-- The number of physical bytes. -/
def size (m : Memory) : Nat :=
  m.bytes.size

theorem size_pos (m : Memory) : 0 < m.bytes.size := by
  rcases m.accepted with h | h | h <;> omega

@[ext]
theorem ext {m n : Memory} (h : m.bytes = n.bytes) : m = n := by
  cases m
  cases n
  simp_all

/-- A memory of zeros of an accepted size. -/
def zeros (size : Nat) (h : Accepted size) : Memory where
  bytes := Array.replicate size 0
  accepted := by simpa using h

/-- Zeros in the whole address space of 64 KiB. -/
def full : Memory :=
  zeros 0x10000 (Or.inr (Or.inr rfl))

instance : Inhabited Memory := ⟨full⟩

/-- Zeros of the wanted size, if a memory may have it. -/
def ofSize (size : Nat) : Except InvalidSize Memory :=
  if h : size.isPowerOfTwo ∧ 0x4000 ≤ size ∧ size ≤ 0x10000 then
    .ok (zeros size (accepted_iff.mpr h))
  else
    .error ⟨size⟩

/-- The physical cell an address stands for. -/
def cell (m : Memory) (address : UInt16) : Nat :=
  address.toNat % m.bytes.size

theorem cell_lt (m : Memory) (address : UInt16) : m.cell address < m.bytes.size :=
  Nat.mod_lt _ m.size_pos

/-- The byte at an address. -/
def read (m : Memory) (address : UInt16) : UInt8 :=
  have := m.cell_lt address
  m.bytes[m.cell address]

/-- The memory with one byte changed. -/
def write (m : Memory) (address : UInt16) (value : UInt8) : Memory where
  bytes := m.bytes.set (m.cell address) value (m.cell_lt address)
  accepted := by simpa using m.accepted

/-- The word at an address, its low byte first. -/
def readWord (m : Memory) (address : UInt16) : UInt16 :=
  Word.ofBytes (m.read (address + 1)) (m.read address)

/-- The memory with a word stored at an address, its low byte first. -/
def writeWord (m : Memory) (address : UInt16) (value : UInt16) : Memory :=
  (m.write address (Word.low value)).write (address + 1) (Word.high value)

/-- The memory with a block of bytes placed at a physical offset. -/
def load (m : Memory) (offset : Nat) (block : Array UInt8) : Except OutOfBounds Memory :=
  if h : offset + block.size ≤ m.bytes.size then
    .ok {
      bytes := m.bytes.extract 0 offset ++ block ++
        m.bytes.extract (offset + block.size) m.bytes.size
      accepted := by
        have : (m.bytes.extract 0 offset ++ block ++
            m.bytes.extract (offset + block.size) m.bytes.size).size = m.bytes.size := by
          simp
          omega
        simpa only [this] using m.accepted }
  else
    .error ⟨offset, block.size, m.bytes.size⟩

/-- At most `length` physical bytes from `start` on. -/
def slice (m : Memory) (start length : Nat) : Array UInt8 :=
  m.bytes.extract start (start + length)

/-- Zeros in every cell. -/
def clear (m : Memory) : Memory :=
  zeros m.bytes.size m.accepted

@[simp]
theorem size_write (m : Memory) (address : UInt16) (value : UInt8) :
    (m.write address value).bytes.size = m.bytes.size := by
  simp [write]

@[simp]
theorem cell_write (m : Memory) (address other : UInt16) (value : UInt8) :
    (m.write address value).cell other = m.cell other := by
  simp [cell]

theorem read_write (m : Memory) (address other : UInt16) (value : UInt8) :
    (m.write address value).read other =
      if m.cell address = m.cell other then value else m.read other := by
  simp only [read, write, cell, Array.size_set, Array.getElem_set]
  rfl

@[simp]
theorem size_zeros (size : Nat) (h : Accepted size) : (zeros size h).bytes.size = size := by
  simp [zeros]

@[simp]
theorem read_zeros (size : Nat) (h : Accepted size) (address : UInt16) :
    (zeros size h).read address = 0 := by
  simp [read, zeros]

theorem load_of_fits {m : Memory} {offset : Nat} {block : Array UInt8}
    (h : offset + block.size ≤ m.bytes.size) : ∃ loaded, m.load offset block = .ok loaded := by
  rw [load, dif_pos h]
  exact ⟨_, rfl⟩

theorem load_of_not_fits {m : Memory} {offset : Nat} {block : Array UInt8}
    (h : ¬offset + block.size ≤ m.bytes.size) :
    m.load offset block = .error ⟨offset, block.size, m.bytes.size⟩ := by
  rw [load, dif_neg h]

theorem size_load {m n : Memory} {offset : Nat} {block : Array UInt8}
    (h : m.load offset block = .ok n) : n.bytes.size = m.bytes.size := by
  unfold load at h
  split at h
  · cases h
    simp
    omega
  · cases h

/-- Inside the block its bytes, outside what was there. -/
theorem getElem?_load {m n : Memory} {offset : Nat} {block : Array UInt8}
    (h : m.load offset block = .ok n) (i : Nat) :
    n.bytes[i]? =
      if offset ≤ i ∧ i < offset + block.size then block[i - offset]? else m.bytes[i]? := by
  unfold load at h
  split at h
  · rename_i hfits
    cases h
    have hmin : min offset m.bytes.size = offset := by omega
    by_cases hlow : i < offset
    · have hout : ¬offset ≤ i := by omega
      simp [Array.getElem?_append, hlow, hmin, hout]
    · have hstart : offset ≤ i := by omega
      by_cases hhigh : i < offset + block.size
      · have hin : i - offset < block.size := by omega
        simp [Array.getElem?_append, hlow, hhigh, hmin, hin, hstart]
      · have hout : ¬i - offset < block.size := by omega
        have hback : offset + block.size + (i - offset - block.size) = i := by omega
        simp [Array.getElem?_append, Array.getElem?_extract, hlow, hhigh, hmin, hout, hback]
        intro hend
        omega
  · cases h

/-- One byte to be stored at an address. -/
abbrev Store := UInt16 × UInt8

/-- The memory after some stores, the first one first. -/
def storeAll (m : Memory) (stores : List Store) : Memory :=
  stores.foldl (fun m store => m.write store.1 store.2) m

@[simp]
theorem storeAll_nil (m : Memory) : m.storeAll [] = m := rfl

@[simp]
theorem storeAll_cons (m : Memory) (store : Store) (stores : List Store) :
    m.storeAll (store :: stores) = (m.write store.1 store.2).storeAll stores := rfl

end Memory

end Arcade
