import Arcade.Proofs.Memory
import Mathlib.Data.ZMod.Basic

/-! # Memory as a map from residues

A memory of fewer than 64 KiB appears several times in the address space, so what it holds is a byte
for each residue modulo its size. Here is that map with the same requests (`ByteMap.perform`), stated
without arrays: a residue is an address or a physical offset, whatever number it was given by.

* `Request`, `Reply`: what can be asked of a memory, and the replies of one request after the other
  (`Request.serve`);
* `Mirrors`: a memory holds what a map says; `Mirrors.read` to `Mirrors.clear` for each request;
* `Mirrors.perform`, `Mirrors.serve`: the same replies, and the memory still holds what the map
  says;
* `cell_eq_masked`: the cell of an address, by the mask of its size;
* `serves_as_residues`: **a memory that was made is such a map**. -/

namespace Arcade

namespace Memory

/-- What can be asked of a memory. Offsets and lengths may be any numbers. -/
inductive Request
  | read (address : UInt16)
  | write (address : UInt16) (value : UInt8)
  | readWord (address : UInt16)
  | writeWord (address value : UInt16)
  | load (offset : Nat) (block : Array UInt8)
  | slice (start length : Nat)
  | clear
  deriving DecidableEq, Repr

/-- The reply to a request. -/
inductive Reply
  | done
  | byte (value : UInt8)
  | word (value : UInt16)
  | bytes (values : List UInt8)
  /-- A block did not fit. -/
  | refused (error : OutOfBounds)
  deriving DecidableEq, Repr

/-- The replies to some requests, one after the other, and the state they lead to. -/
def Request.serve {σ : Type} (perform : σ → Request → Reply × σ) (state : σ) :
    List Request → List Reply × σ
  | [] => ([], state)
  | request :: requests =>
    let (reply, state) := perform state request
    let (replies, state) := serve perform state requests
    (reply :: replies, state)

/-- A request to a memory. -/
def perform (m : Memory) : Request → Reply × Memory
  | .read address => (.byte (m.read address), m)
  | .write address value => (.done, m.write address value)
  | .readWord address => (.word (m.readWord address), m)
  | .writeWord address value => (.done, m.writeWord address value)
  | .load offset block =>
    match m.load offset block with
    | .ok m => (.done, m)
    | .error error => (.refused error, m)
  | .slice start length => (.bytes (m.slice start length).toList, m)
  | .clear => (.done, m.clear)

end Memory

/-- A byte for each residue modulo a number. -/
abbrev ByteMap (n : Nat) : Type :=
  ZMod n → UInt8

namespace ByteMap

open Memory (Request Reply)

variable {n : Nat}

/-- The map that is 0 everywhere. -/
def zeros (n : Nat) : ByteMap n :=
  fun _ => 0

/-- The byte of an address. -/
def read (map : ByteMap n) (address : UInt16) : UInt8 :=
  map address.toNat

/-- The map with one entry changed. -/
def write (map : ByteMap n) (address : UInt16) (value : UInt8) : ByteMap n :=
  Function.update map address.toNat value

/-- The map with a block of entries changed, from a physical offset on. -/
def load (map : ByteMap n) (offset : Nat) (block : Array UInt8) : ByteMap n := fun residue =>
  if offset ≤ residue.val ∧ residue.val < offset + block.size then block.getD (residue.val - offset) 0
  else map residue

/-- The entries in the order of the physical offsets. -/
def contents (map : ByteMap n) : List UInt8 :=
  (List.range n).map fun offset : Nat => map offset

/-- A request to a map. A word is two entries, at an address and at the next one, the low byte
first. -/
def perform (map : ByteMap n) : Request → Reply × ByteMap n
  | .read address => (.byte (map.read address), map)
  | .write address value => (.done, map.write address value)
  | .readWord address =>
    (.word (.ofNat (littleEndian [map.read address, map.read (address + 1)])), map)
  | .writeWord address value =>
    (.done, (map.write address (.ofNat (value.toNat % 256))).write (address + 1)
      (.ofNat (value.toNat / 256)))
  | .load offset block =>
    if offset + block.size ≤ n then (.done, map.load offset block)
    else (.refused ⟨offset, block.size, n⟩, map)
  | .slice start length => (.bytes ((map.contents.drop (min start n)).take length), map)
  | .clear => (.done, zeros n)

end ByteMap

namespace Memory

variable {n : Nat} {m : Memory} {map : ByteMap n}

/-- A memory holds the bytes of a map, and no others. -/
structure Mirrors (m : Memory) (map : ByteMap n) : Prop where
  size : m.bytes.size = n
  entry : ∀ offset < n, m.bytes[offset]? = some (map offset)

/-! ### One request -/

theorem mirrors_zeros (size : Nat) (h : Accepted size) :
    (zeros size h).Mirrors (ByteMap.zeros size) where
  size := size_zeros size h
  entry offset within := by
    rw [zeros, Array.getElem?_replicate, if_pos within]
    rfl

theorem Mirrors.read (h : m.Mirrors map) (address : UInt16) : m.read address = map.read address := by
  have held := h.entry (m.cell address) (h.size ▸ m.cell_lt address)
  rw [getElem?_cell, cell, h.size, ZMod.natCast_mod] at held
  exact Option.some.inj held

theorem Mirrors.write (h : m.Mirrors map) (address : UInt16) (value : UInt8) :
    (m.write address value).Mirrors (map.write address value) where
  size := (m.size_write address value).trans h.size
  entry offset within := by
    have same : m.cell address = offset ↔ ((offset : Nat) : ZMod n) = (address.toNat : Nat) := by
      rw [ZMod.natCast_eq_natCast_iff', Nat.mod_eq_of_lt within, cell, h.size, eq_comm]
    rw [getElem?_write, h.entry offset within, ByteMap.write, Function.update_apply]
    split_ifs with hit hit' hit'
    · rfl
    · exact absurd (same.mp hit) hit'
    · exact absurd (same.mpr hit') hit
    · rfl

theorem ofBytes_eq_ofNat (high low : UInt8) :
    Word.ofBytes high low = .ofNat (littleEndian [low, high]) := by
  rw [Word.ofBytes, littleEndian_cons, littleEndian_cons, littleEndian_nil]
  congr 1
  omega

theorem Mirrors.readWord (h : m.Mirrors map) (address : UInt16) :
    m.readWord address = .ofNat (littleEndian [map.read address, map.read (address + 1)]) := by
  rw [Memory.readWord, h.read, h.read, ofBytes_eq_ofNat]

theorem Mirrors.load (h : m.Mirrors map) {offset : Nat} {block : Array UInt8} {loaded : Memory}
    (fits : m.load offset block = .ok loaded) : loaded.Mirrors (map.load offset block) where
  size := (size_load fits).trans h.size
  entry i within := by
    have residue : (i : ZMod n).val = i := ZMod.val_cast_of_lt within
    rw [getElem?_load fits, h.entry i within, ByteMap.load, residue]
    split_ifs with inside
    · have inBlock : i - offset < block.size := by omega
      rw [Array.getElem?_eq_getElem inBlock, Array.getD_eq_getD_getElem?,
        Array.getElem?_eq_getElem inBlock, Option.getD_some]
    · rfl

theorem Mirrors.toList (h : m.Mirrors map) : m.bytes.toList = map.contents := by
  apply List.ext_getElem?
  intro i
  rw [Array.getElem?_toList, ByteMap.contents, List.getElem?_map]
  by_cases within : i < n
  · rw [h.entry i within, List.getElem?_range within, Option.map_some]
  · rw [Array.getElem?_eq_none (by rw [h.size]; omega), List.getElem?_eq_none (by simpa using within)]
    rfl

theorem Mirrors.slice (h : m.Mirrors map) (start length : Nat) :
    (m.slice start length).toList = (map.contents.drop (min start n)).take length := by
  have whole : map.contents.length = n := by
    rw [← h.toList, Array.length_toList, h.size]
  rw [Memory.slice, Array.toList_extract, List.extract_eq_take_drop, h.toList,
    Nat.add_sub_cancel_left]
  -- beyond the end there is nothing to drop, however much is asked for
  rcases Nat.le_total start n with within | beyond
  · rw [Nat.min_eq_left within]
  · rw [Nat.min_eq_right beyond, List.drop_of_length_le (by omega), List.drop_of_length_le (by omega)]

theorem Mirrors.clear (h : m.Mirrors map) : m.clear.Mirrors (ByteMap.zeros n) := by
  have cleared := mirrors_zeros m.bytes.size m.accepted
  obtain ⟨rfl, -⟩ := h
  exact cleared

/-- **One request gets the same reply**, and the memory holds what the map then says. -/
theorem Mirrors.perform (h : m.Mirrors map) (request : Request) :
    (m.perform request).1 = (map.perform request).1 ∧
      (m.perform request).2.Mirrors (map.perform request).2 := by
  cases request with
  | read address => exact ⟨congrArg Reply.byte (h.read address), h⟩
  | write address value => exact ⟨rfl, h.write address value⟩
  | readWord address => exact ⟨congrArg Reply.word (h.readWord address), h⟩
  | writeWord address value => exact ⟨rfl, (h.write address _).write (address + 1) _⟩
  | load offset block =>
    by_cases fits : offset + block.size ≤ m.bytes.size
    · obtain ⟨loaded, ended⟩ := load_of_fits fits
      simp only [Memory.perform, ended, ByteMap.perform, h.size ▸ fits, if_true]
      exact ⟨trivial, h.load ended⟩
    · simp only [Memory.perform, load_of_not_fits fits, ByteMap.perform, h.size ▸ fits, if_false,
        h.size]
      exact ⟨trivial, h⟩
  | slice start length => exact ⟨congrArg Reply.bytes (h.slice start length), h⟩
  | clear => exact ⟨rfl, h.clear⟩

/-! ### Requests one after the other -/

theorem Mirrors.serve (h : m.Mirrors map) (requests : List Request) :
    (Request.serve Memory.perform m requests).1 =
        (Request.serve ByteMap.perform map requests).1 ∧
      (Request.serve Memory.perform m requests).2.Mirrors
        (Request.serve ByteMap.perform map requests).2 := by
  induction requests generalizing m map with
  | nil => exact ⟨rfl, h⟩
  | cons request requests ih =>
    obtain ⟨same, mirrors⟩ := h.perform request
    obtain ⟨later, ends⟩ := ih mirrors
    simp only [Request.serve]
    exact ⟨congrArg₂ List.cons same later, ends⟩

/-- The cell of an address is the address without the bits above the size. -/
theorem cell_eq_masked (m : Memory) (address : UInt16) :
    m.cell address = (address &&& UInt16.ofNat (m.bytes.size - 1)).toNat := by
  rw [cell, UInt16.toNat_and]
  rcases m.accepted with h | h | h <;> rw [h]
  · exact (Nat.and_two_pow_sub_one_eq_mod _ 14).symm
  · exact (Nat.and_two_pow_sub_one_eq_mod _ 15).symm
  · exact (Nat.and_two_pow_sub_one_eq_mod _ 16).symm

theorem mirrors_of_ofSize {size : Nat} (made : ofSize size = .ok m) :
    m.Mirrors (ByteMap.zeros size) := by
  unfold ofSize at made
  split at made
  · cases made
    exact mirrors_zeros size _
  · cases made

/-- A memory can be made of exactly the accepted sizes. -/
theorem ofSize_isOk_iff {size : Nat} : (∃ m, ofSize size = .ok m) ↔ Accepted size := by
  rw [accepted_iff]
  unfold ofSize
  split
  · rename_i h
    exact ⟨fun _ => h, fun _ => ⟨_, rfl⟩⟩
  · rename_i h
    exact ⟨nofun, fun h' => absurd h' h⟩

/-- **A memory serves every sequence of requests as a map from residues does.** It can be made of
three sizes. Then, whatever is asked of it, its replies are those of the map that was 0 everywhere at
first, it holds what the map says and has the size it was made of. An address stands for a byte that
is there, and the mask of the size tells which. -/
theorem serves_as_residues :
    (∀ size, (∃ m, ofSize size = .ok m) ↔ size = 0x4000 ∨ size = 0x8000 ∨ size = 0x10000) ∧
    ∀ size m, ofSize size = .ok m ∨ size = 0x10000 ∧ m = full → ∀ requests,
      let map := Request.serve ByteMap.perform (ByteMap.zeros size) requests
      let memory := Request.serve Memory.perform m requests
      memory.1 = map.1 ∧ memory.2.Mirrors map.2 ∧
        ∀ address, memory.2.cell address = (address &&& UInt16.ofNat (size - 1)).toNat ∧
          memory.2.cell address < size := by
  refine ⟨fun _ => ofSize_isOk_iff, fun size m made requests => ?_⟩
  have fresh : m.Mirrors (ByteMap.zeros size) := by
    rcases made with made | ⟨rfl, rfl⟩
    · exact mirrors_of_ofSize made
    · exact mirrors_zeros _ _
  obtain ⟨replies, mirrors⟩ := fresh.serve requests
  refine ⟨replies, mirrors, fun address => ?_⟩
  have masked := cell_eq_masked (Request.serve Memory.perform m requests).2 address
  have within := (Request.serve Memory.perform m requests).2.cell_lt address
  rw [mirrors.size] at masked within
  exact ⟨masked, within⟩

end Memory

end Arcade
