import Arcade.Memory
import Arcade.Proofs.Word

/-! # Cells and blocks of memory

A memory of fewer than 64 KiB shows each of its cells at several addresses, and the address after
the last one is the first. So two accesses are apart if their cells are, not if their addresses
are. As a size divides 2^16, stepping through addresses steps through cells (`cell_add_ofNat`).

* `read_write_self`, `read_write_of_ne`: a byte after a write;
* `read_writeWord_low`, `read_writeWord_high`: the two bytes of a word that was stored;
* `holding`: a memory given by the bytes stored in it;
* `bytesFrom`, `cellsFrom`: the bytes and the cells of a block of addresses; a write outside a block
  does not change it (`bytesFrom_write`), and a block may be taken apart (`bytesFrom_append`);
* `bytesFrom_writeWord`: a block that begins with a word that was stored;
* `SameBut`: two memories that differ in some cells at most, as before and after a write
  (`sameBut_write`, `sameBut_writeWord`); blocks apart from these are the same in both
  (`SameBut.bytesFrom`). -/

namespace Arcade.Memory

theorem size_dvd (m : Memory) : m.bytes.size ∣ 65536 := by
  rcases m.accepted with h | h | h <;> rw [h] <;> decide

theorem size_ge (m : Memory) : 0x4000 ≤ m.bytes.size := by
  rcases m.accepted with h | h | h <;> omega

/-- The least memory shows the first addresses once. -/
theorem cell_of_lt (m : Memory) {a : UInt16} (h : a.toNat < 0x4000) : m.cell a = a.toNat :=
  Nat.mod_eq_of_lt (Nat.lt_of_lt_of_le h m.size_ge)

/-- The greatest memory shows every cell once. -/
theorem cell_ne_of_size {m : Memory} (h : m.bytes.size = 0x10000) {a b : UInt16} (ne : a ≠ b) :
    m.cell a ≠ m.cell b := by
  rw [cell, cell, h, Nat.mod_eq_of_lt a.toNat_lt, Nat.mod_eq_of_lt b.toNat_lt]
  exact fun same => ne (UInt16.toNat_inj.mp same)

theorem cell_add (m : Memory) (a b : UInt16) :
    m.cell (a + b) = (a.toNat + b.toNat) % m.bytes.size := by
  rw [cell, UInt16.toNat_add]
  exact Nat.mod_mod_of_dvd _ m.size_dvd

theorem cell_add_ofNat (m : Memory) (a : UInt16) (i : Nat) :
    m.cell (a + UInt16.ofNat i) = (a.toNat + i) % m.bytes.size := by
  rw [cell_add, UInt16.toNat_ofNat', Nat.add_mod, Nat.mod_mod_of_dvd _ m.size_dvd, ← Nat.add_mod]

/-- Addresses less than the size apart have different cells. -/
theorem cell_add_ofNat_ne (m : Memory) (a : UInt16) {i : Nat} (hpos : 0 < i)
    (hlt : i < m.bytes.size) : m.cell (a + UInt16.ofNat i) ≠ m.cell a := by
  rw [cell_add_ofNat, cell]
  intro h
  have hi : i % m.bytes.size = 0 := by
    have := Nat.sub_mod_eq_zero_of_mod_eq h
    rwa [Nat.add_sub_cancel_left] at this
  rw [Nat.mod_eq_of_lt hlt] at hi
  omega

theorem cell_succ_ne (m : Memory) (a : UInt16) : m.cell (a + 1) ≠ m.cell a :=
  m.cell_add_ofNat_ne a Nat.one_pos (Nat.lt_of_lt_of_le (by decide) m.size_ge)

/-! ### Bytes after a write -/

@[simp]
theorem read_write_self (m : Memory) (a : UInt16) (v : UInt8) : (m.write a v).read a = v := by
  rw [read_write, if_pos rfl]

theorem read_write_of_ne {m : Memory} {a b : UInt16} (h : m.cell a ≠ m.cell b) (v : UInt8) :
    (m.write a v).read b = m.read b := by
  rw [read_write, if_neg h]

theorem read_writeWord_low (m : Memory) (a : UInt16) (w : UInt16) :
    (m.writeWord a w).read a = Word.low w := by
  have h := m.cell_succ_ne a
  rw [writeWord, read_write_of_ne (by simpa using h), read_write_self]

theorem read_writeWord_high (m : Memory) (a : UInt16) (w : UInt16) :
    (m.writeWord a w).read (a + 1) = Word.high w := by
  rw [writeWord, read_write_self]

/-- A write leaves a byte where that byte was before. -/
theorem read_write_of_eq {m : Memory} {a b : UInt16} {v : UInt8} (h : b ≠ a → m.read b = v) :
    (m.write a v).read b = v := by
  rw [read_write]
  split_ifs with same
  · rfl
  · exact h fun equal => same (by rw [equal])

theorem read_writeWord_of_eq {m : Memory} {a b : UInt16} {w : UInt16} {v : UInt8}
    (low : Word.low w = v) (high : Word.high w = v) (h : b ≠ a → b ≠ a + 1 → m.read b = v) :
    (m.writeWord a w).read b = v := by
  rw [writeWord, low, high]
  exact read_write_of_eq fun apart => read_write_of_eq fun apart' => h apart' apart

/-- A write changes no physical byte but the one its address stands for. -/
theorem getElem?_write (m : Memory) (a : UInt16) (v : UInt8) (i : Nat) :
    (m.write a v).bytes[i]? = if m.cell a = i then some v else m.bytes[i]? := by
  have := m.cell_lt a
  simp only [write, Array.getElem?_set]

@[simp]
theorem size_storeAll (m : Memory) (stores : List Store) :
    (m.storeAll stores).bytes.size = m.bytes.size := by
  induction stores generalizing m with
  | nil => rfl
  | cons store stores ih => rw [storeAll_cons, ih, size_write]

theorem size_full : full.bytes.size = 0x10000 :=
  size_zeros _ _

theorem read_full (address : UInt16) : full.read address = 0 :=
  read_zeros _ _ address

theorem getElem?_full {cell : Nat} (h : cell < 0x10000) : full.bytes[cell]? = some 0 := by
  simp [full, zeros, h]

/-- One byte in the whole address space of 64 KiB. -/
def filled (byte : UInt8) : Memory where
  bytes := Array.replicate 0x10000 byte
  accepted := Or.inr (Or.inr Array.size_replicate)

theorem size_filled (byte : UInt8) : (filled byte).bytes.size = 0x10000 :=
  Array.size_replicate

theorem read_filled (byte : UInt8) (address : UInt16) : (filled byte).read address = byte := by
  simp [read, filled]

/-- What was stored last in the cell of an address, if anything was. -/
def lastStored (size : Nat) (address : UInt16) (stores : List Store) : Option UInt8 :=
  (stores.reverse.find? fun store => store.1.toNat % size == address.toNat % size).map (·.2)

theorem read_storeAll (m : Memory) (stores : List Store) (address : UInt16) :
    (m.storeAll stores).read address =
      (lastStored m.bytes.size address stores).getD (m.read address) := by
  induction stores generalizing m with
  | nil => rfl
  | cons store stores ih =>
    rw [storeAll_cons, ih, size_write, read_write]
    simp only [lastStored, List.reverse_cons, List.find?_append, cell]
    cases hfound : stores.reverse.find? fun store =>
        store.1.toNat % m.bytes.size == address.toNat % m.bytes.size with
    | some found => simp
    | none =>
      by_cases hcell : store.1.toNat % m.bytes.size = address.toNat % m.bytes.size <;>
        simp [hcell]

theorem accepted_least : Accepted 0x4000 :=
  Or.inl rfl

/-- The least memory, with some bytes stored in it. -/
def holding (stores : List Store) : Memory :=
  (zeros 0x4000 accepted_least).storeAll stores

@[simp]
theorem size_holding (stores : List Store) : (holding stores).bytes.size = 0x4000 :=
  (size_storeAll _ stores).trans (size_zeros _ _)

theorem read_holding_eq (stores : List Store) (address : UInt16) :
    (holding stores).read address = (lastStored 0x4000 address stores).getD 0 := by
  rw [holding, read_storeAll, size_zeros, read_zeros]

theorem read_holding {stores : List Store} {address : UInt16} {v : UInt8}
    (h : lastStored 0x4000 address stores = some v) : (holding stores).read address = v := by
  rw [read_holding_eq, h, Option.getD_some]

theorem read_holding_zero {stores : List Store} {address : UInt16}
    (h : lastStored 0x4000 address stores = none) : (holding stores).read address = 0 := by
  rw [read_holding_eq, h, Option.getD_none]

/-! ### Blocks -/

/-- The bytes at a number of addresses in a row. -/
def bytesFrom (m : Memory) (address : UInt16) : (count : Nat) → List UInt8
  | 0 => []
  | count + 1 => m.read address :: m.bytesFrom (address + 1) count

/-- The cells of a number of addresses in a row. -/
def cellsFrom (m : Memory) (address : UInt16) : (count : Nat) → List Nat
  | 0 => []
  | count + 1 => m.cell address :: m.cellsFrom (address + 1) count

@[simp]
theorem length_bytesFrom (m : Memory) (a : UInt16) (n : Nat) : (m.bytesFrom a n).length = n := by
  induction n generalizing a with
  | zero => rfl
  | succ n ih => simp [bytesFrom, ih]

theorem cellsFrom_of_size_eq {m k : Memory} (h : m.bytes.size = k.bytes.size) (a : UInt16)
    (n : Nat) : m.cellsFrom a n = k.cellsFrom a n := by
  induction n generalizing a with
  | zero => rfl
  | succ n ih => rw [cellsFrom, cellsFrom, ih, cell, cell, h]

@[simp]
theorem cellsFrom_write (m : Memory) (a b : UInt16) (v : UInt8) (n : Nat) :
    (m.write a v).cellsFrom b n = m.cellsFrom b n :=
  cellsFrom_of_size_eq (m.size_write a v) b n

theorem mem_cellsFrom {m : Memory} {a : UInt16} {n c : Nat} :
    c ∈ m.cellsFrom a n ↔ ∃ i < n, c = m.cell (a + UInt16.ofNat i) := by
  induction n generalizing a with
  | zero => simp [cellsFrom]
  | succ n ih =>
    rw [cellsFrom, List.mem_cons, ih]
    constructor
    · rintro (rfl | ⟨i, hi, rfl⟩)
      · exact ⟨0, by omega, by simp⟩
      · exact ⟨i + 1, by omega, by rw [Word.add_ofNat_succ]⟩
    · rintro ⟨i, hi, rfl⟩
      cases i with
      | zero => exact Or.inl (by simp)
      | succ i => exact Or.inr ⟨i, by omega, by rw [Word.add_ofNat_succ]⟩

/-- The cells after an address do not come back to it before the whole memory was gone through. -/
theorem cell_not_mem_cellsFrom_succ (m : Memory) (a : UInt16) {n : Nat} (h : n < m.bytes.size) :
    m.cell a ∉ m.cellsFrom (a + 1) n := by
  rw [mem_cellsFrom]
  rintro ⟨i, hi, heq⟩
  refine m.cell_add_ofNat_ne a (Nat.succ_pos i) (by omega) ?_
  rw [Word.add_ofNat_succ, heq]

theorem bytesFrom_write {m : Memory} {a b : UInt16} {n : Nat} (h : m.cell a ∉ m.cellsFrom b n)
    (v : UInt8) : (m.write a v).bytesFrom b n = m.bytesFrom b n := by
  induction n generalizing b with
  | zero => rfl
  | succ n ih =>
    rw [cellsFrom, List.mem_cons, not_or] at h
    rw [bytesFrom, bytesFrom, ih h.2, read_write_of_ne h.1]

/-- A block that is one block behind another. -/
theorem bytesFrom_append {m : Memory} {a : UInt16} {first second : List UInt8}
    (h : m.bytesFrom a (first ++ second).length = first ++ second) :
    m.bytesFrom a first.length = first ∧
      m.bytesFrom (a + UInt16.ofNat first.length) second.length = second := by
  induction first generalizing a with
  | nil =>
    have start : a + UInt16.ofNat 0 = a := UInt16.add_zero a
    exact ⟨rfl, by rwa [List.length_nil, start]⟩
  | cons byte first ih =>
    simp only [List.cons_append, List.length_cons, bytesFrom, List.cons.injEq] at h ⊢
    obtain ⟨before, behind⟩ := ih h.2
    rw [Word.add_ofNat_succ]
    exact ⟨⟨h.1, before⟩, behind⟩

/-- A block that begins with the bytes of a word. -/
theorem readWord_of_bytesFrom {m : Memory} {a : UInt16} {n : Nat} {low high : UInt8}
    {rest : List UInt8} (h : m.bytesFrom a (n + 2) = low :: high :: rest) :
    m.readWord a = Word.ofBytes high low ∧ m.bytesFrom (a + 2) n = rest := by
  simp only [bytesFrom, List.cons.injEq, UInt16.add_assoc] at h
  exact ⟨by rw [readWord, h.1, h.2.1], h.2.2⟩

/-- A word stored at the start of a block. -/
theorem bytesFrom_writeWord (m : Memory) (a : UInt16) (w : UInt16) {n : Nat}
    (h : n + 2 ≤ m.bytes.size) :
    (m.writeWord a w).bytesFrom a (n + 2) =
      Word.low w :: Word.high w :: m.bytesFrom (a + 1 + 1) n := by
  have behind : m.cell (a + 1) ∉ m.cellsFrom (a + 1 + 1) n :=
    m.cell_not_mem_cellsFrom_succ (a + 1) (by omega)
  have before : m.cell a ∉ m.cellsFrom (a + 1 + 1) n := fun among =>
    m.cell_not_mem_cellsFrom_succ a (n := n + 1) (by omega) (List.mem_cons_of_mem _ among)
  rw [bytesFrom, bytesFrom, read_writeWord_low, read_writeWord_high, writeWord,
    bytesFrom_write (by rwa [cell_write, cellsFrom_write]), bytesFrom_write before]

theorem disjoint_cellsFrom {m : Memory} {size : Nat} (hsize : m.bytes.size = size) {a b : UInt16}
    {k n : Nat} (h : ∀ i < k, ∀ j < n, (a.toNat + i) % size ≠ (b.toNat + j) % size) :
    (m.cellsFrom a k).Disjoint (m.cellsFrom b n) := by
  subst hsize
  intro cell ha hb
  obtain ⟨i, hi, rfl⟩ := mem_cellsFrom.mp ha
  obtain ⟨j, hj, heq⟩ := mem_cellsFrom.mp hb
  rw [cell_add_ofNat, cell_add_ofNat] at heq
  exact h i hi j hj heq

theorem bytesFrom_holding {stores : List Store} (a : UInt16) (bytes : List UInt8)
    (h : ∀ i < bytes.length, lastStored 0x4000 (a + UInt16.ofNat i) stores = bytes[i]?) :
    (holding stores).bytesFrom a bytes.length = bytes := by
  induction bytes generalizing a with
  | nil => rfl
  | cons byte bytes ih =>
    have hfirst := h 0 (Nat.zero_lt_succ _)
    rw [List.length_cons, bytesFrom]
    refine congrArg₂ _ ?_ (ih (a + 1) fun i hi => ?_)
    · have hzero : a + UInt16.ofNat 0 = a := UInt16.add_zero a
      rw [hzero] at hfirst
      exact read_holding hfirst
    · rw [← Word.add_ofNat_succ]
      exact h (i + 1) (Nat.succ_lt_succ hi)

/-! ### What stays -/

/-- Two memories that differ in some cells at most. -/
structure SameBut (cells : List Nat) (m k : Memory) : Prop where
  size : k.bytes.size = m.bytes.size
  others : ∀ cell ∉ cells, k.bytes[cell]? = m.bytes[cell]?

theorem SameBut.refl (cells : List Nat) (m : Memory) : SameBut cells m m where
  size := rfl
  others _ _ := rfl

theorem SameBut.trans {cells : List Nat} {m k l : Memory} (h : SameBut cells m k)
    (h' : SameBut cells k l) : SameBut cells m l where
  size := h'.size.trans h.size
  others cell hcell := (h'.others cell hcell).trans (h.others cell hcell)

theorem SameBut.mono {cells cells' : List Nat} {m k : Memory} (h : SameBut cells m k)
    (hsub : cells ⊆ cells') : SameBut cells' m k where
  size := h.size
  others cell hcell := h.others cell fun hin => hcell (hsub hin)

theorem sameBut_write (m : Memory) (a : UInt16) (v : UInt8) :
    SameBut [m.cell a] m (m.write a v) where
  size := m.size_write a v
  others cell hcell := by
    rw [getElem?_write, if_neg]
    rintro rfl
    exact hcell List.mem_cons_self

theorem sameBut_writeWord (m : Memory) (a : UInt16) (w : UInt16) :
    SameBut [m.cell a, m.cell (a + 1)] m (m.writeWord a w) := by
  have hlow := m.sameBut_write a (Word.low w)
  have hhigh := (m.write a (Word.low w)).sameBut_write (a + 1) (Word.high w)
  rw [cell_write] at hhigh
  exact (hlow.mono (by simp)).trans (hhigh.mono (by simp))

theorem getElem?_cell (m : Memory) (a : UInt16) : m.bytes[m.cell a]? = some (m.read a) :=
  Array.getElem?_eq_getElem (m.cell_lt a)

theorem SameBut.read {cells : List Nat} {m k : Memory} (h : SameBut cells m k) {a : UInt16}
    (ha : m.cell a ∉ cells) : k.read a = m.read a := by
  have hcell : k.cell a = m.cell a := by rw [cell, cell, h.size]
  have hread := h.others (m.cell a) ha
  rw [getElem?_cell, ← hcell, getElem?_cell] at hread
  exact Option.some.inj hread

theorem SameBut.bytesFrom {cells : List Nat} {m k : Memory} (h : SameBut cells m k) {a : UInt16}
    {n : Nat} (apart : (m.cellsFrom a n).Disjoint cells) : k.bytesFrom a n = m.bytesFrom a n := by
  induction n generalizing a with
  | zero => rfl
  | succ n ih =>
    have rest : (m.cellsFrom (a + 1) n).Disjoint cells := fun _ among =>
      apart (List.mem_cons_of_mem _ among)
    rw [Memory.bytesFrom, Memory.bytesFrom, h.read (apart List.mem_cons_self), ih rest]

/-- A word stored within a block. -/
theorem SameBut.writeWord {m k : Memory} {a b : UInt16} {n : Nat}
    (h : SameBut (m.cellsFrom a n) m k) (i : Nat) (within : i + 1 < n)
    (address : b = a + UInt16.ofNat i) (w : UInt16) :
    SameBut (m.cellsFrom a n) m (k.writeWord b w) := by
  have low : m.cell b ∈ m.cellsFrom a n :=
    mem_cellsFrom.mpr ⟨i, Nat.lt_of_succ_lt within, by rw [address]⟩
  have high : m.cell (b + 1) ∈ m.cellsFrom a n := by
    refine mem_cellsFrom.mpr ⟨i + 1, within, ?_⟩
    rw [address, UInt16.ofNat_add, UInt16.add_assoc]
    rfl
  have stored := k.sameBut_writeWord b w
  rw [cell, cell, h.size] at stored
  exact h.trans (stored.mono (by simpa using ⟨low, high⟩))

end Arcade.Memory
