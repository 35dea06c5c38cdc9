import Arcade.Machine
import Arcade.Proofs.Cpu.Arithmetic
import Arcade.Proofs.Memory
import Arcade.Screen
import Mathlib.Algebra.BigOperators.Fin
import Mathlib.Data.Fintype.BigOperators

/-! # The picture

Each pixel of the screen shows one bit of video memory, and each bit is shown by one pixel.

* `source`: the byte and the bit a pixel shows, one to one;
* `pixel_paint`: what a pixel becomes, whatever was on the screen, and `pixel_drawBanner`: what the
  banner makes of it;
* `paint_eq_paint_iff`: **no bit is lost**, and nothing is left of the screen before;
* `card_lit`: as many pixels are lit as bits are set;
* `buffer`: the screen as three bytes for each pixel, `buffer_inj`;
* `shows_videoRam`: the picture of a machine. -/

namespace Arcade

/-! ### Folds over indices -/

section Fold

variable {σ α : Type} {n : Nat} {f : σ → Fin n → σ}

theorem foldl_of_unseen (g : σ → α) (unseen : ∀ s i, g (f s i) = g s) (s : σ) :
    g (Fin.foldl n f s) = g s := by
  induction n with
  | zero => rw [Fin.foldl_zero]
  | succ n ih =>
    rw [Fin.foldl_succ_last, unseen]
    exact ih fun s i => unseen s i.castSucc

/-- What one index decides, if no other index changes it. -/
theorem foldl_of_decided (g : σ → α) (index : Fin n) {value : α}
    (decided : ∀ s, g (f s index) = value) (others : ∀ s i, i ≠ index → g (f s i) = g s) (s : σ) :
    g (Fin.foldl n f s) = value := by
  induction n with
  | zero => exact index.elim0
  | succ n ih =>
    rw [Fin.foldl_succ_last]
    -- the last index decides, or it changes nothing and one before it has decided
    cases index using Fin.lastCases with
    | last => exact decided _
    | cast index =>
      rw [others _ _ (Fin.castSucc_lt_last index).ne']
      refine ih index decided fun s i ne => others s i.castSucc ?_
      exact fun same => ne (Fin.castSucc_inj.mp same)

end Fold

namespace Screen

/-! ### Where the bits are -/

theorem byte_lt (x : Fin width) (y : Fin height) :
    32 * x.val + (255 - y.val) / 8 < Machine.videoSize := by
  have hx : x.val < 224 := x.isLt
  show _ < 0x1c00
  omega

theorem column_lt (byte : Fin Machine.videoSize) : byte.val / 32 < width := by
  have bound : byte.val < 0x1c00 := byte.isLt
  show _ < 224
  omega

theorem val_rev_row (part : Fin 32) (bit : Fin 8) :
    (row part bit).rev.val = 255 - (8 * part.val + bit.val) := by
  show 256 - (part.val * 8 + bit.val + 1) = _
  omega

/-- The byte of video memory and the bit of it that a pixel shows. -/
def source : Fin width × Fin height ≃ Fin Machine.videoSize × Fin 8 where
  toFun pixel := (⟨32 * pixel.1.val + (255 - pixel.2.val) / 8, byte_lt pixel.1 pixel.2⟩,
    ⟨(255 - pixel.2.val) % 8, mod_eight_lt _⟩)
  invFun place :=
    (⟨place.1.val / 32, column_lt place.1⟩, (row ⟨place.1.val % 32, by omega⟩ place.2).rev)
  left_inv := by
    rintro ⟨x, y⟩
    have hy : y.val < 256 := y.isLt
    refine Prod.ext (Fin.ext ?_) (Fin.ext ?_)
    · show (32 * x.val + (255 - y.val) / 8) / 32 = x.val
      omega
    · rw [val_rev_row]
      show 255 - (8 * ((32 * x.val + (255 - y.val) / 8) % 32) + (255 - y.val) % 8) = y.val
      omega
  right_inv := by
    rintro ⟨byte, bit⟩
    have hbit := bit.isLt
    refine Prod.ext (Fin.ext ?_) (Fin.ext ?_)
    · show 32 * (byte.val / 32) + (255 - (row _ bit).rev.val) / 8 = byte.val
      rw [val_rev_row]
      show 32 * (byte.val / 32) + (255 - (255 - (8 * (byte.val % 32) + bit.val))) / 8 = byte.val
      omega
    · show (255 - (row _ bit).rev.val) % 8 = bit.val
      rw [val_rev_row]
      show (255 - (255 - (8 * (byte.val % 32) + bit.val))) % 8 = bit.val
      omega

theorem rev_row_eq_iff (part : Fin 32) (bit : Fin 8) (y : Fin height) :
    (row part bit).rev = y ↔ part.val = (255 - y.val) / 8 ∧ bit.val = (255 - y.val) % 8 := by
  have hy : y.val < 256 := y.isLt
  have hbit := bit.isLt
  rw [← Fin.val_inj, val_rev_row]
  omega

/-! ### The pixels -/

/-- The colour of a pixel that shows a bit. -/
def shown (y : Fin height) (lit : Bool) : Colour :=
  if lit then foil (255 - y.val) else .black

/-- The eight rows of a byte. -/
theorem pixel_paintByte (s : Screen) (column : Fin width) (part : Fin 32) (bits : UInt8)
    (x : Fin width) (y : Fin height) :
    (s.paintByte column part bits).pixel x y =
      if column = x ∧ part.val = (255 - y.val) / 8 then
        shown y (bits.toNat.testBit ((255 - y.val) % 8))
      else s.pixel x y := by
  split_ifs with hit
  · obtain ⟨rfl, within⟩ := hit
    refine foldl_of_decided (pixel · column y) ⟨(255 - y.val) % 8, mod_eight_lt _⟩ ?_ ?_ s
    · intro s
      have turned := (rev_row_eq_iff part ⟨(255 - y.val) % 8, mod_eight_lt _⟩ y).mpr ⟨within, rfl⟩
      have height : (row part ⟨(255 - y.val) % 8, mod_eight_lt _⟩).val = 255 - y.val := by
        show part.val * 8 + (255 - y.val) % 8 = 255 - y.val
        omega
      simp only [pixel_set, turned, and_self, if_true, height]
      rfl
    · intro s bit ne
      have apart : (row part bit).rev ≠ y := fun same =>
        ne (Fin.ext ((rev_row_eq_iff part bit y).mp same).2)
      simp only [pixel_set, apart, and_false, if_false]
  · refine foldl_of_unseen (pixel · x y) ?_ s
    intro s bit
    have apart : ¬(column = x ∧ (row part bit).rev = y) := by
      rintro ⟨same, turned⟩
      exact hit ⟨same, ((rev_row_eq_iff part bit y).mp turned).1⟩
    rw [pixel_set, if_neg apart]

theorem pixel_paintColumn (s : Screen) (video : Array UInt8) (column x : Fin width)
    (y : Fin height) :
    (s.paintColumn video column).pixel x y =
      if column = x then
        shown y ((video.getD (32 * x.val + (255 - y.val) / 8) 0).toNat.testBit ((255 - y.val) % 8))
      else s.pixel x y := by
  split_ifs with hit
  · subst hit
    have within : (255 - y.val) / 8 < 32 := by omega
    refine foldl_of_decided (pixel · column y) ⟨(255 - y.val) / 8, within⟩ ?_ ?_ s
    · intro s
      rw [pixel_paintByte, if_pos ⟨rfl, rfl⟩, Nat.mul_comm]
    · intro s part ne
      rw [pixel_paintByte, if_neg fun ⟨_, same⟩ => ne (Fin.ext same)]
  · refine foldl_of_unseen (pixel · x y) ?_ s
    intro s part
    rw [pixel_paintByte, if_neg fun ⟨same, _⟩ => hit same]

/-- **A pixel shows its bit**, whatever was there before. -/
theorem pixel_paint (s : Screen) (video : Array UInt8) (x : Fin width) (y : Fin height) :
    (s.paint video).pixel x y =
      shown y ((video.getD (source (x, y)).1 0).toNat.testBit (source (x, y)).2) := by
  refine foldl_of_decided (pixel · x y) x ?_ ?_ s
  · intro s
    rw [pixel_paintColumn, if_pos rfl]
    rfl
  · intro s column ne
    rw [pixel_paintColumn, if_neg ne]

theorem pixel_drawRow (s : Screen) (row : Fin height) (c : Colour) (x : Fin width)
    (y : Fin height) : (s.drawRow row c).pixel x y = if row = y then c else s.pixel x y := by
  split_ifs with hit
  · subst hit
    refine foldl_of_decided (pixel · x row) x (fun s => ?_) (fun s column ne => ?_) s
    · rw [pixel_set, if_pos ⟨rfl, rfl⟩]
    · rw [pixel_set, if_neg fun same => ne same.1]
  · refine foldl_of_unseen (pixel · x y) (fun s column => ?_) s
    rw [pixel_set, if_neg fun same => hit same.2]

/-- **The banner covers the topmost rows**, white and black in turn, and nothing else. -/
theorem pixel_drawBanner (s : Screen) (x : Fin width) (y : Fin height) :
    s.drawBanner.pixel x y =
      if y.val < bannerRows then if y.val % 2 = 0 then .white else .black else s.pixel x y := by
  by_cases covered : y.val < bannerRows
  · rw [if_pos covered]
    refine foldl_of_decided (pixel · x y) ⟨y.val, covered⟩ (fun s => ?_) (fun s row ne => ?_) s
    · exact (s.pixel_drawRow _ _ x y).trans (if_pos rfl)
    · have apart : row.castLE (by decide) ≠ y := by
        rintro rfl
        exact ne rfl
      exact (s.pixel_drawRow _ _ x y).trans (if_neg apart)
  · rw [if_neg covered]
    refine foldl_of_unseen (pixel · x y) (fun s row => ?_) s
    have apart : row.castLE (by decide) ≠ y := by
      rintro rfl
      exact covered row.isLt
    exact (s.pixel_drawRow _ _ x y).trans (if_neg apart)

/-! ### No bit is lost -/

theorem foil_ne_black (row : Nat) : foil row ≠ .black := by
  unfold foil
  split_ifs <;> decide

theorem shown_ne_black_iff (y : Fin height) (lit : Bool) : shown y lit ≠ .black ↔ lit = true := by
  cases lit with
  | true => simp [shown, foil_ne_black]
  | false => simp [shown]

/-- A screen is made of its pixels. -/
theorem eq_of_pixel {s t : Screen} (same : ∀ x y, s.pixel x y = t.pixel x y) : s = t := by
  obtain ⟨pixels, size⟩ := s
  obtain ⟨others, size'⟩ := t
  congr
  refine Array.ext (size.trans size'.symm) fun i within _ => ?_
  rw [size] at within
  have column : i % width < width := Nat.mod_lt i (by decide)
  have line : i / width < height := Nat.div_lt_of_lt_mul within
  have here := same ⟨i % width, column⟩ ⟨i / width, line⟩
  have index : i / width * width + i % width = i := Nat.div_add_mod' i width
  simpa only [pixel, place, index] using here

/-- A byte is made of its eight bits. -/
theorem eq_of_testBit {v w : UInt8}
    (same : ∀ bit : Fin 8, v.toNat.testBit bit = w.toNat.testBit bit) : v = w := by
  refine UInt8.toNat_inj.mp (Nat.eq_of_testBit_eq fun bit => ?_)
  by_cases within : bit < 8
  · exact same ⟨bit, within⟩
  · rw [testBit_of_le v (by omega), testBit_of_le w (by omega)]

/-- **Two pictures are the same if and only if they show the same bytes**, whatever was on the
screen before. -/
theorem paint_eq_paint_iff (s t : Screen) {video video' : Array UInt8}
    (size : video.size = Machine.videoSize) (size' : video'.size = Machine.videoSize) :
    s.paint video = t.paint video' ↔ video = video' := by
  constructor
  · intro same
    have bytes (byte : Fin Machine.videoSize) : video.getD byte 0 = video'.getD byte 0 := by
      refine eq_of_testBit fun bit => ?_
      obtain ⟨⟨x, y⟩, shows⟩ := source.surjective (byte, bit)
      have lit : (s.paint video).pixel x y ≠ .black ↔ (t.paint video').pixel x y ≠ .black := by
        rw [same]
      rw [pixel_paint, pixel_paint, shown_ne_black_iff, shown_ne_black_iff, shows] at lit
      exact Bool.eq_iff_iff.mpr lit
    refine Array.ext (size.trans size'.symm) fun i within within' => ?_
    have here := bytes ⟨i, size ▸ within⟩
    rwa [Array.getD, dif_pos within, Array.getD, dif_pos within'] at here
  · rintro rfl
    refine eq_of_pixel fun x y => ?_
    rw [pixel_paint, pixel_paint]

/-! ### The number of lit pixels -/

theorem sum_bits (v : UInt8) :
    (∑ bit : Fin 8, if v.toNat.testBit bit then 1 else 0) = ones v :=
  forall_byte (p := fun v => (∑ bit : Fin 8, if v.toNat.testBit bit then 1 else 0) = ones v)
    (by decide +kernel) v

theorem sum_getD {video : Array UInt8} {n : Nat} (size : video.size = n) (h : UInt8 → Nat) :
    ∑ byte : Fin n, h (video.getD byte 0) = (video.toList.map h).sum := by
  subst size
  have bytes : video.toList.map h =
      List.ofFn fun byte : Fin video.size => h (video.getD byte 0) := by
    refine List.ext_getElem (by simp) fun i within _ => ?_
    simp [Array.getD]
  rw [bytes, List.sum_ofFn]

/-- **As many pixels are lit as bits are set.** -/
theorem card_lit (s : Screen) {video : Array UInt8} (size : video.size = Machine.videoSize) :
    (Finset.univ.filter fun pixel : Fin width × Fin height =>
      (s.paint video).pixel pixel.1 pixel.2 ≠ .black).card = (video.toList.map ones).sum := by
  calc (Finset.univ.filter fun pixel : Fin width × Fin height =>
        (s.paint video).pixel pixel.1 pixel.2 ≠ .black).card
      = ∑ pixel : Fin width × Fin height,
          if (video.getD (source pixel).1 0).toNat.testBit (source pixel).2 then 1 else 0 := by
        rw [Finset.card_filter]
        refine Finset.sum_congr rfl fun pixel _ => ?_
        simp only [pixel_paint, shown_ne_black_iff]
    _ = ∑ place : Fin Machine.videoSize × Fin 8,
          if (video.getD place.1 0).toNat.testBit place.2 then 1 else 0 :=
        Equiv.sum_comp source fun place =>
          if (video.getD place.1 0).toNat.testBit place.2 then 1 else 0
    _ = ∑ byte : Fin Machine.videoSize, ones (video.getD byte 0) := by
        simp only [Fintype.sum_prod_type, sum_bits]
    _ = (video.toList.map ones).sum := sum_getD size ones

/-! ### The screen in bytes -/

end Screen

/-- A colour in bytes. -/
def Colour.bytes (c : Colour) : List UInt8 :=
  [c.red, c.green, c.blue]

theorem Colour.bytes_inj {c d : Colour} : c.bytes = d.bytes ↔ c = d := by
  cases c
  cases d
  simp [bytes]

namespace Screen

/-- The screen as it lies in a buffer, three bytes for each pixel. -/
def buffer (s : Screen) : List UInt8 :=
  s.pixels.toList.flatMap Colour.bytes

theorem length_buffer (s : Screen) : s.buffer.length = width * height * 3 := by
  simp [buffer, List.length_flatMap, Colour.bytes, s.size_eq]

theorem drop_flatMap_bytes (colours : List Colour) (i : Nat) :
    (colours.flatMap Colour.bytes).drop (3 * i) = (colours.drop i).flatMap Colour.bytes := by
  induction i generalizing colours with
  | zero => rfl
  | succ i ih =>
    cases colours with
    | nil => rw [List.flatMap_nil, List.drop_nil, List.drop_nil, List.flatMap_nil]
    | cons colour colours => exact ih colours

/-- The three bytes of a pixel. -/
theorem bytes_pixel (s : Screen) (x : Fin width) (y : Fin height) :
    (s.buffer.drop (3 * place x y)).take 3 = (s.pixel x y).bytes := by
  have within : place x y < s.pixels.toList.length := by
    rw [Array.length_toList, s.size_eq]
    exact place_lt x y
  rw [buffer, drop_flatMap_bytes, List.drop_eq_getElem_cons within]
  rfl

theorem buffer_inj {s t : Screen} : s.buffer = t.buffer ↔ s = t := by
  constructor
  · intro same
    refine eq_of_pixel fun x y => ?_
    rw [← Colour.bytes_inj, ← bytes_pixel, ← bytes_pixel, same]
  · rintro rfl
    rfl

end Screen

namespace Machine

/-- The bytes of video memory are those from its start on, in a memory of any size. -/
theorem getD_videoRam (m : Machine) {i : Nat} (within : i < videoSize) :
    m.videoRam.getD i 0 = m.memory.read (UInt16.ofNat (0x2400 + i)) := by
  have inside : i < 0x1c00 := within
  have address : (UInt16.ofNat (0x2400 + i)).toNat = 0x2400 + i := by
    rw [UInt16.toNat_ofNat']
    omega
  have cell : m.memory.cell (UInt16.ofNat (0x2400 + i)) = 0x2400 + i := by
    rw [m.memory.cell_of_lt (by omega), address]
  have held := m.memory.getElem?_cell (UInt16.ofNat (0x2400 + i))
  rw [cell] at held
  have shown : m.videoRam[i]? = m.memory.bytes[0x2400 + i]? := by
    have fits := m.memory.size_ge
    rw [videoRam, Memory.slice, Array.getElem?_extract, if_pos]
    · rfl
    · show i < min (0x2400 + 0x1c00) m.memory.bytes.size - 0x2400
      omega
  rw [Array.getD_eq_getD_getElem?, shown, held, Option.getD_some]

/-- **The picture is an exact image of video memory.** Whatever is on the screen, and whatever the
size of the memory, each pixel shows its bit, as its three bytes of the buffer do, and the buffer
stays as long as it was. So nothing is left of the screen before, two pictures are the same if and
only if the video memories are, and as many pixels are lit as bits are set. -/
theorem shows_videoRam (m : Machine) (s : Screen) :
    (s.paint m.videoRam).buffer.length = s.buffer.length ∧
    (∀ (x : Fin Screen.width) (y : Fin Screen.height),
      let byte := m.memory.read (UInt16.ofNat (0x2400 + 32 * x.val + (255 - y.val) / 8))
      let height := 255 - y.val
      let colour :=
        if byte.toNat.testBit (height % 8) = false then Colour.black
        else if height < 80 then Colour.lime
        else if 208 ≤ height ∧ height < 224 then Colour.crimson
        else Colour.white
      (s.paint m.videoRam).pixel x y = colour ∧
      ((s.paint m.videoRam).buffer.drop (3 * (224 * y.val + x.val))).take 3 =
        [colour.red, colour.green, colour.blue]) ∧
    (∀ (t : Screen) (n : Machine),
      (s.paint m.videoRam).buffer = (t.paint n.videoRam).buffer ↔ m.videoRam = n.videoRam) ∧
    (Finset.univ.filter fun pixel : Fin Screen.width × Fin Screen.height =>
      (s.paint m.videoRam).pixel pixel.1 pixel.2 ≠ .black).card = (m.videoRam.toList.map ones).sum := by
  refine ⟨?_, fun x y => ?_, fun t n => ?_, s.card_lit m.size_videoRam⟩
  · rw [Screen.length_buffer, Screen.length_buffer]
  · intro byte height colour
    have shows : (s.paint m.videoRam).pixel x y = colour := by
      have address : 0x2400 + (32 * x.val + (255 - y.val) / 8) =
          0x2400 + 32 * x.val + (255 - y.val) / 8 := (Nat.add_assoc _ _ _).symm
      have bits : m.videoRam.getD (Screen.source (x, y)).1 0 = byte :=
        (m.getD_videoRam (Screen.byte_lt x y)).trans (by rw [address])
      rw [Screen.pixel_paint, bits]
      show Screen.shown y (byte.toNat.testBit (height % 8)) = colour
      cases lit : byte.toNat.testBit (height % 8) with
      | false => exact (if_pos lit).symm
      | true => exact (if_neg (by simp [lit])).symm
    have index : 224 * y.val + x.val = Screen.place x y :=
      congrArg (· + x.val) (Nat.mul_comm 224 y.val)
    rw [index, Screen.bytes_pixel, shows]
    exact ⟨rfl, rfl⟩
  · rw [Screen.buffer_inj]
    exact Screen.paint_eq_paint_iff s t m.size_videoRam n.size_videoRam

end Machine

end Arcade
