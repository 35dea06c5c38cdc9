/-!
# The screen

The monitor stands on its side: video memory holds its 224 columns from left to right, each as 32
bytes from the bottom up, one bit for a pixel, the lowest bit lowest. Strips of coloured foil on
the glass give lit pixels their colour.

* `Screen.paint` draws video memory over whatever was on the screen;
* `Screen.drawBanner` stripes the top rows, for a game that is paused;
* `Screen.foil` is the colour of a lit pixel, `pixel_set` what a pixel is after one is set.
-/

namespace Arcade

/-- A colour by its three parts. -/
structure Colour where
  red : UInt8
  green : UInt8
  blue : UInt8
  deriving DecidableEq, Repr, Inhabited

namespace Colour

/-- No light. -/
def black : Colour := ⟨0, 0, 0⟩

/-- A lit pixel without foil. -/
def white : Colour := ⟨255, 255, 255⟩

/-- The foil where the flying saucer passes. -/
def crimson : Colour := ⟨255, 0, 0⟩

/-- The foil over the player. -/
def lime : Colour := ⟨0, 255, 0⟩

end Colour

namespace Screen

/-- The pixels of a row. -/
abbrev width : Nat := 224

/-- The rows. -/
abbrev height : Nat := 256

end Screen

/-- The pixels of the screen, row by row from the top. -/
structure Screen where
  pixels : Array Colour
  size_eq : pixels.size = Screen.width * Screen.height

namespace Screen

/-- A screen of one colour. -/
def filled (c : Colour) : Screen where
  pixels := Array.replicate (width * height) c
  size_eq := by simp

instance : Inhabited Screen := ⟨filled .black⟩

/-- The place of a pixel among all. -/
def place (x : Fin width) (y : Fin height) : Nat :=
  y.val * width + x.val

theorem place_lt (x : Fin width) (y : Fin height) : place x y < width * height := by
  unfold place width height at *
  omega

theorem place_inj {x x₁ : Fin width} {y y₁ : Fin height} (h : place x y = place x₁ y₁) :
    x = x₁ ∧ y = y₁ := by
  unfold place width at h
  omega

/-- The colour of a pixel. -/
def pixel (s : Screen) (x : Fin width) (y : Fin height) : Colour :=
  have := s.size_eq ▸ place_lt x y
  s.pixels[place x y]

/-- The screen with a pixel of another colour. -/
def set (s : Screen) (x : Fin width) (y : Fin height) (c : Colour) : Screen where
  pixels := s.pixels.set (place x y) c (s.size_eq ▸ place_lt x y)
  size_eq := by simpa using s.size_eq

theorem pixel_set (s : Screen) (x x₁ : Fin width) (y y₁ : Fin height) (c : Colour) :
    (s.set x y c).pixel x₁ y₁ = if x = x₁ ∧ y = y₁ then c else s.pixel x₁ y₁ := by
  simp only [pixel, set, Array.getElem_set]
  by_cases h : place x y = place x₁ y₁
  · rw [if_pos h, if_pos (place_inj h)]
  · rw [if_neg h, if_neg (by rintro ⟨rfl, rfl⟩; exact h rfl)]

/-- The colour of a lit pixel by its row, counted from the bottom. -/
def foil (row : Nat) : Colour :=
  if row < 80 then .lime else if 208 ≤ row ∧ row < 224 then .crimson else .white

/-- The row, counted from the bottom, of a bit of a byte of a column. -/
def row (part : Fin 32) (bit : Fin 8) : Fin height :=
  ⟨part.val * 8 + bit.val, by unfold height; omega⟩

/-- Eight pixels of a column are drawn. -/
def paintByte (s : Screen) (column : Fin width) (part : Fin 32) (bits : UInt8) : Screen :=
  Fin.foldl 8
    (fun s bit =>
      let lit := bits.toNat.testBit bit.val
      s.set column (row part bit).rev (if lit then foil (row part bit) else .black))
    s

/-- A column is drawn. -/
def paintColumn (s : Screen) (video : Array UInt8) (column : Fin width) : Screen :=
  Fin.foldl 32
    (fun s part => s.paintByte column part (video.getD (column.val * 32 + part.val) 0)) s

/-- Video memory is drawn. -/
def paint (s : Screen) (video : Array UInt8) : Screen :=
  Fin.foldl width (fun s column => s.paintColumn video column) s

/-- The rows of the banner. -/
def bannerRows : Nat := 12

/-- A row of one colour is drawn. -/
def drawRow (s : Screen) (y : Fin height) (c : Colour) : Screen :=
  Fin.foldl width (fun s x => s.set x y c) s

/-- The top rows become white and black in turn, the topmost one white. -/
def drawBanner (s : Screen) : Screen :=
  Fin.foldl bannerRows
    (fun s y =>
      s.drawRow (y.castLE (by decide)) (if y.val % 2 = 0 then .white else .black))
    s

end Screen

end Arcade
