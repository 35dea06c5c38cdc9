import Arcade.Proofs.Memory
import Arcade.RomSet
import Mathlib.Tactic.SplitIfs

/-! # Loading a ROM set

The files of a set are laid over the memory one after the other, the later ones over the earlier
ones, up to the first that cannot be read or does not fit. What there is of a part when its turn
comes depends on the files and on the size of the memory only, and not on the parts before it.

* `obstacle?`: why the file of a part cannot be placed; `placed`: the parts before the first
  obstacle; `covering?`: the byte the file of a part has for a cell;
* `result_loadParts`: the first obstacle is what is reported;
* `getElem?_loadParts`: each cell holds the byte of the last placed part that covers it;
* `load_load`: two blocks one behind the other are one block, so four full chips are one image
  (`loadParts_of_full`);
* `lays_parts_in_order`: these together, for the set of a directory and for the machine. -/

namespace Arcade

/-- Two blocks one behind the other are one block. -/
theorem Memory.load_load {m mid : Memory} {offset : Nat} {first : Array UInt8}
    (h : m.load offset first = .ok mid) (second : Array UInt8)
    (fits : offset + first.size + second.size ≤ m.bytes.size) :
    mid.load (offset + first.size) second = m.load offset (first ++ second) := by
  have size := size_load h
  obtain ⟨last, loaded⟩ : ∃ last, mid.load (offset + first.size) second = .ok last :=
    load_of_fits (by omega)
  obtain ⟨whole, together⟩ : ∃ whole, m.load offset (first ++ second) = .ok whole :=
    load_of_fits (by rw [Array.size_append]; omega)
  rw [loaded, together]
  congr 1
  apply Memory.ext
  apply Array.ext_getElem?
  intro i
  rw [getElem?_load loaded, getElem?_load h, getElem?_load together, Array.size_append,
    Array.getElem?_append]
  by_cases before : i < offset + first.size
  · split_ifs <;> first | rfl | omega
  · have behind : i - offset - first.size = i - (offset + first.size) := by omega
    rw [behind]
    split_ifs <;> first | rfl | omega

namespace RomSet

/-! ### Parts and their files -/

/-- Why the file of a part cannot be placed in a memory of some size, if it cannot. -/
def obstacle? (files : FileSystem) (directory : String) (size : Nat) (part : String × Nat) :
    Option Error :=
  match files.read (Path.join directory part.1) with
  | .error cause => some (.unreadablePart (Path.join directory part.1) cause)
  | .ok bytes =>
    if part.2 + bytes.size ≤ size then none else some (.outOfBounds ⟨part.2, bytes.size, size⟩)

/-- The parts before the first one that cannot be placed. -/
def placed (files : FileSystem) (directory : String) (size : Nat) (parts : List (String × Nat)) :
    List (String × Nat) :=
  parts.takeWhile fun part => (obstacle? files directory size part).isNone

/-- The byte that the file of a part has for a cell, if it covers the cell. -/
def covering? (files : FileSystem) (directory : String) (cell : Nat) (part : String × Nat) :
    Option UInt8 :=
  match files.read (Path.join directory part.1) with
  | .error _ => none
  | .ok bytes => if part.2 ≤ cell then bytes[cell - part.2]? else none

variable {files : FileSystem} {directory : String} {memory : Memory} {part : String × Nat}
  {rest : List (String × Nat)}

theorem obstacle?_of_read {bytes : Array UInt8}
    (read : files.read (Path.join directory part.1) = .ok bytes) (size : Nat) :
    obstacle? files directory size part =
      if part.2 + bytes.size ≤ size then none
      else some (.outOfBounds ⟨part.2, bytes.size, size⟩) := by
  simp only [obstacle?, read]

/-- A part that cannot be placed ends the loading, and the memory stays as it is. -/
theorem loadParts_of_obstacle {error : Error}
    (h : obstacle? files directory memory.size part = some error) :
    (loadParts files directory memory (part :: rest)).result = .error error ∧
      (loadParts files directory memory (part :: rest)).memory = memory := by
  cases read : files.read (Path.join directory part.1) with
  | error cause =>
    rw [obstacle?, read] at h
    cases h
    simp only [loadParts, read, and_self]
  | ok bytes =>
    rw [obstacle?_of_read read] at h
    split_ifs at h with fits
    cases h
    simp only [loadParts, read, Memory.load_of_not_fits fits, Memory.size, and_self]

/-- A part that can be placed is, and the loading goes on. -/
theorem loadParts_of_placed (h : obstacle? files directory memory.size part = none)
    (rest : List (String × Nat)) :
    ∃ bytes mid, files.read (Path.join directory part.1) = .ok bytes ∧
      memory.load part.2 bytes = .ok mid ∧
      (loadParts files directory memory (part :: rest)).result =
        (loadParts files directory mid rest).result ∧
      (loadParts files directory memory (part :: rest)).memory =
        (loadParts files directory mid rest).memory := by
  cases read : files.read (Path.join directory part.1) with
  | error cause =>
    rw [obstacle?, read] at h
    cases h
  | ok bytes =>
    rw [obstacle?_of_read read] at h
    split_ifs at h with fits
    obtain ⟨mid, loaded⟩ := Memory.load_of_fits fits
    exact ⟨bytes, mid, rfl, loaded, by simp only [loadParts, read, loaded], by
      simp only [loadParts, read, loaded]⟩

/-! ### What loading comes to -/

/-- **The first obstacle is what is reported.** -/
theorem result_loadParts (files : FileSystem) (directory : String) (memory : Memory)
    (parts : List (String × Nat)) :
    (loadParts files directory memory parts).result =
      match parts.findSome? (obstacle? files directory memory.size) with
      | none => .ok ()
      | some error => .error error := by
  induction parts generalizing memory with
  | nil => rfl
  | cons part rest ih =>
    cases found : obstacle? files directory memory.size part with
    | some error => rw [(loadParts_of_obstacle found).1, List.findSome?_cons, found]
    | none =>
      obtain ⟨bytes, mid, -, loaded, result, -⟩ := loadParts_of_placed found rest
      have size : mid.size = memory.size := Memory.size_load loaded
      rw [result, ih mid, size, List.findSome?_cons, found]

/-- A block covers the cells of its bytes. -/
theorem getElem?_load_of_read {bytes : Array UInt8} {mid : Memory}
    (read : files.read (Path.join directory part.1) = .ok bytes)
    (loaded : memory.load part.2 bytes = .ok mid) (cell : Nat) :
    mid.bytes[cell]? = (covering? files directory cell part).or memory.bytes[cell]? := by
  rw [Memory.getElem?_load loaded]
  simp only [covering?, read]
  by_cases from_start : part.2 ≤ cell
  · by_cases before_end : cell < part.2 + bytes.size
    · have inside : cell - part.2 < bytes.size := by omega
      simp [from_start, before_end, inside]
    · have outside : ¬cell - part.2 < bytes.size := by omega
      simp [from_start, before_end, outside]
  · simp [from_start]

/-- **Each cell holds the byte of the last placed part that covers it**, or what it held before. -/
theorem getElem?_loadParts (files : FileSystem) (directory : String) (memory : Memory)
    (parts : List (String × Nat)) (cell : Nat) :
    (loadParts files directory memory parts).memory.bytes[cell]? =
      ((placed files directory memory.size parts).filterMap
        (covering? files directory cell)).getLast?.or memory.bytes[cell]? := by
  induction parts generalizing memory with
  | nil => rfl
  | cons part rest ih =>
    cases found : obstacle? files directory memory.size part with
    | some error =>
      simp only [(loadParts_of_obstacle found).2, placed, List.takeWhile_cons, found,
        Option.isNone_some, Bool.false_eq_true, if_false, List.filterMap_nil, List.getLast?_nil,
        Option.none_or]
    | none =>
      obtain ⟨bytes, mid, read, loaded, -, last⟩ := loadParts_of_placed found rest
      have size : mid.size = memory.size := Memory.size_load loaded
      have first : placed files directory memory.size (part :: rest) =
          part :: placed files directory memory.size rest := by
        simp only [placed, List.takeWhile_cons, found, Option.isNone_none, if_true]
      rw [last, ih mid, size, first, getElem?_load_of_read read loaded, List.filterMap_cons,
        ← Option.or_assoc]
      cases covering? files directory cell part with
      | none => rw [Option.or_none]
      | some byte =>
        rw [List.getLast?_cons]
        cases List.getLast? _ <;> rfl

/-! ### Full chips -/

/-- **Four full chips are one image.** -/
theorem loadParts_of_full (memory : Memory) {h g f e : Array UInt8}
    (reads : parts.map (fun part => files.read (Path.join directory part.1)) =
      [.ok h, .ok g, .ok f, .ok e])
    (full : ∀ chip ∈ [h, g, f, e], chip.size = partSize) :
    ∃ last, memory.load 0 (h ++ g ++ f ++ e) = .ok last ∧
      (loadParts files directory memory parts).result = .ok () ∧
      (loadParts files directory memory parts).memory = last := by
  simp only [parts, List.map_cons, List.map_nil, List.cons.injEq, and_true] at reads
  obtain ⟨readH, readG, readF, readE⟩ := reads
  simp only [List.forall_mem_cons, partSize] at full
  obtain ⟨sizeH, sizeG, sizeF, sizeE, -⟩ := full
  have room : 0x4000 ≤ memory.bytes.size := memory.size_ge
  -- each chip is placed behind the image of those before it
  obtain ⟨mid, first⟩ : ∃ mid, memory.load 0 h = .ok mid := Memory.load_of_fits (by omega)
  obtain ⟨mid', second⟩ : ∃ mid', memory.load 0 (h ++ g) = .ok mid' :=
    Memory.load_of_fits (by rw [Array.size_append]; omega)
  obtain ⟨mid'', third⟩ : ∃ mid'', memory.load 0 (h ++ g ++ f) = .ok mid'' :=
    Memory.load_of_fits (by simp only [Array.size_append]; omega)
  obtain ⟨last, fourth⟩ : ∃ last, memory.load 0 (h ++ g ++ f ++ e) = .ok last :=
    Memory.load_of_fits (by simp only [Array.size_append]; omega)
  have loadG : mid.load 0x0800 g = .ok mid' := by
    have behind := Memory.load_load first g (by omega)
    rwa [sizeH, second] at behind
  have loadF : mid'.load 0x1000 f = .ok mid'' := by
    have behind := Memory.load_load second f (by rw [Array.size_append]; omega)
    rwa [Array.size_append, sizeH, sizeG, third] at behind
  have loadE : mid''.load 0x1800 e = .ok last := by
    have behind := Memory.load_load third e (by simp only [Array.size_append]; omega)
    rwa [Array.size_append, Array.size_append, sizeH, sizeG, sizeF, fourth] at behind
  refine ⟨last, fourth, ?_, ?_⟩ <;>
    simp only [loadParts, parts, readH, readG, readF, readE, first, loadG, loadF, loadE]

/-! ### The set of a directory -/

theorem load_of_missing {cause : FileError} (named : directory ≠ "")
    (missing : files.status directory = .error cause) (memory : Memory) :
    load files directory memory = ⟨.error (.missingDirectory directory cause), memory, []⟩ := by
  have notEmpty : ¬directory.isEmpty = true := fun empty => named (String.isEmpty_iff.mp empty)
  rw [load, if_neg notEmpty, missing]

theorem load_of_present (named : directory ≠ "") (present : files.status directory = .ok ())
    (memory : Memory) : load files directory memory = loadParts files directory memory parts := by
  have notEmpty : ¬directory.isEmpty = true := fun empty => named (String.isEmpty_iff.mp empty)
  rw [load, if_neg notEmpty, present]

/-- The machine takes over the memory, and starts at its beginning if the whole set was placed. -/
theorem loadRomSet_eq (m : Machine) (files : FileSystem) (directory : String) :
    m.loadRomSet files directory =
      ((load files directory m.memory).result,
        { m with
          core := {
            cpu := { m.cpu with
              pc := if (load files directory m.memory).result.isOk then 0 else m.cpu.pc }
            memory := (load files directory m.memory).memory
            ports := m.core.ports } },
        (load files directory m.memory).notices) := by
  rw [Machine.loadRomSet]
  cases (load files directory m.memory).result <;> rfl

/-- **The parts of a set are laid over the memory in their order.** A directory that is missing
changes nothing. Otherwise loading goes on to the first part whose file cannot be read or reaches
behind the memory, and this part is what is reported; each cell then holds the byte of the last part
before it that covers the cell, or what it held before. The machine is changed in its memory, and in
its program counter if the whole set was placed. Four full chips leave the machine that one image of
them leaves. -/
theorem lays_parts_in_order (files : FileSystem) {directory : String} (named : directory ≠ "") :
    (∀ memory cause, files.status directory = .error cause →
      load files directory memory = ⟨.error (.missingDirectory directory cause), memory, []⟩) ∧
    (∀ memory, files.status directory = .ok () →
      ((load files directory memory).result =
        match parts.findSome? (obstacle? files directory memory.size) with
        | none => .ok ()
        | some error => .error error) ∧
      ∀ cell : Nat, (load files directory memory).memory.bytes[cell]? =
        ((placed files directory memory.size parts).filterMap
          (covering? files directory cell)).getLast?.or memory.bytes[cell]?) ∧
    (∀ m : Machine, m.loadRomSet files directory =
      ((load files directory m.memory).result,
        { m with
          core := {
            cpu := { m.cpu with
              pc := if (load files directory m.memory).result.isOk then 0 else m.cpu.pc }
            memory := (load files directory m.memory).memory
            ports := m.core.ports } },
        (load files directory m.memory).notices)) ∧
    ∀ (m : Machine) (h g f e : Array UInt8), files.status directory = .ok () →
      parts.map (fun part => files.read (Path.join directory part.1)) =
        [.ok h, .ok g, .ok f, .ok e] →
      (∀ chip ∈ [h, g, f, e], chip.size = partSize) →
      ∃ after notices, m.loadRomSet files directory = (.ok (), after, notices) ∧
        m.loadRom (h ++ g ++ f ++ e) = .ok after := by
  refine ⟨fun memory cause missing => load_of_missing named missing memory,
    fun memory present => ?_, fun m => loadRomSet_eq m files directory,
    fun m h g f e present reads full => ?_⟩
  · rw [load_of_present named present]
    exact ⟨result_loadParts files directory memory parts,
      getElem?_loadParts files directory memory parts⟩
  · obtain ⟨last, whole, result, memory⟩ := loadParts_of_full m.memory reads full
    rw [loadRomSet_eq, load_of_present named present, result, memory]
    refine ⟨_, _, rfl, ?_⟩
    rw [Machine.loadRom, whole]
    rfl

/-- A directory whose first file is a byte longer than a chip, and whose third one is longer than
any memory. -/
def crowded : FileSystem where
  status _ := .ok ()
  read path :=
    if path = "roms/invaders.h" then .ok (Array.replicate 0x801 0x11)
    else if path = "roms/invaders.g" then .ok #[0x22]
    else if path = "roms/invaders.f" then .ok (Array.replicate 0x10000 0x33)
    else .error .notFound

theorem read_crowded :
    parts.map (fun part => crowded.read (Path.join "roms" part.1)) =
      [.ok (Array.replicate 0x801 0x11), .ok #[0x22], .ok (Array.replicate 0x10000 0x33),
        .error .notFound] := by
  have paths : parts.map (fun part => Path.join "roms" part.1) =
      ["roms/invaders.h", "roms/invaders.g", "roms/invaders.f", "roms/invaders.e"] := by
    decide +kernel
  calc parts.map (fun part => crowded.read (Path.join "roms" part.1))
      = (parts.map fun part => Path.join "roms" part.1).map crowded.read := by
        rw [List.map_map]
        rfl
    _ = _ := by
        rw [paths]
        simp [crowded]

/-- The second file lies over the end of the first one, and the third one is reported. -/
theorem lays_parts_in_order_crowded :
    "roms" ≠ "" ∧
      (load crowded "roms" .full).result = .error (.outOfBounds ⟨0x1000, 0x10000, 0x10000⟩) ∧
      (load crowded "roms" .full).memory.bytes[0x7ff]? = some 0x11 ∧
      (load crowded "roms" .full).memory.bytes[0x800]? = some 0x22 ∧
      (load crowded "roms" .full).memory.bytes[0x1000]? = some 0x00 := by
  have named : "roms" ≠ "" := by decide
  obtain ⟨-, lays, -, -⟩ := lays_parts_in_order crowded named
  obtain ⟨result, cells⟩ := lays .full rfl
  have size : Memory.full.size = 0x10000 := Memory.size_full
  rw [size] at result cells
  have reads := read_crowded
  simp only [parts, List.map_cons, List.map_nil, List.cons.injEq, and_true] at reads
  obtain ⟨readH, readG, readF, -⟩ := reads
  have fitsH : obstacle? crowded "roms" 0x10000 ("invaders.h", 0x0000) = none := by
    rw [obstacle?_of_read readH, Array.size_replicate]
    rfl
  have fitsG : obstacle? crowded "roms" 0x10000 ("invaders.g", 0x0800) = none := by
    rw [obstacle?_of_read readG]
    rfl
  have tooLong : obstacle? crowded "roms" 0x10000 ("invaders.f", 0x1000) =
      some (.outOfBounds ⟨0x1000, 0x10000, 0x10000⟩) := by
    rw [obstacle?_of_read readF, Array.size_replicate]
    rfl
  have two : placed crowded "roms" 0x10000 parts =
      [("invaders.h", 0x0000), ("invaders.g", 0x0800)] := by
    simp [placed, parts, fitsH, fitsG, tooLong]
  refine ⟨named, ?_, ?_, ?_, ?_⟩
  · rw [result]
    simp [parts, fitsH, fitsG, tooLong]
  · rw [cells, two]
    simp [covering?, readH, readG]
  · rw [cells, two]
    simp [covering?, readH, readG]
  · rw [cells, two, Memory.getElem?_full (by decide)]
    simp [covering?, readH, readG]

end RomSet

end Arcade
