import Arcade.Proofs.Core.Handler
import Mathlib.Data.List.Infix
import Mathlib.Data.List.MinMax
import Mathlib.Order.Bounds.Basic

/-! # The stack

Words are pushed and popped in any order, from any stack pointer and in a memory of any size. As long
as no word is popped that was not pushed, and the words fit into the memory, the stack is a list.

* `StackUse.unpopped`: the words that were pushed and not popped since. Their number is the depth
  (`length_unpopped`), and `deepest` is the greatest depth (`isGreatest_deepest`);
* `Stacks`: a core has the words of a list on its stack, and nothing has changed but the room below
  the first stack pointer;
* `Stacks.push`, `Stacks.pop`: one use of the stack; `stacks_afterUses`: any number of them;
* `pops_last_pushed`: **a pop gives the word that was pushed last**, of those not popped yet. -/

namespace Arcade

/-- A use of the stack. -/
inductive StackUse
  | push (word : UInt16)
  | pop
  deriving DecidableEq, Repr

namespace StackUse

/-- The words that lie on each other after one more use, the one on top first. -/
def apply (words : List UInt16) : StackUse → List UInt16
  | push word => word :: words
  | pop => words.tail

/-- The words that were pushed and not popped yet, the most recent one first. -/
def unpopped (uses : List StackUse) : List UInt16 :=
  uses.foldl apply []

/-- A word is pushed. -/
def isPush : StackUse → Bool
  | push _ => true
  | pop => false

/-- The number of words pushed. -/
def pushes (uses : List StackUse) : Nat :=
  uses.countP (·.isPush)

/-- The number of words popped. -/
def pops (uses : List StackUse) : Nat :=
  uses.countP (!·.isPush)

/-- How many more words were pushed than popped. -/
def depth (uses : List StackUse) : Nat :=
  pushes uses - pops uses

/-- The greatest depth that is reached. -/
def deepest (uses : List StackUse) : Nat :=
  (uses.inits.map depth).foldr max 0

/-- No word is popped that was not pushed before. -/
def Matched (uses : List StackUse) : Prop :=
  ∀ earlier ∈ uses.inits, pops earlier ≤ pushes earlier

instance (uses : List StackUse) : Decidable (Matched uses) :=
  inferInstanceAs (Decidable (∀ earlier ∈ uses.inits, _))

variable {uses earlier : List StackUse}

theorem self_mem_inits (uses : List StackUse) : uses ∈ uses.inits :=
  (List.mem_inits uses uses).mpr (List.prefix_refl uses)

theorem mem_inits_append (earlier later : List StackUse) : earlier ∈ (earlier ++ later).inits :=
  (List.mem_inits _ _).mpr (List.prefix_append earlier later)

theorem mem_inits_of_mem_inits (among : earlier ∈ uses.inits) {start : List StackUse}
    (within : start ∈ earlier.inits) : start ∈ uses.inits := by
  rw [List.mem_inits] at among within ⊢
  exact within.trans among

theorem Matched.of_mem_inits (matched : Matched uses) (among : earlier ∈ uses.inits) :
    Matched earlier :=
  fun start within => matched start (mem_inits_of_mem_inits among within)

theorem Matched.pops_lt_pushes (matched : Matched (uses ++ [pop])) : pops uses < pushes uses := by
  have now := matched _ (self_mem_inits _)
  rw [pushes, pops, List.countP_append, List.countP_append] at now
  exact now

/-! ### The depth -/

/-- The greatest depth is reached, and no depth is greater. -/
theorem isGreatest_deepest (uses : List StackUse) :
    IsGreatest {d | ∃ earlier ∈ uses.inits, depth earlier = d} (deepest uses) := by
  constructor
  · have some : uses.inits.map depth ≠ [] := fun none =>
      absurd (List.map_eq_nil_iff.mp none) (List.ne_nil_of_mem (self_mem_inits uses))
    have reached : deepest uses ∈ uses.inits.map depth :=
      List.maximum_mem (List.foldr_max_of_ne_nil some).symm
    exact List.mem_map.mp reached
  · rintro d ⟨earlier, among, rfl⟩
    exact List.le_max_of_le (List.mem_map_of_mem among) (Nat.le_refl _)

theorem unpopped_concat (uses : List StackUse) (use : StackUse) :
    unpopped (uses ++ [use]) = apply (unpopped uses) use :=
  List.foldl_append

/-- As long as no word is popped that was not pushed, each word that was pushed is popped or still
there. -/
theorem length_unpopped_add_pops (matched : Matched uses) :
    (unpopped uses).length + pops uses = pushes uses := by
  induction uses using List.reverseRecOn with
  | nil => rfl
  | append_singleton uses use ih =>
    have before := ih (matched.of_mem_inits (mem_inits_append uses [use]))
    rw [unpopped_concat, pushes, pops, List.countP_append, List.countP_append, ← pushes, ← pops]
    cases use with
    | push word =>
      show (unpopped uses).length + 1 + (pops uses + 0) = pushes uses + 1
      omega
    | pop =>
      have left := matched.pops_lt_pushes
      show (unpopped uses).tail.length + (pops uses + 1) = pushes uses + 0
      rw [List.length_tail]
      omega

theorem length_unpopped (matched : Matched uses) : (unpopped uses).length = depth uses := by
  have counted := length_unpopped_add_pops matched
  rw [depth]
  omega

/-- There is a word that a pop can be for. -/
theorem Matched.exists_top (matched : Matched (uses ++ [pop])) :
    ∃ word words, unpopped uses = word :: words := by
  have counted := length_unpopped_add_pops (matched.of_mem_inits (mem_inits_append uses [pop]))
  have left := matched.pops_lt_pushes
  exact List.exists_cons_of_length_pos (by omega)

end StackUse

/-- The bytes of a word as they lie in the memory. -/
def Word.bytes (word : UInt16) : List UInt8 :=
  [low word, high word]

theorem Word.length_flatMap_bytes (words : List UInt16) :
    (words.flatMap bytes).length = 2 * words.length := by
  simp [List.length_flatMap, bytes, Nat.mul_comm]

namespace Core

open StackUse

variable {δ : Type} {core now : Core δ} {room : Nat} {word : UInt16} {words : List UInt16}
  {uses : List StackUse}

/-- The core after a use of the stack. -/
def use (core : Core δ) : StackUse → Core δ
  | .push word => core.push word
  | .pop => core.pop.2

/-- The core after some uses of the stack, one after the other. -/
def afterUses (core : Core δ) (uses : List StackUse) : Core δ :=
  uses.foldl use core

theorem afterUses_concat (core : Core δ) (uses : List StackUse) (use : StackUse) :
    core.afterUses (uses ++ [use]) = (core.afterUses uses).use use :=
  List.foldl_append

/-- Some words lie on the stack, the first one on top, in a room below the first stack pointer.
Nothing else has changed. -/
structure Stacks (core : Core δ) (room : Nat) (words : List UInt16) (now : Core δ) : Prop where
  cpu : now.cpu = { core.cpu with sp := now.cpu.sp }
  ports : now.ports = core.ports
  stacked : core.memory.Stacked (core.cpu.sp - UInt16.ofNat room) room now.memory now.cpu.sp
    (words.flatMap Word.bytes)

theorem stacks_nil (core : Core δ) (room : Nat) : core.Stacks room [] core := by
  refine ⟨rfl, rfl, ?_⟩
  have bare := core.memory.stacked_nil (core.cpu.sp - UInt16.ofNat room) room
  rwa [UInt16.sub_add_cancel] at bare

theorem Stacks.sp (h : core.Stacks room words now) (within : 2 * words.length ≤ room) :
    now.cpu.sp = core.cpu.sp - UInt16.ofNat (2 * words.length) := by
  have split : UInt16.ofNat room =
      UInt16.ofNat (room - 2 * words.length) + UInt16.ofNat (2 * words.length) := by
    rw [← UInt16.ofNat_add, Nat.sub_add_cancel within]
  rw [h.stacked.top, Word.length_flatMap_bytes, split]
  grind

theorem Stacks.push (h : core.Stacks room words now) (left : 2 * (words.length + 1) ≤ room)
    (fits : room ≤ core.memory.bytes.size) (word : UInt16) :
    core.Stacks room (word :: words) (now.push word) := by
  have free : (words.flatMap Word.bytes).length + 2 ≤ room := by
    rw [Word.length_flatMap_bytes]
    omega
  refine ⟨?_, h.ports, h.stacked.push free fits word⟩
  show { now.cpu with sp := now.cpu.sp - 2 } = { core.cpu with sp := now.cpu.sp - 2 }
  rw [h.cpu]

theorem Stacks.pop (h : core.Stacks room (word :: words) now)
    (within : 2 * (words.length + 1) ≤ room) :
    now.pop.1 = word ∧ core.Stacks room words now.pop.2 := by
  have inside : (words.flatMap Word.bytes).length + 2 ≤ room := by
    rw [Word.length_flatMap_bytes]
    omega
  obtain ⟨top, rest⟩ := h.stacked.pop inside
  refine ⟨?_, ?_, h.ports, rest⟩
  · exact top.trans (Word.ofBytes_high_low word)
  · show { now.cpu with sp := now.cpu.sp + 2 } = { core.cpu with sp := now.cpu.sp + 2 }
    rw [h.cpu]

/-- What a pop gives if the stack was used before. -/
theorem Stacks.pop_unpopped (h : core.Stacks room (unpopped uses) now)
    (matched : Matched (uses ++ [.pop])) (within : 2 * depth uses ≤ room) :
    (unpopped uses).head? = some now.pop.1 ∧
      core.Stacks room (unpopped (uses ++ [.pop])) now.pop.2 := by
  obtain ⟨word, words, top⟩ := matched.exists_top
  rw [← length_unpopped (matched.of_mem_inits (mem_inits_append uses [.pop])), top] at within
  rw [top] at h
  obtain ⟨popped, rest⟩ := h.pop within
  rw [unpopped_concat, top, popped]
  exact ⟨rfl, rest⟩

/-- **The words that were pushed and not popped yet lie on the stack.** -/
theorem stacks_afterUses (matched : Matched uses)
    (deep : ∀ earlier ∈ uses.inits, 2 * depth earlier ≤ room)
    (fits : room ≤ core.memory.bytes.size) :
    core.Stacks room (unpopped uses) (core.afterUses uses) := by
  -- on the uses before the last one, which leave the words it works on
  induction uses using List.reverseRecOn with
  | nil => exact core.stacks_nil room
  | append_singleton uses use ih =>
    have among := mem_inits_append uses [use]
    have before := ih (matched.of_mem_inits among) fun earlier within =>
      deep earlier (mem_inits_of_mem_inits among within)
    rw [afterUses_concat]
    cases use with
    | push word =>
      have next := deep _ (self_mem_inits _)
      rw [← length_unpopped matched, unpopped_concat] at next
      rw [unpopped_concat]
      exact before.push next fits word
    | pop => exact (before.pop_unpopped matched (deep uses among)).2

/-- **The stack is a stack.** From any stack pointer and in a memory of any size, words are pushed and
popped in any order, as long as no word is popped that was not pushed and no more words are on the
stack than fit into the memory. Then each pop gives the word that was pushed last, of those not
popped yet; the stack pointer is two addresses below the first one for each word on the stack; and no
byte changes but those in the room below the first stack pointer that the words took at most. -/
theorem pops_last_pushed (core : Core δ) {uses : List StackUse} (matched : Matched uses)
    (fits : deepest uses ≤ core.memory.size / 2) :
    (∀ earlier later, uses = earlier ++ .pop :: later →
      (unpopped earlier).head? = some (core.afterUses earlier).pop.1) ∧
    (∀ earlier ∈ uses.inits,
      (core.afterUses earlier).cpu =
        { core.cpu with sp := core.cpu.sp - UInt16.ofNat (2 * depth earlier) } ∧
      (core.afterUses earlier).ports = core.ports) ∧
    core.memory.SameBut
      (core.memory.cellsFrom (core.cpu.sp - UInt16.ofNat (2 * deepest uses)) (2 * deepest uses))
      (core.afterUses uses).memory := by
  have room : 2 * deepest uses ≤ core.memory.bytes.size := by
    rw [Memory.size] at fits
    omega
  have deep : ∀ earlier ∈ uses.inits, 2 * depth earlier ≤ 2 * deepest uses := by
    intro earlier among
    exact Nat.mul_le_mul_left 2 ((isGreatest_deepest uses).2 ⟨earlier, among, rfl⟩)
  have onStack : ∀ earlier ∈ uses.inits,
      core.Stacks (2 * deepest uses) (unpopped earlier) (core.afterUses earlier) :=
    fun earlier among => stacks_afterUses (matched.of_mem_inits among)
      (fun start within => deep start (mem_inits_of_mem_inits among within)) room
  refine ⟨?_, ?_, ?_⟩
  · rintro earlier later rfl
    have among := mem_inits_append earlier (.pop :: later)
    have popped : Matched (earlier ++ [.pop]) := by
      rw [List.append_cons] at matched
      exact matched.of_mem_inits (mem_inits_append _ later)
    exact ((onStack earlier among).pop_unpopped popped (deep earlier among)).1
  · intro earlier among
    have now := onStack earlier among
    have within := deep earlier among
    rw [← length_unpopped (matched.of_mem_inits among)] at within ⊢
    refine ⟨?_, now.ports⟩
    rw [← now.sp within]
    exact now.cpu
  · exact (onStack uses (self_mem_inits uses)).stacked.others

/-- A core in 16 KiB with the stack pointer at an odd address, just behind the first cell. -/
def stacking : Core Unconnected where
  cpu := { sp := 0x0001 }
  memory := .holding [(0x0001, 0x77)]
  ports := .unconnected

/-- The first word goes into the last cell and the first one, the next ones below it. -/
theorem pops_last_pushed_stacking :
    let uses : List StackUse := [.push 0x1234, .push 0x5678, .pop, .push 0x9abc, .pop, .pop]
    Matched uses ∧ deepest uses ≤ stacking.memory.size / 2 ∧
      (stacking.afterUses (uses.take 2)).pop.1 = 0x5678 ∧
      (stacking.afterUses (uses.take 4)).pop.1 = 0x9abc ∧
      (stacking.afterUses (uses.take 5)).pop.1 = 0x1234 ∧
      (stacking.afterUses (uses.take 4)).cpu.sp = 0xfffd ∧
      (stacking.afterUses uses).memory.read 0x0001 = 0x77 := by
  intro uses
  have matched : Matched uses := by decide
  have size : stacking.memory.bytes.size = 0x4000 := Memory.size_holding _
  have fits : deepest uses ≤ stacking.memory.size / 2 := by
    rw [Memory.size, size]
    decide
  obtain ⟨popped, pointed, others⟩ := stacking.pops_last_pushed matched fits
  have first := popped (uses.take 2) _ rfl
  have second := popped (uses.take 4) _ rfl
  have third := popped (uses.take 5) _ rfl
  have deep := (pointed (uses.take 4) (by decide)).1
  refine ⟨matched, fits, ?_, ?_, ?_, ?_, ?_⟩
  · exact (Option.some.inj first).symm
  · exact (Option.some.inj second).symm
  · exact (Option.some.inj third).symm
  · rw [deep]
    rfl
  · have apart : (stacking.memory.cellsFrom 0x0001 1).Disjoint
        (stacking.memory.cellsFrom 0xfffd 4) := Memory.disjoint_cellsFrom size (by decide)
    exact (others.read (apart List.mem_cons_self)).trans (Memory.read_holding rfl)

end Core

end Arcade
