import Arcade.Schedule
import Mathlib.Data.List.NodupEquivFin

/-! # The rate of frames

A schedule is polled at any times, in any order. Each poll that is granted books a slot a frame or
more behind the slot before, and no later than a frame from now. So the slots count the frames, and
the times of the frames follow the slots.

* `poll_cases`: what a poll comes to, and where the slot it books lies;
* `granted`, `after`: the times at which polls were granted, and the schedule after them;
* `slot_le_of_granted`: a frame comes no earlier than the slots count;
* `Spaced`: times of which each two are as far apart as there are frames between them, and
  `Spaced.length_le`: how many of them a window holds;
* `Punctual`: polls that come within a frame of their slots, and `next?_after_of_booked`,
  `next?_after_of_first`: they do not make the slots drift;
* `keeps_rate`: **the rate is kept**, whatever the times of the polls are. -/

namespace Arcade.Schedule

/-! ### One poll -/

/-- The first poll is granted. -/
theorem poll_of_empty {s : Schedule} (h : s.next? = none) (now : Nat) :
    s.poll now = (true, { s with next? := some (now + s.frame) }) := by
  rw [poll, h]

/-- **What a poll comes to.** It is refused before the slot, and changes nothing then. Otherwise it
books a slot, which lies within a frame from now and a frame or more behind the slot before, exactly
a frame if that one was not missed by more than a frame. -/
theorem poll_cases (s : Schedule) (now : Nat) :
    (∃ slot, s.next? = some slot ∧ now < slot ∧ s.poll now = (false, s)) ∨
    (s.next? = none ∧ s.poll now = (true, { s with next? := some (now + s.frame) })) ∨
    ∃ slot slot', s.next? = some slot ∧ slot ≤ now ∧
      s.poll now = (true, { s with next? := some slot' }) ∧
      now ≤ slot' ∧ slot' ≤ now + s.frame ∧ slot + s.frame ≤ slot' ∧
      (now ≤ slot + s.frame → slot' = slot + s.frame) := by
  cases booked : s.next? with
  | none => exact Or.inr (Or.inl ⟨rfl, poll_of_empty booked now⟩)
  | some slot =>
    simp only [poll, booked]
    by_cases early : now < slot
    · rw [if_pos early]
      exact Or.inl ⟨slot, rfl, early, rfl⟩
    · rw [if_neg early]
      refine Or.inr (Or.inr ⟨slot, _, rfl, Nat.le_of_not_lt early, rfl, ?_⟩)
      by_cases late : s.frame < now - slot
      · rw [if_pos late]
        omega
      · rw [if_neg late]
        omega

theorem frame_poll (s : Schedule) (now : Nat) : (s.poll now).2.frame = s.frame := by
  rcases s.poll_cases now with ⟨_, _, _, waits⟩ | ⟨_, starts⟩ | ⟨_, _, _, _, goesOn, _⟩
  · rw [waits]
  · rw [starts]
  · rw [goesOn]

/-- A poll that is refused changes nothing. -/
theorem poll_snd_of_refused {s : Schedule} {now : Nat} (h : (s.poll now).1 = false) :
    (s.poll now).2 = s := by
  rcases s.poll_cases now with ⟨_, _, _, waits⟩ | ⟨_, starts⟩ | ⟨_, _, _, _, goesOn, _⟩
  · rw [waits]
  · rw [starts] at h
    cases h
  · rw [goesOn] at h
    cases h

/-- The slot that a granted poll books lies within a frame from now. -/
theorem slot_of_granted {s : Schedule} {now : Nat} (h : (s.poll now).1 = true) :
    ∃ slot, (s.poll now).2.next? = some slot ∧ now ≤ slot ∧ slot ≤ now + s.frame := by
  rcases s.poll_cases now with ⟨_, _, _, waits⟩ | ⟨_, starts⟩ |
    ⟨_, slot, _, _, goesOn, reached, near, _, _⟩
  · rw [waits] at h
    cases h
  · rw [starts]
    exact ⟨_, rfl, Nat.le_add_right now s.frame, Nat.le_refl _⟩
  · rw [goesOn]
    exact ⟨slot, rfl, reached, near⟩

/-! ### Any polls -/

/-- The schedule after polls at some times. -/
def after (s : Schedule) (times : List Nat) : Schedule :=
  times.foldl (fun s now => (s.poll now).2) s

/-- The times at which polls are granted. -/
def granted (s : Schedule) : List Nat → List Nat
  | [] => []
  | now :: times =>
    match s.poll now with
    | (true, next) => now :: next.granted times
    | (false, next) => next.granted times

theorem granted_of_true {s next : Schedule} {now : Nat} (h : s.poll now = (true, next))
    (times : List Nat) : s.granted (now :: times) = now :: next.granted times := by
  rw [granted, h]

theorem granted_of_false {s next : Schedule} {now : Nat} (h : s.poll now = (false, next))
    (times : List Nat) : s.granted (now :: times) = next.granted times := by
  rw [granted, h]

theorem after_cons {s next : Schedule} {now : Nat} {due : Bool} (h : s.poll now = (due, next))
    (times : List Nat) : s.after (now :: times) = next.after times := by
  rw [after, List.foldl_cons, h]
  rfl

theorem frame_after (s : Schedule) (times : List Nat) : (s.after times).frame = s.frame := by
  induction times generalizing s with
  | nil => rfl
  | cons now times ih => exact (ih (s.poll now).2).trans (s.frame_poll now)

variable {s : Schedule} {slot : Nat}

/-- **A frame comes no earlier than the slots count**: one slot for each frame before it. -/
theorem slot_le_of_granted (booked : s.next? = some slot) {times : List Nat} {k time : Nat}
    (h : (s.granted times)[k]? = some time) : slot + k * s.frame ≤ time := by
  induction times generalizing s slot k with
  | nil => cases h
  | cons now times ih =>
    rcases s.poll_cases now with ⟨_, _, _, waits⟩ | ⟨empty, _⟩ |
      ⟨slot', next, booked', due, goesOn, _, _, apart, _⟩
    · rw [granted_of_false waits] at h
      exact ih booked h
    · rw [empty] at booked
      cases booked
    · cases booked.symm.trans booked'
      rw [granted_of_true goesOn] at h
      cases k with
      | zero =>
        cases h
        omega
      | succ k =>
        rw [List.getElem?_cons_succ] at h
        have later : next + k * s.frame ≤ time := ih (s := { s with next? := some next }) rfl h
        rw [Nat.succ_mul]
        omega

/-- Times of which each two are as far apart as there are frames between them. -/
def Spaced (frame : Nat) (times : List Nat) : Prop :=
  ∀ i j earlier later, i < j → times[i]? = some earlier → times[j]? = some later →
    earlier + (j - i - 1) * frame ≤ later

theorem spaced_nil (frame : Nat) : Spaced frame [] :=
  fun _ _ _ _ _ none _ => by cases none

theorem Spaced.cons {frame now : Nat} {times : List Nat} (h : Spaced frame times)
    (first : ∀ k time, times[k]? = some time → now + k * frame ≤ time) :
    Spaced frame (now :: times) := by
  intro i j earlier later lt at_i at_j
  obtain ⟨j, rfl⟩ := Nat.exists_eq_succ_of_ne_zero (Nat.ne_of_gt (Nat.zero_lt_of_lt lt))
  cases i with
  | zero =>
    cases at_i
    exact first j later at_j
  | succ i =>
    have apart := h i j earlier later (Nat.lt_of_succ_lt_succ lt) at_i at_j
    have places : j + 1 - (i + 1) - 1 = j - i - 1 := by omega
    rwa [places]

/-- With some of the times left out there are fewer frames between the others. -/
theorem Spaced.sublist {frame : Nat} {times fewer : List Nat} (h : Spaced frame times)
    (sub : fewer.Sublist times) : Spaced frame fewer := by
  obtain ⟨place, same⟩ := List.sublist_iff_exists_orderEmbedding_getElem?_eq.mp sub
  intro i j earlier later lt at_i at_j
  rw [same] at at_i at_j
  have apart := h _ _ _ _ (place.strictMono lt) at_i at_j
  have spread : j - i ≤ place j - place i := by
    obtain ⟨gap, rfl⟩ := Nat.exists_eq_add_of_le (Nat.le_of_lt lt)
    have grows := place.strictMono.add_le_nat gap i
    rw [Nat.add_comm gap i] at grows
    omega
  have more : (j - i - 1) * frame ≤ (place j - place i - 1) * frame :=
    Nat.mul_le_mul_right frame (Nat.sub_le_sub_right spread 1)
  omega

/-- **How many times a window holds**: one for each frame that fits, and two. -/
theorem Spaced.length_le {frame start length : Nat} {times : List Nat} (h : Spaced frame times)
    (positive : 0 < frame) (within : ∀ time ∈ times, start ≤ time ∧ time ≤ start + length) :
    times.length ≤ length / frame + 2 := by
  by_cases short : times.length ≤ 2
  · exact short.trans (Nat.le_add_left 2 _)
  · have first : times[0]? = some times[0] := List.getElem?_eq_getElem (by omega)
    have last : times[times.length - 1]? = some times[times.length - 1] :=
      List.getElem?_eq_getElem (by omega)
    have apart := h 0 (times.length - 1) _ _ (by omega) first last
    have starts := (within _ (List.getElem_mem (by omega : 0 < times.length))).1
    have ends := (within _ (List.getElem_mem (by omega : times.length - 1 < times.length))).2
    have places : times.length - 1 - 0 - 1 = times.length - 2 := by omega
    rw [places] at apart
    have fits : times.length - 2 ≤ length / frame := by
      rw [Nat.le_div_iff_mul_le positive]
      omega
    omega

/-- **The times of the frames are spaced**, whatever the times of the polls are. -/
theorem spaced_granted (s : Schedule) (times : List Nat) : Spaced s.frame (s.granted times) := by
  induction times generalizing s with
  | nil => exact spaced_nil s.frame
  | cons now times ih =>
    rcases s.poll_cases now with ⟨_, _, _, waits⟩ | ⟨_, starts⟩ |
      ⟨_, next, _, _, goesOn, reached, _, _, _⟩
    · rw [granted_of_false waits]
      exact ih s
    · rw [granted_of_true starts]
      refine Spaced.cons (ih _) fun k time granted => ?_
      have slots : now + s.frame + k * s.frame ≤ time :=
        slot_le_of_granted (s := { s with next? := some (now + s.frame) }) rfl granted
      omega
    · rw [granted_of_true goesOn]
      refine Spaced.cons (ih _) fun k time granted => ?_
      have slots : next + k * s.frame ≤ time :=
        slot_le_of_granted (s := { s with next? := some next }) rfl granted
      omega

/-- From the first frame on, the slots count the frames. -/
theorem first_le_of_granted (empty : s.next? = none) {times : List Nat} {k first time : Nat}
    (at_zero : (s.granted times)[0]? = some first) (at_k : (s.granted times)[k]? = some time) :
    first + k * s.frame ≤ time := by
  cases times with
  | nil => cases at_zero
  | cons now times =>
    rw [granted_of_true (poll_of_empty empty now)] at at_zero at_k
    cases at_zero
    cases k with
    | zero =>
      cases at_k
      omega
    | succ k =>
      have slots : first + s.frame + k * s.frame ≤ time :=
        slot_le_of_granted (s := { s with next? := some (first + s.frame) }) rfl at_k
      rw [Nat.succ_mul]
      omega

/-! ### Drift -/

/-- Polls of which none that is granted comes more than a frame behind its slot. -/
def Punctual (s : Schedule) : List Nat → Prop
  | [] => True
  | now :: times =>
    (∀ slot ∈ s.next?, slot ≤ now → now ≤ slot + s.frame) ∧ (s.poll now).2.Punctual times

instance decidablePunctual (s : Schedule) : (times : List Nat) → Decidable (s.Punctual times)
  | [] => .isTrue trivial
  | now :: times =>
    have := (s.poll now).2.decidablePunctual times
    inferInstanceAs (Decidable ((∀ slot ∈ s.next?, slot ≤ now → now ≤ slot + s.frame) ∧
      (s.poll now).2.Punctual times))

/-- **Without a longer delay the slots do not drift**: each frame moves the slot on by a frame. -/
theorem next?_after_of_booked (booked : s.next? = some slot) {times : List Nat}
    (h : s.Punctual times) :
    (s.after times).next? = some (slot + (s.granted times).length * s.frame) := by
  induction times generalizing s slot with
  | nil => simpa [after, granted] using booked
  | cons now times ih =>
    obtain ⟨inTime, later⟩ := h
    rcases s.poll_cases now with ⟨_, _, _, waits⟩ | ⟨empty, _⟩ |
      ⟨slot', next, booked', due, goesOn, _, _, _, keeps⟩
    · rw [waits] at later
      rw [after_cons waits, granted_of_false waits]
      exact ih booked later
    · rw [empty] at booked
      cases booked
    · cases booked.symm.trans booked'
      have same := keeps (inTime slot booked due)
      subst same
      rw [goesOn] at later
      rw [after_cons goesOn, granted_of_true goesOn, ih rfl later, List.length_cons, Nat.succ_mul,
        Nat.add_assoc, Nat.add_comm s.frame]

theorem next?_after_of_first (empty : s.next? = none) {times : List Nat} (h : s.Punctual times)
    {first : Nat} (at_zero : (s.granted times)[0]? = some first) :
    (s.after times).next? = some (first + (s.granted times).length * s.frame) := by
  cases times with
  | nil => cases at_zero
  | cons now times =>
    have starts := poll_of_empty empty now
    obtain ⟨-, later⟩ := h
    rw [starts] at later
    rw [granted_of_true starts] at at_zero ⊢
    cases at_zero
    rw [after_cons starts, next?_after_of_booked rfl later, List.length_cons, Nat.succ_mul,
      Nat.add_assoc, Nat.add_comm s.frame]

/-- **The rate is kept**, whatever the times of the polls are. A frame comes no earlier than a
frame's duration for each one before it allows, counted from the first frame; counted from any other
one, one frame may come early, since the one it is counted from may have come late. So a window of
time holds as many frames as fit into it, and at most two more. The slot of the next frame lies
within a frame's duration from the last, and no poll that is punctual makes the slots drift. A poll
is granted exactly when no time is left, and one that is refused changes nothing. -/
theorem keeps_rate (rate : Nat) (times : List Nat) :
    let s : Schedule := ofRate rate
    let frames := s.granted times
    (∀ k first time, frames[0]? = some first → frames[k]? = some time →
      first + k * s.frame ≤ time) ∧
    (∀ i j earlier later, i < j → frames[i]? = some earlier → frames[j]? = some later →
      earlier + (j - i - 1) * s.frame ≤ later) ∧
    (0 < s.frame → ∀ start length,
      (frames.filter fun time => start ≤ time ∧ time ≤ start + length).length ≤
        length / s.frame + 2) ∧
    (∀ now, ((s.after times).poll now).1 = true →
      ∃ slot, ((s.after times).poll now).2.next? = some slot ∧ now ≤ slot ∧ slot ≤ now + s.frame) ∧
    (s.Punctual times → ∀ first, frames[0]? = some first →
      (s.after times).next? = some (first + frames.length * s.frame)) ∧
    ∀ now, (((s.after times).poll now).1 = false → ((s.after times).poll now).2 = s.after times) ∧
      (((s.after times).poll now).1 = true ↔ (s.after times).timeUntilDue now = 0) := by
  intro s frames
  have spaced : Spaced s.frame frames := s.spaced_granted times
  have same : (s.after times).frame = s.frame := s.frame_after times
  refine ⟨fun k first time => first_le_of_granted rfl, spaced, fun positive start length => ?_,
    fun now due => ?_, fun punctual first => next?_after_of_first rfl punctual,
    fun now => ⟨poll_snd_of_refused, poll_fst_eq_true_iff _ now⟩⟩
  · have within : ∀ time ∈ frames.filter fun time => start ≤ time ∧ time ≤ start + length,
        start ≤ time ∧ time ≤ start + length := fun time among =>
      of_decide_eq_true (List.mem_filter.mp among).2
    exact (spaced.sublist List.filter_sublist).length_le positive within
  · rw [← same]
    exact slot_of_granted due

/-- Fifty frames in a second. The second frame comes a whole frame late, so the third may follow at
once, and the window of that instant holds two; the slots did not drift. -/
theorem keeps_rate_catchingUp :
    let s := ofRate 50
    let times := [0, 40000000, 40000000, 50000000]
    s.granted times = [0, 40000000, 40000000] ∧
      ((s.granted times).filter fun time => 40000000 ≤ time ∧ time ≤ 40000000 + 0).length =
        0 / s.frame + 2 ∧
      (s.after times).next? = some (0 + 3 * 20000000) := by
  intro s times
  have granted : s.granted times = [0, 40000000, 40000000] := by decide
  have punctual : s.Punctual times := by decide
  obtain ⟨-, -, window, -, drift, -⟩ := keeps_rate 50 times
  have most := window (by decide) 40000000 0
  have slot := drift punctual 0 (congrArg (·[0]?) granted)
  refine ⟨granted, Nat.le_antisymm most ?_, slot⟩
  rw [Nat.zero_div, granted]
  decide

end Arcade.Schedule
