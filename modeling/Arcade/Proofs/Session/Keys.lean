import Arcade.Session
import Mathlib.Data.List.Induction
import Mathlib.Tactic.SplitIfs

/-! # Keys and buttons

Two keys may stand for one button. A session does not know which keys are down: whatever key of a
button goes down presses it, and whatever key of it goes up releases it.

* `Keystroke.lastDown`: what the last of some keystrokes says of a group of keys, for a single key
  `isDown` and for the keys of a button `lastPressed`;
* `exists_isDown_of_lastDown`, `lastDown_of_isDown`: a group was pressed last if one of its keys is
  down, unless a key of it was released while another was down;
* `holds_handleKey`: what one keystroke does to a button, and `holds_afterKeys`: what keystrokes do;
* `follows_last_keystroke`: **a button is as the last keystroke of its keys left it**;
* `button_lost_while_held`: it may be released while a key of it is down. -/

namespace Arcade

/-- A key goes down or up. -/
structure Keystroke where
  key : Key
  down : Bool
  deriving DecidableEq, Repr

namespace Keystroke

/-- Whether the last keystroke of a group of keys was a press. -/
def lastDown (group : Key → Bool) (strokes : List Keystroke) : Bool :=
  ((strokes.filter fun stroke => group stroke.key).getLast?.map down).getD false

/-- Whether a key is down after some keystrokes. -/
def isDown (strokes : List Keystroke) (key : Key) : Bool :=
  lastDown (· = key) strokes

/-- Whether the last keystroke of a button's keys was a press. -/
def lastPressed (strokes : List Keystroke) (button : Button) : Bool :=
  lastDown (·.button? = some button) strokes

/-- What holds of each keystroke and those before it. -/
def Throughout (P : List Keystroke → Keystroke → Prop) (strokes : List Keystroke) : Prop :=
  ∀ i, (within : i < strokes.length) → P (strokes.take i) strokes[i]

/-- A key goes down only while it is up, and up only while it is down. -/
def Alternating (strokes : List Keystroke) : Prop :=
  Throughout (fun seen stroke => stroke.down = !isDown seen stroke.key) strokes

/-- No key of a group goes up while another one is down. -/
def Apart (group : Key → Bool) (strokes : List Keystroke) : Prop :=
  Throughout
    (fun seen stroke => stroke.down = false → group stroke.key = true →
      ∀ other, group other = true → isDown seen other = true → other = stroke.key)
    strokes

instance (P : List Keystroke → Keystroke → Prop) [∀ seen, DecidablePred (P seen)]
    (strokes : List Keystroke) : Decidable (Throughout P strokes) :=
  Nat.decidableBallLT strokes.length fun i within => P (strokes.take i) strokes[i]

instance (strokes : List Keystroke) : Decidable (Alternating strokes) :=
  inferInstanceAs (Decidable (Throughout _ strokes))

theorem Throughout.of_concat {P : List Keystroke → Keystroke → Prop} {strokes : List Keystroke}
    {stroke : Keystroke} (h : Throughout P (strokes ++ [stroke])) :
    Throughout P strokes ∧ P strokes stroke := by
  constructor
  · intro i within
    have inside := h i (by rw [List.length_append]; omega)
    rwa [List.take_append_of_le_length (Nat.le_of_lt within), List.getElem_append_left within]
      at inside
  · have last := h strokes.length (by simp)
    rwa [List.take_left', List.getElem_concat_length rfl] at last
    rfl

variable {group : Key → Bool} {strokes : List Keystroke}

theorem lastDown_concat (group : Key → Bool) (strokes : List Keystroke) (stroke : Keystroke) :
    lastDown group (strokes ++ [stroke]) =
      if group stroke.key then stroke.down else lastDown group strokes := by
  rw [lastDown, List.filter_append]
  split_ifs with concerned
  · have kept : [stroke].filter (fun stroke => group stroke.key) = [stroke] :=
      List.filter_cons_of_pos concerned
    rw [kept, List.getLast?_concat]
    rfl
  · have dropped : [stroke].filter (fun stroke => group stroke.key) = [] :=
      List.filter_cons_of_neg concerned
    rw [dropped, List.append_nil]
    rfl

theorem isDown_concat_self (strokes : List Keystroke) (stroke : Keystroke) :
    isDown (strokes ++ [stroke]) stroke.key = stroke.down := by
  rw [isDown, lastDown_concat, if_pos (decide_eq_true rfl)]

theorem isDown_concat_of_ne (strokes : List Keystroke) {stroke : Keystroke} {key : Key}
    (h : stroke.key ≠ key) : isDown (strokes ++ [stroke]) key = isDown strokes key := by
  rw [isDown, lastDown_concat, if_neg (by simpa using h)]
  rfl

/-- **A group that was pressed last has a key that is down.** -/
theorem exists_isDown_of_lastDown (h : lastDown group strokes = true) :
    ∃ key, group key = true ∧ isDown strokes key = true := by
  induction strokes using List.reverseRecOn with
  | nil => cases h
  | append_singleton strokes stroke ih =>
    rw [lastDown_concat] at h
    split_ifs at h with concerned
    · exact ⟨stroke.key, concerned, (isDown_concat_self strokes stroke).trans h⟩
    · obtain ⟨key, among, down⟩ := ih h
      have other : stroke.key ≠ key := fun same => concerned (same ▸ among)
      exact ⟨key, among, (isDown_concat_of_ne strokes other).trans down⟩

/-- **A group with a key that is down was pressed last**, if its keys are used apart. -/
theorem lastDown_of_isDown (apart : Apart group strokes) {key : Key} (among : group key = true)
    (h : isDown strokes key = true) : lastDown group strokes = true := by
  induction strokes using List.reverseRecOn with
  | nil => cases h
  | append_singleton strokes stroke ih =>
    obtain ⟨earlier, last⟩ := apart.of_concat
    rw [lastDown_concat]
    by_cases same : stroke.key = key
    · subst same
      rw [isDown_concat_self] at h
      rw [if_pos among, h]
    · rw [isDown_concat_of_ne strokes same] at h
      split_ifs with concerned
      · -- the other key goes down: going up would end what is held by this one
        by_contra up
        exact same (last (eq_false_of_ne_true up) concerned key among h).symm
      · exact ih earlier h

end Keystroke

/-- A key stands for a button, or it does something else or nothing. -/
theorem Key.control?_cases (key : Key) :
    (∃ button, key.button? = some button ∧ key.control? = some (.buttons (.single button))) ∨
      key.button? = none ∧
        (key.control? = some .pause ∨ key.control? = some .quit ∨ key.control? = none) := by
  unfold control?
  split
  · exact Or.inr ⟨rfl, Or.inl rfl⟩
  · exact Or.inr ⟨rfl, Or.inr (Or.inl rfl)⟩
  · cases key.button? with
    | some button => exact Or.inl ⟨button, rfl, rfl⟩
    | none => exact Or.inr ⟨rfl, Or.inr (Or.inr rfl)⟩

namespace Session

/-- The buttons that are held. -/
def held (s : Session) : Buttons :=
  s.machine.board.buttons

/-- The session after some keystrokes. -/
def afterKeys (s : Session) (strokes : List Keystroke) : Session :=
  strokes.foldl (fun s stroke => s.handleKey stroke.key stroke.down) s

theorem afterKeys_concat (s : Session) (strokes : List Keystroke) (stroke : Keystroke) :
    s.afterKeys (strokes ++ [stroke]) =
      (s.afterKeys strokes).handleKey stroke.key stroke.down :=
  List.foldl_append

theorem holds_handle_single (s : Session) (pressed button : Button) (down : Bool) :
    (s.handle (.buttons (.single pressed)) down).held.holds button =
      if pressed = button then down else s.held.holds button := by
  have updated : (s.handle (.buttons (.single pressed)) down).held =
      s.held.update (.single pressed) down := rfl
  rw [updated, Buttons.holds_update, Buttons.holds_single]
  simp only [decide_eq_true_eq]

/-- **A keystroke presses or releases the button of its key**, and no other. -/
theorem holds_handleKey (s : Session) (key : Key) (down : Bool) (button : Button) :
    (s.handleKey key down).held.holds button =
      if key.button? = some button then down else s.held.holds button := by
  rcases key.control?_cases with ⟨pressed, stands, control⟩ | ⟨stands, control⟩
  · rw [handleKey, control, stands]
    simp only [Option.some.injEq]
    exact s.holds_handle_single pressed button down
  · rw [if_neg (by rw [stands]; exact nofun), handleKey]
    rcases control with control | control | control <;> rw [control] <;> rfl

/-- **What keystrokes leave of a button**: what the last one of its keys did to it. -/
theorem holds_afterKeys {s : Session} (released : s.held = .none) (strokes : List Keystroke)
    (button : Button) :
    (s.afterKeys strokes).held.holds button = Keystroke.lastPressed strokes button := by
  induction strokes using List.reverseRecOn with
  | nil =>
    rw [afterKeys, List.foldl_nil, released]
    exact Buttons.holds_none button
  | append_singleton strokes stroke ih =>
    rw [afterKeys_concat, holds_handleKey, ih, Keystroke.lastPressed, Keystroke.lastPressed,
      Keystroke.lastDown_concat]
    simp only [decide_eq_true_eq]

/-- **A button is as the last keystroke of its keys left it.** So a button that is held has a key
that is down, and a button with a key that is down is held, unless another key of it went up in the
meantime. -/
theorem follows_last_keystroke {s : Session} (released : s.held = .none)
    (strokes : List Keystroke) (button : Button) :
    let held := (s.afterKeys strokes).held.holds button
    held = Keystroke.lastPressed strokes button ∧
    (held = true → ∃ key : Key, key.button? = some button ∧ Keystroke.isDown strokes key = true) ∧
    (Keystroke.Apart (·.button? = some button) strokes →
      (held = true ↔
        ∃ key : Key, key.button? = some button ∧ Keystroke.isDown strokes key = true)) := by
  intro held
  have last : held = Keystroke.lastPressed strokes button := holds_afterKeys released strokes button
  have down (h : held = true) :
      ∃ key : Key, key.button? = some button ∧ Keystroke.isDown strokes key = true := by
    obtain ⟨key, among, down⟩ := Keystroke.exists_isDown_of_lastDown (last.symm.trans h)
    exact ⟨key, of_decide_eq_true among, down⟩
  refine ⟨last, down, fun apart => ⟨down, ?_⟩⟩
  rintro ⟨key, among, isDown⟩
  exact last.trans (Keystroke.lastDown_of_isDown apart (decide_eq_true among) isDown)

/-- The right key is down when D goes up, and so the button is released; pressed again, D holds
it. -/
theorem follows_last_keystroke_again :
    let s := new (.new {}) 1
    let strokes : List Keystroke := [⟨.right, true⟩, ⟨.d, true⟩, ⟨.d, false⟩]
    s.held = .none ∧ (s.afterKeys strokes).held.holds .p1Right = false ∧
      (s.afterKeys (strokes ++ [⟨.d, true⟩])).held.holds .p1Right = true := by
  intro s strokes
  have released : s.held = .none := rfl
  obtain ⟨lost, -⟩ := follows_last_keystroke released strokes .p1Right
  obtain ⟨again, -⟩ := follows_last_keystroke released (strokes ++ [⟨.d, true⟩]) .p1Right
  exact ⟨released, lost.trans (by decide), again.trans (by decide)⟩

/-- **A button may be released while a key of it is down**, though each key goes down and up in
turn: the left arrow goes down, then A, and A goes up. -/
theorem button_lost_while_held :
    ¬∀ (s : Session) (strokes : List Keystroke), s.held = .none → Keystroke.Alternating strokes →
      ∀ button : Button, (s.afterKeys strokes).held.holds button = true ↔
        ∃ key : Key, key.button? = some button ∧ Keystroke.isDown strokes key = true := by
  intro shows
  have held := (shows (new (.new {}) 1) [⟨.left, true⟩, ⟨.a, true⟩, ⟨.a, false⟩] rfl (by decide)
    .p1Left).mpr ⟨.left, rfl, by decide⟩
  rw [holds_afterKeys rfl] at held
  exact absurd held (by decide)

end Session

end Arcade
