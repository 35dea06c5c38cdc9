import Arcade.Proofs.Bus
import Arcade.Proofs.Machine.Phase
import Arcade.Proofs.Machine.Run
import Arcade.Proofs.Machine.Standstill
import Arcade.Proofs.Screen
import Arcade.Session

/-! # Playing a session

What a player does and the pictures that are asked for come in any order. Only the acts count: the
session is as they say, and the machine has been asked for what they stand for.

* `Session.Act`: a control goes down or up, or a picture is due; `Session.play`: acts in a row;
* `Act.pauses`: how often pause was pressed since a button was;
* `Act.demands`: what the acts ask of the machine. A picture asks for a frame, unless the game is
  paused;
* `Follows`: a session that is as the acts say; each act keeps it so (`Follows.act`);
* `pixel_draw`: the picture of a session;
* `Succeeds`: acts of which none fails, and `frames_play`: how many frames they make;
* `follows_player`: **a session follows its player**. -/

namespace Arcade

/-- Whether a frame is asked for. -/
def Machine.Operation.isFrame : Machine.Operation → Bool
  | .stepFrame => true
  | _ => false

namespace Session

open Arcade.Machine

/-- Something that happens in a session. -/
inductive Act
  | control (control : Control) (down : Bool)
  | update (screen : Screen)

namespace Act

/-- A button of the cabinet goes down. -/
def pressesButton : Act → Bool
  | control (.buttons _) true => true
  | _ => false

/-- Pause goes down. -/
def pressesPause : Act → Bool
  | control .pause true => true
  | _ => false

/-- Quit goes down. -/
def pressesQuit : Act → Bool
  | control .quit true => true
  | _ => false

/-- How often pause was pressed since a button was, or since the start. -/
def pauses (acts : List Act) : Nat :=
  (acts.reverse.takeWhile fun act => !act.pressesButton).countP pressesPause

/-- What an act asks of the machine, after some others. -/
def asked? (seen : List Act) : Act → Option Operation
  | control (.buttons changed) down => some (.setButtons changed down)
  | control .pause _ | control .quit _ => none
  | update _ => if Odd (pauses seen) then none else some .stepFrame

/-- What acts ask of the machine, one after the other. -/
def demands (seen : List Act) : List Act → List Operation
  | [] => []
  | act :: acts => (act.asked? seen).toList ++ demands (seen ++ [act]) acts

theorem pauses_concat (acts : List Act) (act : Act) :
    pauses (acts ++ [act]) =
      if act.pressesButton then 0 else pauses acts + if act.pressesPause then 1 else 0 := by
  rw [pauses, List.reverse_concat, List.takeWhile_cons]
  cases act.pressesButton with
  | true => rfl
  | false => exact List.countP_cons

theorem demands_concat (seen acts : List Act) (act : Act) :
    demands seen (acts ++ [act]) = demands seen acts ++ (act.asked? (seen ++ acts)).toList := by
  induction acts generalizing seen with
  | nil =>
    rw [List.append_nil]
    exact List.append_nil _
  | cons first acts ih =>
    rw [List.cons_append, demands, ih, demands, List.append_assoc, List.append_assoc]
    rfl

end Act

/-! ### One act -/

/-- The session after an act, whether it succeeded or failed. -/
def act (s : Session) : Act → Session
  | .control control down => s.handle control down
  | .update screen => (s.update screen).2.1

/-- What an act is answered. -/
def answer (s : Session) : Act → Except FrameFault Unit
  | .control _ _ => .ok ()
  | .update screen => (s.update screen).1

/-- The session after acts, one after the other. -/
def play (s : Session) (acts : List Act) : Session :=
  acts.foldl act s

variable {s : Session}

theorem play_append (s : Session) (acts more : List Act) :
    s.play (acts ++ more) = (s.play acts).play more :=
  List.foldl_append

theorem play_concat (s : Session) (acts : List Act) (act : Act) :
    s.play (acts ++ [act]) = (s.play acts).act act :=
  s.play_append acts [act]

theorem advance_of_paused (h : s.paused = true) : s.advance = (.ok (), s) :=
  if_pos h

theorem advance_of_running (h : s.paused = false) :
    s.advance = (s.machine.stepFrame.1, { s with machine := s.machine.stepFrame.2 }) := by
  rw [advance, h]
  rfl

theorem update_of_ok {after : Session} (h : s.advance = (.ok (), after)) (screen : Screen) :
    s.update screen = (.ok (), after, after.draw screen) := by
  rw [update, h]

theorem update_of_error {after : Session} {fault : FrameFault}
    (h : s.advance = (.error fault, after)) (screen : Screen) :
    s.update screen = (.error fault, after, screen) := by
  rw [update, h]

theorem update_eq_ok_iff {after : Session} {screen picture : Screen} :
    s.update screen = (.ok (), after, picture) ↔
      s.advance = (.ok (), after) ∧ picture = after.draw screen := by
  match h : s.advance with
  | (.ok (), last) => simp +contextual [update_of_ok h, eq_comm]
  | (.error fault, last) => simp [update_of_error h]

theorem update_eq_error_iff {after : Session} {fault : FrameFault} {screen picture : Screen} :
    s.update screen = (.error fault, after, picture) ↔
      s.advance = (.error fault, after) ∧ picture = screen := by
  match h : s.advance with
  | (.ok (), last) => simp [update_of_ok h]
  | (.error fault, last) => simp [update_of_error h, eq_comm, and_assoc]

/-- A picture fails only with its frame. -/
theorem advance_eq_error_iff {after : Session} {fault : FrameFault} :
    s.advance = (.error fault, after) ↔
      s.paused = false ∧ ∃ last, s.machine.stepFrame = (.error fault, last) ∧
        after = { s with machine := last } := by
  cases paused : s.paused with
  | false =>
    rw [advance_of_running paused]
    match s.machine.stepFrame with
    | (result, last) => simp [eq_comm, paused]
  | true => simp [advance_of_paused paused]

/-- A picture does what its frame does, but for the screen. -/
theorem update_eq (s : Session) (screen : Screen) :
    s.update screen = (s.advance.1, s.advance.2, (s.update screen).2.2) := by
  match h : s.advance with
  | (.ok (), after) => rw [update_of_ok h]
  | (.error fault, after) => rw [update_of_error h]

theorem act_update (s : Session) (screen : Screen) : s.act (.update screen) = s.advance.2 :=
  congrArg (·.2.1) (s.update_eq screen)

theorem answer_update (s : Session) (screen : Screen) :
    s.answer (.update screen) = s.advance.1 :=
  congrArg Prod.fst (s.update_eq screen)

/-- A frame changes nothing of what the player has done. -/
theorem advance_snd (s : Session) : s.advance.2 = { s with machine := s.advance.2.machine } := by
  cases h : s.paused with
  | false => rw [advance_of_running h, h]
  | true => rw [advance_of_paused h, ← h]

/-- **The picture of a session**, whatever was on the screen: that of its machine, with the banner
while the game is paused. -/
theorem pixel_draw (s : Session) (screen before : Screen) (x : Fin Screen.width)
    (y : Fin Screen.height) :
    (s.draw screen).pixel x y =
      if s.paused = true ∧ y.val < 12 then if y.val % 2 = 0 then .white else .black
      else (before.paint s.machine.videoRam).pixel x y := by
  have painted : (screen.paint s.machine.videoRam).pixel x y =
      (before.paint s.machine.videoRam).pixel x y := by
    rw [Screen.pixel_paint, Screen.pixel_paint]
  rw [draw]
  cases s.paused with
  | false =>
    rw [if_neg Bool.false_ne_true, if_neg fun banner => Bool.false_ne_true banner.1, painted]
  | true =>
    rw [if_pos rfl, Screen.pixel_drawBanner, painted]
    simp only [true_and]
    rfl

/-! ### Any acts -/

/-- A session that is as some acts say, with a machine that was asked for what they ask for. -/
structure Follows (machine : Machine) (s : Session) (acts : List Act) : Prop where
  paused : s.paused = true ↔ Odd (Act.pauses acts)
  shouldExit : s.shouldExit = true ↔ ∃ act ∈ acts, act.pressesQuit = true
  performed : s.machine = (Act.demands [] acts).foldl Machine.perform machine

theorem follows_new (machine : Machine) (scale : Nat) : Follows machine (new machine scale) [] where
  paused := ⟨nofun, fun odd => absurd odd (by decide)⟩
  shouldExit := ⟨nofun, nofun⟩
  performed := rfl

variable {machine : Machine} {acts : List Act}

theorem paused_act (s : Session) (act : Act) :
    (s.act act).paused =
      if act.pressesButton then false else if act.pressesPause then !s.paused else s.paused := by
  cases act with
  | update screen =>
    rw [act_update, advance_snd]
    rfl
  | control control down =>
    cases control with
    | quit | pause => cases down <;> rfl
    | buttons changed => cases down <;> simp [act, handle, Act.pressesButton, Act.pressesPause]

theorem shouldExit_act (s : Session) (act : Act) :
    (s.act act).shouldExit = (s.shouldExit || act.pressesQuit) := by
  cases act with
  | update screen =>
    rw [act_update, advance_snd]
    exact (Bool.or_false _).symm
  | control control down =>
    cases control with
    | quit => cases down <;> rfl
    | pause | buttons _ => exact (Bool.or_false _).symm

/-- What the acts say of a picture can be seen from the session. -/
theorem Follows.asked?_update (h : Follows machine s acts) (screen : Screen) :
    (Act.update screen).asked? acts = if s.paused = true then none else some .stepFrame :=
  if_congr h.paused.symm rfl rfl

theorem Follows.machine_act (h : Follows machine s acts) (act : Act) :
    (s.act act).machine = (act.asked? acts).toList.foldl Machine.perform s.machine := by
  cases act with
  | control control down => cases control <;> rfl
  | update screen =>
    rw [act_update, h.asked?_update]
    cases paused : s.paused with
    | false =>
      rw [advance_of_running paused]
      rfl
    | true =>
      rw [advance_of_paused paused]
      rfl

/-- **An act leaves a session as the acts say.** -/
theorem Follows.act (h : Follows machine s acts) (act : Act) :
    Follows machine (s.act act) (acts ++ [act]) where
  paused := by
    rw [paused_act, Act.pauses_concat]
    split_ifs with button pause
    · simp
    · rw [Nat.odd_add_one, ← h.paused, Bool.not_eq_true', Bool.not_eq_true]
    · exact h.paused
  shouldExit := by
    rw [shouldExit_act, Bool.or_eq_true, h.shouldExit]
    simp only [List.mem_append, List.mem_singleton, or_and_right, exists_or, exists_eq_left]
  performed := by
    rw [h.machine_act, Act.demands_concat, List.foldl_append, ← h.performed]
    rfl

theorem follows_play (machine : Machine) (scale : Nat) (acts : List Act) :
    Follows machine ((new machine scale).play acts) acts :=
  foldl_of_kept (follows_new machine scale) (fun _ _ act follows => follows.act act) acts

/-! ### Frames -/

/-- None of some acts fails. -/
def Succeeds (s : Session) (acts : List Act) : Prop :=
  ∀ seen act rest, acts = seen ++ act :: rest → (s.play seen).answer act = .ok ()

theorem Succeeds.of_concat {act : Act} (h : s.Succeeds (acts ++ [act])) :
    s.Succeeds acts ∧ (s.play acts).answer act = .ok () := by
  refine ⟨fun seen first rest parts => h seen first (rest ++ [act]) ?_, h acts act [] rfl⟩
  rw [parts, List.append_assoc, List.cons_append]

theorem Follows.frames_act (h : Follows machine s acts) {act : Act}
    (succeeds : s.answer act = .ok ()) :
    (s.act act).machine.frames =
      s.machine.frames + .ofNat ((act.asked? acts).toList.countP Operation.isFrame) := by
  rw [h.machine_act]
  cases act with
  | control control down =>
    cases control <;> exact (UInt64.add_zero _).symm
  | update screen =>
    rw [answer_update] at succeeds
    rw [h.asked?_update]
    cases paused : s.paused with
    | false =>
      rw [advance_of_running paused] at succeeds
      exact frames_of_ok (Prod.ext succeeds rfl)
    | true => exact (UInt64.add_zero _).symm

/-- **The machine counts the pictures that were not paused.** -/
theorem frames_play {scale : Nat} (h : (new machine scale).Succeeds acts) :
    ((new machine scale).play acts).machine.frames =
      machine.frames + .ofNat ((Act.demands [] acts).countP Operation.isFrame) := by
  induction acts using List.reverseRecOn with
  | nil => exact (UInt64.add_zero _).symm
  | append_singleton acts act ih =>
    obtain ⟨earlier, succeeds⟩ := h.of_concat
    have follows := follows_play machine scale acts
    rw [play_concat, follows.frames_act succeeds, ih earlier, Act.demands_concat,
      List.countP_append, UInt64.ofNat_add, UInt64.add_assoc]
    rfl

/-- **A session follows its player.** Whatever is done, and whether or not frames fail, the game is
paused exactly if pause was pressed an odd number of times since a button was pressed; it is to end
exactly if quit was pressed, and that is never taken back; and the machine has been told of the
buttons and asked for a frame with each picture that was not paused, and nothing else. If no frame
failed, it has counted those. A paused picture leaves the session as it is. A picture shows the
video memory of the machine, below the banner while the game is paused, whatever was on the screen.
A frame that fails leaves the screen as it is. -/
theorem follows_player (machine : Machine) (scale : Nat) (acts : List Act) :
    let s : Session := (new machine scale).play acts
    (s.paused = true ↔ Odd (Act.pauses acts)) ∧
    (s.shouldExit = true ↔ ∃ act ∈ acts, act.pressesQuit = true) ∧
    (∀ more, s.shouldExit = true → (s.play more).shouldExit = true) ∧
    s.machine = (Act.demands [] acts).foldl Machine.perform machine ∧
    ((new machine scale).Succeeds acts →
      s.machine.frames =
        machine.frames + .ofNat ((Act.demands [] acts).countP Operation.isFrame)) ∧
    ∀ screen : Screen,
      (s.paused = true → s.update screen = (.ok (), s, s.draw screen)) ∧
      (∀ after picture, s.update screen = (.ok (), after, picture) →
        after.paused = s.paused ∧ after.shouldExit = s.shouldExit ∧
        ∀ (before : Screen) (x : Fin Screen.width) (y : Fin Screen.height),
          picture.pixel x y =
            if after.paused = true ∧ y.val < 12 then
              if y.val % 2 = 0 then .white else .black
            else (before.paint after.machine.videoRam).pixel x y) ∧
      (∀ fault last, s.paused = false → s.machine.stepFrame = (.error fault, last) →
        s.update screen = (.error fault, { s with machine := last }, screen)) ∧
      ∀ fault after picture, s.update screen = (.error fault, after, picture) →
        s.paused = false ∧ s.machine.stepFrame = (.error fault, after.machine) ∧
          picture = screen := by
  intro s
  have follows : Follows machine s acts := follows_play machine scale acts
  refine ⟨follows.paused, follows.shouldExit, fun more exits => ?_, follows.performed, frames_play,
    fun screen => ⟨fun paused => update_of_ok (advance_of_paused paused) screen,
      fun after picture drawn => ?_, fun fault last running fails => ?_,
      fun fault after picture failed => ?_⟩⟩
  · obtain ⟨act, among, quits⟩ := follows.shouldExit.mp exits
    have later : Follows machine (s.play more) (acts ++ more) := by
      rw [← play_append]
      exact follows_play machine scale (acts ++ more)
    exact later.shouldExit.mpr ⟨act, List.mem_append_left more among, quits⟩
  · obtain ⟨advanced, rfl⟩ := update_eq_ok_iff.mp drawn
    have same : s.advance.2 = after := congrArg Prod.snd advanced
    subst same
    refine ⟨?_, ?_, fun before => pixel_draw _ screen before⟩
    · rw [advance_snd]
    · rw [advance_snd]
  · have failed := advance_eq_error_iff.mpr ⟨running, last, fails, rfl⟩
    exact update_of_error failed screen
  · obtain ⟨advanced, rfl⟩ := update_eq_error_iff.mp failed
    obtain ⟨running, last, fails, rfl⟩ := advance_eq_error_iff.mp advanced
    exact ⟨running, fails, rfl⟩

/-- A machine that stands still does so in any session. -/
theorem inert_play {machine : Machine} (h : machine.core.Inert) (scale : Nat) (acts : List Act) :
    ((new machine scale).play acts).machine.core.Inert := by
  refine foldl_of_kept (P := fun (s : Session) _ => s.machine.core.Inert) h
    (fun s _ act inert => ?_) acts
  cases act with
  | control control down => cases control <;> exact ⟨inert.halted, inert.disabled⟩
  | update screen =>
    rw [act_update]
    cases paused : s.paused with
    | false =>
      rw [advance_of_running paused, stepFrame_of_inert inert]
      exact inert.noting _
    | true =>
      rw [advance_of_paused paused]
      exact inert

theorem succeeds_of_inert {machine : Machine} (h : machine.core.Inert) (scale : Nat)
    (acts : List Act) : (new machine scale).Succeeds acts := by
  intro seen act rest _
  have inert := inert_play h scale seen
  cases act with
  | control control down => rfl
  | update screen =>
    rw [answer_update]
    cases paused : ((new machine scale).play seen).paused with
    | false => rw [advance_of_running paused, stepFrame_of_inert inert]
    | true => rw [advance_of_paused paused]

/-- Two of three pictures are not paused, and the game is paused again in the end, with white on top
of the screen. A machine that is trapped leaves the screen as it is. -/
theorem follows_player_pausing :
    let acts : List Act := [.update (.filled .lime), .control .pause true,
      .update (.filled .lime), .control (.buttons (.single .coin)) true, .update (.filled .lime),
      .control .pause true]
    let s : Session := (new standstill 1).play acts
    s.paused = true ∧ s.machine.frames = 2 ∧
      s.update (.filled .lime) = (.ok (), s, s.draw (.filled .lime)) ∧
      (s.draw (.filled .lime)).pixel 5 0 = .white ∧
      ∃ last, (new trap 1).update (.filled .lime) =
        (.error (.refused ⟨0x08, 0x1800⟩), { new trap 1 with machine := last }, .filled .lime) := by
  intro acts s
  obtain ⟨pauses, -, -, -, frames, updates⟩ := follows_player standstill 1 acts
  have paused : s.paused = true := pauses.mpr (by decide)
  have counted := frames (succeeds_of_inert ⟨rfl, rfl⟩ 1 acts)
  obtain ⟨rests, draws, -⟩ := updates (.filled .lime)
  have rested := rests paused
  obtain ⟨-, -, shows⟩ := draws s _ rested
  have white := shows (.filled .lime) 5 0
  rw [if_pos ⟨paused, by decide⟩] at white
  obtain ⟨last, fails, -⟩ := trapped_trap.stepFrame
  obtain ⟨-, -, -, -, -, trapped⟩ := follows_player trap 1 []
  obtain ⟨-, -, stops, -⟩ := trapped (.filled .lime)
  exact ⟨paused, counted, rested, white, last, stops _ last rfl fails⟩

end Session

end Arcade
