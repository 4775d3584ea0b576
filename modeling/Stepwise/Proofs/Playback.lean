import Stepwise.Player.Viewer
import Stepwise.Proofs.Ending

/-!
# Playback

A player is moved by keys and by automatic play, in any order and at any times, and it is drawn in
between.

- `Player.act_moves` says once what all of these can do: the recording stays, and the cursor makes
  one of its moves,
- so the cursor stays within the history (`Within.act` for one act, `Within.perform` for a
  sequence), and the same holds in every round of a viewer (`Viewer.within_run`),
- a position within a history is not changed on its way to a snapshot as long as it fits into 63
  bits (`Cursor.step_eq`),
- automatic play goes on to the last step, by one in each tick, and then stops (`cursor_ticks`,
  `isPlaying_ticks`).
-/

namespace Stepwise

/-! ### Moves of a cursor -/

namespace Cursor

/-- What can become of a cursor. -/
inductive Moves (c : Cursor) : Cursor → Prop
  | stay : Moves c c
  | forward : Moves c c.forward
  | backward : Moves c c.backward
  | advance (n : Nat) : Moves c (c.advance n)
  | rewind : Moves c c.rewind
  | toEnd : Moves c c.toEnd

variable {c c' : Cursor}

/-- Within the history, a step forward ends at the last step. -/
theorem forward_eq (hle : c.position ≤ c.total) :
    c.forward = ⟨min (c.position + 1) c.total, c.total⟩ := by
  unfold forward atEnd
  by_cases hend : c.total ≤ c.position
  · rw [decide_eq_true hend, if_pos rfl, Nat.min_eq_right (Nat.le_succ_of_le hend)]
    exact congrArg (Cursor.mk · c.total) (Nat.le_antisymm hle hend)
  · rw [decide_eq_false hend, if_neg Bool.false_ne_true, Nat.min_eq_left (Nat.lt_of_not_le hend)]

/-- No move changes the number of steps, and none leads out of them. -/
theorem Moves.within (h : c.Moves c') (hle : c.position ≤ c.total) :
    c'.total = c.total ∧ c'.position ≤ c'.total := by
  cases h with
  | stay => exact ⟨rfl, hle⟩
  | forward =>
    rw [forward_eq hle]
    exact ⟨rfl, Nat.min_le_right _ _⟩
  | backward =>
    unfold Cursor.backward
    split
    · exact ⟨rfl, hle⟩
    · exact ⟨rfl, Nat.le_trans (Nat.sub_le c.position 1) hle⟩
  | advance n =>
    -- within the history the difference is not cut at zero
    refine ⟨rfl, ?_⟩
    show c.position + min n (c.total - c.position) ≤ c.total
    omega
  | rewind => exact ⟨rfl, Nat.zero_le c.total⟩
  | toEnd => exact ⟨rfl, Nat.le_refl c.total⟩

/-- A position of at most 63 bits is not changed by the sign. -/
theorem step_eq (h : c.position < Nat.pow 2 63) : c.step = c.position := by
  have hhalf : Nat.pow 2 63 = 9223372036854775808 := rfl
  have hpow : Nat.pow 2 64 = 18446744073709551616 := rfl
  unfold step
  apply Int.bmod_eq_of_le
  · omega
  · omega

end Cursor

/-! ### Acts -/

namespace Player

/-- What can happen to a player. -/
inductive Act where
  | press (now : Int) (key : Key)
  | tick
  /-- A tick, if the player is playing and one is due. -/
  | playOn (now : Int)
  | draw (layout : Layout)
deriving Repr

/-- The player after an act. -/
def act (p : Player) : Act → Player
  | .press now key => p.press now key
  | .tick => p.tick
  | .playOn now => p.playOn now
  | .draw layout => p.settle layout

/-- The player after a sequence of acts. -/
def perform (p : Player) (acts : List Act) : Player := acts.foldl act p

theorem perform_append (p : Player) (acts acts' : List Act) :
    p.perform (acts ++ acts') = (p.perform acts).perform acts' := List.foldl_append

/-- The player `p'` has the recording of `p`, and its cursor has made a move. -/
def Moves (p p' : Player) : Prop := p'.recording = p.recording ∧ p.cursor.Moves p'.cursor

section moves
variable (p : Player)

theorem moves_stepForward : p.Moves p.stepForward := by
  unfold stepForward
  split
  · exact ⟨rfl, .stay⟩
  · exact ⟨rfl, .forward⟩

theorem moves_stepBackward : p.Moves p.stepBackward := by
  unfold stepBackward
  split
  · exact ⟨rfl, .stay⟩
  · exact ⟨rfl, .backward⟩

theorem moves_tick : p.Moves p.tick := by
  unfold tick
  split
  · exact ⟨rfl, .stay⟩
  · exact ⟨rfl, .forward⟩

theorem moves_playOn (now : Int) : p.Moves (p.playOn now) := by
  unfold playOn
  split
  · exact p.moves_tick
  · exact ⟨rfl, .stay⟩

theorem moves_pressSpace (now : Int) : p.Moves (p.pressSpace now) := by
  unfold pressSpace switch
  split
  · split
    · exact ⟨rfl, .stay⟩
    · exact ⟨rfl, .stay⟩
  · exact ⟨rfl, .stay⟩

theorem moves_pressChar (now : Int) (c : Char) : p.Moves (p.pressChar now c) := by
  unfold pressChar
  split
  · exact ⟨rfl, .stay⟩
  · split
    · exact ⟨rfl, .advance _⟩
    · split
      · exact p.moves_pressSpace now
      · exact ⟨rfl, .stay⟩

theorem moves_settle (layout : Layout) : p.Moves (p.settle layout) := by
  unfold settle
  exact ⟨rfl, .stay⟩

theorem moves_scrollUp : p.Moves p.scrollUp := by
  unfold scrollUp
  cases p.focus <;> exact ⟨rfl, .stay⟩

theorem moves_scrollDown : p.Moves p.scrollDown := by
  unfold scrollDown
  cases p.focus <;> exact ⟨rfl, .stay⟩

theorem moves_press (now : Int) (key : Key) : p.Moves (p.press now key) := by
  cases key with
  | char c => exact p.moves_pressChar now c
  | left => exact p.stop.moves_stepBackward
  | right => exact p.stop.moves_stepForward
  | up => exact p.moves_scrollUp
  | down => exact p.moves_scrollDown
  | tab => exact ⟨rfl, .stay⟩
  | backTab => exact ⟨rfl, .stay⟩
  | enter => exact ⟨rfl, .toEnd⟩
  | backspace => exact ⟨rfl, .rewind⟩
  | escape => exact ⟨rfl, .stay⟩
  | home => exact ⟨rfl, .stay⟩

/-- Whatever happens, the recording stays and the cursor makes one of its moves. -/
theorem act_moves (a : Act) : p.Moves (p.act a) := by
  cases a with
  | press now key => exact p.moves_press now key
  | tick => exact p.moves_tick
  | playOn now => exact p.moves_playOn now
  | draw layout => exact p.moves_settle layout

end moves

/-! ### Within a history -/

/-- The player plays the recording, and its cursor is at a step of it. -/
structure Within (recording : Recording) (p : Player) : Prop where
  recording_eq : p.recording = recording
  total_eq : p.cursor.total = recording.history.totalSteps
  position_le : p.cursor.position ≤ p.cursor.total

variable {recording : Recording} {p : Player}

theorem within_start (recording : Recording) (interval : Nat) (now : Int) :
    Within recording (start recording interval now) := ⟨rfl, rfl, Nat.zero_le _⟩

theorem Within.act (h : Within recording p) (a : Act) : Within recording (p.act a) := by
  obtain ⟨hrecording, hmoves⟩ := p.act_moves a
  obtain ⟨htotal, hle⟩ := hmoves.within h.position_le
  exact ⟨hrecording.trans h.recording_eq, htotal.trans h.total_eq, hle⟩

theorem Within.perform (h : Within recording p) (acts : List Act) :
    Within recording (p.perform acts) := by
  induction acts generalizing p with
  | nil => exact h
  | cons a rest ih => exact ih (h.act a)

/-- The snapshot at the cursor is the one whose index is the position. -/
theorem Within.snapshot (h : Within recording p)
    (hfits : recording.history.totalSteps < Nat.pow 2 63) :
    p.cursor.step = p.cursor.position ∧ p.snapshot = recording.history.get p.cursor.position ∧
      recording.history.snapshots[p.cursor.position]? = some p.snapshot := by
  have hle : p.cursor.position ≤ recording.history.totalSteps := h.total_eq ▸ h.position_le
  have hstep : p.cursor.step = p.cursor.position := Cursor.step_eq (Nat.lt_of_le_of_lt hle hfits)
  have hsnapshot : p.snapshot = recording.history.get p.cursor.position := by
    unfold Player.snapshot
    rw [h.recording_eq, hstep]
  rw [hsnapshot]
  exact ⟨hstep, rfl, recording.history.getElem?_snapshots hle⟩

/-! ### Automatic play -/

/-- A tick that finds the cursor at the end stops the player. -/
theorem tick_eq (p : Player) :
    p.tick.cursor = p.cursor.forward ∧ p.tick.isPlaying = (p.isPlaying && !p.cursor.atEnd) := by
  unfold tick Cursor.forward
  cases p.cursor.atEnd with
  | true => exact ⟨rfl, (Bool.and_false _).symm⟩
  | false => exact ⟨rfl, (Bool.and_true _).symm⟩

/-- The player after `n` ticks. -/
def ticks (p : Player) (n : Nat) : Player := p.perform (List.replicate n .tick)

theorem ticks_succ (p : Player) (n : Nat) : p.ticks (n + 1) = (p.ticks n).tick := by
  unfold ticks
  rw [List.replicate_succ', perform_append]
  rfl

section ticks
variable (hle : p.cursor.position ≤ p.cursor.total) (n : Nat)
include hle

/-- Each tick moves the cursor by one, as far as there are steps. -/
theorem cursor_ticks :
    (p.ticks n).cursor = ⟨min (p.cursor.position + n) p.cursor.total, p.cursor.total⟩ := by
  induction n with
  | zero =>
    rw [Nat.add_zero, Nat.min_eq_left hle]
    rfl
  | succ n ih =>
    have hle' : (p.ticks n).cursor.position ≤ (p.ticks n).cursor.total := by
      rw [ih]
      exact Nat.min_le_right _ _
    rw [ticks_succ, (tick_eq _).1, Cursor.forward_eq hle', ih, Cursor.mk.injEq]
    refine ⟨?_, rfl⟩
    show min (min (p.cursor.position + n) p.cursor.total + 1) p.cursor.total = _
    omega

/-- The player stops at the first tick after those that lead to the last step. -/
theorem isPlaying_ticks :
    (p.ticks n).isPlaying = (p.isPlaying && decide (n ≤ p.cursor.total - p.cursor.position)) := by
  induction n with
  | zero =>
    rw [decide_eq_true (Nat.zero_le _), Bool.and_true]
    rfl
  | succ n ih =>
    -- the next tick stops the player if the first `n` ones have used up all steps
    have hend : (p.ticks n).cursor.atEnd = decide (p.cursor.total ≤ p.cursor.position + n) := by
      unfold Cursor.atEnd
      rw [cursor_ticks hle, decide_eq_decide]
      show p.cursor.total ≤ min (p.cursor.position + n) p.cursor.total ↔ _
      omega
    rw [ticks_succ, (tick_eq _).2, ih, hend, Bool.and_assoc, ← decide_not, ← Bool.decide_and]
    congr 2
    rw [eq_iff_iff]
    omega

end ticks
end Player

/-! ### Viewers -/

/-- Each round of a viewer is made of acts, so that no round leads out of the history. -/
theorem Viewer.within_run {recording : Recording} {v : Viewer} (now : Int) (events : List Event)
    (h : v.player.Within recording) : (v.run now events).1.player.Within recording := by
  induction events generalizing v with
  | nil =>
    have hdraw : v.draw.player.Within recording := h.act (.draw (.ofSize v.size))
    unfold run
    dsimp only
    split
    · exact hdraw
    · exact hdraw.act (.playOn now)
  | cons event rest ih =>
    have hdraw : v.draw.player.Within recording := h.act (.draw (.ofSize v.size))
    have hplay : (v.draw.playOn now).player.Within recording := hdraw.act (.playOn now)
    unfold run
    dsimp only
    split
    · exact hdraw
    · -- an event that is not a pressed key does nothing
      apply ih
      cases event with
      | press key => exact hplay.act (.press now key)
      | hold key => exact hplay
      | release key => exact hplay
      | resize => exact hplay
      | idle => exact hplay

/-! ### Recordings -/

namespace Recording

/-- A recording has no more steps than its script has lines; a script that is rejected has one
    step. -/
theorem totalSteps_le (settings : Settings) (clock : Nat → Instant) (source : Text) :
    (historyOf settings clock source).totalSteps ≤ max 1 (Listing.ofText source).size := by
  cases hbuild : DeclarationTable.ofListing (.ofText source) with
  | error fault =>
    have hshape : RejectedShape (historyOf settings clock source) fault := rejectedShape hbuild
    rw [hshape.totalSteps]
    exact Nat.le_max_left _ _
  | ok table =>
    have hshape : RunShape (historyOf settings clock source) _ _ _ := runShape hbuild
    have hcount : ∀ lines limit failure, stepCount lines limit failure ≤ lines := by
      intro lines limit failure
      cases failure with
      | none => exact Nat.min_le_left _ _
      | some position => exact Nat.le_trans (Nat.min_le_left _ _) (Nat.min_le_left _ _)
    calc (historyOf settings clock source).totalSteps
        ≤ (Runner.executable table (.ofText source)).length := hshape.totalSteps ▸ hcount _ _ _
      _ ≤ (Listing.ofText source).numbered.length := List.length_filterMap_le _ _
      _ = (Listing.ofText source).size := List.length_zipIdx
      _ ≤ max 1 (Listing.ofText source).size := Nat.le_max_right _ _

/-- Playback never leaves the history. Whatever is done to the player of a script with fewer than
    `2 ^ 63` lines, the recording stays, and the player shows the snapshot whose index and number
    are the position of the cursor. When it is playing, ticks lead to the last step, by one each,
    and the next tick stops it there. -/
theorem playback_within_history (settings : Settings) (clock : Nat → Instant) (source : Text)
    (hsize : (Listing.ofText source).size < Nat.pow 2 63) (interval : Nat) (now : Int)
    (acts : List Player.Act) :
    let recording := ofSource settings clock source
    let total := recording.history.totalSteps
    let player := (Player.start recording interval now).perform acts
    let position := player.cursor.position
    player.recording = recording ∧ position ≤ total ∧ player.cursor.step = position ∧
      recording.history.snapshots[position]? = some player.snapshot ∧
        player.snapshot.step = position ∧
      (player.isPlaying = true →
        (∀ n ≤ total - position,
          (player.ticks n).cursor = ⟨position + n, total⟩ ∧ (player.ticks n).isPlaying = true) ∧
        (player.ticks (total - position + 1)).cursor = ⟨total, total⟩ ∧
          (player.ticks (total - position + 1)).isPlaying = false) := by
  intro recording total player position
  have hwithin : player.Within recording :=
    (Player.within_start recording interval now).perform acts
  have htotal : player.cursor.total = total := hwithin.total_eq
  have hle : position ≤ total := htotal ▸ hwithin.position_le
  have hfits : total < Nat.pow 2 63 :=
    Nat.lt_of_le_of_lt (totalSteps_le settings clock source) (Nat.max_lt.mpr ⟨by decide, hsize⟩)
  obtain ⟨hstep, hsnapshot, hindex⟩ := hwithin.snapshot hfits
  refine ⟨hwithin.recording_eq, hle, hstep, hindex, ?_, ?_⟩
  · rw [hsnapshot]
    exact step_get hle
  · intro hplaying
    have hcursor : ∀ n, (player.ticks n).cursor = ⟨min (position + n) total, total⟩ := fun n =>
      htotal ▸ Player.cursor_ticks hwithin.position_le n
    have hplays : ∀ n, (player.ticks n).isPlaying = decide (n ≤ total - position) := by
      intro n
      rw [Player.isPlaying_ticks hwithin.position_le, hplaying, Bool.true_and, htotal]
    refine ⟨?_, ?_, ?_⟩
    · intro n hn
      rw [hcursor, hplays, Nat.min_eq_left (by omega)]
      exact ⟨rfl, decide_eq_true hn⟩
    · rw [hcursor, Nat.min_eq_right (by omega)]
    · rw [hplays]
      exact decide_eq_false (by omega)

/-- One step by a key, then automatic play: two ticks lead to the last of three steps, and the third
    one stops. -/
theorem playback_within_history_after_space :
    let source : Text := "x = true\ny = x\nconsole.log(y)"
    let recording := ofSource .default (fun _ => .epoch) source
    let layout : Layout := ⟨⟨44, 16⟩, ⟨44, 7⟩, ⟨36, 8⟩, ⟨36, 6⟩, ⟨36, 9⟩, ⟨80, 1⟩⟩
    let player := (Player.start recording 500 0).perform
      [.press 0 .right, .draw layout, .press 10 (.char ' ')]
    (Listing.ofText source).size = 3 ∧ recording.history.totalSteps = 3 ∧ player.isPlaying = true ∧
      player.cursor.position = 1 ∧ recording.history.snapshots[1]? = some player.snapshot ∧
      player.snapshot.step = 1 ∧
      (player.ticks 2).cursor = ⟨3, 3⟩ ∧ (player.ticks 2).isPlaying = true ∧
      (player.ticks 3).cursor = ⟨3, 3⟩ ∧ (player.ticks 3).isPlaying = false := by
  intro source recording layout player
  have hsize : (Listing.ofText source).size = 3 := by decide +kernel
  have htotal : recording.history.totalSteps = 3 := by decide +kernel
  have hposition : player.cursor.position = 1 := by decide +kernel
  have hplaying : player.isPlaying = true := by decide +kernel
  obtain ⟨_, _, _, hindex, hstep, hticks⟩ :=
    playback_within_history .default (fun _ => .epoch) source
    (by rw [hsize]; decide) 500 0 [.press 0 .right, .draw layout, .press 10 (.char ' ')]
  obtain ⟨hmoves, hcursor, hstops⟩ := hticks hplaying
  have hleft : recording.history.totalSteps - player.cursor.position = 2 := by
    rw [htotal, hposition]
  obtain ⟨hcursor₂, hplaying₂⟩ := hmoves 2 (Nat.le_of_eq hleft.symm)
  rw [hposition, htotal] at hcursor₂
  rw [hleft] at hcursor hstops
  rw [htotal] at hcursor
  rw [hposition] at hindex hstep
  exact ⟨hsize, htotal, hplaying, hposition, hindex, hstep, hcursor₂, hplaying₂, hcursor, hstops⟩

end Recording
end Stepwise
