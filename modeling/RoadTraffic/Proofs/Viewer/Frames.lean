import RoadTraffic.Proofs.World.Runs
import RoadTraffic.Viewer.Session

/-!
# A session is a run of its world

A viewer keeps a clock and a keyboard between its frames.  Neither is needed to say what a
session does to its world: the commands can be read off the list of frames alone.

    assigned    the settings after the assignments of the frames
    ticked      what the whole steps of 30 ms in the time of the frames have grown by
    toggled     if Space was struck: pressed, and not held before
    sent in     a wave, if Enter was struck

The time of a frame is cut off at 250 ms, and the first frame counts for nothing.  A key is
held if the last frame that touches it presses it.  `Session.commands` lists the commands,
and `Session.shown` the frames up to the first in which Escape was struck.

A viewer that has come through some frames is known by these lists (`Viewer.Reached`), and
one frame more keeps it so (`Viewer.Reached.next`).  From that everything a session leaves
is had by induction on its frames (`Viewer.session_run`).
-/

namespace RoadTraffic

namespace Session

/-- The time that frames count for, in milliseconds. -/
def elapsed (frames : List Frame) : Nat :=
  (frames.tail.map fun frame => min frame.millis 250).sum

/-- The ticks of a frame. -/
def tickCount (earlier : List Frame) (frame : Frame) : Nat :=
  elapsed (earlier ++ [frame]) / 30 - elapsed earlier / 30

/-- Is a key held after some frames?  The last of them that touches it says so. -/
def holds (frames : List Frame) (key : Key) : Bool :=
  match frames.reverse.find? fun frame => key ∈ frame.released ∨ key ∈ frame.pressed with
  | some frame => key ∈ frame.pressed
  | none => false

/-- Is a key struck in a frame: pressed, while not held after the releases of the frame? -/
def strikes (earlier : List Frame) (frame : Frame) (key : Key) : Bool :=
  key ∈ frame.pressed ∧ ¬ (holds earlier key ∧ key ∉ frame.released)

/-- The settings after the assignments of some frames. -/
def settings (config : Config) (frames : List Frame) : Config :=
  frames.foldl (fun config frame => config.assign frame.assigned) config

/-- The commands of a frame that comes after some others, in a world with settings
`config` before all of them. -/
def commandsOf (config : Config) (earlier : List Frame) (frame : Frame) : List Command :=
  .configure (settings config (earlier ++ [frame])) ::
    (List.replicate (tickCount earlier frame) .tick ++
      (if strikes earlier frame .space then [.toggleSignals] else []) ++
      (if strikes earlier frame .enter then [.spawnWave] else []))

/-- The commands of frames that come after some others. -/
def commandsFrom (config : Config) (earlier : List Frame) : List Frame → List Command
  | [] => []
  | frame :: later =>
    commandsOf config earlier frame ++ commandsFrom config (earlier ++ [frame]) later

/-- The commands of frames. -/
def commands (config : Config) (frames : List Frame) : List Command :=
  commandsFrom config [] frames

/-- The frames that are shown, of frames that come after some others. -/
def shownFrom (earlier : List Frame) : List Frame → List Frame
  | [] => []
  | frame :: later =>
    frame :: if strikes earlier frame .escape then [] else shownFrom (earlier ++ [frame]) later

/-- The frames that are shown: all up to the first in which Escape is struck. -/
def shown (frames : List Frame) : List Frame := shownFrom [] frames

variable {config : Config} {earlier frames : List Frame} {frame : Frame} {key : Key}

/-!
## One frame more
-/

theorem elapsed_concat (h : earlier ≠ []) :
    elapsed (earlier ++ [frame]) = elapsed earlier + min frame.millis 250 := by
  obtain ⟨first, others, rfl⟩ := List.exists_cons_of_ne_nil h
  simp [elapsed]

theorem elapsed_singleton (frame : Frame) : elapsed [frame] = 0 := rfl

theorem elapsed_le_concat (earlier : List Frame) (frame : Frame) :
    elapsed earlier ≤ elapsed (earlier ++ [frame]) := by
  cases earlier with
  | nil => exact Nat.le_refl 0
  | cons first others =>
      rw [elapsed_concat (List.cons_ne_nil first others)]
      exact Nat.le_add_right _ _

theorem holds_concat : holds (earlier ++ [frame]) key = true ↔
    key ∈ frame.pressed ∨ (holds earlier key = true ∧ key ∉ frame.released) := by
  unfold holds
  rw [List.reverse_append, List.reverse_singleton, List.singleton_append, List.find?_cons]
  grind

theorem strikes_iff : strikes earlier frame key = true ↔
    key ∈ frame.pressed ∧ ¬ (holds earlier key = true ∧ key ∉ frame.released) :=
  decide_eq_true_iff

theorem commandsFrom_concat (config : Config) (before earlier : List Frame) (frame : Frame) :
    commandsFrom config before (earlier ++ [frame]) =
      commandsFrom config before earlier ++ commandsOf config (before ++ earlier) frame := by
  induction earlier generalizing before with
  | nil => simp [commandsFrom]
  | cons first others ih => simp [commandsFrom, ih]

theorem commands_concat (config : Config) (earlier : List Frame) (frame : Frame) :
    commands config (earlier ++ [frame]) =
      commands config earlier ++ commandsOf config earlier frame :=
  commandsFrom_concat config [] earlier frame

theorem settings_concat (config : Config) (earlier : List Frame) (frame : Frame) :
    settings config (earlier ++ [frame]) = (settings config earlier).assign frame.assigned := by
  rw [settings, List.foldl_append]
  rfl

/-- A key that is kept down is not struck again. -/
theorem holds_of_kept {kept : List Frame} (hheld : holds earlier key = true)
    (hkept : ∀ frame ∈ kept, key ∉ frame.released) : holds (earlier ++ kept) key = true := by
  induction kept generalizing earlier with
  | nil => rwa [List.append_nil]
  | cons frame kept ih =>
      have hfirst : holds (earlier ++ [frame]) key = true :=
        holds_concat.mpr (.inr ⟨hheld, hkept frame List.mem_cons_self⟩)
      rw [List.append_cons]
      exact ih hfirst fun later hlater => hkept later (List.mem_cons_of_mem frame hlater)

/-!
## Counting commands
-/

theorem count_tick_commandsOf : (commandsOf config earlier frame).count .tick =
    tickCount earlier frame := by
  unfold commandsOf
  split <;> split <;> simp

theorem count_toggleSignals_commandsOf : (commandsOf config earlier frame).count .toggleSignals =
    (strikes earlier frame .space).toNat := by
  unfold commandsOf
  split <;> split <;> simp_all [List.count_replicate]

theorem count_spawnWave_commandsOf : (commandsOf config earlier frame).count .spawnWave =
    (strikes earlier frame .enter).toNat := by
  unfold commandsOf
  split <;> split <;> simp_all [List.count_replicate]

end Session

/-!
## What a viewer has become
-/

namespace Viewer

open Session

/-- A viewer of the world `start` that has shown some frames. -/
structure Reached (start : World) (frames : List Frame) (viewer : Viewer) : Prop where
  world : viewer.world = start.run (commands start.config frames)
  ticks : (commands start.config frames).count .tick = elapsed frames / 30
  config : viewer.world.config = settings start.config frames
  started : viewer.clock.started = !frames.isEmpty
  /-- What is less than a step is carried over. -/
  carried : viewer.clock.carried = elapsed frames % 30 * nanosPerMilli
  held : ∀ key, key ∈ viewer.keyboard.held ↔ holds frames key = true

/-- What the report on a frame says, the frames before it given. -/
structure Told (start : World) (earlier : List Frame) (frame : Frame) (report : FrameReport) :
    Prop where
  reached : Reached start (earlier ++ [frame]) report.viewer
  justPressed : ∀ key, report.viewer.keyboard.isJustPressed key = strikes earlier frame key
  ended : report.ended = strikes earlier frame .escape

theorem Reached.nil (start : World) : Reached start [] { world := start } :=
  ⟨rfl, rfl, rfl, rfl, rfl, fun _ => by simp [holds]⟩

theorem ticks_eq_run (world : World) (count : Nat) :
    (world.ticks count).1 = world.run (List.replicate count .tick) := by
  induction count generalizing world with
  | zero => rfl
  | succ count ih => exact ih world.tick.1

theorem toggleOn_eq_run (pressed : Bool) (world : World) :
    (toggleOn pressed world).1 = world.run (if pressed then [.toggleSignals] else []) := by
  cases pressed <;> rfl

theorem waveOn_eq_run (pressed : Bool) (world : World) :
    (waveOn pressed world).1 = world.run (if pressed then [.spawnWave] else []) := by
  cases pressed <;> rfl

variable {start : World} {earlier : List Frame} {viewer : Viewer}

namespace Reached

theorem isJustPressed (h : Reached start earlier viewer) (frame : Frame) (key : Key) :
    (viewer.keyboard.nextFrame frame.released frame.pressed).isJustPressed key =
      strikes earlier frame key := by
  rw [Bool.eq_iff_iff, Keyboard.isJustPressed_nextFrame, strikes_iff, h.held]

/-- The clock counts the time of a frame, but not that of the first. -/
theorem counted (h : Reached start earlier viewer) (frame : Frame) :
    viewer.clock.counted frame.millis =
      (elapsed (earlier ++ [frame]) - elapsed earlier) * nanosPerMilli := by
  unfold Clock.counted
  rw [h.started]
  cases earlier with
  | nil =>
      rw [List.nil_append, elapsed_singleton, Nat.zero_sub, Nat.zero_mul]
      rfl
  | cons first others =>
      rw [elapsed_concat (List.cons_ne_nil first others), Nat.add_sub_cancel_left]
      exact if_pos rfl

/-- The clock gives the ticks of the frame, and carries on what is less than a step. -/
theorem advance (h : Reached start earlier viewer) (frame : Frame) :
    viewer.clock.advance frame.millis =
      (tickCount earlier frame, ⟨true, elapsed (earlier ++ [frame]) % 30 * nanosPerMilli⟩) := by
  have hle := elapsed_le_concat earlier frame
  have htotal : viewer.clock.carried + viewer.clock.counted frame.millis =
      (elapsed (earlier ++ [frame]) - 30 * (elapsed earlier / 30)) * nanosPerMilli := by
    rw [h.carried, h.counted, ← Nat.add_mul]
    congr 1
    omega
  have hstep : stepNanos = 30 * nanosPerMilli := rfl
  have hpos : 0 < nanosPerMilli := by decide
  have hticks : (elapsed (earlier ++ [frame]) - 30 * (elapsed earlier / 30)) / 30 =
      elapsed (earlier ++ [frame]) / 30 - elapsed earlier / 30 := by omega
  have hrest : (elapsed (earlier ++ [frame]) - 30 * (elapsed earlier / 30)) % 30 =
      elapsed (earlier ++ [frame]) % 30 := by omega
  simp only [Clock.advance, tickCount, htotal, hstep, Nat.mul_div_mul_right _ _ hpos,
    Nat.mul_mod_mul_right, hticks, hrest]

/-- A frame obeys its commands. -/
theorem world_showFrame (h : Reached start earlier viewer) (frame : Frame) :
    (viewer.showFrame frame).viewer.world =
      viewer.world.run (commandsOf start.config earlier frame) := by
  simp only [showFrame, h.advance frame, h.isJustPressed frame, waveOn_eq_run, toggleOn_eq_run,
    ticks_eq_run, commandsOf, World.run_cons, World.run_append, settings_concat, h.config]
  rfl

/-- **One frame more.** -/
theorem next (h : Reached start earlier viewer) (frame : Frame) :
    Reached start (earlier ++ [frame]) (viewer.showFrame frame).viewer := by
  have hworld := h.world_showFrame frame
  have hadvance := h.advance frame
  have hclock : (viewer.showFrame frame).viewer.clock =
      ⟨true, elapsed (earlier ++ [frame]) % 30 * nanosPerMilli⟩ := congrArg Prod.snd hadvance
  refine {
    world := ?world
    ticks := ?ticks
    config := ?config
    started := ?started
    carried := congrArg Clock.carried hclock
    held := ?held }
  case world => rw [hworld, commands_concat, World.run_append, h.world]
  case ticks =>
    have hle := Nat.div_le_div_right (c := 30) (elapsed_le_concat earlier frame)
    rw [commands_concat, List.count_append, h.ticks, count_tick_commandsOf, tickCount]
    omega
  case config =>
    -- The assignments come first, and no other command of the frame changes the settings.
    rw [hworld, commandsOf, World.run_cons]
    refine (World.config_run _ ?_).trans rfl
    intro config hmem
    split at hmem <;> split at hmem <;> simp_all
  case started =>
    rw [hclock]
    simp
  case held =>
    intro key
    refine (Keyboard.mem_held_nextFrame ..).trans ?_
    rw [h.held, holds_concat]

theorem told (h : Reached start earlier viewer) (frame : Frame) :
    Told start earlier frame (viewer.showFrame frame) :=
  ⟨h.next frame, h.isJustPressed frame, h.isJustPressed frame .escape⟩

end Reached

/-!
## All frames
-/

/-- The viewer after frames. -/
def after (viewer : Viewer) (frames : List Frame) : Viewer :=
  match (viewer.showFrames frames).getLast? with
  | some report => report.viewer
  | none => viewer

theorem after_cons (viewer : Viewer) (frame : Frame) (later : List Frame) :
    viewer.after (frame :: later) =
      if (viewer.showFrame frame).ended then (viewer.showFrame frame).viewer
      else (viewer.showFrame frame).viewer.after later := by
  unfold after
  rw [showFrames, List.getLast?_cons]
  by_cases hended : (viewer.showFrame frame).ended = true
  · rw [if_pos hended, if_pos hended]
    rfl
  · rw [if_neg hended, if_neg hended]
    cases ((viewer.showFrame frame).viewer.showFrames later).getLast? <;> rfl

/-- What a viewer has become after all frames that are shown. -/
theorem Reached.after (h : Reached start earlier viewer) (frames : List Frame) :
    Reached start (earlier ++ shownFrom earlier frames) (viewer.after frames) := by
  induction frames generalizing earlier viewer with
  | nil => rwa [shownFrom, List.append_nil]
  | cons frame later ih =>
      have htold := h.told frame
      rw [after_cons, shownFrom, htold.ended]
      split
      · exact htold.reached
      · rw [List.append_cons]
        exact ih htold.reached

/-- There is a report for each frame that is shown. -/
theorem Reached.length_showFrames (h : Reached start earlier viewer) (frames : List Frame) :
    (viewer.showFrames frames).length = (shownFrom earlier frames).length := by
  induction frames generalizing earlier viewer with
  | nil => rfl
  | cons frame later ih =>
      have htold := h.told frame
      rw [showFrames, shownFrom, List.length_cons, List.length_cons, htold.ended]
      split
      · rfl
      · rw [ih htold.reached]

/-- Each report tells of its frame. -/
theorem Reached.told_showFrames (h : Reached start earlier viewer)
    {frames before later : List Frame} {frame : Frame}
    (hsplit : shownFrom earlier frames = before ++ frame :: later) :
    ∃ report, (viewer.showFrames frames)[before.length]? = some report ∧
      Told start (earlier ++ before) frame report := by
  induction frames generalizing earlier viewer before with
  | nil => simp [shownFrom] at hsplit
  | cons first others ih =>
      have htold := h.told first
      rw [shownFrom] at hsplit
      cases before with
      | nil =>
          obtain ⟨rfl, -⟩ := List.cons.inj hsplit
          exact ⟨_, rfl, by rwa [List.append_nil]⟩
      | cons next before =>
          obtain ⟨rfl, hothers⟩ := List.cons.inj hsplit
          rw [showFrames, htold.ended]
          split at hothers
          · simp at hothers
          · next hstruck =>
              rw [if_neg hstruck, List.append_cons]
              exact ih htold.reached hothers

/-- Drawing changes nothing. -/
theorem showFrames_undrawn (viewer : Viewer) (picture : Frame → Option Picture)
    (frames : List Frame) :
    (viewer.showFrames (frames.map fun frame => { frame with picture := picture frame })).map
        FrameReport.viewer = (viewer.showFrames frames).map FrameReport.viewer := by
  induction frames generalizing viewer with
  | nil => rfl
  | cons frame later ih =>
      have hended : (viewer.showFrame { frame with picture := picture frame }).ended =
          (viewer.showFrame frame).ended := rfl
      rw [List.map_cons, showFrames, showFrames, hended, List.map_cons, List.map_cons]
      split
      · rfl
      · exact congrArg _ (ih (viewer.showFrame frame).viewer)

/-- What a session does to its world. -/
structure Plays (start : World) (frames : List Frame) : Prop where
  /-- The session ends with the frames shown, and what it leaves is what their commands
  leave. -/
  final : Reached start (shown frames) (after { world := start } frames)
  reports : (showFrames { world := start } frames).length = (shown frames).length
  told : ∀ before frame later, shown frames = before ++ frame :: later →
    ∃ report, (showFrames { world := start } frames)[before.length]? = some report ∧
      Told start before frame report
  /-- A key acts once in a frame if it is struck there, and else not at all. -/
  once : ∀ before frame later, shown frames = before ++ frame :: later →
    (commandsOf start.config before frame).count .toggleSignals =
        (strikes before frame .space).toNat ∧
      (commandsOf start.config before frame).count .spawnWave =
        (strikes before frame .enter).toNat
  /-- A key that is kept down is not struck again, however often it is pressed. -/
  kept : ∀ before frame between next later key,
    frames = before ++ frame :: between ++ next :: later → key ∈ frame.pressed →
      (∀ kept ∈ between, key ∉ kept.released) → key ∉ next.released →
      strikes (before ++ frame :: between) next key = false
  /-- How the time is cut into frames is of no account. -/
  cut : ∀ others, elapsed (shown others) = elapsed (shown frames) →
    (commands start.config (shown others)).count .tick =
      (commands start.config (shown frames)).count .tick
  undrawn : ∀ picture : Frame → Option Picture,
    (showFrames { world := start }
        (frames.map fun frame => { frame with picture := picture frame })).map FrameReport.viewer =
      (showFrames { world := start } frames).map FrameReport.viewer

/-- **A session is a run of its world**, whatever the world and the frames. -/
theorem session_run (start : World) (frames : List Frame) : Plays start frames := by
  have hnil := Reached.nil start
  refine {
    final := hnil.after frames
    reports := hnil.length_showFrames frames
    told := fun before frame later hsplit => hnil.told_showFrames hsplit
    once := fun _ _ _ _ => ⟨count_toggleSignals_commandsOf, count_spawnWave_commandsOf⟩
    kept := ?_
    cut := ?_
    undrawn := fun picture => showFrames_undrawn _ picture frames }
  · intro before frame between next later key _ hpressed hbetween hnext
    have hheld : holds (before ++ frame :: between) key = true := by
      rw [List.append_cons]
      exact holds_of_kept (holds_concat.mpr (.inl hpressed)) hbetween
    refine Bool.eq_false_iff.mpr fun hstruck => ?_
    exact (strikes_iff.mp hstruck).2 ⟨hheld, hnext⟩
  · intro others htime
    have hfirst : Reached start (shown others) _ := hnil.after others
    have hsecond : Reached start (shown frames) _ := hnil.after frames
    rw [hfirst.ticks, hsecond.ticks, htime]

end Viewer

end RoadTraffic
