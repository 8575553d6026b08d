import RoadTraffic.Proofs.World.Runs

/-!
# What works the signals

Cars pass by the signals without touching them: no tick and no new car changes one.  What a
command makes of the signal of a road (`Command.work`) depends on nothing but the command:

    set, on that road      the signal that is set
    toggle                 the other signal
    anything else          the signal that was

(`World.signals_obey`).  What is done to all signals at once keeps them in step.  So if all
roads show the same signal, then after any run that works no signal by itself they still do,
and the number of toggles says which (`Network.AllShow.run`).
-/

namespace RoadTraffic

/-- Do all roads show that signal? -/
def Network.AllShow (network : Network) (signal : Signal) : Prop :=
  ∀ road ∈ network.roads, road.signal = signal

/-- The signal after a number of toggles. -/
def Signal.after (signal : Signal) (count : Nat) : Signal :=
  if count % 2 = 1 then signal.toggled else signal

theorem Signal.after_succ (signal : Signal) (count : Nat) :
    signal.after (count + 1) = signal.toggled.after count := by
  unfold after
  rw [toggled_toggled]
  split <;> split <;> first | rfl | omega

namespace Command

/-- The signal that a command sets on a road, if there is such a road. -/
def sets (id : RoadId) : Command → Option Signal
  | .setSignal road signal | .network (.setSignal road signal) =>
    if road = id then some signal else none
  | _ => none

/-- Does a command flip all signals? -/
def toggles : Command → Bool
  | .toggleSignals | .network .toggleSignals => true
  | _ => false

/-- Does a command leave each signal in step with the others? -/
def keepsStep : Command → Bool
  | .setSignal _ _ | .network _ => false
  | _ => true

/-- What a command makes of the signal of a road. -/
def work (command : Command) (id : RoadId) (signal : Signal) : Signal :=
  match command.sets id with
  | some set => set
  | none => if command.toggles then signal.toggled else signal

theorem work_of_sets_eq_some {command : Command} {id : RoadId} {set : Signal}
    (h : command.sets id = some set) (signal : Signal) : command.work id signal = set := by
  rw [work, h]

theorem work_of_sets_eq_none {command : Command} {id : RoadId} (h : command.sets id = none)
    (signal : Signal) :
    command.work id signal = if command.toggles then signal.toggled else signal := by
  rw [work, h]

/-- A toggle sets no signal of its own accord. -/
theorem sets_of_toggles {command : Command} (h : command.toggles = true) (id : RoadId) :
    command.sets id = none := by
  cases command with
  | toggleSignals => rfl
  | network command =>
      cases command with
      | toggleSignals => rfl
      | setSignal road signal => exact nomatch h
  | _ => exact nomatch h

theorem sets_of_keepsStep {command : Command} (h : command.keepsStep = true) (id : RoadId) :
    command.sets id = none := by
  cases command with
  | setSignal road signal => exact nomatch h
  | network command => exact nomatch h
  | _ => rfl

theorem toggles_of_keepsStep {command : Command} (h : command.keepsStep = true) :
    command.toggles = true ↔ command = .toggleSignals := by
  cases command with
  | network command => exact nomatch h
  | _ => simp [toggles]

end Command

namespace World

/-- The signals of all roads, by road. -/
def signals (world : World) : List Signal := world.network.roads.map Road.signal

theorem ignoresCars_signals : IgnoresCars signals :=
  ⟨fun _ _ _ _ => rfl, fun _ road _ => Network.map_modifyRoad road fun _ => rfl⟩

theorem signals_tick (world : World) : world.tick.1.signals = world.signals := by
  refine (ignoresCars_signals.handOffAll world.advanceRoads.1 _).trans ?_
  have hadvance := @Network.advance_eq world.network world.config.followingDistance
  simp only [signals, advanceRoads, hadvance, List.map_map]
  rfl

theorem length_signals (world : World) : world.signals.length = world.network.roads.length :=
  List.length_map _

/-- A signal that is set on a road that does not exist is set nowhere. -/
theorem signals_setSignal (world : World) (road : RoadId) (signal : Signal) (index : Nat) :
    (world.setSignal road signal).world.signals[index]? =
      world.signals[index]?.map fun old => if road = ⟨index⟩ then signal else old := by
  have hroad : road = ⟨index⟩ ↔ road.index = index :=
    ⟨fun h => h ▸ rfl, fun h => h ▸ rfl⟩
  unfold setSignal Network.setSignal
  cases hhas : world.network.has road with
  | true =>
      simp only [signals, Network.modifyRoad, if_pos, List.getElem?_map, List.getElem?_modify, hroad]
      cases world.network.roads[index]? with
      | none => rfl
      | some old => by_cases hindex : road.index = index <;> simp [hindex, Road.setSignal]
  | false =>
      have hout : world.network.roads.length ≤ road.index :=
        Nat.le_of_not_lt (of_decide_eq_false hhas)
      simp only [Bool.false_eq_true, if_false, hroad]
      by_cases hindex : road.index = index
      · have hnone : world.signals[index]? = none :=
          List.getElem?_eq_none (hindex ▸ world.length_signals ▸ hout)
        rw [hnone]
        rfl
      · simp only [if_neg hindex, Option.map_id']

/-- **One command** works on each signal by itself, and by nothing else in the world. -/
theorem signals_obey (world : World) (command : Command) (index : Nat) :
    (world.obey command).world.signals[index]? =
      world.signals[index]?.map (command.work ⟨index⟩) := by
  have hquiet : ∀ {next : World}, next.signals = world.signals →
      command.work ⟨index⟩ = id → next.signals[index]? =
        world.signals[index]?.map (command.work ⟨index⟩) := by
    intro next hsame hwork
    rw [hsame, hwork, Option.map_id_fun]
    rfl
  have htoggle : (world.network.toggleSignals.roads.map Road.signal)[index]? =
      world.signals[index]?.map Signal.toggled := by
    simp only [signals, Network.toggleSignals, List.getElem?_map, Option.map_map]
    rfl
  have hset : ∀ road signal, command.sets ⟨index⟩ = (if road = ⟨index⟩ then some signal else none) →
      command.toggles = false → (world.setSignal road signal).world.signals[index]? =
        world.signals[index]?.map (command.work ⟨index⟩) := by
    intro road signal hsets htoggles
    rw [signals_setSignal]
    congr 1
    funext old
    rw [Command.work, hsets, htoggles]
    split <;> rfl
  cases command with
  | tick => exact hquiet world.signals_tick rfl
  | spawn length road => exact hquiet (ignoresCars_signals.spawn world length road) rfl
  | spawnWave => exact hquiet (ignoresCars_signals.spawnEach world _ _) rfl
  | configure config => exact hquiet rfl rfl
  | toggleSignals => exact htoggle
  | setSignal road signal => exact hset road signal rfl rfl
  | network command =>
      cases command with
      | toggleSignals => exact htoggle
      | setSignal road signal => exact hset road signal rfl rfl

end World

namespace Network.AllShow

variable {world : World} {signal : Signal}

/-- **In step, one command.** -/
theorem obey (h : world.network.AllShow signal) {command : Command}
    (hkeeps : command.keepsStep = true) : (world.obey command).world.network.AllShow
      (if command.toggles then signal.toggled else signal) := by
  intro road hroad
  obtain ⟨index, hindex⟩ := List.mem_iff_getElem?.mp hroad
  have hafter : (world.obey command).world.signals[index]? = some road.signal := by
    rw [World.signals, List.getElem?_map, hindex]
    rfl
  rw [World.signals_obey] at hafter
  obtain ⟨old, hbefore, hwork⟩ := Option.map_eq_some_iff.mp hafter
  obtain ⟨before, hmem, rfl⟩ := List.mem_map.mp (List.mem_of_getElem? hbefore)
  rw [← hwork, h before hmem, Command.work_of_sets_eq_none (Command.sets_of_keepsStep hkeeps _)]

/-- **In step.** -/
theorem run (h : world.network.AllShow signal) {commands : List Command}
    (hkeeps : ∀ command ∈ commands, command.keepsStep = true) :
    (world.run commands).network.AllShow (signal.after (commands.count .toggleSignals)) := by
  induction commands generalizing world signal with
  | nil => exact h
  | cons command commands ih =>
      obtain ⟨hfirst, hothers⟩ := List.forall_mem_cons.mp hkeeps
      have hlater := ih (h.obey hfirst) hothers
      by_cases htoggle : command = .toggleSignals
      · rw [if_pos ((Command.toggles_of_keepsStep hfirst).mpr htoggle)] at hlater
        rw [htoggle, List.count_cons_self, Signal.after_succ]
        exact htoggle ▸ hlater
      · rw [if_neg (mt (Command.toggles_of_keepsStep hfirst).mp htoggle)] at hlater
        rw [List.count_cons_of_ne htoggle]
        exact hlater

end Network.AllShow

end RoadTraffic
