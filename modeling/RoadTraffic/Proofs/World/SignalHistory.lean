import RoadTraffic.Proofs.World.Signals

/-!
# The history of a signal

Signals are worked one by one and all at once, through the world and on its network, and
between that traffic goes by.  Each command works on a signal by itself (`Command.work`), so
the signal of a road is due by the history alone (`Signal.due`): it is as it was last set,
toggled as often as all signals were since.  This holds of every road at every point of a
run, also of a network that was worked before it was given to a world
(`signalsFollow_run`).
-/

namespace RoadTraffic

/-- A command that flips no signals, and sets none of a road that there is. -/
def Command.Quiet (network : Network) (command : Command) : Prop :=
  command.toggles = false ∧ ∀ id, network.has id = true → command.sets id = none

namespace Signal

/-- The signal that is due on a road: as it was last set, or open if it never was, and
toggled as often as all signals were since. -/
def due (id : RoadId) (history : List Command) : Signal :=
  let set := (history.filterMap (Command.sets id)).getLast?.getD .proceed
  let since := history.rtakeWhile fun command => (command.sets id).isNone
  set.after (since.countP Command.toggles)

theorem toggled_after (signal : Signal) (count : Nat) :
    signal.after (count + 1) = (signal.after count).toggled := by
  rw [after_succ, after, after]
  split <;> rfl

@[simp] theorem due_nil (id : RoadId) : due id [] = .proceed := rfl

/-- Each command works on the signal that was due before it. -/
theorem due_concat (id : RoadId) (history : List Command) (command : Command) :
    due id (history ++ [command]) = command.work id (due id history) := by
  unfold due
  rw [List.filterMap_append, List.rtakeWhile_concat]
  cases hsets : command.sets id with
  | some set =>
      rw [Command.work_of_sets_eq_some hsets]
      simp [hsets, after]
  | none =>
      rw [Command.work_of_sets_eq_none hsets]
      cases htoggles : command.toggles with
      | true => simp [hsets, htoggles, List.countP_append, toggled_after]
      | false => simp [hsets, htoggles, List.countP_append]

end Signal

namespace World

variable {world : World}

/-!
## One command
-/

theorem signals_of_toggles {command : Command} (h : command.toggles = true) (world : World) :
    (world.obey command).world.signals = world.signals.map Signal.toggled := by
  refine List.ext_getElem? fun index => ?_
  rw [signals_obey, List.getElem?_map]
  congr 1
  funext signal
  rw [Command.work_of_sets_eq_none (Command.sets_of_toggles h _), if_pos h]

theorem signals_of_quiet {command : Command} (h : command.Quiet world.network) :
    (world.obey command).world.signals = world.signals := by
  obtain ⟨htoggles, hsets⟩ := h
  refine List.ext_getElem? fun index => ?_
  rw [signals_obey]
  cases hsignal : world.signals[index]? with
  | none => rfl
  | some signal =>
      obtain ⟨hindex, -⟩ := List.getElem?_eq_some_iff.mp hsignal
      rw [length_signals] at hindex
      have hnone := hsets ⟨index⟩ (decide_eq_true hindex)
      rw [Option.map_some, Command.work_of_sets_eq_none hnone, htoggles]
      rfl

/-!
## Every run
-/

/-- Which roads there are does not change, and so a quiet command stays quiet. -/
theorem quiet_obey {command : Command} (h : command.Quiet world.network) (first : Command) :
    command.Quiet (world.obey first).world.network := by
  obtain ⟨htoggles, hsets⟩ := h
  refine ⟨htoggles, fun id hid => hsets id ?_⟩
  rw [← Network.has_eq_of_frame_eq (world.frame_obey first)]
  exact hid

theorem signals_run_of_quiet {commands : List Command}
    (h : ∀ command ∈ commands, command.Quiet world.network) :
    (world.run commands).signals = world.signals := by
  induction commands generalizing world with
  | nil => rfl
  | cons command commands ih =>
      obtain ⟨hfirst, hothers⟩ := List.forall_mem_cons.mp h
      have hlater := @ih (world.obey command).world fun later hmem =>
        quiet_obey (hothers later hmem) command
      rw [run_cons, hlater, signals_of_quiet hfirst]

/-- **The history of every signal**, from a world whose signals are all open. -/
theorem signals_run (h : world.network.AllShow .proceed) (commands : List Command) :
    (world.run commands).signals =
      (List.range world.network.roads.length).map fun index => Signal.due ⟨index⟩ commands := by
  induction commands using List.reverseRecOn with
  | nil =>
      refine List.ext_getElem (by simp [length_signals]) fun index hindex _ => ?_
      simp only [run_nil, signals, List.getElem_map, Signal.due_nil]
      exact h _ (List.getElem_mem _)
  | append_singleton commands command ih =>
      have hlast : world.run (commands ++ [command]) =
          ((world.run commands).obey command).world := world.run_append commands [command]
      refine List.ext_getElem? fun index => ?_
      rw [hlast, signals_obey, ih, List.getElem?_map, List.getElem?_map, Option.map_map]
      cases hindex : (List.range world.network.roads.length)[index]? with
      | none => rfl
      | some found =>
          obtain ⟨-, rfl⟩ := List.getElem?_eq_some_iff.mp hindex
          simp only [List.getElem_range, Option.map_some, Signal.due_concat, Function.comp_apply]

/-!
## How many roads show stop
-/

theorem stoppedCount_eq (world : World) : world.stoppedCount = world.signals.count .stop := by
  have hstopped : ∀ road : Road, road.isStopped = (road.signal == .stop) := by
    intro road
    unfold Road.isStopped
    cases road.signal <;> rfl
  rw [signals, List.count, List.countP_map]
  exact List.countP_congr fun road _ => by rw [hstopped, Function.comp_apply]

/-- A toggle stops the roads that were open, and opens those that were stopped. -/
theorem stoppedCount_of_toggles {command : Command} (h : command.toggles = true) (world : World) :
    (world.obey command).world.stoppedCount + world.stoppedCount = world.network.roads.length := by
  have hopened : (world.signals.map Signal.toggled).count .stop =
      world.signals.countP fun signal => ¬ (signal == .stop) = true := by
    rw [List.count, List.countP_map]
    refine List.countP_congr fun signal _ => ?_
    cases signal <;> simp [Signal.toggled]
  rw [stoppedCount_eq, stoppedCount_eq, signals_of_toggles h, hopened, Nat.add_comm,
    ← length_signals]
  exact (List.length_eq_countP_add_countP (· == Signal.stop)).symm

/-- Two toggles undo each other, whatever quiet commands come between them. -/
theorem signals_run_of_toggles {first second : Command} {between : List Command}
    (hfirst : first.toggles = true) (hsecond : second.toggles = true)
    (hbetween : ∀ command ∈ between, command.Quiet world.network) :
    (world.run (first :: between ++ [second])).signals = world.signals := by
  have hquiet : ∀ command ∈ between, command.Quiet (world.obey first).world.network :=
    fun command hcommand => quiet_obey (hbetween command hcommand) first
  have hlast : world.run (first :: between ++ [second]) =
      (((world.obey first).world.run between).obey second).world :=
    world.run_append (first :: between) [second]
  rw [hlast, signals_of_toggles hsecond, signals_run_of_quiet hquiet, signals_of_toggles hfirst,
    List.map_map]
  have hsame : Signal.toggled ∘ Signal.toggled = id := funext Signal.toggled_toggled
  rw [hsame, List.map_id]

end World

/-!
## The signals follow the history
-/

/-- What a command does to a network, also to one that is in no world. -/
def Network.work (network : Network) : NetworkCommand → Network
  | .toggleSignals => network.toggleSignals
  | .setSignal road signal =>
    match network.setSignal road signal with
    | .ok set => set
    | .error _ => network

namespace World

theorem network_run_network (world : World) (commands : List NetworkCommand) :
    world.run (commands.map .network) =
      { world with network := commands.foldl Network.work world.network } := by
  induction commands generalizing world with
  | nil => rfl
  | cons command commands ih =>
      have hfirst : (world.obey (.network command)).world =
          { world with network := world.network.work command } := by
        cases command with
        | toggleSignals => rfl
        | setSignal road signal =>
            simp only [obey, obeyNetwork, setSignal, Network.work]
            cases world.network.setSignal road signal <;> rfl
      rw [List.map_cons, run_cons, hfirst, ih]
      rfl

/-- The signals of a world are those due by a history, and stay so. -/
structure SignalsFollow (world : World) (history : List Command) : Prop where
  signal : ∀ id road, world.network.road? id = some road → road.signal = Signal.due id history
  /-- A signal is set on every road that exists, and refused on all others. -/
  set : ∀ command id signal, command.sets id = some signal →
    (world.obey command).result =
      .signalSet (if world.network.has id = true then .ok () else .error ⟨id⟩)
  /-- Ticks, new cars, settings and refused signals change no signal. -/
  quiet : ∀ command : Command, command.Quiet world.network →
    (world.obey command).world.signals = world.signals
  stopped : world.stoppedCount = (List.range world.network.roads.length).countP
    fun index => Signal.due ⟨index⟩ history = .stop
  toggle : ∀ command : Command, command.toggles = true →
    (world.obey command).world.stoppedCount + world.stoppedCount = world.network.roads.length
  restored : ∀ (first second : Command) (between : List Command), first.toggles = true →
    second.toggles = true → (∀ command ∈ between, command.Quiet world.network) →
    (world.run (first :: between ++ [second])).signals = world.signals

theorem result_of_sets (world : World) {command : Command} {id : RoadId} {signal : Signal}
    (h : command.sets id = some signal) : (world.obey command).result =
      .signalSet (if world.network.has id = true then .ok () else .error ⟨id⟩) := by
  have hset : ∀ road set, (if road = id then some set else none) = some signal →
      (world.setSignal road set).result =
        if world.network.has id = true then .ok () else .error ⟨id⟩ := by
    intro road set hroad
    obtain ⟨rfl, -⟩ := (Option.ite_none_right_eq_some).mp hroad
    unfold setSignal Network.setSignal
    cases world.network.has road <;> rfl
  cases command with
  | setSignal road set => exact congrArg Reply.signalSet (hset road set h)
  | network command =>
      cases command with
      | toggleSignals => exact nomatch h
      | setSignal road set => exact congrArg Reply.signalSet (hset road set h)
  | _ => exact nomatch h

theorem signalsFollow_of_open {opened : World} (h : opened.network.AllShow .proceed)
    (history : List Command) : (opened.run history).SignalsFollow history := by
  have hsignals := signals_run h history
  have hlength : opened.network.roads.length = (opened.run history).network.roads.length :=
    (Network.length_eq_of_frame_eq (opened.frame_run history)).symm
  rw [hlength] at hsignals
  refine {
    signal := ?_
    set := fun _ _ _ => result_of_sets _
    quiet := fun _ => signals_of_quiet
    stopped := ?_
    toggle := fun _ htoggles => stoppedCount_of_toggles htoggles _
    restored := fun _ _ _ => signals_run_of_toggles }
  · intro id road hroad
    have hsignal : (opened.run history).signals[id.index]? = some road.signal := by
      rw [signals, List.getElem?_map]
      exact congrArg (Option.map Road.signal) hroad
    rw [hsignals, List.getElem?_map] at hsignal
    obtain ⟨index, hindex, hdue⟩ := Option.map_eq_some_iff.mp hsignal
    obtain ⟨hlt, hrange⟩ := List.getElem?_eq_some_iff.mp hindex
    rw [List.getElem_range] at hrange
    subst hrange
    exact hdue.symm
  · rw [stoppedCount_eq, hsignals, List.count, List.countP_map]
    refine List.countP_congr fun index _ => ?_
    simp

/-- In a network that has just been built all signals are open. -/
theorem allShow_proceed_of_ofDeclarations {declarations : List Declaration} {built : Network}
    (h : Network.ofDeclarations declarations = .ok built) : built.AllShow .proceed := by
  obtain ⟨-, hroads, -⟩ := Network.ofDeclarations_eq_ok_iff.mp h
  intro road hroad
  rw [hroads] at hroad
  obtain ⟨index, hindex, rfl⟩ := List.mem_mapIdx.mp hroad
  rfl

/-- **Signals follow their history**, at every point of every run, in a world made from a
network that was worked before. -/
theorem signalsFollow_run {declarations : List Declaration} {built : Network}
    {early : List NetworkCommand} {config : Config} {draws : Draws} {start : World}
    (hbuilt : Network.ofDeclarations declarations = .ok built)
    (hstart : create (early.foldl Network.work built) config draws = .ok start)
    (commands : List Command) :
    (start.run commands).SignalsFollow (early.map .network ++ commands) := by
  have hearly : start = World.run { network := built, config, draws } (early.map .network) := by
    rw [network_run_network]
    exact eq_of_create hstart
  rw [hearly, ← run_append]
  exact signalsFollow_of_open (allShow_proceed_of_ofDeclarations hbuilt) _

/-- The fork, worked before it was given to a world, and signals of each kind since: set last
by the network, toggled twice, and toggled once. -/
theorem signalsFollow_run_fork :
    let early := [.setSignal ⟨1⟩ .stop, .setSignal ⟨7⟩ .stop, .toggleSignals]
    let commands := [.spawnWave, .setSignal ⟨2⟩ .stop, .tick, .setSignal ⟨9⟩ .stop,
      .toggleSignals, .tick, .network (.setSignal ⟨0⟩ .stop)]
    let start : World := { fork with network := early.foldl Network.work fork.network }
    (Network.ofDeclarations forkDeclarations = .ok fork.network ∧
      create (early.foldl Network.work fork.network) {} fork.draws = .ok start ∧
      (start.run commands).signals = [.stop, .stop, .proceed]) ∧
    (start.run commands).SignalsFollow (early.map .network ++ commands) := by
  intro early commands start
  have hstart := create_default (early.foldl Network.work fork.network) fork.draws
  exact ⟨⟨build_fork, hstart, by decide +kernel⟩, signalsFollow_run build_fork hstart commands⟩

end World

end RoadTraffic
