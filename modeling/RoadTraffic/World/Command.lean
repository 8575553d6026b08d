import RoadTraffic.World.Tick

/-!
# Commands

Everything that can be done to a world, as data.  A run is a list of commands,
obeyed one after the other; what can be said of every run is said of every list.

The signals can also be worked past the world, directly on its network.  Then
toggling is neither counted nor told.
-/

namespace RoadTraffic

/-- Something that can be done to the network of a world. -/
inductive NetworkCommand where
  | toggleSignals
  | setSignal (road : RoadId) (signal : Signal)
deriving DecidableEq

/-- Something that can be done to a world. -/
inductive Command where
  | tick
  | spawn (length : Float32) (road : RoadId)
  | spawnWave
  | toggleSignals
  | setSignal (road : RoadId) (signal : Signal)
  | configure (config : Config)
  | network (command : NetworkCommand)
deriving DecidableEq

/-- What a command has brought about, besides the world it leaves. -/
inductive Reply where
  | done
  | spawned (result : Except SpawnError CarId)
  | wave (result : Except SpawnError (List CarId))
  | signalSet (result : Except UnknownRoad Unit)

namespace World

/-- Obeys a command given to the network. -/
def obeyNetwork (world : World) : NetworkCommand → Outcome Reply
  | .toggleSignals => ⟨{ world with network := world.network.toggleSignals }, [], .done⟩
  | .setSignal road signal =>
    let set := world.setSignal road signal
    ⟨set.world, set.events, .signalSet set.result⟩

/-- Obeys a command. -/
def obey (world : World) : Command → Outcome Reply
  | .tick =>
    let (world, events) := world.tick
    ⟨world, events, .done⟩
  | .spawn length road =>
    let spawned := world.spawn length road
    ⟨spawned.world, spawned.events, .spawned spawned.result⟩
  | .spawnWave =>
    let wave := world.spawnWave
    ⟨wave.world, wave.events, .wave wave.result⟩
  | .toggleSignals =>
    let (world, events) := world.toggleSignals
    ⟨world, events, .done⟩
  | .setSignal road signal =>
    let set := world.setSignal road signal
    ⟨set.world, set.events, .signalSet set.result⟩
  | .configure config => ⟨{ world with config }, [], .done⟩
  | .network command => world.obeyNetwork command

/-- The world after a run. -/
def run (world : World) (commands : List Command) : World :=
  commands.foldl (fun w command => (w.obey command).world) world

@[simp] theorem run_nil (world : World) : world.run [] = world := rfl

@[simp] theorem run_cons (world : World) (command : Command) (commands : List Command) :
    world.run (command :: commands) = (world.obey command).world.run commands := rfl

theorem run_append (world : World) (first second : List Command) :
    world.run (first ++ second) = (world.run first).run second := by
  simp [run, List.foldl_append]

end World

end RoadTraffic
