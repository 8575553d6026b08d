import RoadTraffic.Network.Demo
import RoadTraffic.World.Command

/-!
# Making worlds

A world is made from a network and settings, and both are checked: the network first,
as it is built, then the settings.  What was built is told even when the settings are
refused afterwards.
-/

namespace RoadTraffic

/-- Why no world was made. -/
inductive SetupError where
  | network (reason : PlanError)
  | demoNetwork (reason : PlanError)
  | config (reason : ConfigError)
deriving DecidableEq

/-- What is wrong, outermost text first. -/
def SetupError.chain : SetupError → List String
  | network reason => reason.chain
  | demoNetwork reason => "Failed to build demo network" :: reason.chain
  | config reason => "Invalid simulation config" :: reason.chain

/-- The network of a new world. -/
inductive Layout where
  | demo
  | declared (declarations : List Declaration)

namespace Layout

/-- Builds the network. -/
def build (layout : Layout) (config : Config) : Except SetupError Network :=
  match layout with
  | demo => (Demo.network config).mapError .demoNetwork
  | declared declarations => (Network.ofDeclarations declarations).mapError .network

end Layout

/-- What is told of a network that has been built. -/
def Network.builtEvents (network : Network) : List Event :=
  let built := .networkBuilt network.roads.length network.connectionCount
    network.entryPoints.length
  if network.deadEndCount = 0 then [built] else [.deadEnds network.deadEndCount, built]

namespace World

/-- Makes a world from nothing, with the events up to its completion or failure. -/
def setUp (layout : Layout) (config : Config) (draws : Draws) :
    List Event × Except SetupError World :=
  match layout.build config with
  | .error reason => ([], .error reason)
  | .ok network => (network.builtEvents, (create network config draws).mapError .config)

end World

end RoadTraffic
