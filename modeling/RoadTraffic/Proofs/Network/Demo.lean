import RoadTraffic.Proofs.World.Runs
import RoadTraffic.Proofs.World.Signals
import RoadTraffic.World.Setup

/-!
# The demonstration network is accepted

The settings enter the demonstration network by the road width alone.  With the width that
settings have when none is asked for, the network is fit for traffic (`Demo.network_eq`):
cars enter on two roads, no road is a dead end, and all signals show proceed.
-/

namespace RoadTraffic.Demo

/-- The demonstration network for roads of the usual width. -/
def built : Network := (Plan.ofDeclarations (declarations {})).network

theorem declarations_eq {config : Config} (h : config.roadWidth = 16) :
    declarations config = declarations {} := by
  unfold declarations rows
  rw [h]

/-- **The demonstration network is accepted.** -/
theorem network_eq {config : Config} (h : config.roadWidth = 16) : network config = .ok built := by
  rw [network, declarations_eq h]
  exact World.build_of_isOk (by decide +kernel)

theorem length_roads : built.roads.length = 34 := by decide +kernel

theorem entryPoints : built.entryPoints = [⟨0⟩, ⟨11⟩] := by decide +kernel

theorem noDeadEnds : ∀ road ∈ built.roads, road.successors ≠ [] := by decide +kernel

theorem allShow_proceed : built.AllShow .proceed := by
  unfold Network.AllShow
  decide +kernel

/-- A new world of the demonstration network. -/
def world (config : Config) (draws : Draws) : World := { network := built, config, draws }

theorem create_eq {config : Config} (h : config.check = .ok ()) (draws : Draws) :
    World.create built config draws = .ok (world config draws) := by
  rw [World.create, h]
  rfl

variable {config : Config}

theorem fresh_world (hwidth : config.roadWidth = 16) (hcheck : config.check = .ok ())
    (draws : Draws) : (world config draws).Fresh :=
  ⟨_, _, _, _, network_eq hwidth, create_eq hcheck draws⟩

/-- A new world of the demonstration network is made. -/
theorem setUp_eq (hwidth : config.roadWidth = 16) (hcheck : config.check = .ok ())
    (draws : Draws) :
    World.setUp .demo config draws = (built.builtEvents, .ok (world config draws)) := by
  simp only [World.setUp, Layout.build, network_eq hwidth, create_eq hcheck, Except.mapError]

end RoadTraffic.Demo
