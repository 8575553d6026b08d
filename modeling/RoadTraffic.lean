import RoadTraffic.Main
import RoadTraffic.Proofs.Number.Rounding
import RoadTraffic.Road.History
import RoadTraffic.Viewer.Session
import RoadTraffic.Proofs.Number.Arithmetic
import RoadTraffic.Proofs.Checks
import RoadTraffic.Proofs.Road.Fit
import RoadTraffic.Proofs.Road.Parting
import RoadTraffic.Proofs.Road.QueueOrder
import RoadTraffic.Proofs.Network.Acceptance
import RoadTraffic.Proofs.Network.Frame
import RoadTraffic.Proofs.World.Runs
import RoadTraffic.Proofs.World.Routing
import RoadTraffic.Proofs.World.Conservation
import RoadTraffic.Proofs.World.Accounting
import RoadTraffic.Proofs.World.Queues
import RoadTraffic.Proofs.World.Departures
import RoadTraffic.Proofs.World.Halting
import RoadTraffic.Proofs.Network.Graph
import RoadTraffic.Proofs.World.Trails
import RoadTraffic.Proofs.Road.Opening
import RoadTraffic.Proofs.Road.Transit
import RoadTraffic.Proofs.World.Transit
import RoadTraffic.Proofs.Number.Bounds
import RoadTraffic.Proofs.Road.Strides
import RoadTraffic.Proofs.World.Strides
import RoadTraffic.Proofs.World.Ranges
import RoadTraffic.Proofs.World.Poses
import RoadTraffic.Proofs.Number.Error
import RoadTraffic.Proofs.Road.Resting
import RoadTraffic.Proofs.World.Resting
import RoadTraffic.Proofs.Number.Magnitudes
import RoadTraffic.Proofs.Number.Angles
import RoadTraffic.Proofs.Road.Finite
import RoadTraffic.Proofs.World.Finite
import RoadTraffic.Proofs.World.Waves
import RoadTraffic.Proofs.World.Counters
import RoadTraffic.Proofs.World.Permanence
import RoadTraffic.Proofs.World.Signals
import RoadTraffic.Proofs.Viewer.Frames
import RoadTraffic.Proofs.Network.Demo
import RoadTraffic.Proofs.Headless.Schedule
import RoadTraffic.Proofs.Headless.Accounts
import RoadTraffic.Proofs.World.Coupling
import RoadTraffic.Proofs.World.ArcSignals
import RoadTraffic.Proofs.World.Chance
import RoadTraffic.Proofs.Network.Widths
import RoadTraffic.Proofs.Road.InStep
import RoadTraffic.Proofs.World.Widths
import RoadTraffic.Proofs.World.SignalHistory
import RoadTraffic.Proofs.Road.Outcomes
import RoadTraffic.Proofs.Road.Watching
import RoadTraffic.Proofs.Road.Waiting
import RoadTraffic.Proofs.World.AllOrNothing
import RoadTraffic.Proofs.World.Waiting
import RoadTraffic.Proofs.Network.Rearranging
import RoadTraffic.Proofs.Terminal.Map
import RoadTraffic.Proofs.Number.Growth
import RoadTraffic.Proofs.Road.Arriving
import RoadTraffic.Proofs.World.Leaving
import RoadTraffic.Proofs.Road.Sweeping
import RoadTraffic.Proofs.World.Sweeping
