import RoadTraffic.Network.Basic

/-!
# Plans of networks

A network is declared piece by piece: roads, which are numbered as they come,
successor lists, and entry points.  The declarations may come in any order, and may
name roads that are only declared later.  A later successor list for the same road
replaces the earlier one, and a repeated entry point counts once.

A plan collects the declarations, and `Plan.build` accepts or refuses it as a
whole.  The checks are made in this order, and the first that fails is reported:

* there is a road;
* each road, by identity, has a fit course and a fit speed;
* each successor list, by the identity of its road, belongs to a road and names
  roads only;
* there is an entry point;
* each entry point, in the order of declaration, is a road;
* every road can be reached from an entry point.
-/

namespace RoadTraffic

/-- One declaration of a plan. -/
inductive Declaration where
  | road (course : Course) (speed : Float32)
  | connect (road : RoadId) (successors : List RoadId)
  | entry (road : RoadId)
deriving DecidableEq

/-- Why a plan is refused. -/
inductive PlanError where
  | noRoads
  | road (reason : RoadError)
  | unknownSource (road : RoadId)
  | unknownSuccessor (road successor : RoadId)
  | noEntryPoints
  | unknownEntryPoint (road : RoadId)
  | unreachable (roads : List RoadId)
deriving DecidableEq

/-- What is wrong, outermost text first. -/
def PlanError.chain : PlanError → List String
  | noRoads => ["Road network has no roads"]
  | road reason => reason.chain
  | unknownSource source => ["Successor list given for unknown road " ++ source.text]
  | unknownSuccessor source target =>
    ["Road " ++ source.text ++ " lists unknown successor " ++ target.text]
  | noEntryPoints => ["Road network has no entry points"]
  | unknownEntryPoint entry => ["Entry point " ++ entry.text ++ " is not a road in the network"]
  | unreachable roads =>
    ["Roads " ++ RoadId.listText roads ++ " cannot be reached from any entry point"]

/-- Successor lists by road, in ascending order of the roads' identities, at most
one for each. -/
abbrev SuccessorTable := List (RoadId × List RoadId)

namespace SuccessorTable

/-- Sets the list of one road. -/
def insert (road : RoadId) (successors : List RoadId) : SuccessorTable → SuccessorTable
  | [] => [(road, successors)]
  | row :: rows =>
    if road.index < row.1.index then (road, successors) :: row :: rows
    else if road = row.1 then (road, successors) :: rows
    else row :: insert road successors rows

/-- The list of one road; a road that was not connected has no successors. -/
def get (table : SuccessorTable) (road : RoadId) : List RoadId :=
  (table.lookup road).getD []

end SuccessorTable

/-- The declarations of a network so far. -/
structure Plan where
  /-- The roads, in the order of declaration and without their successors. -/
  roads : List Road := []
  connections : SuccessorTable := []
  /-- The entry points, in the order of declaration, none twice. -/
  entryPoints : List RoadId := []

namespace Plan

/-- The plan with a road more; its identity is the number of roads before it. -/
def addRoad (plan : Plan) (course : Course) (speed : Float32) : Plan :=
  { plan with roads := plan.roads ++ [{ id := ⟨plan.roads.length⟩, course, speed }] }

/-- The plan with the successors of a road set. -/
def connect (plan : Plan) (road : RoadId) (successors : List RoadId) : Plan :=
  { plan with connections := plan.connections.insert road successors }

/-- The plan with an entry point more. -/
def addEntryPoint (plan : Plan) (road : RoadId) : Plan :=
  if road ∈ plan.entryPoints then plan
  else { plan with entryPoints := plan.entryPoints ++ [road] }

/-- The plan with a declaration more. -/
def declare (plan : Plan) : Declaration → Plan
  | .road course speed => plan.addRoad course speed
  | .connect road successors => plan.connect road successors
  | .entry road => plan.addEntryPoint road

/-- The plan of a list of declarations. -/
def ofDeclarations (declarations : List Declaration) : Plan :=
  declarations.foldl declare {}

/-- Is a road of that identity declared? -/
def has (plan : Plan) (road : RoadId) : Bool := road.index < plan.roads.length

/-- The planned network, fit for traffic or not. -/
def network (plan : Plan) : Network where
  roads := plan.roads.map fun road => { road with successors := plan.connections.get road.id }
  entryPoints := plan.entryPoints

/-- The roads that cannot be reached from any entry point. -/
def unreachable (plan : Plan) : List RoadId :=
  let reached := plan.network.reachedFrom plan.entryPoints
  (plan.roads.map Road.id).filter (· ∉ reached)

/-- Refuses a successor list for a road that is not declared, or with one in it. -/
def checkConnection (plan : Plan) (row : RoadId × List RoadId) : Except PlanError Unit := do
  unless plan.has row.1 do throw (.unknownSource row.1)
  if let some missing := row.2.find? (!plan.has ·) then throw (.unknownSuccessor row.1 missing)

/-- Refuses a plan that traffic could not use. -/
def check (plan : Plan) : Except PlanError Unit := do
  if plan.roads.isEmpty then throw .noRoads
  plan.roads.forM fun road => road.check.mapError .road
  plan.connections.forM plan.checkConnection
  if plan.entryPoints.isEmpty then throw .noEntryPoints
  if let some missing := plan.entryPoints.find? (!plan.has ·) then
    throw (.unknownEntryPoint missing)
  unless plan.unreachable.isEmpty do throw (.unreachable plan.unreachable)

/-- The network of a plan, if the plan is fit for traffic. -/
def build (plan : Plan) : Except PlanError Network := do
  plan.check
  return plan.network

end Plan

/-- The network of a list of declarations, if they are fit for traffic. -/
def Network.ofDeclarations (declarations : List Declaration) : Except PlanError Network :=
  (Plan.ofDeclarations declarations).build

end RoadTraffic
