import RoadTraffic.Proofs.Checks
import RoadTraffic.Proofs.Network.Declarations
import RoadTraffic.Proofs.Network.Reachability
import RoadTraffic.Proofs.Road.Fit

/-!
# Which networks are accepted

`WellFormed declarations` says what a list of declarations must declare, and
`Fault declarations error` what is wrong with a list and first in the way of
accepting it.  Both are about the declarations alone: no plan is built, no table
kept and no graph searched.

    Network.ofDeclarations declarations = .ok network       iff  well formed, and
                                                                 network as declared
    Network.ofDeclarations declarations = .error error      iff  Fault

The checks of a plan are taken one by one, each with what it means for the
declarations when it passes and when it fails; the last needs the search to find
exactly the roads that can be reached.
-/

namespace RoadTraffic

namespace Declaration

/-- A course and a speed that cars can drive on and at. -/
def FitRoad (road : Course × Float32) : Prop :=
  road.1.Fit ∧ road.2.isFinite = true ∧ 0 < road.2

/-- The successor list of a road, if it was given one, is for a road and names
roads. -/
def FitConnection (declarations : List Declaration) (id : RoadId) : Prop :=
  ∀ successors, connection? declarations id = some successors →
    Known declarations id ∧ ∀ target ∈ successors, Known declarations target

/-- Can the road be reached from an entry point? -/
def Reached (declarations : List Declaration) (id : RoadId) : Prop :=
  ∃ entry ∈ entries declarations, Leads (follows declarations) entry id

/-- The first three checks pass: there are roads, and all roads and connections are
fit. -/
structure FitGraph (declarations : List Declaration) : Prop where
  roads_ne_nil : roads declarations ≠ []
  roads : ∀ road ∈ roads declarations, FitRoad road
  connections : ∀ id, FitConnection declarations id

/-- What a list of declarations must declare to be accepted. -/
structure WellFormed (declarations : List Declaration) : Prop where
  roads_ne_nil : roads declarations ≠ []
  roads : ∀ course speed, (course, speed) ∈ roads declarations →
    course.Fit ∧ speed.isFinite = true ∧ 0 < speed
  sources : ∀ source successors, connect source successors ∈ declarations →
    Known declarations source
  targets : ∀ source, ∀ target ∈ follows declarations source, Known declarations target
  entries_ne_nil : entries declarations ≠ []
  entries : ∀ entry ∈ entries declarations, Known declarations entry
  reached : ∀ id, Known declarations id → Reached declarations id

/-- What is wrong with a list of declarations.  Of several faults only the first
counts: the roads are looked at before the connections, these before the entry
points, and these before what can be reached. -/
inductive Fault (declarations : List Declaration) : PlanError → Prop
  | noRoads (hnone : roads declarations = []) : Fault declarations .noRoads
  | road {before after : List (Course × Float32)} {course : Course} {speed : Float32}
      {reason : RoadError}
      (hsplit : roads declarations = before ++ (course, speed) :: after)
      (hbefore : ∀ road ∈ before, FitRoad road)
      (hbad : ({ id := ⟨before.length⟩, course, speed } : Road).check = .error reason) :
      Fault declarations (.road reason)
  | unknownSource {source : RoadId} {successors : List RoadId}
      (hne : roads declarations ≠ []) (hroads : ∀ road ∈ roads declarations, FitRoad road)
      (hbelow : ∀ id : RoadId, id.index < source.index → FitConnection declarations id)
      (hgiven : connection? declarations source = some successors)
      (hunknown : ¬ Known declarations source) :
      Fault declarations (.unknownSource source)
  | unknownSuccessor {source target : RoadId} {before after : List RoadId}
      (hne : roads declarations ≠ []) (hroads : ∀ road ∈ roads declarations, FitRoad road)
      (hbelow : ∀ id : RoadId, id.index < source.index → FitConnection declarations id)
      (hgiven : connection? declarations source = some (before ++ target :: after))
      (hknown : Known declarations source)
      (hbefore : ∀ id ∈ before, Known declarations id)
      (hunknown : ¬ Known declarations target) :
      Fault declarations (.unknownSuccessor source target)
  | noEntryPoints (hgraph : FitGraph declarations) (hnone : entries declarations = []) :
      Fault declarations .noEntryPoints
  | unknownEntryPoint {entry : RoadId} {before after : List RoadId}
      (hgraph : FitGraph declarations)
      (hsplit : entries declarations = before ++ entry :: after)
      (hbefore : ∀ id ∈ before, Known declarations id)
      (hunknown : ¬ Known declarations entry) :
      Fault declarations (.unknownEntryPoint entry)
  | unreachable {missing : List RoadId} (hgraph : FitGraph declarations)
      (hne : entries declarations ≠ [])
      (hentries : ∀ entry ∈ entries declarations, Known declarations entry)
      (hsome : missing ≠ [])
      (hascending : missing.Pairwise fun a b => a.index < b.index)
      (hmissing : ∀ id, id ∈ missing ↔ Known declarations id ∧ ¬ Reached declarations id) :
      Fault declarations (.unreachable missing)

end Declaration

open Declaration

/-!
## The checks of a plan
-/

namespace Plan

/-- The checks of a plan as a chain. -/
theorem check_eq (plan : Plan) : plan.check = (do
    refuseIf (plan.roads.isEmpty = true) .noRoads
    plan.roads.forM fun road => road.check.mapError .road
    plan.connections.forM plan.checkConnection
    refuseIf (plan.entryPoints.isEmpty = true) .noEntryPoints
    refuseFirst (!plan.has ·) .unknownEntryPoint plan.entryPoints
    refuseIf (¬ plan.unreachable.isEmpty = true) (PlanError.unreachable plan.unreachable)) := by
  have hlast : refuseIf (¬ plan.unreachable.isEmpty = true)
      (PlanError.unreachable plan.unreachable) = if plan.unreachable.isEmpty = true then pure ()
      else throw (PlanError.unreachable plan.unreachable) := ite_not ..
  rw [hlast]
  simp only [refuseFirst_bind, ← ite_throw_bind]
  unfold check
  cases plan.entryPoints.find? (!plan.has ·) <;> rfl

theorem checkConnection_eq (plan : Plan) (row : RoadId × List RoadId) :
    plan.checkConnection row = (do
      refuseIf (¬ plan.has row.1 = true) (.unknownSource row.1)
      refuseFirst (!plan.has ·) (.unknownSuccessor row.1) row.2) := by
  rw [← ite_bind_throw]
  unfold checkConnection refuseFirst
  cases row.2.find? (!plan.has ·) <;> rfl

end Plan

namespace Collects

variable {plan : Plan} {declarations : List Declaration} {error : PlanError}

theorem has_iff (h : Collects plan declarations) (id : RoadId) :
    plan.has id = true ↔ Known declarations id := by
  rw [Plan.has, Known, h.roads, List.length_mapIdx, decide_eq_true_iff]

theorem not_has_iff (h : Collects plan declarations) (id : RoadId) :
    (!plan.has id) = true ↔ ¬ Known declarations id := by
  rw [← h.has_iff, Bool.not_eq_true', Bool.not_eq_true]

theorem not_has_eq_false_iff (h : Collects plan declarations) (id : RoadId) :
    (!plan.has id) = false ↔ Known declarations id := by
  rw [← h.has_iff, Bool.not_eq_false']

theorem isEmpty_roads_iff (h : Collects plan declarations) :
    plan.roads.isEmpty = true ↔ Declaration.roads declarations = [] := by
  rw [List.isEmpty_iff, h.roads, List.mapIdx_eq_nil_iff]

theorem isEmpty_entryPoints_iff (h : Collects plan declarations) :
    plan.entryPoints.isEmpty = true ↔ entries declarations = [] := by
  rw [List.isEmpty_iff, List.eq_nil_iff_forall_not_mem, List.eq_nil_iff_forall_not_mem]
  simp only [h.entryPoints, List.mem_eraseDups]

theorem fitRoad_iff {index : Nat} {road : Course × Float32} :
    ({ id := ⟨index⟩, course := road.1, speed := road.2 } : Road).check = .ok () ↔
      FitRoad road := by
  rw [Road.check_eq_ok_iff]
  exact ⟨fun h => ⟨h.course, h.speed, h.speed_pos⟩, fun h => ⟨h.1, h.2.1, h.2.2⟩⟩

/-- The roads pass if all of them are fit. -/
theorem checkRoads_eq_ok_iff (h : Collects plan declarations) :
    (plan.roads.forM fun road => road.check.mapError PlanError.road) = .ok () ↔
      ∀ road ∈ Declaration.roads declarations, FitRoad road := by
  rw [forM_eq_ok_iff, h.roads]
  simp only [mapError_eq_ok_iff]
  constructor
  · intro hall road hroad
    obtain ⟨index, hindex, rfl⟩ := List.mem_iff_getElem.mp hroad
    exact fitRoad_iff.mp (hall _ (List.mem_mapIdx.mpr ⟨index, hindex, rfl⟩))
  · intro hall road hroad
    obtain ⟨index, hindex, rfl⟩ := List.mem_mapIdx.mp hroad
    exact fitRoad_iff.mpr (hall _ (List.getElem_mem hindex))

/-- The roads fail with the error of the first that is not fit. -/
theorem checkRoads_eq_error_iff (h : Collects plan declarations) :
    (plan.roads.forM fun road => road.check.mapError PlanError.road) = .error error ↔
      ∃ before course speed after reason,
        Declaration.roads declarations = before ++ (course, speed) :: after ∧
          (∀ road ∈ before, FitRoad road) ∧
          ({ id := ⟨before.length⟩, course, speed } : Road).check = .error reason ∧
          error = .road reason := by
  rw [forM_eq_error_iff, h.roads]
  simp only [mapError_eq_ok_iff, mapError_eq_error_iff]
  constructor
  · intro hsome
    obtain ⟨before, road, after, hsplit, hbefore, reason, hbad, rfl⟩ := hsome
    obtain ⟨first, rest, hroads, rfl, hrest⟩ := List.mapIdx_eq_append_iff.mp hsplit
    obtain ⟨⟨course, speed⟩, later, rfl, rfl, -⟩ := List.mapIdx_eq_cons_iff.mp hrest
    rw [Nat.zero_add] at hbad
    refine ⟨first, course, speed, later, reason, hroads, fun road hroad => ?_, hbad, rfl⟩
    obtain ⟨index, hindex, rfl⟩ := List.mem_iff_getElem.mp hroad
    exact fitRoad_iff.mp (hbefore _ (List.mem_mapIdx.mpr ⟨index, hindex, rfl⟩))
  · intro hsome
    obtain ⟨before, course, speed, after, reason, hsplit, hbefore, hbad, rfl⟩ := hsome
    rw [hsplit, List.mapIdx_append, List.mapIdx_cons, Nat.zero_add]
    refine ⟨_, _, _, rfl, fun road hroad => ?_, reason, hbad, rfl⟩
    obtain ⟨index, hindex, rfl⟩ := List.mem_mapIdx.mp hroad
    exact fitRoad_iff.mpr (hbefore _ (List.getElem_mem hindex))

/-- A successor list passes if its road and all roads in it are known. -/
theorem checkConnection_eq_ok_iff (h : Collects plan declarations)
    (row : RoadId × List RoadId) :
    plan.checkConnection row = .ok () ↔
      Known declarations row.1 ∧ ∀ target ∈ row.2, Known declarations target := by
  rw [Plan.checkConnection_eq, bind_eq_ok_iff, refuseIf_eq_ok_iff, refuseFirst_eq_ok_iff,
    Classical.not_not, h.has_iff]
  simp only [h.not_has_eq_false_iff]

theorem checkConnection_eq_error_iff (h : Collects plan declarations)
    (row : RoadId × List RoadId) :
    plan.checkConnection row = .error error ↔
      (¬ Known declarations row.1 ∧ .unknownSource row.1 = error) ∨
        (Known declarations row.1 ∧ ∃ before target after, row.2 = before ++ target :: after ∧
          (∀ id ∈ before, Known declarations id) ∧ ¬ Known declarations target ∧
          .unknownSuccessor row.1 target = error) := by
  rw [Plan.checkConnection_eq, bind_eq_error_iff, refuseIf_eq_error_iff, refuseIf_eq_ok_iff,
    refuseFirst_eq_error_iff, Classical.not_not, h.has_iff]
  simp only [h.not_has_eq_false_iff, h.not_has_iff]

/-- The connections pass if every one of them is fit. -/
theorem checkConnections_eq_ok_iff (h : Collects plan declarations) :
    plan.connections.forM plan.checkConnection = .ok () ↔
      ∀ id, FitConnection declarations id := by
  rw [forM_eq_ok_iff]
  simp only [h.checkConnection_eq_ok_iff]
  constructor
  · intro hall id successors hgiven
    rw [← h.lookup, ← h.ascending.mem_iff_lookup] at hgiven
    exact hall _ hgiven
  · intro hall row hrow
    obtain ⟨id, successors⟩ := row
    rw [h.ascending.mem_iff_lookup, h.lookup] at hrow
    exact hall id successors hrow

/-- The connections fail with the error of the first that is not fit, by the
identities of the roads they are given for. -/
theorem checkConnections_eq_error_iff (h : Collects plan declarations) :
    plan.connections.forM plan.checkConnection = .error error ↔
      ∃ source successors, connection? declarations source = some successors ∧
        (∀ id : RoadId, id.index < source.index → FitConnection declarations id) ∧
        plan.checkConnection (source, successors) = .error error := by
  rw [forM_eq_error_iff]
  simp only [h.checkConnection_eq_ok_iff]
  constructor
  · intro hsome
    obtain ⟨before, ⟨source, successors⟩, after, hsplit, hbefore, herror⟩ := hsome
    have hrow : (source, successors) ∈ plan.connections :=
      hsplit ▸ List.mem_append_right _ List.mem_cons_self
    refine ⟨source, successors, ?_, fun id hlt list hgiven => ?_, herror⟩
    · rw [← h.lookup, ← h.ascending.mem_iff_lookup]
      exact hrow
    · rw [← h.lookup, ← h.ascending.mem_iff_lookup, hsplit] at hgiven
      have hordered := h.ascending
      rw [hsplit, SuccessorTable.Ascending, List.pairwise_append, List.pairwise_cons] at hordered
      obtain ⟨-, ⟨hafter, -⟩, -⟩ := hordered
      rcases List.mem_append.mp hgiven with hin | hin
      · exact hbefore _ hin
      · rcases List.mem_cons.mp hin with heq | hin
        · rw [(Prod.mk.inj heq).1] at hlt
          exact absurd hlt (Nat.lt_irrefl _)
        · exact absurd (hafter _ hin) (Nat.lt_asymm hlt)
  · intro hsome
    obtain ⟨source, successors, hgiven, hbelow, herror⟩ := hsome
    rw [← h.lookup, ← h.ascending.mem_iff_lookup] at hgiven
    obtain ⟨before, after, hsplit⟩ := List.append_of_mem hgiven
    refine ⟨before, (source, successors), after, hsplit, fun row hrow => ?_, herror⟩
    have hordered := h.ascending
    rw [hsplit, SuccessorTable.Ascending, List.pairwise_append] at hordered
    obtain ⟨-, -, hcross⟩ := hordered
    have hlookup : (row.1, row.2) ∈ plan.connections := hsplit ▸ List.mem_append_left _ hrow
    rw [h.ascending.mem_iff_lookup, h.lookup] at hlookup
    exact hbelow row.1 (hcross row hrow _ List.mem_cons_self) row.2 hlookup

/-- Leaving out repetitions does not change what is found first. -/
theorem find?_eraseDups {α : Type} [BEq α] [LawfulBEq α] (p : α → Bool) (list : List α) :
    list.eraseDups.find? p = list.find? p := by
  match list with
  | [] => rfl
  | a :: rest =>
      rw [List.eraseDups_cons, List.find?_cons, List.find?_cons, find?_eraseDups]
      cases ha : p a with
      | true => rfl
      | false =>
          have hrest : ∀ b, decide ((!b == a) = true ∧ p b = true) = p b := by
            intro b
            by_cases hb : b = a
            · simp [hb, ha]
            · simp [hb]
          rw [List.find?_filter]
          simp only [hrest]
termination_by list.length
decreasing_by exact Nat.lt_succ_of_le (List.length_filter_le ..)

theorem checkEntryPoints_eq_ok_iff (h : Collects plan declarations) :
    refuseFirst (!plan.has ·) PlanError.unknownEntryPoint plan.entryPoints = .ok () ↔
      ∀ entry ∈ entries declarations, Known declarations entry := by
  rw [refuseFirst_eq_ok_iff, h.entryPoints]
  simp only [List.mem_eraseDups, h.not_has_eq_false_iff]

theorem checkEntryPoints_eq_error_iff (h : Collects plan declarations) :
    refuseFirst (!plan.has ·) PlanError.unknownEntryPoint plan.entryPoints = .error error ↔
      ∃ before entry after, entries declarations = before ++ entry :: after ∧
        (∀ id ∈ before, Known declarations id) ∧ ¬ Known declarations entry ∧
        .unknownEntryPoint entry = error := by
  have hdups : refuseFirst (!plan.has ·) PlanError.unknownEntryPoint plan.entryPoints =
      refuseFirst (!plan.has ·) PlanError.unknownEntryPoint (entries declarations) := by
    rw [refuseFirst, h.entryPoints, find?_eraseDups]
    rfl
  rw [hdups, refuseFirst_eq_error_iff]
  simp only [h.not_has_eq_false_iff, h.not_has_iff]

/-!
## The planned network
-/

/-- The planned roads: empty, open, and with their last successor lists. -/
theorem roads_network (h : Collects plan declarations) :
    plan.network.roads = (Declaration.roads declarations).mapIdx fun index road =>
      { id := ⟨index⟩, course := road.1, speed := road.2, cars := [],
        successors := follows declarations ⟨index⟩, signal := .proceed } := by
  rw [Plan.network, h.roads]
  refine List.ext_getElem (by simp) fun index hleft hright => ?_
  simp only [List.getElem_map, List.getElem_mapIdx, SuccessorTable.get, h.lookup]
  rfl

theorem length_roads_network (h : Collects plan declarations) :
    plan.network.roads.length = (Declaration.roads declarations).length := by
  rw [h.roads_network, List.length_mapIdx]

/-- Where the connections are fit, the successors in the planned network are those
declared. -/
theorem successors_network (h : Collects plan declarations)
    (hconnections : ∀ id, FitConnection declarations id) :
    plan.network.successors = follows declarations := by
  funext id
  by_cases hknown : Known declarations id
  · have hindex : id.index < plan.network.roads.length := h.length_roads_network ▸ hknown
    rw [Network.successors, Network.road?, List.getElem?_eq_getElem hindex]
    simp only [h.roads_network, List.getElem_mapIdx]
    rfl
  · have hnone : connection? declarations id = none := by
      cases hgiven : connection? declarations id with
      | none => rfl
      | some successors => exact absurd (hconnections id successors hgiven).1 hknown
    rw [follows, hnone]
    refine Network.successors_of_not_has ?_
    rw [h.length_roads_network]
    exact Nat.le_of_not_lt hknown

/-- The search of the planned network finds the roads that can be reached. -/
theorem mem_reachedFrom_iff (h : Collects plan declarations)
    (hconnections : ∀ id, FitConnection declarations id) (id : RoadId) :
    id ∈ plan.network.reachedFrom plan.entryPoints ↔ Reached declarations id := by
  rw [Network.mem_reachedFrom_iff, h.successors_network hconnections, h.entryPoints, Reached]
  simp only [List.mem_eraseDups]

theorem map_id_roads (h : Collects plan declarations) :
    plan.roads.map Road.id =
      (List.range (Declaration.roads declarations).length).map RoadId.mk := by
  rw [h.roads]
  refine List.ext_getElem (by simp) fun index hleft hright => ?_
  simp

theorem mem_unreachable_iff (h : Collects plan declarations)
    (hconnections : ∀ id, FitConnection declarations id) (id : RoadId) :
    id ∈ plan.unreachable ↔ Known declarations id ∧ ¬ Reached declarations id := by
  have hknown : id ∈ plan.roads.map Road.id ↔ Known declarations id := by
    rw [h.map_id_roads, List.mem_map]
    constructor
    · intro hsome
      obtain ⟨index, hindex, rfl⟩ := hsome
      exact List.mem_range.mp hindex
    · intro hlt
      exact ⟨id.index, List.mem_range.mpr hlt, rfl⟩
  rw [Plan.unreachable, List.mem_filter, hknown, decide_eq_true_iff,
    h.mem_reachedFrom_iff hconnections]

theorem unreachable_pairwise (h : Collects plan declarations) :
    plan.unreachable.Pairwise fun a b => a.index < b.index := by
  refine List.Pairwise.filter _ ?_
  rw [h.map_id_roads, List.pairwise_map]
  exact List.pairwise_lt_range

/-- The unreachable roads in ascending order are determined by which they are. -/
theorem unreachable_eq (h : Collects plan declarations)
    (hconnections : ∀ id, FitConnection declarations id) {missing : List RoadId}
    (hascending : missing.Pairwise fun a b => a.index < b.index)
    (hmissing : ∀ id, id ∈ missing ↔ Known declarations id ∧ ¬ Reached declarations id) :
    plan.unreachable = missing := by
  refine eq_of_pairwise_lt h.unreachable_pairwise hascending fun id => ?_
  rw [h.mem_unreachable_iff hconnections, hmissing]

/-!
## The checks together
-/

/-- All connections are fit if sources and final successors are known. -/
theorem forall_fitConnection_iff : (∀ id, FitConnection declarations id) ↔
    (∀ source successors, Declaration.connect source successors ∈ declarations →
      Known declarations source) ∧
    ∀ source, ∀ target ∈ follows declarations source, Known declarations target := by
  constructor
  · intro hfit
    refine ⟨fun source successors hin => ?_, fun source target htarget => ?_⟩
    · obtain ⟨list, hlist⟩ := exists_connection?_of_mem hin
      exact (hfit source list hlist).1
    · obtain ⟨list, hlist, hin⟩ := mem_follows_iff.mp htarget
      exact (hfit source list hlist).2 target hin
  · intro hknown id successors hlast
    obtain ⟨hsources, htargets⟩ := hknown
    refine ⟨hsources id successors (connect_mem_of_connection? hlast), fun target hin => ?_⟩
    exact htargets id target (mem_follows_iff.mpr ⟨successors, hlast, hin⟩)

theorem unreachable_eq_nil_iff (h : Collects plan declarations)
    (hconnections : ∀ id, FitConnection declarations id) :
    plan.unreachable = [] ↔ ∀ id, Known declarations id → Reached declarations id := by
  rw [List.eq_nil_iff_forall_not_mem]
  simp only [h.mem_unreachable_iff hconnections, not_and, Classical.not_not]

/-- A plan passes its checks if what it has collected is well formed. -/
theorem check_eq_ok_iff (h : Collects plan declarations) :
    plan.check = .ok () ↔ WellFormed declarations := by
  rw [Plan.check_eq]
  simp only [bind_eq_ok_iff, refuseIf_eq_ok_iff, h.isEmpty_roads_iff, h.checkRoads_eq_ok_iff,
    h.checkConnections_eq_ok_iff, h.isEmpty_entryPoints_iff, h.checkEntryPoints_eq_ok_iff,
    Classical.not_not, List.isEmpty_iff]
  constructor
  · intro hpasses
    obtain ⟨hne, hroads, hconnections, hentries, hknown, hreached⟩ := hpasses
    obtain ⟨hsources, htargets⟩ := forall_fitConnection_iff.mp hconnections
    exact ⟨hne, fun course speed hin => hroads _ hin, hsources, htargets, hentries, hknown,
      (h.unreachable_eq_nil_iff hconnections).mp hreached⟩
  · intro hwf
    have hconnections := forall_fitConnection_iff.mpr ⟨hwf.sources, hwf.targets⟩
    exact ⟨hwf.roads_ne_nil, fun road hin => hwf.roads road.1 road.2 hin, hconnections,
      hwf.entries_ne_nil, hwf.entries, (h.unreachable_eq_nil_iff hconnections).mpr hwf.reached⟩

/-- A plan fails with the first fault of what it has collected. -/
theorem check_eq_error_iff (h : Collects plan declarations) :
    plan.check = .error error ↔ Fault declarations error := by
  rw [Plan.check_eq]
  simp only [bind_eq_error_iff, refuseIf_eq_ok_iff, refuseIf_eq_error_iff, h.isEmpty_roads_iff,
    h.checkRoads_eq_ok_iff, h.checkRoads_eq_error_iff, h.checkConnections_eq_ok_iff,
    h.checkConnections_eq_error_iff, h.checkConnection_eq_error_iff, h.isEmpty_entryPoints_iff,
    h.checkEntryPoints_eq_ok_iff, h.checkEntryPoints_eq_error_iff, List.isEmpty_iff]
  constructor
  · intro hor
    rcases hor with ⟨hnone, rfl⟩ | ⟨hne, hbad | ⟨hroads, hbad | ⟨hconnections, hbad |
      ⟨hentries, hbad | ⟨hknown, hsome, rfl⟩⟩⟩⟩⟩
    · exact .noRoads hnone
    · obtain ⟨before, course, speed, after, reason, hsplit, hbefore, hcheck, rfl⟩ := hbad
      exact .road hsplit hbefore hcheck
    · obtain ⟨source, successors, hgiven, hbelow, ⟨hunknown, rfl⟩ |
        ⟨hknown, before, target, after, rfl, hbefore, hunknown, rfl⟩⟩ := hbad
      · exact .unknownSource hne hroads hbelow hgiven hunknown
      · exact .unknownSuccessor hne hroads hbelow hgiven hknown hbefore hunknown
    · obtain ⟨hnone, rfl⟩ := hbad
      exact .noEntryPoints ⟨hne, hroads, hconnections⟩ hnone
    · obtain ⟨before, entry, after, hsplit, hbefore, hunknown, rfl⟩ := hbad
      exact .unknownEntryPoint ⟨hne, hroads, hconnections⟩ hsplit hbefore hunknown
    · exact .unreachable ⟨hne, hroads, hconnections⟩ hentries hknown hsome
        h.unreachable_pairwise (h.mem_unreachable_iff hconnections)
  · intro hfault
    cases hfault with
    | noRoads hnone => exact Or.inl ⟨hnone, rfl⟩
    | road hsplit hbefore hbad =>
        refine Or.inr ⟨?_, Or.inl ⟨_, _, _, _, _, hsplit, hbefore, hbad, rfl⟩⟩
        rw [hsplit]
        exact List.append_ne_nil_of_right_ne_nil _ (List.cons_ne_nil _ _)
    | unknownSource hne hroads hbelow hgiven hunknown =>
        exact Or.inr ⟨hne, Or.inr ⟨hroads, Or.inl ⟨_, _, hgiven, hbelow,
          Or.inl ⟨hunknown, rfl⟩⟩⟩⟩
    | unknownSuccessor hne hroads hbelow hgiven hknown hbefore hunknown =>
        exact Or.inr ⟨hne, Or.inr ⟨hroads, Or.inl ⟨_, _, hgiven, hbelow,
          Or.inr ⟨hknown, _, _, _, rfl, hbefore, hunknown, rfl⟩⟩⟩⟩
    | noEntryPoints hgraph hnone =>
        exact Or.inr ⟨hgraph.roads_ne_nil, Or.inr ⟨hgraph.roads, Or.inr ⟨hgraph.connections,
          Or.inl ⟨hnone, rfl⟩⟩⟩⟩
    | unknownEntryPoint hgraph hsplit hbefore hunknown =>
        refine Or.inr ⟨hgraph.roads_ne_nil, Or.inr ⟨hgraph.roads, Or.inr ⟨hgraph.connections,
          Or.inr ⟨?_, Or.inl ⟨_, _, _, hsplit, hbefore, hunknown, rfl⟩⟩⟩⟩⟩
        rw [hsplit]
        exact List.append_ne_nil_of_right_ne_nil _ (List.cons_ne_nil _ _)
    | unreachable hgraph hne hentries hsome hascending hmissing =>
        have hlist := h.unreachable_eq hgraph.connections hascending hmissing
        exact Or.inr ⟨hgraph.roads_ne_nil, Or.inr ⟨hgraph.roads, Or.inr ⟨hgraph.connections,
          Or.inr ⟨hne, Or.inr ⟨hentries, hlist ▸ hsome, congrArg PlanError.unreachable hlist⟩⟩⟩⟩⟩

end Collects

theorem Network.eq_of_fields {a b : Network} (hroads : a.roads = b.roads)
    (hentries : a.entryPoints = b.entryPoints) : a = b := by
  cases a
  cases b
  cases hroads
  cases hentries
  rfl

namespace Network

variable {declarations : List Declaration}

theorem ofDeclarations_eq (declarations : List Declaration) :
    ofDeclarations declarations =
      (Plan.ofDeclarations declarations).check >>= fun _ =>
        pure (Plan.ofDeclarations declarations).network := rfl

/-- An accepted network is the one declared: each road has the last successor list
given for it, all roads are empty and open, and no entry point is repeated. -/
theorem ofDeclarations_eq_ok_iff {network : Network} :
    ofDeclarations declarations = .ok network ↔
      WellFormed declarations ∧
        network.roads = (Declaration.roads declarations).mapIdx (fun index road =>
          { id := ⟨index⟩, course := road.1, speed := road.2, cars := [],
            successors := follows declarations ⟨index⟩, signal := .proceed }) ∧
        network.entryPoints = (entries declarations).eraseDups := by
  have h := collects_ofDeclarations declarations
  rw [ofDeclarations_eq, ← h.check_eq_ok_iff, ← h.roads_network, ← h.entryPoints]
  generalize Plan.ofDeclarations declarations = plan
  cases plan.check with
  | error reason => exact ⟨nofun, fun hno => nomatch hno.1⟩
  | ok =>
      constructor
      · intro heq
        rw [← Except.ok.inj heq]
        exact ⟨rfl, rfl, rfl⟩
      · intro hsame
        obtain ⟨-, hroads, hentries⟩ := hsame
        exact congrArg Except.ok (eq_of_fields hroads.symm hentries.symm)

theorem ofDeclarations_eq_error_iff {error : PlanError} :
    ofDeclarations declarations = .error error ↔ Fault declarations error := by
  have h := collects_ofDeclarations declarations
  rw [ofDeclarations_eq, ← h.check_eq_error_iff]
  cases (Plan.ofDeclarations declarations).check with
  | error reason =>
      exact ⟨fun heq => congrArg Except.error (Except.error.inj heq),
        fun heq => congrArg Except.error (Except.error.inj heq)⟩
  | ok => exact ⟨nofun, nofun⟩

/-- **Acceptance.**  A network is built exactly from well formed declarations, and
is then the one declared.  Otherwise the first fault is reported. -/
theorem ofDeclarations_spec (declarations : List Declaration) :
    ((∃ network, ofDeclarations declarations = .ok network) ↔ WellFormed declarations) ∧
    (∀ network, ofDeclarations declarations = .ok network ↔
      WellFormed declarations ∧
        network.roads = (Declaration.roads declarations).mapIdx (fun index road =>
          { id := ⟨index⟩, course := road.1, speed := road.2, cars := [],
            successors := follows declarations ⟨index⟩, signal := .proceed }) ∧
        network.entryPoints = (entries declarations).eraseDups) ∧
    ∀ error, ofDeclarations declarations = .error error ↔ Fault declarations error := by
  refine ⟨⟨?_, ?_⟩, fun network => ofDeclarations_eq_ok_iff,
    fun error => ofDeclarations_eq_error_iff⟩
  · intro hbuilt
    obtain ⟨network, heq⟩ := hbuilt
    exact (ofDeclarations_eq_ok_iff.mp heq).1
  · intro hwf
    exact ⟨⟨_, _⟩, ofDeclarations_eq_ok_iff.mpr ⟨hwf, rfl, rfl⟩⟩

end Network

end RoadTraffic
