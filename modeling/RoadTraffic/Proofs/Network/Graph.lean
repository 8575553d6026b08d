import RoadTraffic.Proofs.Network.Frame

/-!
# The graph of a network

The successor relation of a network can be had in two ways: as the edges that a plan's
connections give, one for each entry of each list, and as the successor lists of the
roads, by which cars are routed.  In a network made from a plan the two agree
(`mem_edges_iff`).  Reachability asks for the paths of this one relation, between roads
that exist (`isReachable_iff`), and as it is a matter of the frame, the answer is the
same throughout a run.
-/

namespace RoadTraffic

open Declaration

/-- The edges of the graph of a plan, one for each entry of each successor list. -/
def Plan.edges (plan : Plan) : List (RoadId × RoadId) :=
  plan.connections.flatMap fun row => row.2.map (row.1, ·)

theorem Collects.mem_edges_iff {plan : Plan} {declarations : List Declaration}
    (h : Collects plan declarations) (a b : RoadId) :
    (a, b) ∈ plan.edges ↔ b ∈ follows declarations a := by
  rw [Plan.edges, List.mem_flatMap, mem_follows_iff]
  constructor
  · intro hsome
    obtain ⟨⟨source, list⟩, hrow, hedge⟩ := hsome
    obtain ⟨target, htarget, heq⟩ := List.mem_map.mp hedge
    obtain ⟨rfl, rfl⟩ := Prod.mk.inj heq
    rw [h.ascending.mem_iff_lookup, h.lookup] at hrow
    exact ⟨list, hrow, htarget⟩
  · intro hsome
    obtain ⟨list, hlist, htarget⟩ := hsome
    rw [← h.lookup, ← h.ascending.mem_iff_lookup] at hlist
    exact ⟨(a, list), hlist, List.mem_map_of_mem htarget⟩

namespace Network

variable {network other : Network} {declarations : List Declaration}

/-- **The graph and the successor lists agree.** -/
theorem mem_edges_iff (h : ofDeclarations declarations = .ok network) (a b : RoadId) :
    (a, b) ∈ (Plan.ofDeclarations declarations).edges ↔ b ∈ network.successors a := by
  have hcollects := collects_ofDeclarations declarations
  obtain ⟨hwf, hroads, hentries⟩ := ofDeclarations_eq_ok_iff.mp h
  have hnetwork : network = (Plan.ofDeclarations declarations).network :=
    eq_of_fields (hroads.trans hcollects.roads_network.symm)
      (hentries.trans hcollects.entryPoints.symm)
  have hconnections := Collects.forall_fitConnection_iff.mpr ⟨hwf.sources, hwf.targets⟩
  rw [hcollects.mem_edges_iff, hnetwork, hcollects.successors_network hconnections]

/-- A road is reachable from another if both exist and a path leads there. -/
theorem isReachable_iff (network : Network) (a b : RoadId) :
    network.isReachable a b = true ↔
      network.has a = true ∧ network.has b = true ∧ Leads network.successors a b := by
  simp only [isReachable, Bool.and_eq_true, decide_eq_true_eq, mem_reachedFrom_iff,
    List.mem_singleton, exists_eq_left, and_assoc]

/-- Reachability is a matter of the frame. -/
theorem isReachable_eq_of_frame_eq (h : other.frame = network.frame) :
    other.isReachable = network.isReachable := by
  funext a b
  rw [Bool.eq_iff_iff, isReachable_iff, isReachable_iff, has_eq_of_frame_eq h,
    has_eq_of_frame_eq h, successors_eq_of_frame_eq h]

end Network

end RoadTraffic
