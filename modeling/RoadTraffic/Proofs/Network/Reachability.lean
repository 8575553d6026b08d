import Mathlib
import RoadTraffic.Network.Basic

/-!
# The search finds all roads that can be reached

`leads_of_mem_search` says that only reachable nodes are marked.  For the converse
the search must not run out of fuel.  Every step takes a node off the list of nodes
to visit, and a node puts its followers there at most once; so the fuel suffices as
long as

    todo.length + pending next seen nodes ≤ fuel,

where `pending` counts the followers of the nodes not yet seen.  Then the marks are
closed under following (`search_closed`), and a closed set that holds the starts
holds all that can be reached.
-/

namespace RoadTraffic

/-- What is closed under following and holds a node holds all nodes that can be
reached from it. -/
theorem Leads.mem_of_closed {α : Type} {next : α → List α} {marked : List α} {start goal : α}
    (h : Leads next start goal) (hstart : start ∈ marked)
    (hclosed : ∀ node ∈ marked, ∀ follower ∈ next node, follower ∈ marked) : goal ∈ marked := by
  induction h with
  | here => exact hstart
  | step hedge _ ih => exact ih (hclosed _ hstart _ hedge)

section Search

variable {α : Type} [DecidableEq α] {next : α → List α}

/-- The number of followers of those `nodes` that have not been seen. -/
def pending (next : α → List α) (seen nodes : List α) : Nat :=
  (nodes.map fun node => if node ∈ seen then 0 else (next node).length).sum

theorem pending_cons (seen nodes : List α) (node : α) : pending next seen (node :: nodes) =
    (if node ∈ seen then 0 else (next node).length) + pending next seen nodes := by
  rw [pending, List.map_cons, List.sum_cons]
  rfl

theorem pending_cons_seen_le (next : α → List α) (node : α) (seen nodes : List α) :
    pending next (node :: seen) nodes ≤ pending next seen nodes := by
  induction nodes with
  | nil => exact Nat.le_refl _
  | cons other nodes ih =>
      rw [pending_cons, pending_cons]
      by_cases hseen : other ∈ seen
      · rw [if_pos hseen, if_pos (List.mem_cons_of_mem _ hseen)]
        exact Nat.add_le_add_left ih _
      · rw [if_neg hseen]
        split <;> omega

/-- The followers of a node are pending no longer once it has been seen. -/
theorem pending_add_le {node : α} {seen nodes : List α} (hnew : node ∉ seen)
    (hknown : node ∈ nodes) :
    pending next (node :: seen) nodes + (next node).length ≤ pending next seen nodes := by
  induction nodes with
  | nil => exact nomatch hknown
  | cons other nodes ih =>
      rw [pending_cons, pending_cons]
      by_cases hsame : other = node
      · have hrest := pending_cons_seen_le next node seen nodes
        rw [hsame, if_pos List.mem_cons_self, if_neg hnew]
        omega
      · have hrest := ih ((List.mem_cons.mp hknown).resolve_left (Ne.symm hsame))
        have hseen : other ∈ node :: seen ↔ other ∈ seen := by simp [hsame]
        simp only [hseen]
        omega

/-- **Closure.**  With enough fuel the marks hold all that was to be visited, and
with each newly marked node its followers. -/
theorem search_closed {nodes : List α} (hknown : ∀ node, node ∉ nodes → next node = [])
    (fuel : Nat) (todo seen : List α) (hfuel : todo.length + pending next seen nodes ≤ fuel) :
    (∀ node ∈ todo, node ∈ search next fuel todo seen) ∧
      ∀ node ∈ search next fuel todo seen, node ∉ seen →
        ∀ follower ∈ next node, follower ∈ search next fuel todo seen := by
  fun_induction search next fuel todo seen with
  | case1 _ seen => exact ⟨List.forall_mem_nil _, fun node hin hout => absurd hin hout⟩
  | case2 seen node todo => simp at hfuel
  | case3 fuel node todo seen hseen ih =>
      rw [List.length_cons] at hfuel
      obtain ⟨htodo, hclosed⟩ := ih (by omega)
      exact ⟨List.forall_mem_cons.mpr ⟨mem_search_of_mem_seen _ _ _ hseen, htodo⟩, hclosed⟩
  | case4 fuel node todo seen hnew ih =>
      have hspent : pending next (node :: seen) nodes + (next node).length ≤
          pending next seen nodes := by
        by_cases hin : node ∈ nodes
        · exact pending_add_le hnew hin
        · rw [hknown node hin]
          exact pending_cons_seen_le next node seen nodes
      rw [List.length_cons] at hfuel
      obtain ⟨htodo, hclosed⟩ := ih (by rw [List.length_append]; omega)
      obtain ⟨hnext, htodo⟩ := List.forall_mem_append.mp htodo
      have hnode : node ∈ search next fuel (next node ++ todo) (node :: seen) :=
        mem_search_of_mem_seen _ _ _ List.mem_cons_self
      refine ⟨List.forall_mem_cons.mpr ⟨hnode, htodo⟩, fun other hother hout => ?_⟩
      by_cases hsame : other = node
      · rw [hsame]
        exact hnext
      · exact hclosed other hother (by simp [hsame, hout])

/-- **The search is right.**  With enough fuel exactly the nodes are marked that can
be reached. -/
theorem mem_search_iff (nodes : List α) (hknown : ∀ node, node ∉ nodes → next node = [])
    {fuel : Nat} {starts : List α} (hfuel : starts.length + pending next [] nodes ≤ fuel)
    (goal : α) :
    goal ∈ search next fuel starts [] ↔ ∃ start ∈ starts, Leads next start goal := by
  obtain ⟨hstarts, hclosed⟩ := search_closed hknown fuel starts [] hfuel
  constructor
  · intro h
    rcases leads_of_mem_search fuel starts [] h with hnil | hleads
    · exact nomatch hnil
    · exact hleads
  · intro hsome
    obtain ⟨start, hstart, hleads⟩ := hsome
    exact hleads.mem_of_closed (hstarts start hstart)
      fun node hnode => hclosed node hnode (List.not_mem_nil)

end Search

namespace Network

/-- Roads that do not exist have no successors, and the roads that do have as many
as there are connections. -/
theorem pending_successors (network : Network) :
    pending network.successors [] ((List.range network.roads.length).map RoadId.mk) =
      network.connectionCount := by
  have hsuccessors : ∀ i (h : i < network.roads.length),
      network.successors ⟨i⟩ = network.roads[i].successors := by
    intro i h
    rw [successors, road?, List.getElem?_eq_getElem h]
    rfl
  unfold pending connectionCount
  congr 1
  apply List.ext_getElem
  · simp
  · intro i hi hroads
    simp only [List.length_map] at hroads
    simp [hsuccessors i hroads]

theorem successors_of_not_has {network : Network} {id : RoadId}
    (h : network.roads.length ≤ id.index) : network.successors id = [] := by
  rw [successors, road?, List.getElem?_eq_none h]
  rfl

/-- The roads that are reached from some roads are those that can be reached. -/
theorem mem_reachedFrom_iff (network : Network) (starts : List RoadId) (road : RoadId) :
    road ∈ network.reachedFrom starts ↔
      ∃ start ∈ starts, Leads network.successors start road := by
  refine mem_search_iff ((List.range network.roads.length).map RoadId.mk) ?_ ?_ road
  · intro id hout
    refine successors_of_not_has (Nat.le_of_not_lt fun hlt => hout ?_)
    exact List.mem_map.mpr ⟨id.index, List.mem_range.mpr hlt, rfl⟩
  · exact Nat.le_of_eq (congrArg _ (pending_successors _))

end Network

end RoadTraffic
