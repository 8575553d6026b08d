/-!
# Searching a graph

A graph is given by the list of nodes that follow each node; lists may repeat
nodes and may run in circles.  `Leads` says what it means that one node can be
reached from another, and `search` collects the nodes that can be reached from a
list of starts.

The search takes nodes off a list of nodes to visit.  A node seen before is
dropped; a new one is marked as seen, and its followers are put on the list.  Each
node's followers are put there once, so the search ends after as many steps as
there are starts and edges together.
-/

namespace RoadTraffic

/-- `Leads next a b`: the node `b` is reached from `a` in zero or more steps. -/
inductive Leads {α : Type} (next : α → List α) : α → α → Prop
  | here (a : α) : Leads next a a
  | step {a b c : α} (edge : b ∈ next a) (rest : Leads next b c) : Leads next a c

/-- Marks the nodes that can be reached from `todo`, in at most `fuel` steps. -/
def search {α : Type} [DecidableEq α] (next : α → List α) :
    (fuel : Nat) → (todo seen : List α) → List α
  | _, [], seen => seen
  | 0, _ :: _, seen => seen
  | fuel + 1, node :: todo, seen =>
    if node ∈ seen then search next fuel todo seen
    else search next fuel (next node ++ todo) (node :: seen)

section Sound

variable {α : Type} [DecidableEq α] {next : α → List α}

/-- What has been seen stays seen. -/
theorem mem_search_of_mem_seen {node : α} (fuel : Nat) (todo seen : List α) (h : node ∈ seen) :
    node ∈ search next fuel todo seen := by
  fun_induction search next fuel todo seen with
  | case1 => exact h
  | case2 => exact h
  | case3 _ _ _ _ _ ih => exact ih h
  | case4 _ _ _ _ _ ih => exact ih (List.mem_cons_of_mem _ h)

/-- Only nodes are marked that can be reached. -/
theorem leads_of_mem_search {goal : α} (fuel : Nat) (todo seen : List α)
    (h : goal ∈ search next fuel todo seen) :
    goal ∈ seen ∨ ∃ start ∈ todo, Leads next start goal := by
  fun_induction search next fuel todo seen with
  | case1 => exact Or.inl h
  | case2 => exact Or.inl h
  | case3 fuel node todo seen _ ih =>
    rcases ih h with hs | ⟨start, hstart, hleads⟩
    · exact Or.inl hs
    · exact Or.inr ⟨start, List.mem_cons_of_mem _ hstart, hleads⟩
  | case4 fuel node todo seen _ ih =>
    rcases ih h with hs | ⟨start, hstart, hleads⟩
    · rcases List.mem_cons.mp hs with rfl | hs
      · exact Or.inr ⟨_, List.mem_cons_self, Leads.here _⟩
      · exact Or.inl hs
    · rcases List.mem_append.mp hstart with hnext | htodo
      · exact Or.inr ⟨node, List.mem_cons_self, Leads.step hnext hleads⟩
      · exact Or.inr ⟨start, List.mem_cons_of_mem _ htodo, hleads⟩

end Sound

end RoadTraffic
