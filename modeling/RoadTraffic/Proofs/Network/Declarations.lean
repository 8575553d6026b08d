import Mathlib
import RoadTraffic.Network.Plan

/-!
# What a list of declarations declares

A plan collects declarations one after the other.  Here the plan of a whole list is
read off the list at once:

* the roads are numbered in the order of their declarations (`Declaration.roads`);
* the successors of a road are those of the last list given for it
  (`Declaration.connection?`);
* the entry points are those declared, without repetitions
  (`Declaration.entries`).

`Collects plan declarations` says that a plan is that of the declarations so far.
It holds at the start and survives each declaration, so it holds in the end
(`collects_ofDeclarations`).
-/

namespace RoadTraffic

theorem RoadId.eq_of_index_eq {a b : RoadId} (h : a.index = b.index) : a = b := by
  cases a
  cases b
  exact congrArg RoadId.mk h

/-- A list in strictly ascending order of a key is determined by its members. -/
theorem eq_of_pairwise_lt {α : Type} {key : α → Nat} {first second : List α}
    (hfirst : first.Pairwise fun a b => key a < key b)
    (hsecond : second.Pairwise fun a b => key a < key b)
    (h : ∀ a, a ∈ first ↔ a ∈ second) : first = second := by
  have hnodup : ∀ {list : List α}, (list.Pairwise fun a b => key a < key b) → list.Nodup := by
    intro list hlist
    refine hlist.imp ?_
    intro a b hlt heq
    subst heq
    exact Nat.lt_irrefl _ hlt
  refine List.Perm.eq_of_pairwise ?_ hfirst hsecond ?_
  · intro a b _ _ hab hba
    exact absurd hba (Nat.lt_asymm hab)
  · exact (List.perm_ext_iff_of_nodup (hnodup hfirst) (hnodup hsecond)).mpr h

namespace Declaration

/-- The courses and speeds of the roads, in the order of declaration. -/
def roads (declarations : List Declaration) : List (Course × Float32) :=
  declarations.filterMap fun
    | .road course speed => some (course, speed)
    | _ => none

/-- The successor lists given for a road, in the order of declaration. -/
def connections (declarations : List Declaration) (id : RoadId) : List (List RoadId) :=
  declarations.filterMap fun
    | .connect source successors => if source = id then some successors else none
    | _ => none

/-- The successor list given last for a road, if one was given. -/
def connection? (declarations : List Declaration) (id : RoadId) : Option (List RoadId) :=
  (connections declarations id).getLast?

/-- The successors of a road; a road that was not connected has none. -/
def follows (declarations : List Declaration) (id : RoadId) : List RoadId :=
  (connection? declarations id).getD []

/-- The entry points, in the order of declaration, repeated ones included. -/
def entries (declarations : List Declaration) : List RoadId :=
  declarations.filterMap fun
    | .entry id => some id
    | _ => none

theorem roads_append (first second : List Declaration) :
    roads (first ++ second) = roads first ++ roads second := List.filterMap_append

theorem connections_append (first second : List Declaration) (id : RoadId) :
    connections (first ++ second) id = connections first id ++ connections second id :=
  List.filterMap_append

theorem entries_append (first second : List Declaration) :
    entries (first ++ second) = entries first ++ entries second := List.filterMap_append

theorem exists_connection?_of_mem {declarations : List Declaration} {source : RoadId}
    {successors : List RoadId} (h : connect source successors ∈ declarations) :
    ∃ list, connection? declarations source = some list := by
  have hgiven : successors ∈ connections declarations source :=
    List.mem_filterMap.mpr ⟨_, h, if_pos rfl⟩
  exact ⟨_, List.getLast?_eq_some_getLast (List.ne_nil_of_mem hgiven)⟩

theorem connect_mem_of_connection? {declarations : List Declaration} {source : RoadId}
    {list : List RoadId} (h : connection? declarations source = some list) :
    connect source list ∈ declarations := by
  obtain ⟨declaration, hin, hsome⟩ := List.mem_filterMap.mp (List.mem_of_getLast? h)
  cases declaration with
  | connect other successors =>
      obtain ⟨rfl, hlist⟩ := Option.ite_none_right_eq_some.mp hsome
      rw [← Option.some.inj hlist]
      exact hin
  | road course speed => cases hsome
  | entry id => cases hsome

theorem mem_follows_iff {declarations : List Declaration} {source target : RoadId} :
    target ∈ follows declarations source ↔
      ∃ list, connection? declarations source = some list ∧ target ∈ list := by
  unfold follows
  cases connection? declarations source with
  | none => simp
  | some list => simp

/-- Is a road of that identity declared? -/
def Known (declarations : List Declaration) (id : RoadId) : Prop :=
  id.index < (roads declarations).length

end Declaration

/-!
## Tables of successor lists
-/

namespace SuccessorTable

/-- The rows are in ascending order of the roads' identities, and no road has two. -/
def Ascending (table : SuccessorTable) : Prop :=
  table.Pairwise fun a b => a.1.index < b.1.index

variable {table : SuccessorTable} {road : RoadId} {successors : List RoadId}

theorem insert_cons (row : RoadId × List RoadId) (rows : SuccessorTable) :
    insert road successors (row :: rows) =
      if road.index < row.1.index then (road, successors) :: row :: rows
      else if road = row.1 then (road, successors) :: rows
      else row :: insert road successors rows := rfl

theorem mem_insert {row : RoadId × List RoadId} (h : row ∈ table.insert road successors) :
    row = (road, successors) ∨ row ∈ table := by
  induction table with
  | nil => exact Or.inl (List.mem_singleton.mp h)
  | cons other rows ih =>
      rw [insert_cons] at h
      split at h
      · exact List.mem_cons.mp h
      · split at h
        · exact (List.mem_cons.mp h).imp_right (List.mem_cons_of_mem _)
        · rcases List.mem_cons.mp h with hhead | htail
          · exact Or.inr (hhead ▸ List.mem_cons_self)
          · exact (ih htail).imp_right (List.mem_cons_of_mem _)

theorem Ascending.insert (h : table.Ascending) : (table.insert road successors).Ascending := by
  induction table with
  | nil => exact List.pairwise_singleton ..
  | cons other rows ih =>
      obtain ⟨hbelow, hrows⟩ := List.pairwise_cons.mp h
      rw [insert_cons]
      split
      · next hlt =>
          refine List.pairwise_cons.mpr ⟨List.forall_mem_cons.mpr ⟨hlt, ?_⟩, h⟩
          exact fun row hrow => Nat.lt_trans hlt (hbelow row hrow)
      · next hge =>
          split
          · next heq => exact List.pairwise_cons.mpr ⟨heq ▸ hbelow, hrows⟩
          · next hne =>
              refine List.pairwise_cons.mpr ⟨fun row hrow => ?_, ih hrows⟩
              rcases mem_insert hrow with rfl | hrow
              · have hindex : other.1.index ≠ road.index :=
                  fun heq => hne (RoadId.eq_of_index_eq heq.symm)
                exact Nat.lt_of_le_of_ne (Nat.le_of_not_lt hge) hindex
              · exact hbelow row hrow

/-- In a table in order a road has no row before those of the roads below it. -/
theorem Ascending.lookup_eq_none (h : table.Ascending) {id : RoadId}
    (hbelow : ∀ row ∈ table, id.index < row.1.index) : table.lookup id = none := by
  induction table with
  | nil => rfl
  | cons other rows ih =>
      obtain ⟨hother, hrows⟩ := List.forall_mem_cons.mp hbelow
      have hne : (id == other.1) = false := by
        rw [beq_eq_false_iff_ne]
        intro heq
        subst heq
        exact Nat.lt_irrefl _ hother
      rw [List.lookup_cons, hne]
      exact ih (List.pairwise_cons.mp h).2 hrows

/-- Setting the list of one road leaves those of the others. -/
theorem Ascending.lookup_insert (h : table.Ascending) (id : RoadId) :
    (table.insert road successors).lookup id =
      if id = road then some successors else table.lookup id := by
  have hhead : ∀ rows : SuccessorTable, List.lookup id ((road, successors) :: rows) =
      if id = road then some successors else rows.lookup id := by
    intro rows
    rw [List.lookup_cons]
    by_cases heq : id = road
    · rw [if_pos heq, beq_iff_eq.mpr heq]
    · rw [if_neg heq, beq_eq_false_iff_ne.mpr heq]
  induction table with
  | nil => exact hhead []
  | cons other rows ih =>
      obtain ⟨hbelow, hrows⟩ := List.pairwise_cons.mp h
      rw [insert_cons]
      split
      · exact hhead _
      · split
        · next heq =>
            rw [hhead, List.lookup_cons, ← heq]
            by_cases hid : id = road
            · rw [if_pos hid, if_pos hid]
            · rw [if_neg hid, if_neg hid, beq_eq_false_iff_ne.mpr hid]
        · next hne =>
            rw [List.lookup_cons, List.lookup_cons, ih hrows]
            by_cases hid : id = other.1
            · have hroad : ¬ id = road := fun heq => hne (heq.symm.trans hid)
              rw [if_neg hroad, if_neg hroad]
            · rw [beq_eq_false_iff_ne.mpr hid]

/-- In a table in order the rows are what is looked up. -/
theorem Ascending.mem_iff_lookup (h : table.Ascending) (id : RoadId) (list : List RoadId) :
    (id, list) ∈ table ↔ table.lookup id = some list := by
  induction table with
  | nil => exact ⟨nofun, nofun⟩
  | cons other rows ih =>
      obtain ⟨hbelow, hrows⟩ := List.pairwise_cons.mp h
      rw [List.mem_cons, List.lookup_cons, ih hrows]
      by_cases hid : id = other.1
      · have hnone : rows.lookup id = none := Ascending.lookup_eq_none hrows (hid ▸ hbelow)
        rw [beq_iff_eq.mpr hid, hnone]
        constructor
        · intro hor
          rcases hor with hrow | hno
          · exact congrArg some (congrArg Prod.snd hrow).symm
          · exact nomatch hno
        · intro hlist
          exact Or.inl (Prod.ext hid (Option.some.inj hlist).symm)
      · rw [beq_eq_false_iff_ne.mpr hid]
        exact ⟨fun hor => hor.resolve_left fun hrow => hid (congrArg Prod.fst hrow), Or.inr⟩

end SuccessorTable

/-!
## The plan of a list of declarations
-/

open Declaration

/-- The plan of the declarations so far. -/
structure Collects (plan : Plan) (declarations : List Declaration) : Prop where
  roads : plan.roads = (roads declarations).mapIdx fun index road =>
    { id := ⟨index⟩, course := road.1, speed := road.2 }
  ascending : plan.connections.Ascending
  lookup : ∀ id, plan.connections.lookup id = connection? declarations id
  entryPoints : plan.entryPoints = (entries declarations).eraseDups

namespace Collects

variable {plan : Plan} {declarations : List Declaration}

theorem empty : Collects {} [] := ⟨rfl, List.Pairwise.nil, fun _ => rfl, rfl⟩

theorem declare_road (h : Collects plan declarations) (course : Course) (speed : Float32) :
    Collects (plan.declare (.road course speed)) (declarations ++ [.road course speed]) := by
  have hlength : plan.roads.length = (Declaration.roads declarations).length := by
    rw [h.roads, List.length_mapIdx]
  refine ⟨?_, h.ascending, fun id => ?_, ?_⟩
  · rw [roads_append]
    change plan.roads ++ [_] = (Declaration.roads declarations ++ [(course, speed)]).mapIdx _
    rw [List.mapIdx_concat, ← h.roads, hlength]
  · rw [connection?, connections_append]
    exact (h.lookup id).trans (congrArg List.getLast? (List.append_nil _).symm)
  · rw [entries_append]
    exact h.entryPoints.trans (congrArg List.eraseDups (List.append_nil _).symm)

/-- The list given last takes the place of one given before. -/
theorem declare_connect (h : Collects plan declarations) (source : RoadId)
    (successors : List RoadId) :
    Collects (plan.declare (.connect source successors))
      (declarations ++ [.connect source successors]) := by
  refine ⟨?_, h.ascending.insert, fun id => ?_, ?_⟩
  · rw [roads_append]
    exact h.roads.trans (congrArg (List.mapIdx _) (List.append_nil _).symm)
  · have hgiven : connections [.connect source successors] id =
        if id = source then [successors] else [] := by
      by_cases hid : id = source
      · simp [connections, hid]
      · simp [connections, hid, Ne.symm hid]
    change (plan.connections.insert source successors).lookup id = _
    rw [h.ascending.lookup_insert, connection?, connections_append, hgiven, h.lookup]
    by_cases hid : id = source
    · rw [if_pos hid, if_pos hid, List.getLast?_concat]
    · rw [if_neg hid, if_neg hid, List.append_nil, connection?]
  · rw [entries_append]
    exact h.entryPoints.trans (congrArg List.eraseDups (List.append_nil _).symm)

/-- An entry point counts where it is declared first. -/
theorem entryPoints_addEntryPoint (h : Collects plan declarations) (id : RoadId) :
    (plan.addEntryPoint id).entryPoints = (entries declarations ++ [id]).eraseDups := by
  have hmem : id ∈ plan.entryPoints ↔ id ∈ entries declarations := by
    rw [h.entryPoints, List.mem_eraseDups]
  rw [List.eraseDups_append, ← h.entryPoints]
  unfold Plan.addEntryPoint
  by_cases hin : id ∈ plan.entryPoints
  · have hnone : [id].removeAll (entries declarations) = [] := by
      simp [List.removeAll, hmem.mp hin]
    rw [if_pos hin, hnone, List.eraseDups_nil, List.append_nil]
  · have hone : [id].removeAll (entries declarations) = [id] := by
      simp [List.removeAll, mt hmem.mpr hin]
    rw [if_neg hin, hone]
    rfl

theorem declare_entry (h : Collects plan declarations) (id : RoadId) :
    Collects (plan.declare (.entry id)) (declarations ++ [.entry id]) := by
  have hsame : (plan.addEntryPoint id).roads = plan.roads ∧
      (plan.addEntryPoint id).connections = plan.connections := by
    unfold Plan.addEntryPoint
    split <;> exact ⟨rfl, rfl⟩
  refine ⟨?_, ?_, fun other => ?_, ?_⟩
  · rw [roads_append]
    exact hsame.1.trans (h.roads.trans (congrArg (List.mapIdx _) (List.append_nil _).symm))
  · exact hsame.2 ▸ h.ascending
  · rw [connection?, connections_append]
    have hlookup := h.lookup other
    rw [← hsame.2] at hlookup
    exact hlookup.trans (congrArg List.getLast? (List.append_nil _).symm)
  · rw [entries_append]
    exact h.entryPoints_addEntryPoint id

/-- A plan that has collected some declarations collects one more. -/
theorem declare (h : Collects plan declarations) (declaration : Declaration) :
    Collects (plan.declare declaration) (declarations ++ [declaration]) := by
  cases declaration with
  | road course speed => exact h.declare_road course speed
  | connect source successors => exact h.declare_connect source successors
  | entry id => exact h.declare_entry id

end Collects

/-- The plan of a list of declarations has collected all of them. -/
theorem collects_ofDeclarations (declarations : List Declaration) :
    Collects (Plan.ofDeclarations declarations) declarations := by
  have hfold : ∀ (rest past : List Declaration) (plan : Plan), Collects plan past →
      Collects (rest.foldl Plan.declare plan) (past ++ rest) := by
    intro rest
    induction rest with
    | nil =>
        intro past plan hplan
        rw [List.append_nil]
        exact hplan
    | cons declaration rest ih =>
        intro past plan hplan
        have hstep := ih _ _ (hplan.declare declaration)
        rw [List.append_assoc] at hstep
        exact hstep
  exact hfold declarations [] {} .empty

end RoadTraffic
