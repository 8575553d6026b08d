import Mathlib
import RoadTraffic.Proofs.Network.Acceptance
import RoadTraffic.Proofs.Network.Graph

/-!
# The order of the declarations does not matter

Declarations of the three kinds may be mixed in any order.  What counts of a list are
the roads in their order, the successor list given last for each road, and the entry
points in the order in which each comes first.  Two lists that agree in this are
`SameDeclared`, and

    Plan.ofDeclarations first = Plan.ofDeclarations second    iff    SameDeclared first second

(`ofDeclarations_eq_iff`).  From equal plans come the same network or the same error,
with several faults in the lists too (`ofDeclarations_of_sameDeclared`).

The same can be said by moves.  `Rearranges first second` says that one list becomes
the other by moves that each touch one place: two neighbours that do not bear on each
other change places, a successor list that is replaced at once is left out, and so is
an entry point that was declared before.  By such moves every list comes to the form
in which its plan is written down (`Plan.declarations`), so they reach exactly the
lists that declare the same (`rearranges_iff`).
-/

namespace RoadTraffic

open Declaration

variable {first second third : List Declaration}

/-!
## Equal plans
-/

/-- Two tables in order with the same list for every road are the same. -/
theorem SuccessorTable.Ascending.eq_of_lookup {a b : SuccessorTable} (ha : a.Ascending)
    (hb : b.Ascending) (h : ∀ id, a.lookup id = b.lookup id) : a = b := by
  refine eq_of_pairwise_lt ha hb fun row => ?_
  obtain ⟨id, list⟩ := row
  rw [ha.mem_iff_lookup, hb.mem_iff_lookup, h]

/-- The two lists declare the same: the same roads in the same order, the same last
successor list for every road, declared or not, and the same entry points in the
order in which they come first. -/
structure SameDeclared (first second : List Declaration) : Prop where
  roads : roads first = roads second
  connection : ∀ id, connection? first id = connection? second id
  entries : (entries first).eraseDups = (entries second).eraseDups

namespace SameDeclared

theorem refl (declarations : List Declaration) : SameDeclared declarations declarations :=
  ⟨rfl, fun _ => rfl, rfl⟩

theorem symm (h : SameDeclared first second) : SameDeclared second first :=
  ⟨h.roads.symm, fun id => (h.connection id).symm, h.entries.symm⟩

theorem trans (h : SameDeclared first second) (hnext : SameDeclared second third) :
    SameDeclared first third :=
  ⟨h.roads.trans hnext.roads, fun id => (h.connection id).trans (hnext.connection id),
    h.entries.trans hnext.entries⟩

end SameDeclared

theorem Plan.eq_of_fields {a b : Plan} (hroads : a.roads = b.roads)
    (hconnections : a.connections = b.connections) (hentries : a.entryPoints = b.entryPoints) :
    a = b := by
  cases a
  cases b
  cases hroads
  cases hconnections
  cases hentries
  rfl

/-- What has been collected determines the plan. -/
theorem Collects.eq_of_sameDeclared {a b : Plan} (ha : Collects a first)
    (hb : Collects b second) (h : SameDeclared first second) : a = b := by
  refine Plan.eq_of_fields ?_ ?_ ?_
  · rw [ha.roads, hb.roads, h.roads]
  · refine ha.ascending.eq_of_lookup hb.ascending fun id => ?_
    rw [ha.lookup, hb.lookup, h.connection]
  · rw [ha.entryPoints, hb.entryPoints, h.entries]

/-- The plan determines what has been collected. -/
theorem Collects.sameDeclared {plan : Plan} (ha : Collects plan first)
    (hb : Collects plan second) : SameDeclared first second := by
  have hcourses : ∀ {declarations : List Declaration}, Collects plan declarations →
      plan.roads.map (fun road => (road.course, road.speed)) = Declaration.roads declarations := by
    intro declarations h
    rw [h.roads]
    refine List.ext_getElem (by simp) fun index hleft hright => ?_
    simp
  exact ⟨(hcourses ha).symm.trans (hcourses hb), fun id => (ha.lookup id).symm.trans (hb.lookup id),
    ha.entryPoints.symm.trans hb.entryPoints⟩

/-- Two lists give the same plan exactly if they declare the same. -/
theorem Plan.ofDeclarations_eq_iff : Plan.ofDeclarations first = Plan.ofDeclarations second ↔
    SameDeclared first second := by
  have ha := collects_ofDeclarations first
  have hb := collects_ofDeclarations second
  constructor
  · intro heq
    rw [heq] at ha
    exact ha.sameDeclared hb
  · exact ha.eq_of_sameDeclared hb

/-!
## Equal networks
-/

namespace Network

/-- **The order does not matter.**  Lists that declare the same give the same graph,
and either both are accepted and give the same network or both are refused with the
same error. -/
theorem ofDeclarations_of_sameDeclared (h : SameDeclared first second) :
    (Plan.ofDeclarations first).edges = (Plan.ofDeclarations second).edges ∧
    ((∃ a b, ofDeclarations first = .ok a ∧ ofDeclarations second = .ok b ∧
        a.roads = b.roads ∧ (∀ id, a.successors id = b.successors id) ∧
        a.entryPoints = b.entryPoints ∧ ∀ x y, a.isReachable x y = b.isReachable x y) ∨
      ∃ error, ofDeclarations first = .error error ∧ ofDeclarations second = .error error) := by
  have hplan : Plan.ofDeclarations first = Plan.ofDeclarations second :=
    Plan.ofDeclarations_eq_iff.mpr h
  have hbuild : ofDeclarations first = ofDeclarations second := by
    rw [ofDeclarations, hplan, ofDeclarations]
  refine ⟨congrArg Plan.edges hplan, ?_⟩
  rw [hbuild]
  cases ofDeclarations second with
  | ok network =>
      exact Or.inl ⟨network, network, rfl, rfl, rfl, fun _ => rfl, rfl, fun _ _ => rfl⟩
  | error error => exact Or.inr ⟨error, rfl, rfl⟩

/-- Two roads in a circle, declared road by road. -/
def inOrder : List Declaration :=
  [.road (.straight ⟨⟨0, 0⟩, ⟨100, 0⟩⟩) 5, .road (.straight ⟨⟨100, 0⟩, ⟨0, 0⟩⟩) 5,
    .connect ⟨0⟩ [⟨1⟩], .connect ⟨1⟩ [⟨0⟩], .entry ⟨0⟩, .entry ⟨1⟩]

/-- The same circle: entry points and successors before the roads, an entry point
twice, and a successor list that is replaced later. -/
def mixed : List Declaration :=
  [.entry ⟨0⟩, .connect ⟨1⟩ [⟨7⟩], .connect ⟨0⟩ [⟨1⟩],
    .road (.straight ⟨⟨0, 0⟩, ⟨100, 0⟩⟩) 5, .entry ⟨0⟩, .connect ⟨1⟩ [⟨0⟩], .entry ⟨1⟩,
    .road (.straight ⟨⟨100, 0⟩, ⟨0, 0⟩⟩) 5]

theorem sameDeclared_mixed : SameDeclared inOrder mixed := by
  refine ⟨rfl, fun id => ?_, rfl⟩
  by_cases hone : (⟨1⟩ : RoadId) = id
  · subst hone
    rfl
  · simp [inOrder, mixed, connection?, connections, hone]

theorem ofDeclarations_of_sameDeclared_mixed :
    SameDeclared inOrder mixed ∧ (Plan.ofDeclarations mixed).check.isOk = true ∧
    (Plan.ofDeclarations inOrder).edges = (Plan.ofDeclarations mixed).edges ∧
    ((∃ a b, ofDeclarations inOrder = .ok a ∧ ofDeclarations mixed = .ok b ∧
        a.roads = b.roads ∧ (∀ id, a.successors id = b.successors id) ∧
        a.entryPoints = b.entryPoints ∧ ∀ x y, a.isReachable x y = b.isReachable x y) ∨
      ∃ error, ofDeclarations inOrder = .error error ∧ ofDeclarations mixed = .error error) :=
  ⟨sameDeclared_mixed, by decide +kernel, ofDeclarations_of_sameDeclared sameDeclared_mixed⟩

end Network

/-!
## Moves
-/

namespace Declaration

/-- The two declarations do not bear on each other: they are of different kinds, or
give the successors of different roads. -/
def Independent : Declaration → Declaration → Prop
  | .road _ _, .road _ _ => False
  | .entry _, .entry _ => False
  | .connect a _, .connect b _ => a ≠ b
  | _, _ => True

theorem Independent.symm {a b : Declaration} (h : Independent a b) : Independent b a := by
  cases a <;> cases b <;> first | exact h | exact Ne.symm h

end Declaration

/-- The lists become each other by moves that do not change what is declared. -/
inductive Rearranges : List Declaration → List Declaration → Prop
  | refl (declarations : List Declaration) : Rearranges declarations declarations
  | symm {first second : List Declaration} (h : Rearranges first second) :
      Rearranges second first
  | trans {first second third : List Declaration} (h : Rearranges first second)
      (hnext : Rearranges second third) : Rearranges first third
  /-- Neighbours that do not bear on each other change places. -/
  | swapped (before after : List Declaration) {a b : Declaration} (h : Independent a b) :
      Rearranges (before ++ a :: b :: after) (before ++ b :: a :: after)
  /-- A successor list that is replaced at once is left out. -/
  | replaced (before after : List Declaration) (road : RoadId) (old new : List RoadId) :
      Rearranges (before ++ .connect road old :: .connect road new :: after)
        (before ++ .connect road new :: after)
  /-- An entry point that was declared before is left out. -/
  | repeated (before after : List Declaration) {id : RoadId} (h : .entry id ∈ before) :
      Rearranges (before ++ .entry id :: after) (before ++ after)

/-!
### The moves keep what is declared
-/

/-- What a part of a list declares may be exchanged in place, if it is the same to the
last repetition. -/
theorem SameDeclared.of_part (before after : List Declaration)
    (hroads : Declaration.roads first = Declaration.roads second)
    (hconnections : ∀ id, connections first id = connections second id)
    (hentries : Declaration.entries first = Declaration.entries second) :
    SameDeclared (before ++ first ++ after) (before ++ second ++ after) := by
  refine ⟨?_, fun id => ?_, ?_⟩
  · simp only [roads_append, hroads]
  · simp only [connection?, connections_append, hconnections]
  · simp only [entries_append, hentries]

theorem connections_cons_connect (road : RoadId) (list : List RoadId) (after : List Declaration)
    (id : RoadId) : connections (.connect road list :: after) id =
      (if road = id then [list] else []) ++ connections after id := by
  by_cases hid : road = id
  · simp [connections, hid]
  · simp [connections, hid]

theorem sameDeclared_swapped (before after : List Declaration) {a b : Declaration}
    (h : Independent a b) :
    SameDeclared (before ++ a :: b :: after) (before ++ b :: a :: after) := by
  have hpart : Declaration.roads [a, b] = Declaration.roads [b, a] ∧
      (∀ id, connections [a, b] id = connections [b, a] id) ∧
      Declaration.entries [a, b] = Declaration.entries [b, a] := by
    cases a with
    | road course speed => cases b with
        | road => exact h.elim
        | connect => exact ⟨rfl, fun _ => rfl, rfl⟩
        | entry => exact ⟨rfl, fun _ => rfl, rfl⟩
    | connect road successors => cases b with
        | road => exact ⟨rfl, fun _ => rfl, rfl⟩
        | connect other list =>
            refine ⟨rfl, fun id => ?_, rfl⟩
            simp only [connections_cons_connect]
            by_cases hroad : road = id
            · have hother : ¬ other = id := fun heq => h (hroad.trans heq.symm)
              rw [if_neg hother, List.nil_append, List.nil_append]
            · rw [if_neg hroad, List.nil_append, List.nil_append]
        | entry => exact ⟨rfl, fun _ => rfl, rfl⟩
    | entry id => cases b with
        | road => exact ⟨rfl, fun _ => rfl, rfl⟩
        | connect => exact ⟨rfl, fun _ => rfl, rfl⟩
        | entry => exact h.elim
  have hsame := SameDeclared.of_part before after hpart.1 hpart.2.1 hpart.2.2
  rwa [List.append_assoc, List.append_assoc] at hsame

theorem sameDeclared_replaced (before after : List Declaration) (road : RoadId)
    (old new : List RoadId) :
    SameDeclared (before ++ .connect road old :: .connect road new :: after)
      (before ++ .connect road new :: after) := by
  refine ⟨?_, fun id => ?_, ?_⟩
  · rw [roads_append, roads_append]
    rfl
  · rw [connection?, connection?, connections_append, connections_append]
    simp only [connections_cons_connect]
    by_cases hid : road = id
    · rw [if_pos hid, if_pos hid, List.singleton_append, List.singleton_append,
        List.getLast?_append, List.getLast?_append, List.getLast?_cons_cons]
    · rw [if_neg hid, if_neg hid, List.nil_append]
  · rw [entries_append, entries_append]
    rfl

theorem sameDeclared_repeated (before after : List Declaration) {id : RoadId}
    (h : .entry id ∈ before) :
    SameDeclared (before ++ .entry id :: after) (before ++ after) := by
  refine ⟨?_, fun other => ?_, ?_⟩
  · rw [roads_append, roads_append]
    rfl
  · rw [connection?, connection?, connections_append, connections_append]
    rfl
  · have hin : id ∈ entries before := List.mem_filterMap.mpr ⟨_, h, rfl⟩
    have hcons : entries (.entry id :: after) = id :: entries after := rfl
    have hdrop : (id :: entries after).removeAll (entries before) =
        (entries after).removeAll (entries before) := by
      simp [List.removeAll, hin]
    rw [entries_append, entries_append, hcons, List.eraseDups_append, List.eraseDups_append, hdrop]

theorem Rearranges.sameDeclared (h : Rearranges first second) : SameDeclared first second := by
  induction h with
  | refl declarations => exact .refl declarations
  | symm _ ih => exact ih.symm
  | trans _ _ ih ihnext => exact ih.trans ihnext
  | swapped before after h => exact sameDeclared_swapped before after h
  | replaced before after road old new => exact sameDeclared_replaced before after road old new
  | repeated before after h => exact sameDeclared_repeated before after h

/-!
### Every list comes to the form of its plan
-/

namespace Rearranges

theorem append (before after : List Declaration) (h : Rearranges first second) :
    Rearranges (before ++ first ++ after) (before ++ second ++ after) := by
  induction h with
  | refl => exact .refl _
  | symm _ ih => exact ih.symm
  | trans _ _ ih ihnext => exact ih.trans ihnext
  | swapped inner outer h =>
      have hmove := Rearranges.swapped (before ++ inner) (outer ++ after) h
      simpa only [List.append_assoc, List.cons_append] using hmove
  | replaced inner outer road old new =>
      have hmove := Rearranges.replaced (before ++ inner) (outer ++ after) road old new
      simpa only [List.append_assoc, List.cons_append] using hmove
  | repeated inner outer h =>
      have hmove := Rearranges.repeated (before ++ inner) (outer ++ after)
        (List.mem_append_right before h)
      simpa only [List.append_assoc, List.cons_append] using hmove

/-- A declaration moves to the front of those that it does not bear on. -/
theorem moved (list after : List Declaration) {declaration : Declaration}
    (h : ∀ other ∈ list, Independent other declaration) :
    Rearranges (list ++ declaration :: after) (declaration :: list ++ after) := by
  induction list with
  | nil => exact .refl _
  | cons other list ih =>
      obtain ⟨hother, hlist⟩ := List.forall_mem_cons.mp h
      have hinner := (ih hlist).append [other] []
      rw [List.append_nil, List.append_nil] at hinner
      exact hinner.trans (.swapped [] (list ++ after) hother)

end Rearranges

/-- A plan written down again: its roads, then its connections, then its entry points. -/
def Plan.declarations (plan : Plan) : List Declaration :=
  plan.roads.map (fun road => .road road.course road.speed) ++
    plan.connections.map (fun row => .connect row.1 row.2) ++ plan.entryPoints.map .entry

/-- A successor list given behind a table in order finds its place there. -/
theorem SuccessorTable.Ascending.rearranges_insert {table : SuccessorTable} (h : table.Ascending)
    (road : RoadId) (successors : List RoadId) :
    Rearranges (table.map (fun row => .connect row.1 row.2) ++ [.connect road successors])
      ((table.insert road successors).map fun row => .connect row.1 row.2) := by
  induction table with
  | nil => exact .refl _
  | cons other rows ih =>
      obtain ⟨hbelow, hrows⟩ := List.pairwise_cons.mp h
      -- Among rows of other roads the new list moves to the front.
      have hfront : ∀ list : SuccessorTable, (∀ row ∈ list, row.1 ≠ road) →
          Rearranges (list.map (fun row => Declaration.connect row.1 row.2) ++
              [.connect road successors])
            (.connect road successors :: list.map fun row => .connect row.1 row.2) := by
        intro list hne
        have hfree : ∀ declaration ∈ list.map (fun row => Declaration.connect row.1 row.2),
            Independent declaration (.connect road successors) := by
          intro declaration hin
          obtain ⟨row, hrow, rfl⟩ := List.mem_map.mp hin
          exact hne row hrow
        have hmoved := Rearranges.moved _ [] hfree
        rwa [List.append_nil] at hmoved
      rw [SuccessorTable.insert_cons]
      split
      · next hlt =>
          refine hfront (other :: rows) (List.forall_mem_cons.mpr ⟨?_, fun row hrow => ?_⟩)
          · exact fun heq => Nat.lt_irrefl _ (heq ▸ hlt)
          · exact fun heq => Nat.lt_asymm hlt (heq ▸ hbelow row hrow)
      · split
        · next heq =>
            have hne : ∀ row ∈ rows, row.1 ≠ road := fun row hrow hsame =>
              Nat.lt_irrefl _ (hsame ▸ heq ▸ hbelow row hrow)
            have hinner := (hfront rows hne).append [.connect other.1 other.2] []
            rw [List.append_nil, List.append_nil] at hinner
            subst heq
            exact hinner.trans (.replaced [] _ other.1 other.2 successors)
        · have hinner := (ih hrows).append [.connect other.1 other.2] []
          rwa [List.append_nil, List.append_nil] at hinner

/-- A declaration behind those of a plan finds its place among them. -/
theorem Plan.rearranges_declare {plan : Plan} (h : plan.connections.Ascending)
    (declaration : Declaration) :
    Rearranges (plan.declarations ++ [declaration]) (plan.declare declaration).declarations := by
  cases declaration with
  | road course speed =>
      have hfree : ∀ other ∈ plan.connections.map (fun row => Declaration.connect row.1 row.2) ++
          plan.entryPoints.map .entry, Independent other (.road course speed) := by
        intro other hin
        rcases List.mem_append.mp hin with hin | hin
        · obtain ⟨row, -, rfl⟩ := List.mem_map.mp hin
          exact trivial
        · obtain ⟨id, -, rfl⟩ := List.mem_map.mp hin
          exact trivial
      have hplace := (Rearranges.moved _ [] hfree).append
        (plan.roads.map fun road => .road road.course road.speed) []
      simpa [declarations, declare, addRoad] using hplace
  | connect road successors =>
      have hfree : ∀ other ∈ plan.entryPoints.map Declaration.entry,
          Independent other (.connect road successors) := by
        intro other hin
        obtain ⟨id, -, rfl⟩ := List.mem_map.mp hin
        exact trivial
      have hback := (Rearranges.moved _ [] hfree).append
        (plan.roads.map (fun road => .road road.course road.speed) ++
          plan.connections.map fun row => .connect row.1 row.2) []
      have hplace := (h.rearranges_insert road successors).append
        (plan.roads.map fun road => .road road.course road.speed) (plan.entryPoints.map .entry)
      simp only [List.append_nil, List.append_assoc, List.singleton_append] at hback hplace
      simpa [declarations, declare, Plan.connect] using hback.trans hplace
  | entry id =>
      rw [declare, addEntryPoint]
      split
      · next hin =>
          have hbefore : Declaration.entry id ∈ plan.declarations :=
            List.mem_append_right _ (List.mem_map_of_mem hin)
          have hdrop := Rearranges.repeated plan.declarations [] hbefore
          rwa [List.append_nil] at hdrop
      · have hsame : plan.declarations ++ [.entry id] =
            { plan with entryPoints := plan.entryPoints ++ [id] }.declarations := by
          simp [declarations]
        rw [hsame]
        exact .refl _

/-- Every list comes to the form of its plan. -/
theorem rearranges_declarations (declarations : List Declaration) :
    Rearranges declarations (Plan.ofDeclarations declarations).declarations := by
  induction declarations using List.reverseRecOn with
  | nil => exact .refl []
  | append_singleton list declaration ih =>
      have hstep : Plan.ofDeclarations (list ++ [declaration]) =
          (Plan.ofDeclarations list).declare declaration := by
        rw [Plan.ofDeclarations, Plan.ofDeclarations, List.foldl_concat]
      have hfront := ih.append [] [declaration]
      rw [hstep]
      exact hfront.trans (Plan.rearranges_declare (collects_ofDeclarations list).ascending _)

/-- The moves reach exactly the lists that declare the same. -/
theorem rearranges_iff : Rearranges first second ↔ SameDeclared first second := by
  constructor
  · exact Rearranges.sameDeclared
  · intro h
    have hplan := Plan.ofDeclarations_eq_iff.mpr h
    have hfirst := rearranges_declarations first
    rw [hplan] at hfirst
    exact hfirst.trans (rearranges_declarations second).symm

end RoadTraffic
