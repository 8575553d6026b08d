import RoadTraffic.Proofs.Network.Frame
import RoadTraffic.Proofs.Road.QueueOrder
import RoadTraffic.Road.History

/-!
# Histories of a road by itself

Between two ticks cars enter a road and its signal is set; such a history is
`RoadAction.Quiet`, and it lets no car leave and moves none (`run_of_quiet`).

A history is `RoadAction.Proper` if only cars of some length enter, the following
distance is never below zero, and the speed of the road is left alone.  Then the road
stays orderly, and cars depart in the order in which they have entered,

    departed cars, and cars on the road  =  cars on the road before, and received cars

(`Orderly.run`).
-/

namespace RoadTraffic

namespace RoadAction

/-- Does the action neither move the cars nor change how they move? -/
def Quiet : RoadAction → Prop
  | .receive _ | .setSignal _ => True
  | .advance _ | .setSpeed _ => False

/-- The car that enters, if the action is that one does. -/
def received? : RoadAction → Option Car
  | .receive car => some car
  | _ => none

/-- Is the action one that keeps a queue in order? -/
def Proper : RoadAction → Prop
  | .receive car => 0 < car.length
  | .advance d => 0 ≤ d
  | .setSignal _ => True
  | .setSpeed _ => False

instance : DecidablePred Proper
  | .receive car => inferInstanceAs (Decidable (0 < car.length))
  | .advance d => inferInstanceAs (Decidable (0 ≤ d))
  | .setSignal _ => isTrue trivial
  | .setSpeed _ => isFalse id

end RoadAction

namespace Road

/-- The cars that a road receives in a history, in their order. -/
def receives (history : List RoadAction) : List Car := history.filterMap RoadAction.received?

theorem receives_map_receive (cars : List Car) : receives (cars.map .receive) = cars := by
  rw [receives, List.filterMap_map]
  exact List.filterMap_some

/-- Without a tick no car leaves, and those that enter stand behind the others. -/
theorem run_of_quiet (road : Road) {history : List RoadAction}
    (h : ∀ action ∈ history, action.Quiet) :
    (road.run history).2 = [] ∧ (road.run history).1.bare = road.bare ∧
      (road.run history).1.cars =
        road.cars ++ (receives history).map (·.entering road.course.startPose) := by
  induction history generalizing road with
  | nil => exact ⟨rfl, rfl, (List.append_nil _).symm⟩
  | cons action later ih =>
      obtain ⟨hquiet, hlater⟩ := List.forall_mem_cons.mp h
      rw [run_cons]
      cases action with
      | receive car =>
          obtain ⟨hleft, hbare, hcars⟩ := ih (road.receive car) hlater
          refine ⟨hleft, hbare, ?_⟩
          rw [act, hcars, receive, List.append_assoc]
          rfl
      | setSignal signal =>
          obtain ⟨hleft, hbare, hcars⟩ := ih (road.setSignal signal) hlater
          exact ⟨hleft, hbare, hcars⟩
      | advance d => exact hquiet.elim
      | setSpeed speed => exact hquiet.elim

theorem course_run (road : Road) (history : List RoadAction) :
    (road.run history).1.course = road.course := by
  induction history generalizing road with
  | nil => rfl
  | cons action later ih =>
      have hact : (road.act action).1.course = road.course := by cases action <;> rfl
      exact (ih _).trans hact

/-- **One action.**  An orderly road stays so, and the cars that depart are the front of
the queue. -/
theorem Orderly.act {road : Road} (h : road.Orderly) {action : RoadAction}
    (hproper : action.Proper) : (road.act action).1.Orderly ∧
      (road.act action).2.map Car.tag ++ (road.act action).1.cars.map Car.tag =
        road.cars.map Car.tag ++ (receives [action]).map Car.tag := by
  cases action with
  | receive car => exact ⟨h.receive (Binary32.le_of_lt hproper), List.map_append⟩
  | advance d =>
      obtain ⟨rest, hsplit, hkept⟩ := h.departed_append hproper
      have htags : road.cars.map Car.tag = (road.advance d).2.map Car.tag ++ rest.map Car.tag := by
        rw [← List.map_append, ← hsplit]
      refine ⟨h.advance hproper, ?_⟩
      rw [Road.act, hkept, htags]
      exact (List.append_nil _).symm
  | setSignal signal => exact ⟨h.setSignal signal, (List.append_nil _).symm⟩
  | setSpeed speed => exact hproper.elim

/-- **A proper history.**  An orderly road stays so, and what has left it and what stands on
it is what stood and what was received, in this order. -/
theorem Orderly.run {road : Road} (h : road.Orderly) {history : List RoadAction}
    (hproper : ∀ action ∈ history, action.Proper) : (road.run history).1.Orderly ∧
      (road.run history).2.map Car.tag ++ (road.run history).1.cars.map Car.tag =
        road.cars.map Car.tag ++ (receives history).map Car.tag := by
  induction history generalizing road with
  | nil => exact ⟨h, (List.append_nil _).symm⟩
  | cons action later ih =>
      obtain ⟨hfirst, hlater⟩ := List.forall_mem_cons.mp hproper
      obtain ⟨horderly, hqueue⟩ := h.act hfirst
      obtain ⟨hfinal, hrest⟩ := ih horderly hlater
      have hreceives : receives (action :: later) = receives [action] ++ receives later :=
        List.filterMap_append (l := [action])
      refine ⟨hfinal, ?_⟩
      rw [run_cons, hreceives]
      simp only [List.map_append]
      rw [← List.append_assoc, ← hqueue, List.append_assoc, List.append_assoc, hrest]

/-!
## The ticks of a history
-/

/-- A history up to its n-th tick, or all of it if it has no more ticks. -/
def upToTick : (n : Nat) → List RoadAction → List RoadAction
  | 0, _ => []
  | _ + 1, [] => []
  | n + 1, .advance d :: later => .advance d :: upToTick n later
  | n + 1, action :: later => action :: upToTick (n + 1) later

theorem upToTick_zero (history : List RoadAction) : upToTick 0 history = [] := by
  cases history <;> rfl

theorem upToTick_sublist (n : Nat) (history : List RoadAction) :
    (upToTick n history).Sublist history := by
  fun_induction upToTick n history with
  | case1 history => exact List.nil_sublist _
  | case2 n => exact List.Sublist.refl _
  | case3 n d later ih => exact ih.cons_cons _
  | case4 n action later _ ih => exact ih.cons_cons _

end Road

end RoadTraffic
