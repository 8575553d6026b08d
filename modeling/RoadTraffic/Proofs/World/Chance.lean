import RoadTraffic.Proofs.World.Coupling

/-!
# Chance without a choice

A word is drawn for every car that is handed on, also where a single road follows.  So two
worlds with different random words come to different places in them, but as long as no road
is followed by two different roads nothing else is different: every command is replied the
same, and leaves the same network and the same counters (`observe_eq_of_noForks`).

What is used of the draws is only that something is chosen from a list that is not empty,
and that it is on the list.
-/

namespace RoadTraffic

/-- From a list of one thing, however often it is on it, all draws choose the same. -/
theorem Draws.choose_eq_of_forall_eq {α : Type} {choices : List α}
    (h : ∀ x ∈ choices, ∀ y ∈ choices, x = y) (one other : Draws) :
    (one.choose choices).1 = (other.choose choices).1 := by
  by_cases hnone : choices = []
  · rw [hnone]
    rfl
  · obtain ⟨x, left, hone, hx⟩ := one.choose_ne_nil hnone
    obtain ⟨y, right, hother, hy⟩ := other.choose_ne_nil hnone
    rw [hone, hother, h x hx y hy]

/-- Is no road followed by two different roads? -/
def Network.NoForks (network : Network) : Prop :=
  ∀ road ∈ network.roads, ∀ x ∈ road.successors, ∀ y ∈ road.successors, x = y

instance (network : Network) : Decidable network.NoForks :=
  inferInstanceAs (Decidable (∀ road ∈ network.roads, _))

/-- Worlds are compared but for their random words, on roads without forks. -/
def Coupling.chance : Coupling where
  road a b := a = b ∧ ∀ x ∈ a.successors, ∀ y ∈ a.successors, x = y
  draws _ _ := True
  road_id h := congrArg Road.id h.1
  receive h htag := ⟨h.1 ▸ Road.receive_eq htag _, h.2⟩
  setSignal signal h := ⟨congrArg (·.setSignal signal) h.1, h.2⟩
  toggleSignal h := ⟨congrArg Road.toggleSignal h.1, h.2⟩
  advance followingDistance h := by
    obtain ⟨rfl, hsuccessors⟩ := h
    exact ⟨⟨rfl, hsuccessors⟩, Car.forall₂_sameTag _⟩
  choose h _ := by
    obtain ⟨rfl, hsuccessors⟩ := h
    exact ⟨Draws.choose_eq_of_forall_eq hsuccessors _ _, trivial⟩

/-- What can be seen of a run: where the cars and the signals stand at its end, the counters,
and the replies. -/
structure Observation where
  /-- The roads with their queues and signals, and the entry points. -/
  network : Network
  stats : Stats
  nextCar : Nat
  replies : List Reply

namespace World

/-- What can be seen of a run from a world. -/
def observe (world : World) (commands : List Command) : Observation where
  network := (world.run commands).network
  stats := (world.run commands).stats
  nextCar := (world.run commands).nextCar
  replies := world.replies commands

theorem observe_eq_of_couples {a b : World} (h : Coupling.chance.Couples a b)
    (commands : List Command) : a.observe commands = b.observe commands := by
  obtain ⟨hfinal, hreplies⟩ := Coupling.run h commands
  have hroads : (a.run commands).network.roads = (b.run commands).network.roads := by
    rw [← List.forall₂_eq_eq_eq]
    refine hfinal.roads.imp ?_
    intro x y hroad
    exact hroad.1
  rw [observe, observe, Network.eq_of_fields hroads hfinal.entryPoints, hfinal.stats,
    hfinal.nextCar, hreplies]

/-- **Chance matters only at a choice.**  On a network without forks worlds are made or
refused alike, and nothing that can be seen of any run depends on the random words. -/
theorem observe_eq_of_noForks {network : Network} (h : network.NoForks) (config : Config)
    (one other : Draws) (commands : List Command) :
    (create network config one).map (·.observe commands) =
      (create network config other).map (·.observe commands) := by
  have hcouples : Coupling.chance.Couples { network, config, draws := one }
      { network, config, draws := other } :=
    { roads := List.forall₂_same.mpr fun road hroad => ⟨rfl, h road hroad⟩
      entryPoints := rfl
      config := ⟨rfl, rfl⟩
      stats := rfl
      nextCar := rfl
      draws := trivial }
  unfold create
  cases config.check with
  | error reason => rfl
  | ok => exact congrArg Except.ok (observe_eq_of_couples hcouples commands)

/-- A straight and an arc that lead round, the straight with the arc on its list twice,
another straight that joins them, and a dead end by itself. -/
def mergeDeclarations : List Declaration :=
  [.road (.straight ⟨⟨0, 0⟩, ⟨100, 0⟩⟩) 50, .road (.arc ⟨⟨100, 20⟩, 20, 0, 1, false⟩) 10,
    .road (.straight ⟨⟨0, 50⟩, ⟨100, 50⟩⟩) 40, .road (.straight ⟨⟨0, 90⟩, ⟨100, 90⟩⟩) 30,
    .connect ⟨0⟩ [⟨1⟩, ⟨1⟩], .connect ⟨1⟩ [⟨0⟩], .connect ⟨2⟩ [⟨1⟩],
    .entry ⟨0⟩, .entry ⟨2⟩, .entry ⟨3⟩]

/-- Two worlds in which words are drawn from different sources; a wave, a toggle of the
network and back, a spawn that is refused, and 12 ticks. -/
theorem observe_eq_of_noForks_merge :
    let network := (Plan.ofDeclarations mergeDeclarations).network
    let commands := [.spawnWave, .network .toggleSignals, .tick, .toggleSignals, .spawn 20 ⟨9⟩] ++
      List.replicate 11 Command.tick
    let one : World := { network, config := {}, draws := .ofSeed 1 }
    let other : World := { network, config := {}, draws := { word := fun _ => 0 } }
    ((Plan.ofDeclarations mergeDeclarations).check.isOk = true ∧ network.NoForks ∧
      (one.run commands).stats =
        { ticks := 12, carsSpawned := 3, handOffs := 7, carsDiscarded := 1, signalToggles := 1 } ∧
      (one.run commands).draws.drawn = 7 ∧ one.draws.word 0 ≠ other.draws.word 0) ∧
    (create network {} one.draws).map (·.observe commands) =
      (create network {} other.draws).map (·.observe commands) := by
  intro network commands one other
  have hforks : network.NoForks := by decide +kernel
  exact ⟨⟨by decide +kernel, hforks, by decide +kernel, by decide +kernel, by decide +kernel⟩,
    observe_eq_of_noForks hforks {} one.draws other.draws commands⟩

end World

end RoadTraffic
