import RoadTraffic.Proofs.World.Counters

/-!
# Two worlds side by side

Whether something matters to traffic is a question about two runs: do two worlds that
differ in it take the same turns under the same commands?  A `Coupling` says how the roads
and the random words of two worlds are compared, and that each thing done to a single road
keeps the comparison:

    a car enters a road     onto roads that compare, from cars of one tag
    a signal is worked      on roads that compare
    a road advances         the roads still compare, and cars of one tag depart
    a road is chosen        it is the same road in both

Then every command keeps two worlds coupled and replies the same to both
(`Coupling.obey`), and so does every run (`Coupling.run`).  What a tick does between its
two phases need not be looked at again.

On the way from one road to the next nothing is left of a car but its tag; the road that it
enters gives it a new progress and a new pose.
-/

namespace RoadTraffic

section Pointwise

variable {α β : Type} {R : α → β → Prop} {as : List α} {bs : List β}

/-- Lists that compare member by member still do when one member of each is changed. -/
theorem forall₂_modify (h : List.Forall₂ R as bs) {f : α → α} {g : β → β}
    (hfg : ∀ a b, R a b → R (f a) (g b)) (index : Nat) :
    List.Forall₂ R (as.modify index f) (bs.modify index g) := by
  induction h generalizing index with
  | nil => simp
  | cons hhead htail ih =>
      cases index with
      | zero => exact .cons (hfg _ _ hhead) htail
      | succ index => exact .cons hhead (ih index)

theorem forall₂_getElem? (h : List.Forall₂ R as bs) (index : Nat) :
    (as[index]? = none ∧ bs[index]? = none) ∨
      ∃ a b, as[index]? = some a ∧ bs[index]? = some b ∧ R a b := by
  induction h generalizing index with
  | nil => exact Or.inl ⟨rfl, rfl⟩
  | cons hhead htail ih =>
      cases index with
      | zero => exact Or.inr ⟨_, _, rfl, rfl, hhead⟩
      | succ index => simpa only [List.getElem?_cons_succ] using ih index

end Pointwise

/-- Do two settings agree in all that a tick and a new car go by? -/
structure Config.SameForTraffic (a b : Config) : Prop where
  followingDistance : a.followingDistance = b.followingDistance
  defaultCarLength : a.defaultCarLength = b.defaultCarLength

/-- A way to compare two worlds that what is done to their roads keeps up. -/
structure Coupling where
  /-- Of roads in the same place. -/
  road : Road → Road → Prop
  draws : Draws → Draws → Prop
  road_id : ∀ {a b}, road a b → a.id = b.id
  receive : ∀ {a b c d}, road a b → Car.SameTag c d → road (a.receive c) (b.receive d)
  setSignal : ∀ {a b} signal, road a b → road (a.setSignal signal) (b.setSignal signal)
  toggleSignal : ∀ {a b}, road a b → road a.toggleSignal b.toggleSignal
  advance : ∀ {a b} followingDistance, road a b →
    road (a.advance followingDistance).1 (b.advance followingDistance).1 ∧
      List.Forall₂ Car.SameTag (a.advance followingDistance).2 (b.advance followingDistance).2
  choose : ∀ {a b x y}, road a b → draws x y →
    (x.choose a.successors).1 = (y.choose b.successors).1 ∧
      draws (x.choose a.successors).2 (y.choose b.successors).2

namespace Coupling

/-- Two worlds that compare in all their parts. -/
structure Couples (coupling : Coupling) (a b : World) : Prop where
  roads : List.Forall₂ coupling.road a.network.roads b.network.roads
  entryPoints : a.network.entryPoints = b.network.entryPoints
  config : a.config.SameForTraffic b.config
  stats : a.stats = b.stats
  nextCar : a.nextCar = b.nextCar
  draws : coupling.draws a.draws b.draws

variable {coupling : Coupling} {a b : World}

/-- A departed car with the road it left, in either world. -/
def SameDeparture (x y : RoadId × Car) : Prop := x.1 = y.1 ∧ x.2.SameTag y.2

theorem Couples.has (h : coupling.Couples a b) (id : RoadId) :
    a.network.has id = b.network.has id := by
  rw [Network.has, Network.has, h.roads.length_eq]

theorem Couples.modifyRoad (h : coupling.Couples a b) (id : RoadId) {f g : Road → Road}
    (hfg : ∀ x y, coupling.road x y → coupling.road (f x) (g y)) :
    List.Forall₂ coupling.road (a.network.modifyRoad id f).roads
      (b.network.modifyRoad id g).roads :=
  forall₂_modify h.roads hfg id.index

/-!
## Cars that are created
-/

theorem Couples.checkSpawn (h : coupling.Couples a b) (length : Float32) (road : RoadId) :
    a.checkSpawn length road = b.checkSpawn length road := by
  unfold World.checkSpawn
  rw [h.has road]

theorem Couples.addCar (h : coupling.Couples a b) (length : Float32) (road : RoadId) :
    coupling.Couples (a.addCar length road) (b.addCar length road) := by
  refine { h with roads := ?_, stats := ?_, nextCar := ?_ }
  · refine h.modifyRoad road fun x y hxy => coupling.receive hxy ?_
    rw [h.nextCar]
    rfl
  · simp only [World.addCar, h.stats]
  · simp only [World.addCar, h.nextCar]

theorem Couples.spawn (h : coupling.Couples a b) (length : Float32) (road : RoadId) :
    coupling.Couples (a.spawn length road).world (b.spawn length road).world ∧
      (a.spawn length road).result = (b.spawn length road).result := by
  have hcheck := h.checkSpawn length road
  cases hrefused : b.checkSpawn length road with
  | error reason =>
      rw [World.spawn_of_refused hrefused, World.spawn_of_refused (hcheck.trans hrefused)]
      exact ⟨h, rfl⟩
  | ok =>
      rw [World.spawn_of_check hrefused, World.spawn_of_check (hcheck.trans hrefused), h.nextCar]
      exact ⟨h.addCar length road, rfl⟩

theorem Couples.spawnEach (h : coupling.Couples a b) (length : Float32) (roads : List RoadId) :
    coupling.Couples (a.spawnEach length roads).world (b.spawnEach length roads).world ∧
      (a.spawnEach length roads).result = (b.spawnEach length roads).result := by
  induction roads generalizing a b with
  | nil => exact ⟨h, rfl⟩
  | cons road roads ih =>
      obtain ⟨hfirst, hresult⟩ := h.spawn length road
      simp only [World.spawnEach, hresult]
      cases (b.spawn length road).result with
      | error reason => exact ⟨hfirst, rfl⟩
      | ok id =>
          obtain ⟨hothers, hresults⟩ := ih hfirst
          exact ⟨hothers, congrArg (Except.map (id :: ·)) hresults⟩

/-!
## Signals
-/

theorem Couples.setSignal (h : coupling.Couples a b) (road : RoadId) (signal : Signal) :
    coupling.Couples (a.setSignal road signal).world (b.setSignal road signal).world ∧
      (a.setSignal road signal).result = (b.setSignal road signal).result := by
  have hhas := h.has road
  unfold World.setSignal Network.setSignal
  cases hexists : b.network.has road with
  | true =>
      rw [if_pos (hhas.trans hexists), if_pos rfl]
      exact ⟨{ h with roads := h.modifyRoad road fun _ _ => coupling.setSignal signal }, rfl⟩
  | false =>
      rw [if_neg (ne_true_of_eq_false (hhas.trans hexists)), if_neg Bool.false_ne_true]
      exact ⟨h, rfl⟩

theorem Couples.toggleRoads (h : coupling.Couples a b) :
    List.Forall₂ coupling.road a.network.toggleSignals.roads b.network.toggleSignals.roads := by
  refine List.rel_map ?_ h.roads
  intro x y hroad
  exact coupling.toggleSignal hroad

/-!
## A tick
-/

theorem Couples.advanceRoads (h : coupling.Couples a b) :
    coupling.Couples a.advanceRoads.1 b.advanceRoads.1 ∧
      List.Forall₂ SameDeparture a.departures b.departures := by
  have hdistance := h.config.followingDistance
  simp only [World.advanceRoads_eq, Network.advance_eq, World.departures, hdistance]
  refine ⟨{ h with roads := ?_, stats := ?_ }, ?_⟩
  · refine List.rel_map ?_ h.roads
    intro x y hroad
    exact (coupling.advance _ hroad).1
  · simp only [h.stats]
  · refine List.rel_flatMap h.roads fun x y hroad => ?_
    have hid := coupling.road_id hroad
    exact List.rel_map (fun _ _ hcar => ⟨hid, hcar⟩) (coupling.advance _ hroad).2

/-- The roads that follow one road are the same choice in both worlds, if there are any. -/
theorem Couples.choose (h : coupling.Couples a b) (id : RoadId) :
    (a.draws.choose (a.network.successors id)).1 = (b.draws.choose (b.network.successors id)).1 ∧
      coupling.draws (a.draws.choose (a.network.successors id)).2
        (b.draws.choose (b.network.successors id)).2 := by
  unfold Network.successors Network.road?
  rcases forall₂_getElem? h.roads id.index with ⟨ha, hb⟩ | ⟨x, y, ha, hb, hroad⟩
  · rw [ha, hb]
    exact ⟨rfl, h.draws⟩
  · rw [ha, hb]
    exact coupling.choose hroad h.draws

theorem Couples.deliver (h : coupling.Couples a b) (road : RoadId) {c d : Car}
    (hcar : c.SameTag d) :
    coupling.Couples (a.deliver road c) (b.deliver road d) := by
  unfold World.deliver
  rw [h.has road]
  split
  · refine { h with roads := ?_, stats := ?_ }
    · exact h.modifyRoad road fun _ _ hroad => coupling.receive hroad hcar
    · simp only [h.stats]
  · exact h

theorem Couples.handOff (h : coupling.Couples a b) (road : RoadId) {c d : Car}
    (hcar : c.SameTag d) :
    coupling.Couples (a.handOff road c).1 (b.handOff road d).1 := by
  obtain ⟨hchoice, hdraws⟩ := h.choose road
  cases ha : a.draws.choose (a.network.successors road) with
  | mk choice left =>
      cases hb : b.draws.choose (b.network.successors road) with
      | mk other right =>
          rw [ha, hb] at hchoice hdraws
          obtain rfl : choice = other := hchoice
          have hdrawn : coupling.Couples { a with draws := left } { b with draws := right } :=
            { h with draws := hdraws }
          cases choice with
          | none =>
              rw [a.handOff_of_choose_eq_none ha, b.handOff_of_choose_eq_none hb]
              refine { hdrawn with stats := ?_ }
              simp only [World.discard, h.stats]
          | some next =>
              rw [a.handOff_of_choose_eq_some ha, b.handOff_of_choose_eq_some hb]
              exact hdrawn.deliver next hcar

theorem Couples.handOffAll (h : coupling.Couples a b) {left right : List (RoadId × Car)}
    (hcars : List.Forall₂ SameDeparture left right) :
    coupling.Couples (a.handOffAll left).1 (b.handOffAll right).1 := by
  induction hcars generalizing a b with
  | nil => exact h
  | @cons x y left right hfirst _ ih =>
      obtain ⟨road, car⟩ := x
      obtain ⟨other, twin⟩ := y
      obtain ⟨hroad, hcar⟩ := hfirst
      obtain rfl : road = other := hroad
      exact ih (h.handOff road hcar)

theorem Couples.tick (h : coupling.Couples a b) : coupling.Couples a.tick.1 b.tick.1 := by
  have htick : ∀ world : World,
      world.tick.1 = (world.advanceRoads.1.handOffAll world.departures).1 := by
    intro world
    rw [World.tick, World.advanceRoads_eq]
  obtain ⟨hadvanced, hdepartures⟩ := h.advanceRoads
  rw [htick, htick]
  exact hadvanced.handOffAll hdepartures

/-!
## Every run
-/

/-- **One command.** -/
theorem obey (h : coupling.Couples a b) (command : Command) :
    coupling.Couples (a.obey command).world (b.obey command).world ∧
      (a.obey command).result = (b.obey command).result := by
  cases command with
  | tick => exact ⟨h.tick, rfl⟩
  | spawn length road => exact (h.spawn length road).imp_right (congrArg Reply.spawned)
  | spawnWave =>
      have hwave := h.spawnEach a.config.defaultCarLength a.network.entryPoints
      simp only [World.obey, World.spawnWave]
      rw [← h.config.defaultCarLength, ← h.entryPoints]
      exact hwave.imp_right (congrArg Reply.wave)
  | toggleSignals =>
      refine ⟨{ h with roads := h.toggleRoads, stats := ?_ }, rfl⟩
      simp only [World.obey, World.toggleSignals, h.stats]
  | setSignal road signal => exact (h.setSignal road signal).imp_right (congrArg Reply.signalSet)
  | configure config => exact ⟨{ h with config := ⟨rfl, rfl⟩ }, rfl⟩
  | network command =>
      cases command with
      | toggleSignals => exact ⟨{ h with roads := h.toggleRoads }, rfl⟩
      | setSignal road signal =>
          exact (h.setSignal road signal).imp_right (congrArg Reply.signalSet)

/-- **Every run.**  Coupled worlds take the same turns and stay coupled. -/
theorem run (h : coupling.Couples a b) (commands : List Command) :
    coupling.Couples (a.run commands) (b.run commands) ∧
      a.replies commands = b.replies commands := by
  induction commands generalizing a b with
  | nil => exact ⟨h, rfl⟩
  | cons command commands ih =>
      obtain ⟨hnext, hreply⟩ := obey h command
      obtain ⟨hfinal, hreplies⟩ := ih hnext
      refine ⟨hfinal, ?_⟩
      rw [World.replies, World.replies, hreply, hreplies]

end Coupling

end RoadTraffic
