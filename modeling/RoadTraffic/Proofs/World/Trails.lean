import RoadTraffic.Proofs.Network.Graph
import RoadTraffic.Proofs.World.Departures

/-!
# The trail of a car

A car enters a road when it is spawned there or delivered there.  The roads that it
enters in a run, in their order, are its `World.visits`, and

* each of them follows the one before it,
* as long as the car stands, it stands on the last of them

(`Trail`).  This is kept by every command (`Trail.obey`), since of one car at most one
entrance happens at a time: identities are distinct, and new ones are given once.  So
where a car comes to stand later can be reached from where it stands now.
-/

namespace RoadTraffic

/-- The road and the car, if the event is that a car is spawned. -/
def Event.entrance? : Event → Option (RoadId × CarId)
  | .carSpawned car _ road => some (road, car)
  | _ => none

/-- Among entries with distinct keys at most one has a given key. -/
theorem filter_eq_nil_or_singleton {α β : Type} [DecidableEq β] {key : α → β} {list : List α}
    (h : (list.map key).Nodup) (k : β) :
    list.filter (key · = k) = [] ∨
      ∃ a ∈ list, key a = k ∧ list.filter (key · = k) = [a] := by
  cases hfilter : list.filter (key · = k) with
  | nil => exact Or.inl rfl
  | cons a others =>
      have hall : ∀ b ∈ a :: others, b ∈ list ∧ key b = k := by
        intro b hb
        rw [← hfilter] at hb
        exact ⟨(List.mem_filter.mp hb).1, of_decide_eq_true (List.mem_filter.mp hb).2⟩
      have hothers : others = [] := by
        refine List.eq_nil_iff_forall_not_mem.mpr fun b hb => ?_
        have hsub : ((a :: others).map key).Nodup := by
          rw [← hfilter]
          exact h.sublist (List.filter_sublist.map key)
        rw [List.map_cons, List.nodup_cons] at hsub
        have hsame := (hall a List.mem_cons_self).2.trans
          (hall b (List.mem_cons_of_mem _ hb)).2.symm
        exact hsub.1 (hsame ▸ List.mem_map_of_mem hb)
      obtain ⟨hmem, hkey⟩ := hall a List.mem_cons_self
      exact Or.inr ⟨a, hmem, hkey, hothers ▸ rfl⟩

namespace World

variable {world : World} {car : CarId}

/-!
## Entrances
-/

/-- The cars that enter roads when a command is obeyed, with the roads, in their
order. -/
def entrances (world : World) : Command → List (RoadId × CarId)
  | .tick => (route world.network.successors world.draws world.departures).map
      fun delivery => (delivery.1, delivery.2.id)
  | command => (world.obey command).events.filterMap Event.entrance?

/-- The roads that a car visits in a run, in their order. -/
def visits (world : World) (car : CarId) : List Command → List RoadId
  | [] => []
  | command :: commands =>
    ((world.entrances command).filter (·.2 = car)).map Prod.fst ++
      (world.obey command).world.visits car commands

theorem visits_append (world : World) (car : CarId) (first second : List Command) :
    world.visits car (first ++ second) =
      world.visits car first ++ (world.run first).visits car second := by
  induction first generalizing world with
  | nil => rfl
  | cons command commands ih =>
      rw [List.cons_append, visits, visits, ih, List.append_assoc, run_cons]

/-- A car enters a road exactly if this is one of its entrances. -/
theorem mem_entering_iff {id : RoadId} (command : Command) :
    car ∈ world.entering id command ↔ (id, car) ∈ world.entrances command := by
  have hevents : ∀ events : List Event, car ∈ events.filterMap (Event.entered? id) ↔
      (id, car) ∈ events.filterMap Event.entrance? := by
    intro events
    simp only [List.mem_filterMap]
    refine exists_congr fun event => and_congr_right fun _ => ?_
    cases event with
    | carSpawned spawned length road =>
        simp only [Event.entered?, Event.entrance?, Option.ite_none_right_eq_some,
          Option.some.injEq, Prod.mk.injEq]
    | _ => constructor <;> intro heq <;> cases heq
  cases command with
  | tick =>
      simp only [entering, entrances, List.mem_map, List.mem_filter, decide_eq_true_eq,
        Prod.mk.injEq, and_assoc]
  | _ => exact hevents _

/-- A car stands on a road after a command if it has entered the road, or has stood
there before and has not left it. -/
theorem mem_queue_obey (h : world.network.Regular) {command : Command} {id : RoadId}
    (hmem : car ∈ (world.obey command).world.network.queue id) :
    (id, car) ∈ world.entrances command ∨
      ∃ road, world.network.road? id = some road ∧
        car ∈ (world.staying road command).map Car.id := by
  obtain ⟨next, hnext, -⟩ := exists_road?_of_mem_queue hmem
  obtain ⟨road, hroad, -⟩ :=
    Network.exists_road?_of_frame_eq (world.frame_obey command).symm hnext
  obtain ⟨next, entered, hnext, -, hcars, hentered, -⟩ := exists_road?_obey h hroad command
  rw [queue_eq_of_road? hnext, hcars, List.map_append, hentered] at hmem
  rcases List.mem_append.mp hmem with hstays | henters
  · exact Or.inr ⟨road, hroad, hstays⟩
  · exact Or.inl ((mem_entering_iff command).mp henters)

/-- A car that has entered a road stands there. -/
theorem mem_queue_of_mem_entrances (h : world.network.Regular) {command : Command} {id : RoadId}
    (hmem : (id, car) ∈ world.entrances command) :
    car ∈ (world.obey command).world.network.queue id := by
  rw [← mem_entering_iff] at hmem
  cases command with
  | tick =>
      obtain ⟨deliveries, discarded, final, hrouted, htick⟩ := world.tick_eq h
      have hqueue : ((world.network.advance world.config.followingDistance).1.receiveAll
          deliveries).queue id = _ := Network.queue_receiveAll
        (h.has_of_mem_deliveries world.config.followingDistance hrouted)
      rw [entering, ← hrouted.deliveries_eq] at hmem
      change car ∈ world.tick.1.network.queue id
      rw [htick, advanceRoads_eq, handedOn, hqueue]
      exact List.mem_append_right _ hmem
  | spawn length road => exact world.queue_spawn id length road ▸ List.mem_append_right _ hmem
  | spawnWave => exact world.queue_spawnEach id _ _ ▸ List.mem_append_right _ hmem
  | setSignal road signal =>
      exact world.queue_setSignal id road signal ▸ List.mem_append_right _ hmem
  | network command =>
      cases command with
      | toggleSignals => cases hmem
      | setSignal road signal =>
          exact world.queue_setSignal id road signal ▸ List.mem_append_right _ hmem
  | _ => cases hmem

theorem mem_cars_of_mem_queue {id : RoadId} (h : car ∈ world.network.queue id) :
    car ∈ world.cars.map Car.id := by
  obtain ⟨road, hroad, hin⟩ := exists_road?_of_mem_queue h
  obtain ⟨standing, hstanding, rfl⟩ := List.mem_map.mp hin
  exact List.mem_map_of_mem
    (List.mem_flatMap.mpr ⟨road, Network.mem_roads_of_road? hroad, hstanding⟩)

/-!
## One entrance at a time
-/

theorem entrances_of_ne_tick {command : Command} (h : command ≠ .tick) :
    world.entrances command = (world.obey command).events.filterMap Event.entrance? := by
  cases command <;> first | rfl | exact absurd rfl h

/-- The cars that commands other than a tick let enter are numbered from the counter. -/
theorem entrances_map_snd (h : world.network.Regular) {command : Command}
    (hne : command ≠ .tick) : (world.entrances command).map Prod.snd =
      (List.range' world.nextCar
        ((world.obey command).events.filterMap Event.spawned?).length).map CarId.mk := by
  rw [← (world.conserves_obey h command).ids, entrances_of_ne_tick hne, List.map_filterMap,
    List.map_filterMap]
  refine congrArg (List.filterMap · _) (funext fun event => ?_)
  cases event <;> rfl

/-- Departing cars are distinct from each other and from those that stay. -/
theorem Reachable.departures_distinct (h : world.Reachable) :
    ((world.network.advance world.config.followingDistance).1.cars.map Car.id ++
      world.departures.map (·.2.id)).Nodup := by
  have hperm := (world.network.cars_advance_perm world.config.followingDistance).map Prod.fst
  rw [List.map_append, List.map_map, List.map_map, List.map_map] at hperm
  rw [Network.advance_eq] at hperm ⊢
  exact hperm.nodup_iff.mpr h.distinct

/-- A car enters at most one road in a command. -/
theorem Reachable.nodup_entrances (h : world.Reachable) (command : Command) :
    ((world.entrances command).map Prod.snd).Nodup := by
  by_cases htick : command = .tick
  · subst htick
    obtain ⟨deliveries, discarded, final, hrouted, -⟩ := world.tick_eq h.regular
    have hperm := hrouted.perm.map Prod.fst
    rw [List.map_append, List.map_map, List.map_map, List.map_map] at hperm
    have hdepartures := (List.nodup_append'.mp h.departures_distinct).2.1
    rw [entrances, ← hrouted.deliveries_eq, List.map_map]
    exact (List.nodup_append'.mp (hperm.nodup_iff.mpr hdepartures)).1
  · rw [entrances_map_snd h.regular htick]
    exact (List.nodup_range' 1).map fun _ _ heq => CarId.mk.inj heq

/-- A car that enters a road comes from a road that is followed by it, or is new; and it
stays on no road. -/
theorem Reachable.entrance (h : world.Reachable) {command : Command} {id : RoadId}
    (hmem : (id, car) ∈ world.entrances command) :
    ((∃ source, car ∈ world.network.queue source ∧ id ∈ world.network.successors source) ∨
      world.nextCar ≤ car.index) ∧
    ∀ (other : RoadId) (road : Road), world.network.road? other = some road →
      car ∉ (world.staying road command).map Car.id := by
  by_cases htick : command = .tick
  · subst htick
    obtain ⟨deliveries, discarded, final, hrouted, -⟩ := world.tick_eq h.regular
    rw [entrances, ← hrouted.deliveries_eq] at hmem
    obtain ⟨delivery, hdelivery, heq⟩ := List.mem_map.mp hmem
    obtain ⟨rfl, rfl⟩ := Prod.mk.inj heq
    obtain ⟨source, hnext, hdeparted⟩ := hrouted.mem_deliveries delivery hdelivery
    refine ⟨Or.inl ⟨source, ?_, hnext⟩, fun other road hroad hstays => ?_⟩
    · obtain ⟨road, hroad, hleft⟩ := (mem_departures_iff h.regular).mp hdeparted
      have hsub := road.departed_sublist (d := world.config.followingDistance)
        (r := world.config.followingDistance) road.cars
      rw [← Road.partQueue_eq_part] at hsub
      rw [queue_eq_of_road? hroad]
      exact List.mem_map_of_mem (hsub.subset hleft)
    · obtain ⟨-, -, hdisjoint⟩ := List.nodup_append'.mp h.departures_distinct
      obtain ⟨kept, hkept, hid⟩ := List.mem_map.mp hstays
      refine hdisjoint (List.mem_map.mpr ⟨kept, ?_, hid⟩)
        (List.mem_map.mpr ⟨_, hdeparted, rfl⟩)
      rw [Network.advance_eq]
      exact List.mem_flatMap.mpr
        ⟨_, List.mem_map_of_mem (Network.mem_roads_of_road? hroad), hkept⟩
  · have hnew : world.nextCar ≤ car.index := by
      have hnumber : car ∈ (world.entrances command).map Prod.snd := List.mem_map_of_mem hmem
      rw [entrances_map_snd h.regular htick] at hnumber
      obtain ⟨index, hindex, rfl⟩ := List.mem_map.mp hnumber
      exact (List.mem_range'_1.mp hindex).1
    refine ⟨Or.inr hnew, fun other road hroad hstays => ?_⟩
    rw [staying_of_ne_tick htick, ← queue_eq_of_road? hroad] at hstays
    exact absurd (h.numbered (mem_cars_of_mem_queue hstays)) (Nat.not_lt.mpr hnew)

/-!
## The trail
-/

/-- What is known of a car that has visited these roads. -/
structure Trail (world : World) (car : CarId) (visited : List RoadId) : Prop where
  /-- Each road follows the one before it. -/
  path : visited.IsChain fun a b => b ∈ world.network.successors a
  /-- The car stands on no road but the last. -/
  last : ∀ id, car ∈ world.network.queue id → visited.getLast? = some id
  known : visited ≠ [] → car.index < world.nextCar

/-- **One step of a trail.** -/
theorem Trail.obey {visited : List RoadId} (htrail : Trail world car visited)
    (h : world.Reachable) (command : Command) :
    Trail (world.obey command).world car
      (visited ++ ((world.entrances command).filter (·.2 = car)).map Prod.fst) := by
  have hnext := h.run [command]
  have hsuccessors := Network.successors_eq_of_frame_eq (world.frame_obey command)
  have hcounter := (world.conserves_obey h.regular command).nextCar
  rcases filter_eq_nil_or_singleton (h.nodup_entrances command) car with
    hnone | ⟨⟨target, _⟩, hmem, rfl, hone⟩
  · rw [hnone, List.map_nil, List.append_nil]
    refine ⟨hsuccessors ▸ htrail.path, fun id hid => ?_, fun hne => ?_⟩
    · rcases mem_queue_obey h.regular hid with henters | ⟨road, hroad, hstays⟩
      · exact absurd (decide_eq_true rfl) (List.filter_eq_nil_iff.mp hnone _ henters)
      · refine htrail.last id ?_
        rw [queue_eq_of_road? hroad]
        exact world.staying_subset road command hstays
    · have hknown := htrail.known hne
      omega
  · rw [hone]
    obtain ⟨hfrom, hgone⟩ := h.entrance hmem
    refine ⟨?_, fun id hid => ?_, fun _ => ?_⟩
    · rw [hsuccessors]
      refine List.isChain_append.mpr ⟨htrail.path, List.isChain_singleton _, ?_⟩
      intro last hlast first hfirst
      obtain rfl : target = first := Option.some.inj hfirst
      rcases hfrom with ⟨source, hstood, hfollows⟩ | hnew
      · obtain rfl : source = last := Option.some.inj ((htrail.last source hstood).symm.trans hlast)
        exact hfollows
      · have hvisited : visited ≠ [] := by
          rintro rfl
          exact nomatch hlast
        exact absurd (htrail.known hvisited) (Nat.not_lt.mpr hnew)
    · rw [List.map_singleton, List.getLast?_concat]
      rcases mem_queue_obey h.regular hid with henters | ⟨road, hroad, hstays⟩
      · have hin := hone ▸ List.mem_filter.mpr ⟨henters, decide_eq_true rfl⟩
        exact congrArg some (congrArg Prod.fst (List.mem_singleton.mp hin)).symm
      · exact absurd hstays (hgone id road hroad)
    · exact hnext.numbered (mem_cars_of_mem_queue (mem_queue_of_mem_entrances h.regular hmem))

theorem Trail.run {visited : List RoadId} (htrail : Trail world car visited)
    (h : world.Reachable) (commands : List Command) :
    Trail (world.run commands) car (visited ++ world.visits car commands) := by
  induction commands generalizing world visited with
  | nil =>
      rw [visits, List.append_nil]
      exact htrail
  | cons command commands ih =>
      rw [visits, ← List.append_assoc]
      exact ih (htrail.obey h command) (h.run [command])

/-- In a fresh world no car has a trail yet. -/
theorem Fresh.trail_run {start : World} (h : start.Fresh) (car : CarId)
    (commands : List Command) : Trail (start.run commands) car (start.visits car commands) := by
  obtain ⟨-, hempty, -⟩ := h.start
  have hnone : Trail start car [] := by
    refine ⟨List.isChain_nil, fun id hid => ?_, fun hne => absurd rfl hne⟩
    obtain ⟨standing, hstanding, -⟩ := List.mem_map.mp (mem_cars_of_mem_queue hid)
    obtain ⟨road, hroad, hmem⟩ := List.mem_flatMap.mp hstanding
    rw [hempty road hroad] at hmem
    exact nomatch hmem
  exact hnone.run ⟨start, [], h, rfl⟩ commands

end World

/-!
## Reachability
-/

/-- A path leads from each of its roads to the last. -/
theorem Leads.of_isChain {next : RoadId → List RoadId} {a b : RoadId} {roads : List RoadId}
    (h : (a :: roads).IsChain fun x y => y ∈ next x) (hlast : (a :: roads).getLast? = some b) :
    Leads next a b := by
  induction roads generalizing a with
  | nil =>
      rw [List.getLast?_singleton] at hlast
      exact Option.some.inj hlast ▸ .here a
  | cons road roads ih =>
      obtain ⟨hedge, hrest⟩ := List.isChain_cons_cons.mp h
      rw [List.getLast?_cons_cons] at hlast
      exact .step hedge (ih hrest hlast)

namespace World

variable {start world : World} {car : CarId} {a b : RoadId}

/-- Where a car stands later can be reached from where it stands now. -/
theorem Fresh.leads (h : start.Fresh) {before after : List Command}
    (hnow : car ∈ (start.run before).network.queue a)
    (hlater : car ∈ (start.run (before ++ after)).network.queue b) :
    Leads start.network.successors a b := by
  have hlast := (h.trail_run car before).last a hnow
  obtain ⟨hpath, hfinal, -⟩ := h.trail_run car (before ++ after)
  have hend := hfinal b hlater
  rw [Network.successors_eq_of_frame_eq (start.frame_run _)] at hpath
  rw [visits_append] at hpath hend
  obtain ⟨earlier, hvisits⟩ := List.getLast?_eq_some_iff.mp hlast
  rw [hvisits, List.append_assoc, List.singleton_append] at hpath hend
  rw [List.getLast?_append_of_ne_nil _ (List.cons_ne_nil _ _)] at hend
  exact .of_isChain (List.isChain_append.mp hpath).2.1 hend

/-- A road on which a car stands exists. -/
theorem has_of_mem_queue {before : List Command}
    (hmem : car ∈ (start.run before).network.queue a) :
    start.network.has a = true := by
  rw [← Network.has_eq_of_frame_eq (start.frame_run before)]
  obtain ⟨road, hroad, -⟩ := exists_road?_of_mem_queue hmem
  exact decide_eq_true (List.getElem?_eq_some_iff.mp hroad).1

/-- A car that a wave creates stands on an entry point. -/
theorem exists_entry_of_spawnWave (h : world.network.Regular)
    (hnew : world.nextCar ≤ car.index)
    (hcreated : car.index < (world.obey .spawnWave).world.nextCar) :
    ∃ entry ∈ world.network.entryPoints,
      car ∈ (world.obey .spawnWave).world.network.queue entry := by
  have hne : Command.spawnWave ≠ .tick := nofun
  have hentered : car ∈ (world.entrances .spawnWave).map Prod.snd := by
    rw [entrances_map_snd h hne]
    rw [(world.conserves_obey h .spawnWave).nextCar] at hcreated
    exact List.mem_map.mpr ⟨car.index, List.mem_range'_1.mpr ⟨hnew, hcreated⟩, rfl⟩
  obtain ⟨⟨entry, _⟩, hmem, rfl⟩ := List.mem_map.mp hentered
  refine ⟨entry, ?_, mem_queue_of_mem_entrances h hmem⟩
  rw [entrances_of_ne_tick hne] at hmem
  obtain ⟨event, hevent, heq⟩ := List.mem_filterMap.mp hmem
  obtain ⟨spawned, road, hroad, rfl⟩ := eq_carSpawned_of_mem_spawnEach hevent
  obtain ⟨rfl, -⟩ := Prod.mk.inj (Option.some.inj heq)
  exact hroad

/-- A car has stood on each road it has visited. -/
theorem exists_stood (h : start.Reachable) {commands : List Command}
    (hmem : a ∈ start.visits car commands) :
    ∃ before after, commands = before ++ after ∧ car ∈ (start.run before).network.queue a := by
  induction commands generalizing start with
  | nil => exact nomatch hmem
  | cons command commands ih =>
      rcases List.mem_append.mp hmem with hnow | hlater
      · obtain ⟨⟨_, _⟩, hentered, rfl⟩ := List.mem_map.mp hnow
        obtain ⟨hentrance, hcar⟩ := List.mem_filter.mp hentered
        obtain rfl := of_decide_eq_true hcar
        exact ⟨[command], commands, rfl, mem_queue_of_mem_entrances h.regular hentrance⟩
      · obtain ⟨before, after, rfl, hstood⟩ := ih (h.run [command]) hlater
        exact ⟨command :: before, after, rfl, hstood⟩

/-- How the traffic from a fresh world is bound by reachability. -/
structure Bound (network : Network) (start : World) : Prop where
  /-- The answers are the same for good. -/
  query : ∀ commands, (start.run commands).network.isReachable = network.isReachable
  /-- Where a car stands later is reachable from where it stands earlier. -/
  later : ∀ (before after : List Command) (car : CarId) (a b : RoadId),
    car ∈ (start.run before).network.queue a →
    car ∈ (start.run (before ++ after)).network.queue b → network.isReachable a b = true
  /-- A car that a wave creates enters at an entry point, and stands later only where it
  can get from there. -/
  wave : ∀ (before : List Command) (car : CarId), (start.run before).nextCar ≤ car.index →
    car.index < (start.run (before ++ [.spawnWave])).nextCar →
    ∃ entry ∈ network.entryPoints,
      car ∈ (start.run (before ++ [.spawnWave])).network.queue entry ∧
      ∀ (after : List Command) (b : RoadId),
        car ∈ (start.run (before ++ .spawnWave :: after)).network.queue b →
        network.isReachable entry b = true
  /-- The roads that a car visits are a path. -/
  path : ∀ (commands : List Command) (car : CarId),
    (start.visits car commands).IsChain fun a b => b ∈ network.successors a
  /-- A car stands on the road it has visited last, if anywhere. -/
  last : ∀ (commands : List Command) (car : CarId) (a : RoadId),
    car ∈ (start.run commands).network.queue a → (start.visits car commands).getLast? = some a
  /-- A car has stood on each road it has visited. -/
  stood : ∀ (commands : List Command) (car : CarId), ∀ a ∈ start.visits car commands,
    ∃ before after, commands = before ++ after ∧ car ∈ (start.run before).network.queue a

theorem Fresh.bound (h : start.Fresh) : Bound start.network start := by
  have hlater : ∀ (before after : List Command) (car : CarId) (a b : RoadId),
      car ∈ (start.run before).network.queue a →
      car ∈ (start.run (before ++ after)).network.queue b →
      start.network.isReachable a b = true := by
    intro before after car a b hnow hthen
    exact (start.network.isReachable_iff a b).mpr
      ⟨has_of_mem_queue hnow, has_of_mem_queue hthen, h.leads hnow hthen⟩
  refine ⟨?_, hlater, ?_, ?_, ?_, ?_⟩
  · exact fun commands => Network.isReachable_eq_of_frame_eq (start.frame_run commands)
  · intro before car hnew hcreated
    rw [run_append] at hcreated
    obtain ⟨entry, hentry, hstands⟩ :=
      exists_entry_of_spawnWave (h.regular_run before) hnew hcreated
    have hentries : (start.run before).network.entryPoints = start.network.entryPoints :=
      congrArg Prod.snd (start.frame_run before)
    have hfirst : car ∈ (start.run (before ++ [.spawnWave])).network.queue entry := by
      rw [run_append]
      exact hstands
    refine ⟨entry, hentries ▸ hentry, hfirst, fun after b hthen => ?_⟩
    refine hlater (before ++ [.spawnWave]) after car entry b hfirst ?_
    rw [List.append_assoc]
    exact hthen
  · intro commands car
    rw [← Network.successors_eq_of_frame_eq (start.frame_run commands)]
    exact (h.trail_run car commands).path
  · exact fun commands car => (h.trail_run car commands).last
  · intro commands car a ha
    exact exists_stood ⟨start, [], h, rfl⟩ ha

/-- **Traffic is bound by reachability.**  In a network made from a plan, the graph agrees
with the successor lists; the roads reachable in it are those to which a path of successors
leads; and in every run the cars keep to such paths. -/
theorem bound_of_ofDeclarations {declarations : List Declaration} {network : Network}
    (hbuilt : Network.ofDeclarations declarations = .ok network) :
    (∀ a b, (a, b) ∈ (Plan.ofDeclarations declarations).edges ↔ b ∈ network.successors a) ∧
    (∀ a b, network.isReachable a b = true ↔
      network.has a = true ∧ network.has b = true ∧ Leads network.successors a b) ∧
    ∀ (config : Config) (draws : Draws) (start : World),
      create network config draws = .ok start → Bound network start := by
  refine ⟨Network.mem_edges_iff hbuilt, network.isReachable_iff, fun config draws start hmade => ?_⟩
  have hnetwork : start.network = network := by rw [eq_of_create hmade]
  exact hnetwork ▸ Fresh.bound ⟨_, _, _, _, hbuilt, hmade⟩

/-- The car of a wave goes once round over the arc and then to the dead end, from where
no road leads back. -/
theorem bound_of_ofDeclarations_fork :
    let start : World := { fork with draws := .ofSeed 2 }
    start.visits ⟨0⟩ (.spawnWave :: List.replicate 14 .tick) = [⟨0⟩, ⟨1⟩, ⟨0⟩, ⟨2⟩] ∧
      fork.network.isReachable ⟨2⟩ ⟨0⟩ = false ∧ Bound fork.network start := by
  have hcreated : create fork.network {} (.ofSeed 2) =
      .ok { fork with draws := .ofSeed 2 } := by
    have hconfig : ({} : Config).check = .ok () := eq_ok_of_isOk (by decide +kernel)
    rw [create, hconfig]
    rfl
  exact ⟨by decide +kernel, by decide +kernel,
    (bound_of_ofDeclarations build_fork).2.2 _ _ _ hcreated⟩

end World

end RoadTraffic
