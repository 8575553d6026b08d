import RoadTraffic.Proofs.World.Histories
import RoadTraffic.Proofs.World.Waves

/-!
# Spawning is all or nothing

A wave creates one car after the other and takes nothing back, yet it never creates some of its
cars only.  Its entry points are roads of the network, as they were when it was built, and none
of them is named twice; so whether a car is refused is a matter of its length, which is the same
for all (`RoadTraffic.Proofs.World.Waves`).

* A wave of a length that fits puts one car at the back of the queue of each entry point, with
  the numbers in the order of the entry points (`WaveDone`).
* If a wave or the creation of a single car fails, the world is as it was (`AllOrNothing`).

This is so in every world that can be reached, for any default length that is assigned then
(`allOrNothing_of_reachable`).
-/

namespace RoadTraffic

theorem nodup_eraseDups {α : Type} [BEq α] [LawfulBEq α] (list : List α) :
    list.eraseDups.Nodup := by
  match list with
  | [] => exact List.nodup_nil
  | a :: rest =>
      rw [List.eraseDups_cons]
      refine List.nodup_cons.mpr ⟨fun hmem => ?_, nodup_eraseDups _⟩
      obtain ⟨-, hne⟩ := List.mem_filter.mp (List.mem_eraseDups.mp hmem)
      simp at hne
termination_by list.length
decreasing_by exact Nat.lt_succ_of_le (List.length_filter_le ..)

namespace World

variable {world : World} {length : Float32} {road id : RoadId} {roads : List RoadId}

/-- There are entry points, and none of them is named twice. -/
theorem Reachable.entryPoints (h : world.Reachable) :
    world.network.entryPoints ≠ [] ∧ world.network.entryPoints.Nodup := by
  obtain ⟨start, commands, ⟨declarations, network, config, draws, hbuilt, hmade⟩, rfl⟩ := h
  obtain ⟨hwf, -, hentries⟩ := Network.ofDeclarations_eq_ok_iff.mp hbuilt
  have hframe : (start.run commands).network.frame = network.frame := by
    rw [start.frame_run commands, eq_of_create hmade]
  have hsame : (start.run commands).network.entryPoints = network.entryPoints :=
    congrArg Prod.snd hframe
  obtain ⟨entry, hentry⟩ := List.exists_mem_of_ne_nil _ hwf.entries_ne_nil
  rw [hsame, hentries]
  exact ⟨List.ne_nil_of_mem (List.mem_eraseDups.mpr hentry), nodup_eraseDups _⟩

/-!
## A wave and one road
-/

theorem road?_addCar (world : World) (length : Float32) (road id : RoadId) :
    (world.addCar length road).network.road? id = (world.network.road? id).map fun target =>
      if road = id then target.receive (.new ⟨world.nextCar⟩ length) else target :=
  Network.road?_receive _ road id _

/-- A wave that fits goes on from its first car. -/
theorem world_spawnEach_cons (hfits : FitLength length) (hroad : world.network.has road = true) :
    (world.spawnEach length (road :: roads)).world =
      ((world.addCar length road).spawnEach length roads).world := by
  have hspawn := spawn_of_check (world.checkSpawn_eq_ok_iff.mpr ⟨hfits, hroad⟩)
  simp only [spawnEach, hspawn]

/-- What there is to a wave besides the queues. -/
theorem world_spawnEach_of_fits (hfits : FitLength length)
    (hroads : ∀ road ∈ roads, world.network.has road = true) :
    (world.spawnEach length roads).world =
      { world with
        network := (world.spawnEach length roads).world.network
        stats := { world.stats with carsSpawned := world.stats.carsSpawned + roads.length }
        nextCar := world.nextCar + roads.length } := by
  induction roads generalizing world with
  | nil => rfl
  | cons road roads ih =>
      obtain ⟨hroad, hothers⟩ := List.forall_mem_cons.mp hroads
      have hstill := forall_has_addCar hothers length road
      rw [world_spawnEach_cons hfits hroad, ih hstill, List.length_cons, Nat.add_comm roads.length,
        ← Nat.add_assoc, ← Nat.add_assoc]
      rfl

theorem road?_spawnEach_of_notMem (hfits : FitLength length)
    (hroads : ∀ road ∈ roads, world.network.has road = true) (hid : id ∉ roads) :
    (world.spawnEach length roads).world.network.road? id = world.network.road? id := by
  induction roads generalizing world with
  | nil => rfl
  | cons road roads ih =>
      obtain ⟨hroad, hothers⟩ := List.forall_mem_cons.mp hroads
      obtain ⟨hne, hlater⟩ := not_or.mp (mt List.mem_cons.mpr hid)
      have hstill := forall_has_addCar hothers length road
      rw [world_spawnEach_cons hfits hroad, ih hstill hlater, road?_addCar]
      simp only [if_neg (Ne.symm hne), Option.map_id']

/-- Each road of a wave that fits receives one car. -/
theorem road?_spawnEach_of_getElem? (hfits : FitLength length)
    (hroads : ∀ road ∈ roads, world.network.has road = true) (hdistinct : roads.Nodup) {i : Nat}
    (hid : roads[i]? = some id) :
    (world.spawnEach length roads).world.network.road? id =
      (world.network.road? id).map (·.receive (.new ⟨world.nextCar + i⟩ length)) := by
  induction roads generalizing world i with
  | nil => exact nomatch hid
  | cons road roads ih =>
      obtain ⟨hroad, hothers⟩ := List.forall_mem_cons.mp hroads
      obtain ⟨hnew, hlater⟩ := List.nodup_cons.mp hdistinct
      have hstill := forall_has_addCar hothers length road
      rw [world_spawnEach_cons hfits hroad]
      cases i with
      | zero =>
          obtain rfl : road = id := Option.some.inj hid
          rw [road?_spawnEach_of_notMem hfits hstill hnew, road?_addCar]
          simp only [if_true]
          rfl
      | succ i =>
          rw [List.getElem?_cons_succ] at hid
          have hne : road ≠ id := by
            rintro rfl
            exact hnew (List.mem_of_getElem? hid)
          have hnumber : (world.addCar length road).nextCar + i = world.nextCar + (i + 1) :=
            Nat.add_right_comm world.nextCar 1 i
          rw [ih hstill hlater hid, road?_addCar, hnumber]
          simp only [if_neg hne, Option.map_id']

/-!
## All or nothing
-/

/-- An operation that creates cars succeeds if `possible`, and has then done what it is to do;
otherwise it has done nothing at all. -/
structure AllOrNothing {α : Type} (world : World) (outcome : Outcome (Except SpawnError α))
    (possible : Prop) (done : α → Prop) : Prop where
  succeeds_iff : (∃ value, outcome.result = .ok value) ↔ possible
  done : ∀ value, outcome.result = .ok value → done value
  /-- A failure leaves the whole world as it was. -/
  refused : ∀ reason, outcome.result = .error reason →
    outcome.world = world ∧ outcome.events = []

namespace AllOrNothing

variable {α : Type} {outcome : Outcome (Except SpawnError α)} {possible : Prop} {done : α → Prop}

theorem of_ok {value : α} (h : outcome.result = .ok value) (hpossible : possible)
    (hdone : done value) : world.AllOrNothing outcome possible done := by
  refine ⟨⟨fun _ => hpossible, fun _ => ⟨value, h⟩⟩, ?_, ?_⟩
  · intro other hother
    exact Except.ok.inj (h.symm.trans hother) ▸ hdone
  · intro reason hreason
    exact nomatch h.symm.trans hreason

theorem of_error {reason : SpawnError} (h : outcome = ⟨world, [], .error reason⟩)
    (hnot : ¬ possible) : world.AllOrNothing outcome possible done := by
  subst h
  refine ⟨iff_of_false ?_ hnot, ?_, ?_⟩
  · rintro ⟨_, hmade⟩
    exact nomatch hmade
  · exact nofun
  · intro _ _
    exact ⟨rfl, rfl⟩

end AllOrNothing

/-- What has been done when a car is created on a road. -/
structure SpawnDone (world : World) (length : Float32) (road : RoadId) (car : CarId) : Prop where
  car : car = ⟨world.nextCar⟩
  world : (world.spawn length road).world = world.addCar length road

/-- What has been done when a wave has created the cars `cars`. -/
structure WaveDone (world : World) (cars : List CarId) : Prop where
  /-- The cars are numbered on from the counter. -/
  cars : cars = (List.range' world.nextCar world.network.entryPoints.length).map CarId.mk
  /-- Each entry point is named once, so the next field tells of one car for each. -/
  distinct : world.network.entryPoints.Nodup
  /-- The car of each entry point is at the start of it, behind all others. -/
  entered : ∀ i entry, world.network.entryPoints[i]? = some entry →
    ∃ road, world.network.road? entry = some road ∧
      world.spawnWave.world.network.road? entry =
        some { road with
          cars := road.cars ++ [⟨⟨world.nextCar + i⟩, world.config.defaultCarLength, 0,
            road.course.startPose⟩] }
  /-- No other road has changed. -/
  elsewhere : ∀ id, id ∉ world.network.entryPoints →
    world.spawnWave.world.network.road? id = world.network.road? id
  entryPoints : world.spawnWave.world.network.entryPoints = world.network.entryPoints
  /-- Besides the queues only the counters have changed. -/
  counted : world.spawnWave.world =
    { world with
      network := world.spawnWave.world.network
      stats :=
        { world.stats with
          carsSpawned := world.stats.carsSpawned + world.network.entryPoints.length }
      nextCar := world.nextCar + world.network.entryPoints.length }

theorem allOrNothing_spawn (world : World) (length : Float32) (road : RoadId) :
    world.AllOrNothing (world.spawn length road)
      (FitLength length ∧ world.network.has road = true) (world.SpawnDone length road) := by
  have hcheck := @checkSpawn_eq_ok_iff world length road
  cases hchecked : world.checkSpawn length road with
  | error reason =>
      refine .of_error (spawn_of_refused hchecked) fun hfit => ?_
      exact nomatch hchecked.symm.trans (hcheck.mpr hfit)
  | ok =>
      have hspawn := spawn_of_check hchecked
      exact .of_ok (congrArg Outcome.result hspawn) (hcheck.mp hchecked)
        ⟨rfl, congrArg Outcome.world hspawn⟩

theorem allOrNothing_spawnWave (h : world.Reachable) :
    world.AllOrNothing world.spawnWave (FitLength world.config.defaultCarLength)
      world.WaveDone := by
  obtain ⟨hne, hdistinct⟩ := h.entryPoints
  have hroads := h.regular.entryPoint
  by_cases hfits : FitLength world.config.defaultCarLength
  · have hframe := ignoresCars_frame.spawnEach world world.config.defaultCarLength
      world.network.entryPoints
    refine .of_ok (spawnEach_of_fits hfits hroads).1 hfits {
      cars := rfl
      distinct := hdistinct
      entered := ?_
      elsewhere := fun id hid => road?_spawnEach_of_notMem hfits hroads hid
      entryPoints := congrArg Prod.snd hframe
      counted := world_spawnEach_of_fits hfits hroads }
    intro i entry hentry
    have hhas := of_decide_eq_true (hroads entry (List.mem_of_getElem? hentry))
    have hroad : world.network.road? entry = some _ := List.getElem?_eq_getElem hhas
    have hentered := road?_spawnEach_of_getElem? hfits hroads hdistinct hentry
    rw [hroad] at hentered
    exact ⟨_, hroad, hentered⟩
  · obtain ⟨reason, hrefused⟩ := @spawnEach_of_not_fits world _ _ hfits hne
    exact .of_error hrefused hfits

/-- **Spawning is all or nothing**, in every world that can be reached and with any default
length that is assigned then. -/
theorem allOrNothing_of_reachable (h : world.Reachable) (assigned length : Float32)
    (road : RoadId) :
    let later : World :=
      { world with config := { world.config with defaultCarLength := assigned } }
    later.AllOrNothing (later.spawn length road)
        (FitLength length ∧ later.network.has road = true) (later.SpawnDone length road) ∧
      later.AllOrNothing later.spawnWave (FitLength assigned) later.WaveDone := by
  intro later
  have hlater : later.Reachable :=
    h.run [.configure { world.config with defaultCarLength := assigned }]
  exact ⟨later.allOrNothing_spawn length road, allOrNothing_spawnWave hlater⟩

/-- A ramp that joins another road; both are entry points, and one is declared as such twice. -/
def rampDeclarations : List Declaration :=
  [.road (.straight ⟨⟨0, 0⟩, ⟨100, 0⟩⟩) 5, .road (.straight ⟨⟨100, 0⟩, ⟨300, 0⟩⟩) 5,
    .connect ⟨0⟩ [⟨1⟩], .entry ⟨1⟩, .entry ⟨0⟩, .entry ⟨1⟩]

/-- A fresh world with a ramp. -/
def ramp : World where
  network := (Plan.ofDeclarations rampDeclarations).network
  config := {}
  draws := .ofSeed 0

/-- After a run a wave of length 30 makes a car for each of the two entry points, and one whose
length is not a number makes none. -/
theorem allOrNothing_of_reachable_ramp :
    let world := ramp.run [.spawnWave, .tick, .spawn 20 ⟨1⟩]
    let later (assigned : Float32) : World :=
      { world with config := { world.config with defaultCarLength := assigned } }
    (later 30).spawnWave.result.toOption = some [⟨3⟩, ⟨4⟩] ∧
      (later 30).spawnWave.world.network.queue ⟨1⟩ = [⟨0⟩, ⟨2⟩, ⟨3⟩] ∧
      (later Binary32.nan).spawnWave.result.toOption = none ∧
      ∀ assigned ∈ [30, Binary32.nan],
        (later assigned).AllOrNothing ((later assigned).spawn 20 ⟨7⟩)
            (FitLength 20 ∧ (later assigned).network.has ⟨7⟩ = true)
            ((later assigned).SpawnDone 20 ⟨7⟩) ∧
          (later assigned).AllOrNothing (later assigned).spawnWave (FitLength assigned)
            (later assigned).WaveDone := by
  intro world later
  have hfresh : ramp.Fresh := fresh_of_isOk (by decide +kernel) _
  have hreachable : world.Reachable := ⟨ramp, _, hfresh, rfl⟩
  exact ⟨by decide +kernel, by decide +kernel, by decide +kernel,
    fun assigned _ => allOrNothing_of_reachable hreachable assigned 20 ⟨7⟩⟩

end World

end RoadTraffic
