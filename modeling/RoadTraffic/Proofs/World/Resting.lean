import RoadTraffic.Proofs.Road.Resting
import RoadTraffic.Proofs.World.Halting
import RoadTraffic.Proofs.World.Strides

/-!
# The gaps behind a stop

Cars are received on a straight that shows stop at every tick, with one following distance
all the time.  Then every car takes its strides from below its mark, and when a tick leaves
them all in place, each rests at the first milestone that is not below it, or stalls below it
(`AtRest.rests`).  With the gaps that this leaves between them it is all that is said of the
queue (`restsBehindStop_of_atRest`).

A gap between two cars at rest is the following distance less a stride at least, if the one
behind has left the start, and can be that small: of the cars in `closeUp` one rests at 90
and the next one, 20 past its mark of 40, at 60, with 10 between them and a following
distance of 20 (`not_followingDistance_le_gap`).
-/

namespace RoadTraffic

open Binary32

namespace World

/-- Is this the following distance at every tick of the run? -/
def KeepsDistance (world : World) (d : Float32) : List Command → Prop
  | [] => True
  | command :: commands =>
    (command = .tick → world.config.followingDistance = d) ∧
      (world.obey command).world.KeepsDistance d commands

instance decidableKeepsDistance (d : Float32) : (world : World) → (commands : List Command) →
    Decidable (world.KeepsDistance d commands)
  | _, [] => isTrue trivial
  | world, command :: commands =>
    have := decidableKeepsDistance d (world.obey command).world commands
    inferInstanceAs (Decidable ((command = .tick → world.config.followingDistance = d) ∧
      (world.obey command).world.KeepsDistance d commands))

variable {start world : World} {id : RoadId} {road : Road} {line : Straight} {d : Float32}
  {before since commands : List Command} {front back : List Car} {car : Car}

/-!
## The lengths of cars
-/

theorem length_pos_of_mem_spawn {length asked : Float32} {car : CarId} {entered target : RoadId}
    (h : .carSpawned car length entered ∈ (world.spawn asked target).events) : 0 < length := by
  unfold spawn at h
  split at h
  · exact nomatch h
  · next hcheck =>
      obtain ⟨⟨-, hpos⟩, -⟩ := world.checkSpawn_eq_ok_iff.mp hcheck
      injection List.mem_singleton.mp h with _ hlength _
      exact hlength ▸ hpos

theorem length_pos_of_mem_spawnEach {length asked : Float32} {car : CarId} {entered : RoadId}
    {targets : List RoadId}
    (h : .carSpawned car length entered ∈ (world.spawnEach asked targets).events) :
    0 < length := by
  induction targets generalizing world with
  | nil => exact nomatch h
  | cons target targets ih =>
      simp only [spawnEach] at h
      split at h
      · exact length_pos_of_mem_spawn h
      · rcases List.mem_append.mp h with hnow | hlater
        · exact length_pos_of_mem_spawn hnow
        · exact ih hlater

theorem length_pos_of_mem_obey (h : world.network.Regular) {command : Command} {car : CarId}
    {length : Float32} {entered : RoadId}
    (hmem : .carSpawned car length entered ∈ (world.obey command).events) : 0 < length := by
  cases command with
  | tick =>
      obtain ⟨_, _, heq, -⟩ := (mem_tick_iff h).mp hmem
      exact nomatch heq
  | spawn asked target => exact length_pos_of_mem_spawn hmem
  | spawnWave => exact length_pos_of_mem_spawnEach hmem
  | _ =>
      rcases mem_obey hmem with ⟨_, _, _, hasked, -⟩ | ⟨heq, -⟩ | ⟨_, heq⟩
      · exact nomatch hasked
      · exact nomatch heq
      · exact nomatch heq

/-- A car has a length above zero, whatever the following distances have been. -/
theorem Fresh.length_pos (h : start.Fresh) {car : Car}
    (hcar : car ∈ (start.run commands).cars) : 0 < car.length := by
  obtain ⟨hregular, hempty, -⟩ := h.start
  obtain ⟨gone, -, hperm⟩ := (conserves_run hregular commands).cars
  have hnone : start.cars = [] := List.flatMap_eq_nil_iff.mpr hempty
  rw [hnone] at hperm
  have hmem : car.tag ∈ (start.history commands).filterMap Event.spawned? :=
    hperm.subset (List.mem_append_left _ (List.mem_map_of_mem hcar))
  obtain ⟨event, hevent, hspawned⟩ := List.mem_filterMap.mp hmem
  obtain ⟨before, command, after, -, hnow⟩ := (mem_history_iff commands).mp hevent
  cases event with
  | carSpawned spawned length road =>
      obtain ⟨-, rfl⟩ := Prod.mk.inj (Option.some.inj hspawned)
      exact length_pos_of_mem_obey (h.regular_run before) hnow
  | _ => exact nomatch hspawned

/-!
## Coming to rest
-/

/-- A command lets no car take a stride from its mark or past it, if the road shows stop
when it is a tick. -/
theorem approached_obey (h : world.network.Regular)
    (hroad : world.network.road? id = some road) (hcourse : road.course = .straight line)
    (happroached : road.Approached line d d road.cars) {command : Command}
    (hstop : command = .tick → (world.network.road? id).map Road.signal = some .stop)
    (hkeeps : command = .tick → world.config.followingDistance = d) :
    ∃ next, (world.obey command).world.network.road? id = some next ∧
      next.bare = road.bare ∧ next.Approached line d d next.cars := by
  obtain ⟨next, entered, hnext, hbare, hcars, -, hstart⟩ := exists_road?_obey h hroad command
  obtain ⟨-, hsame, hspeed, -⟩ := Road.eq_of_bare_eq hbare
  refine ⟨next, hnext, hbare, ?_⟩
  rw [hcars, Road.approached_congr hsame hspeed]
  refine Road.Approached.append ?_ hstart
  by_cases htick : command = .tick
  · subst htick
    have hsignal : road.signal = .stop := by
      have hshown := hstop rfl
      rw [hroad] at hshown
      exact Option.some.inj hshown
    rw [staying, hkeeps rfl, Road.advance, Road.partQueue_eq_part]
    exact happroached.part hcourse
      (Road.not_opens_of_stop (Road.isStraight_of_straight hcourse) hsignal)
  · rw [staying_of_ne_tick htick]
    exact happroached

theorem approached_run (h : world.network.Regular)
    (hroad : world.network.road? id = some road) (hcourse : road.course = .straight line)
    (happroached : road.Approached line d d road.cars) (hstops : world.StopsAt id commands)
    (hkeeps : world.KeepsDistance d commands) :
    ∃ next, (world.run commands).network.road? id = some next ∧
      next.bare = road.bare ∧ next.Approached line d d next.cars := by
  induction commands generalizing world road with
  | nil => exact ⟨road, hroad, rfl, happroached⟩
  | cons command commands ih =>
      obtain ⟨hstop, hstopsLater⟩ := hstops
      obtain ⟨hkeep, hkeepsLater⟩ := hkeeps
      obtain ⟨next, hnext, hbare, hcome⟩ :=
        approached_obey h hroad hcourse happroached hstop hkeep
      have hsame := (Road.eq_of_bare_eq hbare).2.1
      obtain ⟨final, hfinal, hfinalBare, hfinally⟩ :=
        ih (h.of_frame_eq (world.frame_obey command)) hnext (hsame.trans hcourse) hcome
          hstopsLater hkeepsLater
      exact ⟨final, hfinal, hfinalBare.trans hbare, hfinally⟩

/-- The cars on a straight are at rest behind a stop that it has shown since before they have
entered, with one following distance all the time. -/
structure AtRest (start : World) (before since : List Command) (id : RoadId) (road : Road)
    (line : Straight) (d : Float32) : Prop where
  fresh : start.Fresh
  found : (start.run (before ++ since)).network.road? id = some road
  course : road.course = .straight line
  /-- The road has shown stop at every tick, and shows stop now. -/
  stops : (start.run before).StopsAt id since
  stop : road.signal = .stop
  /-- None of the cars was there before. -/
  new : ∀ car ∈ (start.run (before ++ since)).network.queue id,
    car ∉ (start.run before).network.queue id
  nonneg : 0 ≤ d
  keeps : (start.run before).KeepsDistance d since
  now : (start.run (before ++ since)).config.followingDistance = d
  /-- A further tick would leave every car in place. -/
  rest : ((start.run (before ++ since)).staying road .tick).map Car.progress =
    road.cars.map Car.progress

namespace AtRest

variable (h : AtRest start before since id road line d)
include h

theorem closed : ¬ road.Opens :=
  Road.not_opens_of_stop (Road.isStraight_of_straight h.course) h.stop

theorem fit : road.Fit :=
  Reachable.fit ⟨start, _, h.fresh, rfl⟩ h.found

theorem length_nonneg (hcar : car ∈ road.cars) : 0 ≤ car.length :=
  le_of_lt (h.fresh.length_pos
    (List.mem_flatMap.mpr ⟨road, Network.mem_roads_of_road? h.found, hcar⟩))

theorem roomAhead_nonneg (hcars : road.cars = front ++ car :: back) :
    0 ≤ Road.roomAhead d front :=
  Road.foldl_roomBehind_nonneg h.nonneg h.nonneg fun _ hmem =>
    h.length_nonneg (hcars ▸ List.mem_append_left _ hmem)

/-- No car has taken a stride from its mark or past it. -/
theorem approached : road.Approached line d d road.cars := by
  have hregular := h.fresh.regular_run before
  have hroad := h.found
  have hnew := h.new
  rw [run_append] at hroad hnew
  obtain ⟨was, hwas, hbare⟩ :=
    Network.exists_road?_of_frame_eq ((start.run before).frame_run since).symm hroad
  have hcourse : was.course = .straight line := (Road.eq_of_bare_eq hbare).2.1.trans h.course
  -- A car that was there before would still be there.
  have hempty : was.cars = [] := by
    have hheld := (held_of_stopsAt hregular hwas (Road.isStraight_of_straight hcourse)
      h.stops).queue
    rw [queue_eq_of_road? hwas] at hheld hnew
    refine List.eq_nil_iff_forall_not_mem.mpr fun car hcar => ?_
    have hmem : car.id ∈ was.cars.map Car.id := List.mem_map_of_mem hcar
    exact hnew car.id (hheld ▸ List.mem_append_left _ hmem) hmem
  have hnone : was.Approached line d d was.cars :=
    Road.approached_of_start (hempty ▸ List.forall_mem_nil _)
  obtain ⟨final, hfinal, -, happroached⟩ :=
    approached_run hregular hwas hcourse hnone h.stops h.keeps
  obtain rfl : final = road := Option.some.inj (hfinal.symm.trans hroad)
  exact happroached

/-- Each car has come to its mark or stalls below it. -/
theorem rests (hcars : road.cars = front ++ car :: back) :
    road.RestsAt line (Road.roomAhead d front) car ∨
      road.StallsAt line (Road.roomAhead d front) car := by
  have hrest := h.rest
  have happroached := h.approached
  rw [staying, h.now, Road.advance, Road.partQueue_eq_part, hcars] at hrest
  rw [hcars] at happroached
  exact happroached.rests h.course h.closed hrest

end AtRest

/-- **The gaps behind a stop.**  On a straight that shows stop at every tick since before
the cars on it have entered, with one following distance, each car rests at the first
milestone not below its mark, or stalls below it, when a further tick leaves all of them in
place.  So the gap between a car at its mark and one right behind it that has left the start
falls short of the following distance by a stride at most, and not at all if the mark of the
one behind is a milestone. -/
theorem restsBehindStop_of_atRest (h : AtRest start before since id road line d) :
    road.RestsBehindStop line d where
  each _ _ _ hcars := h.rests hcars
  brisk hbrisk _ _ _ hcars := (h.rests hcars).resolve_right
    (hbrisk.not_stallsAt h.fit h.course (h.roomAhead_nonneg hcars))
  gaps hfinite front a b back hcars ha hmoved := by
    rw [List.append_cons] at hcars
    have happroached := h.approached
    rw [hcars] at happroached
    have hlength : ∀ car ∈ front ++ [a], 0 ≤ car.length := fun _ hcar =>
      h.length_nonneg (hcars ▸ List.mem_append_left _ hcar)
    exact Road.keepsGap_of_restsAt h.fit h.course hfinite h.nonneg hlength ha happroached.comes
      hmoved

/-- A single straight on which three strides lead past the first mark. -/
def jerkyDeclarations : List Declaration :=
  [.road (.straight ⟨⟨0, 0⟩, ⟨100, 0⟩⟩) 30, .entry ⟨0⟩]

/-- A fresh world of a single fast road. -/
def jerky : World where
  network := (Plan.ofDeclarations jerkyDeclarations).network
  config := {}
  draws := .ofSeed 0

theorem fresh_jerky : jerky.Fresh := fresh_of_isOk (by decide +kernel) _

/-- Two cars come up to a stop. -/
def closeUp : List Command := [.spawnWave, .tick, .spawnWave, .tick, .tick]

/-- The marks are 80 and 40, and the cars are at rest at 90 and 60. -/
theorem atRest_closeUp : ∃ road a b,
    AtRest jerky [.setSignal ⟨0⟩ .stop] closeUp ⟨0⟩ road ⟨⟨0, 0⟩, ⟨100, 0⟩⟩ 20 ∧ road.Brisk ∧
      road.cars = [a, b] ∧ a.progress = 90 ∧ a.length = 20 ∧ b.progress = 60 := by
  have hspec : ((jerky.run ([.setSignal ⟨0⟩ .stop] ++ closeUp)).network.road? ⟨0⟩).map
      (fun road => (road.course, road.signal, decide road.Brisk,
        road.cars.map fun car => (car.progress, car.length))) =
      some (.straight ⟨⟨0, 0⟩, ⟨100, 0⟩⟩, .stop, true, [(90, 20), (60, 20)]) := by decide +kernel
  have hstays : ((jerky.run ([.setSignal ⟨0⟩ .stop] ++ closeUp)).network.road? ⟨0⟩).map
      (fun road => ((jerky.run ([.setSignal ⟨0⟩ .stop] ++ closeUp)).staying road .tick).map
        Car.progress) = some [90, 60] := by decide +kernel
  obtain ⟨road, hroad, hspec⟩ := Option.map_eq_some_iff.mp hspec
  rw [hroad] at hstays
  simp only [Prod.mk.injEq, decide_eq_true_eq, List.map_eq_cons_iff, List.map_eq_nil_iff] at hspec
  obtain ⟨hcourse, hstop, hbrisk, a, _, hcars, ⟨ha, hlength⟩, b, _, rfl, ⟨hb, -⟩, rfl⟩ := hspec
  have hempty : (jerky.run [.setSignal ⟨0⟩ .stop]).network.queue ⟨0⟩ = [] := by decide +kernel
  refine ⟨road, a, b, ?_, hbrisk, hcars, ha, hlength, hb⟩
  exact {
    fresh := fresh_jerky
    found := hroad
    course := hcourse
    stops := by decide +kernel
    stop := hstop
    new := fun car _ => hempty ▸ List.not_mem_nil
    nonneg := by decide +kernel
    keeps := by decide +kernel
    now := by decide +kernel
    rest := by
      rw [hcars, List.map_cons, List.map_cons, List.map_nil, ha, hb]
      exact Option.some.inj hstays }

/-- Both cars have left the start of a brisk road, so each is at its mark or past it, and the
gap between them is kept. -/
theorem restsBehindStop_closeUp : ∃ road a b,
    AtRest jerky [.setSignal ⟨0⟩ .stop] closeUp ⟨0⟩ road ⟨⟨0, 0⟩, ⟨100, 0⟩⟩ 20 ∧
      road.Brisk ∧ road.cars = [a, b] ∧ 0 < b.progress ∧
      road.RestsBehindStop ⟨⟨0, 0⟩, ⟨100, 0⟩⟩ 20 := by
  obtain ⟨road, a, b, hrest, hbrisk, hcars, -, -, hb⟩ := atRest_closeUp
  have hmoved : 0 < b.progress := by
    rw [hb]
    decide +kernel
  exact ⟨road, a, b, hrest, hbrisk, hcars, hmoved, restsBehindStop_of_atRest hrest⟩

theorem value_eq_of_signedSteps {x : Float32} {n : Int} (h : signedSteps x = n * stepsPerUnit) :
    value x = n := by
  rw [value, h, Int.cast_mul, Int.cast_natCast, mul_div_assoc, div_self stepsPerUnit_pos.ne',
    mul_one]

/-- Cars at rest behind a stop do not keep the following distance: between these two it is
10 and not 20. -/
theorem not_followingDistance_le_gap :
    ¬ ∀ (start : World) (before since : List Command) (id : RoadId) (road : Road)
      (line : Straight) (d : Float32) (front back : List Car) (a b : Car),
      AtRest start before since id road line d → line.length.isFinite = true →
      road.cars = front ++ a :: b :: back → 0 < b.progress →
      value d - value line.length / 2 ^ 21 ≤
        value a.progress - value a.length - value b.progress := by
  intro hclaim
  obtain ⟨road, a, b, hrest, -, hcars, ha, hlength, hb⟩ := atRest_closeUp
  have hgap := hclaim _ _ _ _ road _ 20 [] [] a b hrest (by decide +kernel) hcars
    (hb ▸ by decide +kernel)
  have hline : Straight.length ⟨⟨0, 0⟩, ⟨100, 0⟩⟩ = 100 := by decide +kernel
  rw [ha, hlength, hb, hline, @value_eq_of_signedSteps 20 20 (by decide +kernel),
    @value_eq_of_signedSteps 100 100 (by decide +kernel),
    @value_eq_of_signedSteps 90 90 (by decide +kernel),
    @value_eq_of_signedSteps 60 60 (by decide +kernel)] at hgap
  norm_num at hgap

end World

end RoadTraffic
