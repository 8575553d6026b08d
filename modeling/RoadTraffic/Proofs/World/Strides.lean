import RoadTraffic.Proofs.Road.Strides
import RoadTraffic.Proofs.World.Trails
import RoadTraffic.Proofs.World.Transit

/-!
# The strides that a car has taken

A car takes strides only in ticks, and at most one in each.  Of a car that stands on a
road we look at the time since it has entered it (`Sojourn`), and count the strides that
it has taken in that time (`World.strides`).  They tell all that the road has made of it,

    progress  =  road.milestone strides,      pose  =  road.shown strides

(`exists_tracked`).  On an arc it has also taken a stride in every tick of that time, and
none of them began past the end.

This holds of every run, with any following distance: no order of the queue is used, but
only that no two cars have one identity.
-/

namespace RoadTraffic

open Binary32

namespace World

variable (world : World) (id : RoadId)

/-- The cars that take a stride on a road when a command is obeyed. -/
def moving : Command → List CarId
  | .tick => ((world.network.road? id).map fun road =>
      road.moving world.config.followingDistance world.config.followingDistance road.cars).getD []
  | _ => []

/-- The number of strides that a car takes on a road in a run. -/
def strides (world : World) (id : RoadId) (car : CarId) : List Command → Nat
  | [] => 0
  | command :: commands =>
    (if car ∈ world.moving id command then 1 else 0) +
      (world.obey command).world.strides id car commands

variable {world : World} {id : RoadId} {road : Road} {car : CarId}

theorem moving_tick (hroad : world.network.road? id = some road) :
    world.moving id .tick = road.moving world.config.followingDistance
      world.config.followingDistance road.cars := by
  rw [moving, hroad]
  rfl

theorem moving_of_ne_tick {command : Command} (h : command ≠ .tick) :
    world.moving id command = [] := by
  cases command <;> first | rfl | exact absurd rfl h

theorem strides_append (world : World) (id : RoadId) (car : CarId)
    (first second : List Command) : world.strides id car (first ++ second) =
      world.strides id car first + (world.run first).strides id car second := by
  induction first generalizing world with
  | nil => exact (Nat.zero_add _).symm
  | cons command first ih =>
      rw [List.cons_append, strides, strides, ih, run_cons, Nat.add_assoc]

theorem released_append (first second : List Command) :
    world.released id (first ++ second) =
      world.released id first ++ (world.run first).released id second := by
  induction first generalizing world with
  | nil => rfl
  | cons command first ih =>
      rw [List.cons_append, released, released, ih, run_cons, List.append_assoc]

theorem Reachable.fit (h : world.Reachable) (hroad : world.network.road? id = some road) :
    road.Fit :=
  h.regular.fit road (Network.mem_roads_of_road? hroad)

/-!
## One command
-/

/-- A car that stands on a road after a command was left there by it, or has entered by
it and is at the start. -/
theorem mem_cars_obey (h : world.network.Regular) (hroad : world.network.road? id = some road)
    {command : Command} {next : Road}
    (hnext : (world.obey command).world.network.road? id = some next) {standing : Car}
    (hcar : standing ∈ next.cars) :
    standing ∈ world.staying road command ∨
      (standing.id ∈ world.entering id command ∧ standing.progress = 0 ∧
        standing.pose = road.course.startPose) := by
  obtain ⟨-, hcars⟩ := world.run_actions id road command
  have hrun := road?_obey h id command
  rw [hnext, hroad, Option.map_some] at hrun
  rw [Option.some.inj hrun, hcars] at hcar
  rcases List.mem_append.mp hcar with hstays | hentered
  · exact Or.inl hstays
  · obtain ⟨was, hwas, rfl⟩ := List.mem_map.mp hentered
    rw [← receives_actions id command]
    exact Or.inr ⟨List.mem_map.mpr ⟨was, hwas, rfl⟩, rfl, rfl⟩

/-- A car that enters a road is put at the start of it. -/
theorem exists_of_mem_entering (h : world.network.Regular) {command : Command}
    (hentering : car ∈ world.entering id command) :
    ∃ next standing, (world.obey command).world.network.road? id = some next ∧
      standing ∈ next.cars ∧ standing.id = car ∧ standing.progress = 0 ∧
        standing.pose = next.course.startPose := by
  have hqueue := mem_queue_of_mem_entrances h ((mem_entering_iff command).mp hentering)
  obtain ⟨next, hnext, -⟩ := exists_road?_of_mem_queue hqueue
  obtain ⟨road, hroad, hbare⟩ :=
    Network.exists_road?_of_frame_eq (world.frame_obey command).symm hnext
  obtain ⟨-, hcars⟩ := world.run_actions id road command
  have hrun := road?_obey h id command
  rw [hnext, hroad, Option.map_some] at hrun
  rw [← Option.some.inj hrun, (Road.eq_of_bare_eq hbare).2.1] at hcars
  rw [← receives_actions] at hentering
  obtain ⟨was, hwas, rfl⟩ := List.mem_map.mp hentering
  refine ⟨next, was.entering next.course.startPose, hnext, ?_, rfl, rfl, rfl⟩
  rw [hcars]
  exact List.mem_append_right _ (List.mem_map_of_mem hwas)

/-- **One command and a car that it leaves on its road.**  The car does not leave, and it
has taken a stride, or is as it was. -/
theorem exists_of_mem_staying (h : world.Reachable) (hroad : world.network.road? id = some road)
    {command : Command} {standing : Car} (hcar : standing ∈ world.staying road command) :
    ∃ was ∈ road.cars, standing.id = was.id ∧ was.id ∉ world.leaving id command ∧
      ((was.id ∈ world.moving id command ∧ command = .tick ∧ standing = road.strode was ∧
          ∃ r, road.Moves r was.progress) ∨
        (was.id ∉ world.moving id command ∧ standing = was ∧
          (command = .tick → ¬ road.Opens))) := by
  by_cases htick : command = .tick
  · subst htick
    have hdistinct := h.distinct_road hroad
    have hkept : standing ∈ (road.part world.config.followingDistance
        world.config.followingDistance road.cars).kept := by
      rw [← Road.partQueue_eq_part]
      exact hcar
    obtain ⟨was, hwas, hid, hcases⟩ := Road.exists_of_mem_kept hdistinct hkept
    have hstays := Road.not_mem_departed hdistinct _ (List.mem_map_of_mem hcar)
    rw [hid] at hstays
    rw [leaving_tick hroad, moving_tick hroad]
    refine ⟨was, hwas, hid, hstays, ?_⟩
    rcases hcases with ⟨hmoves, hstrode, hroom⟩ | ⟨hstill, hsame, hclosed⟩
    · exact Or.inl ⟨hmoves, rfl, hstrode, hroom⟩
    · exact Or.inr ⟨hstill, hsame, fun _ => hclosed⟩
  · rw [staying_of_ne_tick htick] at hcar
    rw [leaving_of_ne_tick htick, moving_of_ne_tick htick]
    exact ⟨standing, hcar, rfl, List.not_mem_nil,
      Or.inr ⟨List.not_mem_nil, rfl, fun heq => absurd heq htick⟩⟩

/-!
## The time since a car has entered
-/

/-- The car has entered the road by the command, and has not left it since. -/
structure Sojourn (start : World) (id : RoadId) (car : CarId) (before : List Command)
    (command : Command) (since : List Command) : Prop where
  entered : car ∈ (start.run before).entering id command
  stays : car ∉ (start.run (before ++ [command])).released id since

/-- What a run has made of a car since it has entered the road on which it stands. -/
structure Tracked (start : World) (id : RoadId) (road : Road) (standing : Car)
    (before : List Command) (command : Command) (since : List Command) : Prop where
  sojourn : Sojourn start id standing.id before command since
  progress : standing.progress =
    road.milestone ((start.run (before ++ [command])).strides id standing.id since)
  pose : standing.pose =
    road.shown ((start.run (before ++ [command])).strides id standing.id since)
  /-- An arc stops no car, and lets none go on that has come to the end. -/
  arc : road.isStraight = false →
    (start.run (before ++ [command])).strides id standing.id since = since.count .tick ∧
      ∀ k < since.count .tick, ¬ road.AtEnd (road.milestone k)

variable {start : World} {before since : List Command} {command : Command}

/-- A car that has just entered has taken no stride. -/
theorem Tracked.of_entering {standing : Car}
    (hentered : standing.id ∈ (start.run before).entering id command)
    (hprogress : standing.progress = 0) (hpose : standing.pose = road.course.startPose) :
    Tracked start id road standing before command [] :=
  ⟨⟨hentered, List.not_mem_nil⟩, hprogress, hpose, fun _ => ⟨rfl, nofun⟩⟩

/-- Only the course and the speed of the road matter. -/
theorem Tracked.of_bare_eq {next : Road} {standing : Car} (hbare : next.bare = road.bare)
    (h : Tracked start id road standing before command since) :
    Tracked start id next standing before command since := by
  obtain ⟨hsojourn, hprogress, hpose, harc⟩ := h
  obtain ⟨-, hcourse, hspeed, -⟩ := Road.eq_of_bare_eq hbare
  have hstraight : next.isStraight = road.isStraight := by
    rw [Road.isStraight, Road.isStraight, hcourse]
  refine ⟨hsojourn, ?_, ?_, ?_⟩
  · rw [Road.milestone_congr hcourse hspeed]
    exact hprogress
  · rw [Road.shown_congr hcourse hspeed]
    exact hpose
  · rw [hstraight, Road.atEnd_congr hcourse, funext (Road.milestone_congr hcourse hspeed)]
    exact harc

/-- **One more command.** -/
theorem Tracked.obey {was standing : Car} (h : Tracked start id road was before command since)
    (hid : standing.id = was.id) {last : Command}
    (hstays : was.id ∉ (start.run (before ++ command :: since)).leaving id last)
    (hcases : (was.id ∈ (start.run (before ++ command :: since)).moving id last ∧
        last = .tick ∧ standing = road.strode was ∧ ∃ r, road.Moves r was.progress) ∨
      (was.id ∉ (start.run (before ++ command :: since)).moving id last ∧ standing = was ∧
        (last = .tick → ¬ road.Opens))) :
    Tracked start id road standing before command (since ++ [last]) := by
  obtain ⟨⟨hentered, hstayed⟩, hprogress, hpose, harc⟩ := h
  have hsplit : before ++ command :: since = (before ++ [command]) ++ since :=
    List.append_cons before command since
  rw [hsplit, run_append] at hstays hcases
  rw [← hid] at hentered hstayed hprogress hpose harc hstays hcases
  have hsojourn : Sojourn start id standing.id before command (since ++ [last]) := by
    refine ⟨hentered, ?_⟩
    rw [released_append]
    refine fun hmem => (List.mem_append.mp hmem).elim hstayed ?_
    rw [released, released, List.append_nil]
    exact hstays
  have hstrides := (start.run (before ++ [command])).strides_append id standing.id since [last]
  rw [strides, strides, Nat.add_zero] at hstrides
  rcases hcases with ⟨hmoves, rfl, hstrode, r, hroom⟩ | ⟨hstill, hsame, hclosed⟩
  · rw [if_pos hmoves] at hstrides
    have hstand : standing.progress = road.stride was.progress ∧
        standing.pose = road.poseAfter was.progress := by
      rw [hstrode]
      exact ⟨rfl, rfl⟩
    refine ⟨hsojourn, ?_, ?_, fun hnot => ?_⟩
    · rw [hstrides, Road.milestone, hstand.1, hprogress]
    · rw [hstrides, Road.shown, hstand.2, hprogress]
    · obtain ⟨hcount, hclear⟩ := harc hnot
      rw [hstrides, hcount, List.count_append, List.count_singleton_self]
      refine ⟨rfl, fun k hk => ?_⟩
      rcases Nat.lt_or_eq_of_le (Nat.le_of_lt_succ hk) with hlt | rfl
      · exact hclear k hlt
      · -- The stride of this tick began before the end.
        rw [← hcount, ← hprogress]
        exact (Road.moves_iff_of_arc hnot).mp hroom
  · rw [if_neg hstill, Nat.add_zero] at hstrides
    refine ⟨hsojourn, ?_, ?_, fun hnot => ?_⟩
    · rw [hstrides, ← hprogress, hsame]
    · rw [hstrides, ← hpose, hsame]
    · obtain ⟨hcount, hclear⟩ := harc hnot
      -- An arc is always open, so no tick leaves a car where it is.
      have hne : last ≠ .tick := fun heq => hclosed heq (Road.opens_of_arc hnot)
      have hticks : (since ++ [last]).count .tick = since.count .tick := by
        rw [List.count_append, List.count_singleton, beq_false_of_ne hne]
        rfl
      rw [hstrides, hticks]
      exact ⟨hcount, hclear⟩

/-- **A whole run.**  Progress and pose of a car that stands on a road are those after the
strides that it has taken since it has entered. -/
theorem exists_tracked (h : start.Fresh) (commands : List Command)
    (hroad : (start.run commands).network.road? id = some road) {standing : Car}
    (hcar : standing ∈ road.cars) :
    ∃ before command since, commands = before ++ command :: since ∧
      Tracked start id road standing before command since := by
  induction commands using List.reverseRecOn generalizing road standing with
  | nil =>
      obtain ⟨-, hempty, -⟩ := h.start
      rw [hempty road (Network.mem_roads_of_road? hroad)] at hcar
      exact nomatch hcar
  | append_singleton commands last ih =>
      rw [run_append] at hroad
      have hreachable : (start.run commands).Reachable := ⟨start, commands, h, rfl⟩
      obtain ⟨was, hwas, hbare⟩ := Network.exists_road?_of_frame_eq
        ((start.run commands).frame_obey last).symm hroad
      rcases mem_cars_obey hreachable.regular hwas hroad hcar with
        hstays | ⟨hentered, hprogress, hpose⟩
      · obtain ⟨stood, hstood, hid, hleft, hcases⟩ :=
          exists_of_mem_staying hreachable hwas hstays
        obtain ⟨before, command, since, rfl, htracked⟩ := ih hwas hstood
        refine ⟨before, command, since ++ [last], by simp, ?_⟩
        exact (htracked.obey hid hleft hcases).of_bare_eq hbare.symm
      · have hcourse := (Road.eq_of_bare_eq hbare).2.1
        exact ⟨commands, last, [], rfl, .of_entering hentered hprogress (hcourse ▸ hpose)⟩

end World

end RoadTraffic
