import RoadTraffic.Proofs.World.Strides

/-!
# Where cars are shown

The pose of a car is written down when it enters a road and when it takes a stride there,
and between the two it is only carried along.  On a straight it is always that of the
progress of the car.  On an arc it lags behind by one stride: a car that has come to
`q + angle` is shown at `q`, which is before the end.

Since the pose is written down at every entrance, none that an earlier road has given is
ever seen on a later one.
-/

namespace RoadTraffic

namespace World

/-- Where the cars of a run are shown, by the time since they have entered their roads. -/
structure Posed (start : World) (commands : List Command) : Prop where
  /-- A car on a straight is shown at the start, facing along it, until it takes a stride,
  and then at its progress. -/
  straight : ∀ id road line, (start.run commands).network.road? id = some road →
    road.course = .straight line → ∀ car ∈ road.cars, ∃ before command since,
      commands = before ++ command :: since ∧ Sojourn start id car.id before command since ∧
      (((start.run (before ++ [command])).strides id car.id since = 0 ∧ car.progress = 0 ∧
          car.pose = ⟨line.start, line.heading⟩) ∨
        (0 < (start.run (before ++ [command])).strides id car.id since ∧
          car.pose = ⟨line.start.offset line.heading car.progress, line.heading⟩))
  /-- A car on an arc is shown at the start until a tick comes, and then where its last
  stride began, which is before the end. -/
  arc : ∀ id road arc, (start.run commands).network.road? id = some road →
    road.course = .arc arc → ∀ car ∈ road.cars, ∃ before command since,
      commands = before ++ command :: since ∧ Sojourn start id car.id before command since ∧
      ((Command.tick ∉ since ∧ car.progress = 0 ∧
          car.pose = ⟨arc.pointAt 0, arc.headingAt 0⟩) ∨
        (Command.tick ∈ since ∧ ∃ q : Float32, q.abs < arc.span ∧
          car.progress = q + arc.direction * road.speed / arc.radius ∧
          car.pose = ⟨arc.pointAt q, arc.headingAt q⟩))
  /-- A car that enters a road is shown at the start of that road, wherever it was. -/
  entered : ∀ before command id car, commands = before ++ [command] →
    car ∈ (start.run before).entering id command →
    ∃ road standing, (start.run commands).network.road? id = some road ∧
      standing ∈ road.cars ∧ standing.id = car ∧ standing.progress = 0 ∧
      standing.pose = road.course.startPose

variable {start : World} {id : RoadId} {road : Road} {commands : List Command}
  {standing : Car} {line : Straight} {arc : Arc}

theorem posed_straight (h : start.Fresh)
    (hroad : (start.run commands).network.road? id = some road)
    (hcourse : road.course = .straight line) (hcar : standing ∈ road.cars) :
    ∃ before command since, commands = before ++ command :: since ∧
      Sojourn start id standing.id before command since ∧
      (((start.run (before ++ [command])).strides id standing.id since = 0 ∧
          standing.progress = 0 ∧ standing.pose = ⟨line.start, line.heading⟩) ∨
        (0 < (start.run (before ++ [command])).strides id standing.id since ∧
          standing.pose =
            ⟨line.start.offset line.heading standing.progress, line.heading⟩)) := by
  obtain ⟨before, command, since, hsplit, htracked⟩ := exists_tracked h commands hroad hcar
  refine ⟨before, command, since, hsplit, htracked.sojourn, ?_⟩
  rw [htracked.progress, htracked.pose]
  cases (start.run (before ++ [command])).strides id standing.id since with
  | zero =>
      rw [Road.shown, hcourse]
      exact Or.inl ⟨rfl, rfl, rfl⟩
  | succ k =>
      rw [Road.shown, Road.poseAfter, hcourse]
      exact Or.inr ⟨Nat.succ_pos k, rfl⟩

/-- A car on an arc is shown at the milestone before its progress. -/
theorem exists_shown_at (h : start.Fresh)
    (hroad : (start.run commands).network.road? id = some road)
    (hcourse : road.course = .arc arc) (hcar : standing ∈ road.cars) :
    ∃ before command since, commands = before ++ command :: since ∧
      Sojourn start id standing.id before command since ∧
      standing.progress = road.milestone (since.count .tick) ∧
      standing.pose = arc.poseAt (road.milestone (since.count .tick - 1)) ∧
      ¬ road.AtEnd (road.milestone (since.count .tick - 1)) := by
  have hfit := Reachable.fit ⟨start, commands, h, rfl⟩ hroad
  obtain ⟨before, command, since, hsplit, htracked⟩ := exists_tracked h commands hroad hcar
  obtain ⟨hcount, hclear⟩ := htracked.arc (Road.isStraight_of_arc hcourse)
  have hprogress := htracked.progress
  have hpose := htracked.pose
  rw [hcount] at hprogress hpose
  refine ⟨before, command, since, hsplit, htracked.sojourn, hprogress, ?_⟩
  rw [hpose]
  cases hticks : since.count .tick with
  | zero =>
      rw [Road.shown, hcourse]
      exact ⟨rfl, Road.not_atEnd_zero hfit⟩
  | succ k =>
      rw [Road.shown, Road.poseAfter, hcourse]
      exact ⟨rfl, hclear k (hticks ▸ Nat.lt_succ_self k)⟩

theorem posed_arc (h : start.Fresh)
    (hroad : (start.run commands).network.road? id = some road)
    (hcourse : road.course = .arc arc) (hcar : standing ∈ road.cars) :
    ∃ before command since, commands = before ++ command :: since ∧
      Sojourn start id standing.id before command since ∧
      ((Command.tick ∉ since ∧ standing.progress = 0 ∧
          standing.pose = ⟨arc.pointAt 0, arc.headingAt 0⟩) ∨
        (Command.tick ∈ since ∧ ∃ q : Float32, q.abs < arc.span ∧
          standing.progress = q + arc.direction * road.speed / arc.radius ∧
          standing.pose = ⟨arc.pointAt q, arc.headingAt q⟩)) := by
  obtain ⟨before, command, since, hsplit, hsojourn, hprogress, hpose, hclear⟩ :=
    exists_shown_at h hroad hcourse hcar
  refine ⟨before, command, since, hsplit, hsojourn, ?_⟩
  cases hticks : since.count .tick with
  | zero =>
      rw [hticks] at hprogress hpose
      exact Or.inl ⟨List.count_eq_zero.mp hticks, hprogress, hpose⟩
  | succ k =>
      -- The stride of the last tick began at milestone `k`.
      rw [hticks, Nat.add_sub_cancel] at hclear hpose
      rw [hticks, Road.milestone, Road.stride, hcourse] at hprogress
      rw [Road.AtEnd, hcourse, not_not] at hclear
      have htick : Command.tick ∈ since := List.count_pos_iff.mp (hticks ▸ Nat.succ_pos k)
      exact Or.inr ⟨htick, road.milestone k, hclear, hprogress, hpose⟩

/-- **The pose follows the progress.**  In every run each car is shown where its present
road puts it, by the strides that it has taken on that road. -/
theorem posed_run (h : start.Fresh) (commands : List Command) : Posed start commands := by
  refine ⟨?_, ?_, ?_⟩
  · intro id road line hroad hcourse car hcar
    exact posed_straight h hroad hcourse hcar
  · intro id road arc hroad hcourse car hcar
    exact posed_arc h hroad hcourse hcar
  · intro before command id car hsplit hentering
    rw [hsplit, run_append]
    exact exists_of_mem_entering (h.regular_run before) hentering

/-- A car that has waited at the end of a straight goes on to an arc, where it takes two
strides, and another car comes behind it on the straight. -/
theorem posed_run_fork :
    let start : World := { fork with draws := .ofSeed 2 }
    let commands : List Command :=
      [.setSignal ⟨0⟩ .stop, .spawnWave, .tick, .tick, .tick, .setSignal ⟨0⟩ .proceed, .tick,
        .spawnWave, .tick, .tick]
    start.Fresh ∧
      (start.run commands).network.roads.map (·.cars.map Car.progress) = [[100], [1], []] ∧
      Posed start commands := by
  intro start commands
  exact ⟨fresh_fork_draws _, by decide +kernel, posed_run (fresh_fork_draws _) commands⟩

end World

end RoadTraffic
