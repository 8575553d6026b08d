import RoadTraffic.Proofs.World.Strides

/-!
# How far cars come

Progress is a distance on a straight and an angle on an arc, and it keeps to its road:

    on a straight    0 ≤ progress ≤ length,
    on an arc        progress is 0, or one stride past an angle below the span,

on the side of the direction of travel.  Cars leave at the end only, and not before they
have taken a stride, since no length and no span is zero.

None of this depends on the following distance, which may be anything at every tick, nor
on the signals; a length or the angle of a stride may have overflowed to infinity.
-/

namespace RoadTraffic

open Binary32

namespace World

variable {start world : World} {id : RoadId} {road : Road} {car : CarId}
  {commands : List Command}

/-- As long as no tick comes, a car stands where it has stood. -/
theorem stands_of_quiet (h : world.network.Regular) (hquiet : Command.tick ∉ commands)
    (hroad : world.network.road? id = some road) {standing : Car}
    (hstands : standing ∈ road.cars) :
    ∃ next, (world.run commands).network.road? id = some next ∧ next.bare = road.bare ∧
      standing ∈ next.cars := by
  induction commands generalizing world road with
  | nil => exact ⟨road, hroad, rfl, hstands⟩
  | cons command commands ih =>
      have hne : command ≠ .tick := fun heq => hquiet (heq ▸ List.mem_cons_self)
      have hlater : Command.tick ∉ commands := fun hmem => hquiet (List.mem_cons_of_mem _ hmem)
      obtain ⟨-, next, hnext, hbare, hstill⟩ :=
        @stands_of_ne_tick world id standing.id road h command hne hroad standing hstands
      obtain ⟨final, hfinal, hsame, hstands⟩ :=
        ih (h.of_frame_eq (world.frame_obey command)) hlater hnext hstill
      exact ⟨final, hfinal, hsame.trans hbare, hstands⟩

/-- A car that leaves a road in a tick stands on it and has come to the end. -/
theorem exists_of_mem_leaving (hroad : world.network.road? id = some road)
    (hleaves : car ∈ world.leaving id .tick) :
    ∃ standing ∈ road.cars, standing.id = car ∧ road.Opens ∧ road.AtEnd standing.progress := by
  rw [leaving_tick hroad] at hleaves
  obtain ⟨departed, hdeparted, hid⟩ := List.mem_map.mp hleaves
  rw [Road.advance, Road.partQueue_eq_part] at hdeparted
  obtain ⟨hmem, hopen, hend⟩ := Road.atEnd_of_mem_departed hdeparted
  exact ⟨departed, hmem, hid, hopen, hend⟩

variable {standing : Car} {line : Straight} {arc : Arc}

/-- A car on a straight is between the ends of it. -/
theorem range_straight (h : start.Fresh)
    (hroad : (start.run commands).network.road? id = some road)
    (hcourse : road.course = .straight line) (hcar : standing ∈ road.cars) :
    0 ≤ standing.progress ∧ standing.progress ≤ line.length := by
  have hfit := Reachable.fit ⟨start, commands, h, rfl⟩ hroad
  obtain ⟨before, command, since, -, htracked⟩ := exists_tracked h commands hroad hcar
  rw [htracked.progress]
  exact Road.milestone_range hfit hcourse _

/-- A car on an arc is at the start, or a stride past a place before the end. -/
theorem range_arc (h : start.Fresh) (hroad : (start.run commands).network.road? id = some road)
    (hcourse : road.course = .arc arc) (hcar : standing ∈ road.cars) :
    arc.Onward standing.progress ∧
      (standing.progress = 0 ∨ ∃ q : Float32, q.abs < arc.span ∧
        standing.progress = q + arc.direction * road.speed / arc.radius) := by
  have hfit := Reachable.fit ⟨start, commands, h, rfl⟩ hroad
  obtain ⟨before, command, since, -, htracked⟩ := exists_tracked h commands hroad hcar
  obtain ⟨hcount, hclear⟩ := htracked.arc (Road.isStraight_of_arc hcourse)
  have hprogress := htracked.progress
  rw [hcount] at hprogress
  rw [hprogress]
  refine ⟨Road.onward_milestone hfit hcourse _, ?_⟩
  cases hticks : since.count .tick with
  | zero => exact Or.inl rfl
  | succ k =>
      have hbegan := hclear k (hticks ▸ Nat.lt_succ_self k)
      rw [Road.AtEnd, hcourse, not_not] at hbegan
      rw [Road.milestone, Road.stride, hcourse]
      exact Or.inr ⟨_, hbegan, rfl⟩

/-- A car that departs is at the length of a straight that shows proceed, or has come round
the span of an arc. -/
theorem at_end_of_departs (h : start.Fresh)
    (hroad : (start.run commands).network.road? id = some road) (hcar : standing ∈ road.cars)
    (hopen : road.Opens) (hend : road.AtEnd standing.progress) :
    match road.course with
    | .straight line => standing.progress = line.length ∧ road.signal = .proceed
    | .arc arc => arc.span ≤ standing.progress.abs := by
  have hfit := Reachable.fit ⟨start, commands, h, rfl⟩ hroad
  cases hcourse : road.course with
  | straight line =>
      rw [Road.Opens, hcourse] at hopen
      have hle := (range_straight h hroad hcourse hcar).2
      refine ⟨Road.eq_length_of_atEnd hcourse (hfit.straight hcourse).length_pos hle hend, ?_⟩
      cases hsignal : road.signal with
      | proceed => rfl
      | stop =>
          rw [hsignal] at hopen
          exact absurd hopen Bool.false_ne_true
  | arc arc =>
      rw [Road.AtEnd, hcourse] at hend
      obtain ⟨-, hspan, -⟩ := lt_iff.mp (hfit.arc hcourse).span_pos
      have honward := (range_arc h hroad hcourse hcar).1
      have hnum : standing.progress.isNaN = false := by
        unfold Arc.Onward at honward
        split at honward
        · exact (le_iff.mp honward).1
        · exact (le_iff.mp honward).2.1
      exact le_of_not_lt (le_iff.mp (abs_nonneg hnum)).2.1 hspan hend

/-- A car does not leave in the first tick after it has entered. -/
theorem not_mem_leaving_of_entering (h : start.Fresh) {before quiet : List Command}
    {command : Command} (hquiet : Command.tick ∉ quiet)
    (hentering : car ∈ (start.run before).entering id command) :
    car ∉ (start.run (before ++ command :: quiet)).leaving id .tick := by
  intro hleaves
  have hregular := h.regular_run before
  have hreachable : (start.run (before ++ command :: quiet)).Reachable := ⟨start, _, h, rfl⟩
  obtain ⟨next, standing, hnext, hstands, rfl, hprogress, -⟩ :=
    exists_of_mem_entering hregular hentering
  obtain ⟨final, hfinal, -, hstill⟩ := stands_of_quiet
    (hregular.of_frame_eq ((start.run before).frame_obey command)) hquiet hnext hstands
  have hrun : start.run (before ++ command :: quiet) =
      ((start.run before).obey command).world.run quiet := by
    rw [run_append, run_cons]
  rw [← hrun] at hfinal
  obtain ⟨departed, hdeparted, hid, -, hend⟩ := exists_of_mem_leaving hfinal hleaves
  have hsame : departed = standing :=
    List.inj_on_of_nodup_map (hreachable.distinct_road hfinal) hdeparted hstill hid
  rw [hsame, hprogress] at hend
  exact Road.not_atEnd_zero (hreachable.fit hfinal) hend

/-- A car that leaves has taken a stride since it has entered. -/
theorem exists_sojourn_of_leaving (h : start.Fresh)
    (hleaves : car ∈ (start.run commands).leaving id .tick) :
    ∃ before command since, commands = before ++ command :: since ∧
      Sojourn start id car before command since ∧
      0 < (start.run (before ++ [command])).strides id car since := by
  have hreachable : (start.run commands).Reachable := ⟨start, commands, h, rfl⟩
  obtain ⟨road, hroad⟩ : ∃ road, (start.run commands).network.road? id = some road := by
    rw [leaving, Network.departing] at hleaves
    cases hroad : (start.run commands).network.road? id with
    | none =>
        rw [hroad] at hleaves
        exact absurd hleaves List.not_mem_nil
    | some road => exact ⟨road, rfl⟩
  obtain ⟨standing, hstanding, rfl, -, hend⟩ := exists_of_mem_leaving hroad hleaves
  obtain ⟨before, command, since, hsplit, htracked⟩ := exists_tracked h commands hroad hstanding
  refine ⟨before, command, since, hsplit, htracked.sojourn, Nat.pos_of_ne_zero fun hnone => ?_⟩
  rw [htracked.progress, hnone] at hend
  exact Road.not_atEnd_zero (hreachable.fit hroad) hend

/-- How far the cars of a run have come, and where they leave. -/
structure InRange (start : World) (commands : List Command) : Prop where
  /-- The progress on a straight is between zero and the length, which is above zero. -/
  straight : ∀ id road line, (start.run commands).network.road? id = some road →
    road.course = .straight line → 0 < line.length ∧ ∀ car ∈ road.cars,
      car.progress.isNaN = false ∧ 0 ≤ car.progress ∧ car.progress ≤ line.length
  /-- The progress on an arc is zero or on the side of the direction of travel, and the
  last stride began before the end; the span is above zero. -/
  arc : ∀ id road arc, (start.run commands).network.road? id = some road →
    road.course = .arc arc → 0 < arc.span ∧ ∀ car ∈ road.cars,
      arc.Onward car.progress ∧
        (car.progress = 0 ∨ ∃ q : Float32, q.abs < arc.span ∧
          car.progress = q + arc.direction * road.speed / arc.radius)
  /-- Cars depart from the end only, and from a straight only if it shows proceed. -/
  departs : ∀ id car, (id, car) ∈ (start.run commands).departures →
    ∃ road, (start.run commands).network.road? id = some road ∧ car ∈ road.cars ∧
      match road.course with
      | .straight line => car.progress = line.length ∧ road.signal = .proceed
      | .arc arc => arc.span ≤ car.progress.abs
  /-- A car does not leave a road in the first tick after it has entered it. -/
  notNext : ∀ before command quiet id car, commands = before ++ command :: quiet →
    .tick ∉ quiet → car ∈ (start.run before).entering id command →
    car ∉ (start.run commands).leaving id .tick
  /-- A car that leaves a road in a tick has taken a stride on it since it has entered. -/
  moved : ∀ id car, car ∈ (start.run commands).leaving id .tick →
    ∃ before command since, commands = before ++ command :: since ∧
      Sojourn start id car before command since ∧
      0 < (start.run (before ++ [command])).strides id car since

/-- **Progress stays in range.**  In every run cars stay between the ends of their roads,
and leave them at the end only, after at least one stride. -/
theorem inRange_run (h : start.Fresh) (commands : List Command) : InRange start commands := by
  have hreachable : (start.run commands).Reachable := ⟨start, commands, h, rfl⟩
  refine ⟨?_, ?_, ?_, ?_, ?_⟩
  · intro id road line hroad hcourse
    refine ⟨((hreachable.fit hroad).straight hcourse).length_pos, fun car hcar => ?_⟩
    obtain ⟨hnonneg, hle⟩ := range_straight h hroad hcourse hcar
    exact ⟨(le_iff.mp hle).1, hnonneg, hle⟩
  · intro id road arc hroad hcourse
    exact ⟨((hreachable.fit hroad).arc hcourse).span_pos,
      fun car hcar => range_arc h hroad hcourse hcar⟩
  · intro id car hdeparts
    obtain ⟨road, hroad, hdeparted⟩ := (mem_departures_iff hreachable.regular).mp hdeparts
    rw [Road.advance, Road.partQueue_eq_part] at hdeparted
    obtain ⟨hcar, hopen, hend⟩ := Road.atEnd_of_mem_departed hdeparted
    exact ⟨road, hroad, hcar, at_end_of_departs h hroad hcar hopen hend⟩
  · intro before command quiet id car hsplit hquiet hentering
    rw [hsplit]
    exact not_mem_leaving_of_entering h hquiet hentering
  · intro id car hleaves
    exact exists_sojourn_of_leaving h hleaves

/-- A run in which the following distance is negative and then not a number.  Two cars at
the end of a road that shows proceed may not leave it at first, as there is room ahead of
them past the end. -/
def unruly : List Command :=
  [.configure { followingDistance := -40 }, .spawn 20 ⟨0⟩, .setSignal ⟨0⟩ .stop, .tick, .tick,
    .spawn 30 ⟨0⟩, .tick, .setSignal ⟨0⟩ .proceed, .tick, .tick,
    .configure { followingDistance := 0 / 0 }]

/-- In the next tick both of them leave. -/
theorem inRange_run_fork :
    fork.Fresh ∧ (fork.run unruly).leaving ⟨0⟩ .tick = [⟨0⟩, ⟨1⟩] ∧ InRange fork unruly :=
  ⟨fresh_fork, by decide +kernel, inRange_run fresh_fork unruly⟩

end World

end RoadTraffic
