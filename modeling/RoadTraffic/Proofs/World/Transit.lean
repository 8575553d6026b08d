import RoadTraffic.Proofs.Road.Transit
import RoadTraffic.Proofs.World.Departures

/-!
# The time that a car takes on a road

How long a car takes on an open road is prescribed by the road alone.  If the road shows
proceed at every tick of its stay, or is an arc, the car departs in tick `K + 1` after it
has entered, where `K` is the number of strides from the start of the road to its end;
and if no number of strides leads there, it stays for good (`stay_of_entering`).

Each tick finds the car at the next milestone (`stands_tick`), and what else happens
leaves it where it is, so the run takes the same turns as `Road.transit`
(`stay_eq_transit`).

Nothing else enters into this: not the cars ahead and behind, no lengths, not the
following distance, as long as it is not negative, and not what happens on other roads.
-/

namespace RoadTraffic

open Binary32

theorem Road.opens_of_proceed {road : Road}
    (h : road.isStraight = true → road.signal = .proceed) : road.Opens := by
  rw [isStraight] at h
  unfold Opens
  cases hcourse : road.course with
  | straight line =>
      rw [hcourse] at h
      rw [h rfl]
      rfl
  | arc arc => trivial

namespace World

/-- The number of the tick in which a car leaves a road, counted from one, if it does in
the run. -/
def stay (world : World) (id : RoadId) (car : CarId) : List Command → Option Nat
  | [] => none
  | .tick :: commands =>
    if car ∈ world.leaving id .tick then some 1
    else ((world.obey .tick).world.stay id car commands).map (· + 1)
  | command :: commands => (world.obey command).world.stay id car commands

/-- Does the road show proceed at every tick until the car has left it? -/
def FindsProceed (world : World) (id : RoadId) (car : CarId) : List Command → Prop
  | [] => True
  | command :: commands =>
    (command = .tick → (world.network.road? id).map Road.signal = some .proceed) ∧
      (car ∉ world.leaving id command → (world.obey command).world.FindsProceed id car commands)

instance decidableFindsProceed (id : RoadId) (car : CarId) : (world : World) →
    (commands : List Command) → Decidable (world.FindsProceed id car commands)
  | _, [] => isTrue trivial
  | world, command :: commands =>
    have := decidableFindsProceed id car (world.obey command).world commands
    inferInstanceAs (Decidable
      ((command = .tick → (world.network.road? id).map Road.signal = some .proceed) ∧
        (car ∉ world.leaving id command →
          (world.obey command).world.FindsProceed id car commands)))

variable {world : World} {id : RoadId} {car : CarId} {road now : Road} {commands : List Command}

/-- The car stands on the road, at that progress. -/
def StandsAt (world : World) (id : RoadId) (car : CarId) (p : Float32) : Prop :=
  ∃ road standing, world.network.road? id = some road ∧ standing ∈ road.cars ∧
    standing.id = car ∧ standing.progress = p

theorem StandsAt.mem_queue {p : Float32} (h : world.StandsAt id car p) :
    car ∈ world.network.queue id := by
  obtain ⟨road, standing, hroad, hstands, hcar, -⟩ := h
  rw [queue_eq_of_road? hroad]
  exact List.mem_map.mpr ⟨standing, hstands, hcar⟩

theorem stay_cons_of_ne_tick {command : Command} (h : command ≠ .tick) :
    world.stay id car (command :: commands) = (world.obey command).world.stay id car commands := by
  cases command <;> first | rfl | exact absurd rfl h

/-- **One tick, a car and its road.**  A car that finds its road open departs if it has
come to the end, and otherwise takes a stride. -/
theorem stands_tick (h : world.Reachable) (horderly : world.network.Orderly)
    (hd : 0 ≤ world.config.followingDistance) (hroad : world.network.road? id = some now)
    (hopen : now.Opens) {standing : Car} (hstands : standing ∈ now.cars) :
    (now.AtEnd standing.progress ∧ standing.id ∈ world.leaving id .tick) ∨
      (¬ now.AtEnd standing.progress ∧ standing.id ∉ world.leaving id .tick ∧
        ∃ next moved, (world.obey .tick).world.network.road? id = some next ∧
          next.bare = now.bare ∧ moved ∈ next.cars ∧ moved.id = standing.id ∧
          moved.progress = now.stride standing.progress) := by
  obtain ⟨next, entered, hnext, hbare, hcars, -⟩ := exists_road?_obey h.regular hroad .tick
  have hlength := (horderly now (Network.mem_roads_of_road? hroad)).length
  rw [leaving_tick hroad]
  refine (Road.advance_of_opens hopen hd hlength (h.distinct_road hroad) hstands).imp_right ?_
  rintro ⟨hclear, hstays, moved, hmoved, hid, hprogress⟩
  refine ⟨hclear, hstays, next, moved, hnext, hbare, ?_, hid, hprogress⟩
  rw [hcars]
  exact List.mem_append_left _ hmoved

/-- Without a tick a car stands where it has stood. -/
theorem stands_of_ne_tick (h : world.network.Regular) {command : Command}
    (hne : command ≠ .tick) (hroad : world.network.road? id = some now) {standing : Car}
    (hstands : standing ∈ now.cars) :
    car ∉ world.leaving id command ∧
      ∃ next, (world.obey command).world.network.road? id = some next ∧
        next.bare = now.bare ∧ standing ∈ next.cars := by
  obtain ⟨next, entered, hnext, hbare, hcars, -⟩ := exists_road?_obey h hroad command
  rw [leaving_of_ne_tick hne]
  refine ⟨List.not_mem_nil, next, hnext, hbare, ?_⟩
  rw [hcars, staying_of_ne_tick hne]
  exact List.mem_append_left _ hstands

/-- **A whole stay.**  A car that has taken `k` strides stays as long as the road prescribes, and
until then takes a stride in each tick. -/
theorem stay_eq_transit (h : world.Reachable) (horderly : world.network.Orderly)
    (hspaced : world.Spaced commands) (hroad : world.network.road? id = some now)
    (hbare : now.bare = road.bare) {standing : Car} (hstands : standing ∈ now.cars)
    (hcar : standing.id = car) {k : Nat} (hat : standing.progress = road.milestone k)
    (hproceed : road.isStraight = true → world.FindsProceed id car commands) :
    world.stay id car commands = road.transit k (commands.count .tick) ∧
      (world.stay id car commands = none →
        (world.run commands).StandsAt id car (road.milestone (k + commands.count .tick))) := by
  induction commands generalizing world now standing k with
  | nil => exact ⟨rfl, fun _ => ⟨now, standing, hroad, hstands, hcar, hat⟩⟩
  | cons command commands ih =>
      obtain ⟨hd, hlater⟩ := hspaced
      have hreachable := h.run [command]
      have hnextOrderly := (queue_obey h.regular horderly hd).1
      obtain ⟨-, hcourse, hspeed, -⟩ := Road.eq_of_bare_eq hbare
      by_cases htick : command = .tick
      · subst htick
        have hopen : now.Opens := by
          refine Road.opens_of_proceed fun hstraight => ?_
          rw [Road.isStraight, hcourse] at hstraight
          have hshown := (hproceed hstraight).1 rfl
          rw [hroad] at hshown
          exact Option.some.inj hshown
        have hstride : now.stride = road.stride := by
          funext p
          rw [Road.stride, Road.stride, hcourse, hspeed]
        have hspec := stands_tick h horderly (hd rfl) hroad hopen hstands
        rw [Road.atEnd_congr hcourse, hstride, hat] at hspec
        rw [stay, List.count_cons_self, Road.transit]
        rcases hspec with
          ⟨hend, hleaves⟩ | ⟨hclear, hstays, next, moved, hnext, hsame, hmoved, hid, hprogress⟩
        · rw [if_pos hend, if_pos (hcar ▸ hleaves)]
          refine ⟨rfl, fun hnone => ?_⟩
          cases hnone
        · rw [hcar] at hstays
          rw [if_neg hclear, if_neg hstays]
          have hproceed' := fun hstraight => (hproceed hstraight).2 hstays
          obtain ⟨hstay, hstanding⟩ := ih hreachable hnextOrderly hlater hnext (hsame.trans hbare)
            hmoved (hid.trans hcar) (k := k + 1) hprogress hproceed'
          refine ⟨congrArg _ hstay, fun hnone => ?_⟩
          rw [← Nat.add_assoc, Nat.add_right_comm]
          exact hstanding (Option.map_eq_none_iff.mp hnone)
      · obtain ⟨hstays, next, hnext, hsame, hstill⟩ :=
          stands_of_ne_tick h.regular htick hroad hstands
        rw [stay_cons_of_ne_tick htick, List.count_cons_of_ne htick]
        exact ih hreachable hnextOrderly hlater hnext (hsame.trans hbare) hstill hcar hat
          fun hstraight => (hproceed hstraight).2 hstays

/-- The stay of a car begins where it enters. -/
theorem stay_eq_transit_of_entering {start : World} (h : start.Fresh)
    {before after : List Command} {command : Command}
    (hspaced : start.Spaced (before ++ command :: after))
    (hroad : start.network.road? id = some road)
    (hentering : car ∈ (start.run before).entering id command)
    (hproceed : road.isStraight = true →
      (start.run (before ++ [command])).FindsProceed id car after) :
    let stay := (start.run (before ++ [command])).stay id car after
    stay = road.transit 0 (after.count .tick) ∧
      (stay = none → (start.run (before ++ command :: after)).StandsAt id car
        (road.milestone (after.count .tick))) := by
  intro stay
  have hsplit : before ++ command :: after = (before ++ [command]) ++ after :=
    List.append_cons before command after
  rw [hsplit] at hspaced ⊢
  obtain ⟨hspacedBefore, hspacedAfter⟩ := spaced_append.mp hspaced
  have hreachable : (start.run (before ++ [command])).Reachable := ⟨start, _, h, rfl⟩
  have horderly := (queue_run h.start.1 h.orderly hspacedBefore).1
  obtain ⟨now, hnow, hbare⟩ := Network.exists_road?_of_frame_eq (start.frame_run before) hroad
  obtain ⟨next, entered, hnext, hsame, hcars, hentered, hstart⟩ :=
    exists_road?_obey (h.regular_run before) hnow command
  rw [← hentered] at hentering
  obtain ⟨standing, hstanding, hcar⟩ := List.mem_map.mp hentering
  have hstands : standing ∈ next.cars := hcars ▸ List.mem_append_right _ hstanding
  have hafter : (start.run (before ++ [command])).network.road? id = some next := by
    rw [run_append]
    exact hnext
  have hspec := stay_eq_transit hreachable horderly hspacedAfter hafter (hsame.trans hbare) hstands
    hcar (k := 0) (hstart standing hstanding) hproceed
  rwa [Nat.zero_add, ← run_append] at hspec

/-- **Transit time.**  A car that enters a road by some command, and then finds proceed at
every tick of its stay if the road is straight, leaves it in tick `K + 1` after that, if
`K` is the least number of strides that lead to the end of the road, and not at all if no
number of strides does. -/
theorem stay_of_entering {start : World} (h : start.Fresh) {before after : List Command}
    {command : Command} (hspaced : start.Spaced (before ++ command :: after))
    (hroad : start.network.road? id = some road)
    (hentering : car ∈ (start.run before).entering id command)
    (hproceed : road.isStraight = true →
      (start.run (before ++ [command])).FindsProceed id car after) :
    let stay := (start.run (before ++ [command])).stay id car after
    (∀ K, IsLeast {k | road.AtEnd (road.milestone k)} K →
      stay = if K < after.count .tick then some (K + 1) else none) ∧
    ((∀ k, ¬ road.AtEnd (road.milestone k)) → stay = none) ∧
    (stay = none →
      car ∈ (start.run (before ++ command :: after)).network.queue id) := by
  intro stay
  obtain ⟨hstay, hstanding⟩ := stay_eq_transit_of_entering h hspaced hroad hentering hproceed
  refine ⟨fun K hleast => ?_, fun hnever => ?_, fun hnone => (hstanding hnone).mem_queue⟩
  · have hbefore : ∀ j, 0 ≤ j → j < K → ¬ road.AtEnd (road.milestone j) :=
      fun j _ hlt hend => Nat.not_le.mpr hlt (hleast.2 hend)
    exact hstay.trans (Road.transit_eq_ite (Nat.zero_le K) hleast.1 hbefore _)
  · exact hstay.trans (Road.transit_eq_none (fun j _ => hnever j) _)

/-- A car between two others leaves the straight before the fork in the third tick, as two
strides lead to the end of it. -/
theorem stay_of_entering_fork :
    ∃ road, fork.network.road? ⟨0⟩ = some road ∧
      IsLeast {k | road.AtEnd (road.milestone k)} 2 ∧
      (fork.run [.spawn 20 ⟨0⟩, .tick, .spawn 30 ⟨0⟩]).stay ⟨0⟩ ⟨1⟩
        [.spawnWave, .setSignal ⟨1⟩ .stop, .tick, .tick, .tick, .tick] = some 3 := by
  let road : Road :=
    { id := ⟨0⟩, course := .straight ⟨⟨0, 0⟩, ⟨100, 0⟩⟩, speed := 50, successors := [⟨1⟩, ⟨2⟩] }
  have hroad : fork.network.road? ⟨0⟩ = some road := by decide +kernel
  have hbefore : ∀ k < 2, ¬ road.AtEnd (road.milestone k) := by decide +kernel
  have hleast : IsLeast {k | road.AtEnd (road.milestone k)} 2 := by
    refine ⟨by decide +kernel, fun k hend => Nat.not_lt.mp fun hlt => hbefore k hlt hend⟩
  have hspaced : fork.Spaced ([.spawn 20 ⟨0⟩, .tick] ++ .spawn 30 ⟨0⟩ ::
      [.spawnWave, .setSignal ⟨1⟩ .stop, .tick, .tick, .tick, .tick]) := by decide +kernel
  have hentering : ⟨1⟩ ∈ (fork.run [.spawn 20 ⟨0⟩, .tick]).entering ⟨0⟩ (.spawn 30 ⟨0⟩) := by
    decide +kernel
  have hproceed : (fork.run ([.spawn 20 ⟨0⟩, .tick] ++ [.spawn 30 ⟨0⟩])).FindsProceed ⟨0⟩ ⟨1⟩
      [.spawnWave, .setSignal ⟨1⟩ .stop, .tick, .tick, .tick, .tick] := by decide +kernel
  exact ⟨road, hroad, hleast,
    (stay_of_entering fresh_fork hspaced hroad hentering fun _ => hproceed).1 2 hleast⟩

end World

end RoadTraffic
