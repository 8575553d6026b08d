import RoadTraffic.Proofs.Network.Demo
import RoadTraffic.Proofs.Number.Magnitudes

/-!
# The demonstration network for roads of any width

The road width of the settings goes into the radii of the arcs of the demonstration network
and nowhere else (`Demo.declarations_eqButRadius`).  Half of a width that passes its check
does not overflow, nor does a radius that it is added to, so the network is accepted for all
settings that pass their check (`Demo.network_eq_networkOf`).
-/

namespace RoadTraffic

open Binary32

theorem forall₂_mapIdx {α β γ δ : Type} {R : α → β → Prop} {S : γ → δ → Prop} {as : List α}
    {bs : List β} (h : List.Forall₂ R as bs) {f : Nat → α → γ} {g : Nat → β → δ}
    (hfg : ∀ index a b, R a b → S (f index a) (g index b)) :
    List.Forall₂ S (as.mapIdx f) (bs.mapIdx g) := by
  induction h generalizing f g with
  | nil => exact .nil
  | cons hhead _ ih =>
      rw [List.mapIdx_cons, List.mapIdx_cons]
      exact .cons (hfg 0 _ _ hhead) (ih fun index => hfg (index + 1))

/-!
## Courses and declarations with other radii
-/

/-- Two courses that are the same, but for the radius if they are arcs. -/
inductive Course.EqButRadius : Course → Course → Prop
  | straight (line : Straight) : EqButRadius (.straight line) (.straight line)
  | arc (center : Point) (one other startAngle endAngle : Float32) (counterclockwise : Bool) :
      EqButRadius (.arc ⟨center, one, startAngle, endAngle, counterclockwise⟩)
        (.arc ⟨center, other, startAngle, endAngle, counterclockwise⟩)

/-- A course stays fit if its radius does. -/
theorem Course.EqButRadius.fit {a b : Course} (h : a.EqButRadius b) (hfit : a.Fit)
    (hradius : ∀ arc, b = .arc arc → arc.radius.isFinite = true ∧ 0 < arc.radius) : b.Fit := by
  cases h with
  | straight line => exact hfit
  | arc center one other startAngle endAngle counterclockwise =>
      obtain ⟨hfinite, hpos⟩ := hradius _ rfl
      exact { hfit with radius := hfinite, radius_pos := hpos }

namespace Declaration

/-- Two declarations that are the same, but for the radius if they are of arcs. -/
inductive EqButRadius : Declaration → Declaration → Prop
  | road (one other : Course) (speed : Float32) (h : one.EqButRadius other) :
      EqButRadius (.road one speed) (.road other speed)
  | connect (source : RoadId) (successors : List RoadId) :
      EqButRadius (.connect source successors) (.connect source successors)
  | entry (id : RoadId) : EqButRadius (.entry id) (.entry id)

variable {one other : List Declaration}

theorem roads_eqButRadius (h : List.Forall₂ EqButRadius one other) :
    List.Forall₂ (fun x y => x.1.EqButRadius y.1 ∧ x.2 = y.2) (roads one) (roads other) := by
  refine List.rel_filterMap ?_ h
  intro a b hab
  cases hab with
  | road one other speed hcourse => exact .some ⟨hcourse, rfl⟩
  | connect => exact .none
  | entry => exact .none

theorem connections_eq (h : List.Forall₂ EqButRadius one other) :
    connections one = connections other := by
  funext id
  rw [← List.forall₂_eq_eq_eq]
  refine List.rel_filterMap ?_ h
  intro a b hab
  cases hab with
  | road => exact .none
  | connect source successors =>
      dsimp only
      split
      · exact .some rfl
      · exact .none
  | entry => exact .none

theorem follows_eq (h : List.Forall₂ EqButRadius one other) : follows one = follows other := by
  funext id
  rw [follows, follows, connection?, connection?, connections_eq h]

theorem entries_eq (h : List.Forall₂ EqButRadius one other) : entries one = entries other := by
  rw [← List.forall₂_eq_eq_eq]
  refine List.rel_filterMap ?_ h
  intro a b hab
  cases hab with
  | road => exact .none
  | connect => exact .none
  | entry id => exact .some rfl

theorem connect_mem_iff {declarations : List Declaration} {source : RoadId}
    {successors : List RoadId} : connect source successors ∈ declarations ↔
      successors ∈ connections declarations source := by
  constructor
  · intro h
    exact List.mem_filterMap.mpr ⟨_, h, if_pos rfl⟩
  · intro h
    obtain ⟨declaration, hin, hsome⟩ := List.mem_filterMap.mp h
    cases declaration with
    | connect other list =>
        obtain ⟨rfl, hlist⟩ := Option.ite_none_right_eq_some.mp hsome
        rw [← Option.some.inj hlist]
        exact hin
    | road course speed => cases hsome
    | entry id => cases hsome

/-- What roads there are, how they are connected and where cars enter does not depend on the
radii. -/
theorem WellFormed.of_eqButRadius (h : List.Forall₂ EqButRadius one other) (hone : WellFormed one)
    (hradius : ∀ arc speed, (.arc arc, speed) ∈ Declaration.roads other →
      arc.radius.isFinite = true ∧ 0 < arc.radius) : WellFormed other := by
  have hroads := roads_eqButRadius h
  have hconnections := connections_eq h
  have hentries := entries_eq h
  have hknown : Known one = Known other := by
    funext id
    rw [Known, Known, hroads.length_eq]
  have hfollows := follows_eq h
  refine ⟨?_, ?_, ?_, ?_, ?_, ?_, ?_⟩
  · rw [← List.length_pos_iff, ← hroads.length_eq]
    exact List.length_pos_iff.mpr hone.roads_ne_nil
  · intro course speed hmem
    obtain ⟨index, hindex, hroad⟩ := List.mem_iff_getElem.mp hmem
    have hlt : index < (Declaration.roads one).length := hroads.length_eq ▸ hindex
    obtain ⟨hcourse, hspeed⟩ := hroads.get hlt hindex
    simp only [List.get_eq_getElem, hroad] at hcourse hspeed
    obtain ⟨hfit, hfinite, hpos⟩ := hone.roads _ _ (List.getElem_mem hlt)
    refine ⟨hcourse.fit hfit ?_, hspeed ▸ hfinite, hspeed ▸ hpos⟩
    rintro arc rfl
    exact hradius arc speed hmem
  · intro source successors hconnect
    rw [connect_mem_iff, ← hconnections, ← connect_mem_iff] at hconnect
    rw [← hknown]
    exact hone.sources source successors hconnect
  · rw [← hknown, ← hfollows]
    exact hone.targets
  · rw [← hentries]
    exact hone.entries_ne_nil
  · rw [← hknown, ← hentries]
    exact hone.entries
  · intro id
    rw [← hknown, Reached, ← hentries, ← hfollows]
    exact hone.reached id

end Declaration

namespace Demo

/-!
## The rows
-/

/-- The rows for any two settings are the same, but for the radii. -/
theorem rows_eqButRadius (a b : Config) : List.Forall₂
    (fun x y : Row => x.course.EqButRadius y.course ∧ x.successors = y.successors)
    (rows a) (rows b) := by
  simp [rows, line, clockwise, counterclockwise, Course.EqButRadius.straight,
    Course.EqButRadius.arc]

theorem declarations_eqButRadius (a b : Config) :
    List.Forall₂ Declaration.EqButRadius (declarations a) (declarations b) := by
  have hrows := rows_eqButRadius a b
  have hroads := List.rel_map
    (fun (x y : Row) hrow => Declaration.EqButRadius.road _ _ defaultRoadSpeed hrow.1) hrows
  have hconnects := forall₂_mapIdx hrows (f := fun index row => .connect ⟨index⟩ (row.successors.map (⟨·⟩)))
    (g := fun index row => .connect ⟨index⟩ (row.successors.map (⟨·⟩)))
    (S := Declaration.EqButRadius) (fun index x y hrow => hrow.2 ▸ .connect _ _)
  exact List.rel_append (List.rel_append hroads hconnects) (.cons (.entry _) (.cons (.entry _) .nil))

/-- The arcs have two radii. -/
theorem radius_rows (config : Config) : ∀ row ∈ rows config, ∀ arc, row.course = .arc arc →
    arc.radius = 12 + config.roadWidth / 2 ∨ arc.radius = 28 + config.roadWidth / 2 := by
  simp [rows, line, clockwise, counterclockwise]

theorem exists_row_of_mem_roads {config : Config} {course : Course} {speed : Float32}
    (h : (course, speed) ∈ Declaration.roads (declarations config)) :
    ∃ row ∈ rows config, row.course = course := by
  obtain ⟨declaration, hmem, hroad⟩ := List.mem_filterMap.mp h
  cases declaration with
  | road found _ =>
      obtain ⟨rfl, rfl⟩ := Prod.mk.inj (Option.some.inj hroad)
      simp only [declarations, List.mem_append, List.mem_map, List.mem_mapIdx] at hmem
      rcases hmem with (hrow | ⟨_, _, hconnect⟩) | hentry
      · obtain ⟨row, hrow, heq⟩ := hrow
        exact ⟨row, hrow, (Declaration.road.inj heq).1⟩
      · exact nomatch hconnect
      · simp at hentry
  | connect source successors => cases hroad
  | entry id => cases hroad

/-- The greatest finite number. -/
def greatest : Float32 := .ofBits 0x7f7fffff

/-- A width that passes its check leads to radii that do. -/
theorem radius_fit {width c : Float32} (hwidth : width.isFinite = true) (hpos : 0 < width)
    (hc : c = 12 ∨ c = 28) : (c + width / 2).isFinite = true ∧ 0 < c + width / 2 := by
  have htwo : (0 : Float32) < 2 ∧ (2 : Float32).isFinite = true := by decide +kernel
  have hhalf : 0 ≤ width / 2 := ((Signed.of_pos hpos).div htwo.1 htwo.2).le
  have hcpos : 0 < c := by rcases hc with rfl | rfl <;> decide +kernel
  refine ⟨?_, lt_of_lt_of_le hcpos (le_add (le_of_lt hcpos) hhalf)⟩
  have hgreatest : magnitude greatest = infinityBits - 1 := by decide +kernel
  have hwidthLe : magnitude (width / 2) ≤ magnitude greatest := by
    have hlt := (isFinite_iff width).mp hwidth
    have hle := magnitude_half_le hwidth
    omega
  have hcLe : magnitude c ≤ magnitude 28 := by rcases hc with rfl | rfl <;> decide +kernel
  have hsum : magnitude (c + width / 2) ≤ magnitude (28 + greatest) :=
    magnitude_add_le (by decide +kernel) (by decide +kernel) (by decide +kernel)
      (by decide +kernel) hcLe hwidthLe
  exact isFinite_of_magnitude_le hsum (by decide +kernel)

/-!
## Acceptance
-/

variable {config : Config}

/-- The demonstration network for some settings, fit for traffic or not. -/
def networkOf (config : Config) : Network := (Plan.ofDeclarations (declarations config)).network

theorem roadWidth_of_check (h : config.check = .ok ()) :
    config.roadWidth.isFinite = true ∧ 0 < config.roadWidth := by
  have hwidth := (bind_eq_ok_iff.mp h).1
  have hpositive : Config.checkPositive .roadWidth config.roadWidth = (do
      (checkFinite config.roadWidth).mapError (.notFinite .roadWidth)
      refuseIf (config.roadWidth ≤ 0) (.notPositive .roadWidth config.roadWidth)) := rfl
  rw [hpositive, bind_eq_ok_iff, mapError_eq_ok_iff, checkFinite_eq_ok, refuseIf_eq_ok_iff] at hwidth
  exact ⟨hwidth.1, (not_le_zero_iff hwidth.1).mp hwidth.2⟩

/-- **The demonstration network is accepted for every width.** -/
theorem network_eq_networkOf (h : config.check = .ok ()) :
    network config = .ok (networkOf config) := by
  obtain ⟨hfinite, hpos⟩ := roadWidth_of_check h
  have hdefault : network {} = .ok built := network_eq rfl
  have hwf : Declaration.WellFormed (declarations config) := by
    refine (Network.ofDeclarations_eq_ok_iff.mp hdefault).1.of_eqButRadius
      (declarations_eqButRadius {} config) ?_
    intro arc speed hmem
    obtain ⟨row, hrow, hcourse⟩ := exists_row_of_mem_roads hmem
    rcases radius_rows config row hrow arc hcourse with hradius | hradius
    · rw [hradius]
      exact radius_fit hfinite hpos (Or.inl rfl)
    · rw [hradius]
      exact radius_fit hfinite hpos (Or.inr rfl)
  rw [network, Network.ofDeclarations_eq, (collects_ofDeclarations _).check_eq_ok_iff.mpr hwf]
  rfl

/-- A new world of the demonstration network. -/
def start (config : Config) (draws : Draws) : World :=
  { network := networkOf config, config, draws }

theorem setUp_eq_start (h : config.check = .ok ()) (draws : Draws) :
    World.setUp .demo config draws =
      ((networkOf config).builtEvents, .ok (start config draws)) := by
  have hcreate : World.create (networkOf config) config draws = .ok (start config draws) := by
    rw [World.create, h]
    rfl
  simp only [World.setUp, Layout.build, network_eq_networkOf h, hcreate, Except.mapError]

end Demo

end RoadTraffic
