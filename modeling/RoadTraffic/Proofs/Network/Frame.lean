import RoadTraffic.Proofs.Network.Acceptance

/-!
# What traffic leaves alone

Traffic changes the queues and the signals of roads, and nothing else of a
network.  The rest is its *frame*: two networks with one frame have the same
roads, successors and entry points.

A `Regular` network is one as plans make them: roads are numbered in order, roads
and entry points that are named exist, and every road is fit.  All of this is read
off the frame, so a network made from a plan stays regular for good
(`Regular.of_frame_eq`).
-/

namespace RoadTraffic

/-- The road without its queue and its signal. -/
def Road.bare (road : Road) : Road := { road with cars := [], signal := .proceed }

/-- Bare roads agree in all that is left of them. -/
theorem Road.eq_of_bare_eq {a b : Road} (h : a.bare = b.bare) :
    a.id = b.id ∧ a.course = b.course ∧ a.speed = b.speed ∧ a.successors = b.successors := by
  injection h with hid hcourse hspeed _ hsuccessors _
  exact ⟨hid, hcourse, hspeed, hsuccessors⟩

namespace Network

/-- What traffic leaves alone. -/
def frame (network : Network) : List Road × List RoadId :=
  (network.roads.map Road.bare, network.entryPoints)

variable {network other : Network}

/-- What a change of one road leaves alone on that road it leaves alone on all. -/
theorem map_modifyRoad {α : Type} {g : Road → α} (id : RoadId) {f : Road → Road}
    (hf : ∀ road, g (f road) = g road) :
    (network.modifyRoad id f).roads.map g = network.roads.map g := by
  refine List.ext_getElem? fun index => ?_
  simp only [modifyRoad, List.getElem?_map, List.getElem?_modify]
  cases network.roads[index]? with
  | none => rfl
  | some road =>
      simp only [Option.map_eq_map, Option.map_some]
      split
      · rw [hf]
      · rfl

theorem frame_modifyRoad (id : RoadId) {f : Road → Road} (hf : ∀ road, (f road).bare = road.bare) :
    (network.modifyRoad id f).frame = network.frame := Prod.ext (map_modifyRoad id hf) rfl

theorem frame_receive (id : RoadId) (car : Car) : (network.receive id car).frame = network.frame :=
  frame_modifyRoad id fun _ => rfl

theorem frame_map {f : Road → Road} (hf : ∀ road, (f road).bare = road.bare) :
    ({ network with roads := network.roads.map f } : Network).frame = network.frame := by
  refine Prod.ext ?_ rfl
  simp only [frame, List.map_map]
  exact List.map_congr_left fun road _ => hf road

theorem frame_toggleSignals : network.toggleSignals.frame = network.frame :=
  frame_map fun _ => rfl

theorem advance_eq (d : Float32) : network.advance d =
    ({ network with roads := network.roads.map fun road => (road.advance d).1 },
      network.roads.flatMap fun road => (road.advance d).2.map (road.id, ·)) := by
  simp only [advance, List.map_map, List.flatMap_map]
  rfl

theorem frame_advance (d : Float32) : (network.advance d).1.frame = network.frame := by
  rw [advance_eq]
  exact frame_map fun _ => rfl

theorem frame_setSignal {id : RoadId} {signal : Signal}
    (h : network.setSignal id signal = .ok other) : other.frame = network.frame := by
  unfold setSignal at h
  split at h
  · rw [← Except.ok.inj h]
    exact frame_modifyRoad id fun _ => rfl
  · exact nomatch h

/-!
## What the frame says
-/

theorem length_eq_of_frame_eq (h : other.frame = network.frame) :
    other.roads.length = network.roads.length := by
  have hlength := congrArg (fun frame => frame.1.length) h
  simpa only [frame, List.length_map] using hlength

theorem has_eq_of_frame_eq (h : other.frame = network.frame) (id : RoadId) :
    other.has id = network.has id := by
  rw [has, has, length_eq_of_frame_eq h]

theorem getElem?_bare_eq_of_frame_eq (h : other.frame = network.frame) (index : Nat) :
    (other.roads[index]?).map Road.bare = (network.roads[index]?).map Road.bare := by
  have hroads := congrArg (fun frame => frame.1[index]?) h
  simpa only [frame, List.getElem?_map] using hroads

theorem mem_roads_of_road? {id : RoadId} {road : Road} (h : network.road? id = some road) :
    road ∈ network.roads :=
  List.mem_iff_getElem?.mpr ⟨id.index, h⟩

/-- Of each road there is one with the same frame. -/
theorem exists_road?_of_frame_eq (h : other.frame = network.frame) {id : RoadId} {road : Road}
    (hroad : network.road? id = some road) :
    ∃ now, other.road? id = some now ∧ now.bare = road.bare := by
  have hbare := getElem?_bare_eq_of_frame_eq h id.index
  have hwas : (network.roads[id.index]?).map Road.bare = some road.bare :=
    congrArg (Option.map Road.bare) hroad
  exact Option.map_eq_some_iff.mp (hbare.trans hwas)

theorem successors_eq_of_frame_eq (h : other.frame = network.frame) :
    other.successors = network.successors := by
  funext id
  have hroad := congrArg (fun road => (road.map Road.successors).getD [])
    (getElem?_bare_eq_of_frame_eq h id.index)
  rw [Option.map_map, Option.map_map] at hroad
  exact hroad

/-- A network as plans make them. -/
structure Regular (network : Network) : Prop where
  id : ∀ (index : Nat) (road : Road), network.roads[index]? = some road → road.id = ⟨index⟩
  fit : ∀ road ∈ network.roads, road.Fit
  successor : ∀ id, ∀ target ∈ network.successors id, network.has target = true
  entryPoint : ∀ entry ∈ network.entryPoints, network.has entry = true

namespace Regular

/-- Regularity is a matter of the frame. -/
theorem of_frame_eq (hregular : network.Regular) (h : other.frame = network.frame) :
    other.Regular := by
  have hbare : ∀ (index : Nat) (road : Road), other.roads[index]? = some road →
      ∃ was, network.roads[index]? = some was ∧ was.bare = road.bare := by
    intro index road hroad
    have hmap := getElem?_bare_eq_of_frame_eq h index
    rw [hroad, Option.map_some] at hmap
    obtain ⟨was, hwas, hsame⟩ := Option.map_eq_some_iff.mp hmap.symm
    exact ⟨was, hwas, hsame⟩
  refine ⟨?_, ?_, ?_, ?_⟩
  · intro index road hroad
    obtain ⟨was, hwas, hsame⟩ := hbare index road hroad
    rw [← (Road.eq_of_bare_eq hsame).1]
    exact hregular.id index was hwas
  · intro road hroad
    obtain ⟨index, hindex⟩ := List.mem_iff_getElem?.mp hroad
    obtain ⟨was, hwas, hsame⟩ := hbare index road hindex
    obtain ⟨-, hcourse, hspeed, -⟩ := Road.eq_of_bare_eq hsame
    obtain ⟨hfit, hfinite, hpos⟩ := hregular.fit was (List.mem_iff_getElem?.mpr ⟨index, hwas⟩)
    exact ⟨hcourse ▸ hfit, hspeed ▸ hfinite, hspeed ▸ hpos⟩
  · intro id target htarget
    rw [successors_eq_of_frame_eq h] at htarget
    rw [has_eq_of_frame_eq h]
    exact hregular.successor id target htarget
  · intro entry hentry
    have hentries : other.entryPoints = network.entryPoints := congrArg Prod.snd h
    rw [hentries] at hentry
    rw [has_eq_of_frame_eq h]
    exact hregular.entryPoint entry hentry

end Regular

/-- A network made from a plan is regular, and empty. -/
theorem regular_of_ofDeclarations {declarations : List Declaration}
    (h : ofDeclarations declarations = .ok network) :
    network.Regular ∧ ∀ road ∈ network.roads, road.cars = [] := by
  obtain ⟨hwf, hroads, hentries⟩ := ofDeclarations_eq_ok_iff.mp h
  have hlength : network.roads.length = (Declaration.roads declarations).length := by
    rw [hroads, List.length_mapIdx]
  have hhas : ∀ id, Declaration.Known declarations id → network.has id = true := by
    intro id hknown
    rw [has, hlength]
    exact decide_eq_true hknown
  refine ⟨⟨?_, ?_, ?_, ?_⟩, ?_⟩
  · intro index road hroad
    rw [hroads, List.getElem?_mapIdx] at hroad
    obtain ⟨declared, -, rfl⟩ := Option.map_eq_some_iff.mp hroad
    rfl
  · intro road hroad
    rw [hroads] at hroad
    obtain ⟨index, hindex, rfl⟩ := List.mem_mapIdx.mp hroad
    obtain ⟨hfit, hfinite, hpos⟩ := hwf.roads _ _ (List.getElem_mem hindex)
    exact ⟨hfit, hfinite, hpos⟩
  · intro id target htarget
    refine hhas target (hwf.targets id target ?_)
    by_cases hindex : id.index < network.roads.length
    · rw [successors, road?, List.getElem?_eq_getElem hindex] at htarget
      simp only [hroads, List.getElem_mapIdx] at htarget
      exact htarget
    · rw [successors_of_not_has (Nat.le_of_not_lt hindex)] at htarget
      exact absurd htarget List.not_mem_nil
  · intro entry hentry
    rw [hentries, List.mem_eraseDups] at hentry
    exact hhas entry (hwf.entries entry hentry)
  · intro road hroad
    rw [hroads] at hroad
    obtain ⟨index, hindex, rfl⟩ := List.mem_mapIdx.mp hroad
    rfl

end Network

end RoadTraffic
