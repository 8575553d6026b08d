import Mathlib
import RoadTraffic.Terminal.Map

/-!
# What the map shows

The map is painted point by point, each over what was there before.  `mark` says what
is to be seen in a cell without painting: a car if one is in the cell, otherwise the end
of a stopped straight, otherwise a sample of a road, and otherwise nothing.

A grid is described cell by cell (`Grid.plot`).  Painting a point changes the cell of
the point, so painting many changes the cells of them all (`Grid.paintAll_plot`); the
three layers over a blank grid then are `mark` (`grid_eq_plot`).  Every point has its cell
inside of the grid, with coordinates out of the frame or NaN too, so nothing that is
painted is lost.
-/

namespace RoadTraffic.TerminalMap

/-!
## Cells
-/

namespace Bounds

variable {b : Bounds} {p : Point}

/-- A point is painted in that cell. -/
def Shows (b : Bounds) (p : Point) (row column : Nat) : Prop :=
  b.row p = row ∧ b.column p = column

instance (b : Bounds) (p : Point) (row column : Nat) : Decidable (b.Shows p row column) :=
  inferInstanceAs (Decidable (_ ∧ _))

end Bounds

/-!
## Painting a grid that is described cell by cell
-/

namespace Grid

/-- The grid with a given mark in each cell. -/
def plot (width height : Nat) (mark : Nat → Nat → Char) : Grid :=
  (List.range height).map fun row => (List.range width).map (mark row)

variable {width height : Nat} {marks : Nat → Nat → Char}

theorem blank_eq_plot (width height : Nat) :
    blank width height = plot width height fun _ _ => ' ' := by
  simp [blank, plot, List.map_const']

/-- A row with one character set. -/
theorem set_map_range (mark : Char) (column : Nat) (row : Nat → Char) :
    ((List.range width).map row).set column mark =
      (List.range width).map fun j => if column = j then mark else row j := by
  refine List.ext_getElem (by simp) fun j hleft hright => ?_
  simp [List.getElem_set]

/-- Painting a cell changes that cell. -/
theorem paint_plot (mark : Char) (row column : Nat) :
    (plot width height marks).paint mark row column =
      plot width height fun i j => if row = i ∧ column = j then mark else marks i j := by
  refine List.ext_getElem (by simp [paint, plot]) fun i hleft hright => ?_
  simp only [paint, plot, List.getElem_modify, List.getElem_map, List.getElem_range]
  by_cases hrow : row = i
  · simp only [hrow, if_true, true_and, set_map_range]
  · simp only [hrow, if_false, false_and]

/-- Painting many points changes the cells of them all. -/
theorem paintAll_plot (bounds : Bounds) (mark : Char) (points : List Point) :
    (plot width height marks).paintAll bounds mark points =
      plot width height fun i j =>
        if ∃ p ∈ points, bounds.Shows p i j then mark else marks i j := by
  induction points generalizing marks with
  | nil => simp [paintAll]
  | cons p points ih =>
      change ((plot width height marks).paint mark (bounds.row p) (bounds.column p)).paintAll
        bounds mark points = _
      rw [paint_plot, ih]
      congr 1
      funext i j
      have hfirst : (bounds.row p = i ∧ bounds.column p = j) ↔ bounds.Shows p i j := Iff.rfl
      simp only [List.exists_mem_cons_iff, hfirst]
      by_cases hlater : ∃ q ∈ points, bounds.Shows q i j
      · rw [if_pos hlater, if_pos (Or.inr hlater)]
      · rw [if_neg hlater]
        simp only [hlater, or_false]

end Grid

/-!
## The layers
-/

section Layers

variable (world : World)

/-- The frame of the map. -/
def frame : Bounds := Bounds.ofPoints (samples world.network)

/-- What is to be seen in a cell. -/
def mark (row column : Nat) : Char :=
  if ∃ car ∈ world.cars, (frame world).Shows car.pose.position row column then 'C'
  else if ∃ road ∈ world.network.roads, (road.isStraight = true ∧ road.signal = .stop) ∧
    (frame world).Shows road.course.endPoint row column then '#'
  else if ∃ road ∈ world.network.roads, ∃ i ≤ 24,
    (frame world).Shows (road.course.sample (Scalar.ofNat i / Scalar.ofNat 24)) row column then '.'
  else ' '

/-- A cell holds a sample if one of the 25 samples of a road maps to it. -/
theorem exists_mem_samples_iff (network : Network) (P : Point → Prop) :
    (∃ p ∈ samples network, P p) ↔ ∃ road ∈ network.roads, ∃ i ≤ 24,
      P (road.course.sample (Scalar.ofNat i / Scalar.ofNat 24)) := by
  simp only [samples, List.mem_flatMap, roadSamples, Course.samples_eq_map, Course.fractions,
    List.map_map, List.mem_map, List.mem_range, Function.comp_apply, Nat.lt_succ_iff]
  constructor
  · intro hsome
    obtain ⟨p, ⟨road, hroad, i, hi, rfl⟩, hp⟩ := hsome
    exact ⟨road, hroad, i, hi, hp⟩
  · intro hsome
    obtain ⟨road, hroad, i, hi, hp⟩ := hsome
    exact ⟨_, ⟨road, hroad, i, hi, rfl⟩, hp⟩

theorem exists_mem_stoppedEnds_iff (network : Network) (P : Point → Prop) :
    (∃ p ∈ stoppedEnds network, P p) ↔ ∃ road ∈ network.roads,
      (road.isStraight = true ∧ road.signal = .stop) ∧ P road.course.endPoint := by
  have hstopped : ∀ road : Road, road.isStopped = true ↔ road.signal = .stop := by
    intro road
    unfold Road.isStopped
    cases road.signal <;> decide
  simp only [stoppedEnds, List.mem_map, List.mem_filter, Bool.and_eq_true, hstopped]
  constructor
  · intro hsome
    obtain ⟨p, ⟨road, ⟨hroad, hshown⟩, rfl⟩, hp⟩ := hsome
    exact ⟨road, hroad, hshown, hp⟩
  · intro hsome
    obtain ⟨road, hroad, hshown, hp⟩ := hsome
    exact ⟨_, ⟨road, ⟨hroad, hshown⟩, rfl⟩, hp⟩

/-- The painted layers show in each cell what is there. -/
theorem grid_eq_plot :
    grid world = Grid.plot (frame world).width (frame world).height (mark world) := by
  change (((Grid.blank (frame world).width (frame world).height).paintAll (frame world) '.'
    (samples world.network)).paintAll (frame world) '#' (stoppedEnds world.network)).paintAll
    (frame world) 'C' (world.cars.map (·.pose.position)) = _
  rw [Grid.blank_eq_plot, Grid.paintAll_plot, Grid.paintAll_plot, Grid.paintAll_plot]
  congr 1
  funext i j
  simp only [exists_mem_samples_iff, exists_mem_stoppedEnds_iff, List.mem_map, exists_exists_and_eq_and, mark]

end Layers

/-!
## The printed lines
-/

/-- A printed row is the row without the blanks at its end. -/
theorem rowText_spec (row : List Char) :
    (∃ n, row = (rowText row).toList ++ List.replicate n ' ') ∧
      (rowText row).toList.getLast? ≠ some ' ' := by
  have htext : (rowText row).toList = row.rdropWhile (· = ' ') := String.toList_ofList
  have hblanks : row.rtakeWhile (· = ' ') =
      List.replicate (row.rtakeWhile (· = ' ')).length ' ' := by
    refine List.eq_replicate_of_mem fun c hc => ?_
    exact of_decide_eq_true (List.mem_rtakeWhile_imp (p := (· = ' ')) hc)
  rw [htext]
  constructor
  · refine ⟨(row.rtakeWhile (· = ' ')).length, ?_⟩
    rw [← hblanks]
    exact List.rdropWhile_append_rtakeWhile.symm
  · intro hlast
    have hne : row.rdropWhile (· = ' ') ≠ [] := by
      intro hnil
      rw [hnil] at hlast
      exact nomatch hlast
    rw [List.getLast?_eq_some_getLast hne] at hlast
    exact List.rdropWhile_last_not _ _ hne (decide_eq_true (Option.some.inj hlast))

/-- **The map shows what is there.**  In each cell of the grid the mark of what is in
it is seen, every point has its cell in the grid, and the lines are the rows in order,
each up to its last mark. -/
theorem lines_show (world : World) :
    grid world = (List.range (frame world).height).map (fun row =>
      (List.range (frame world).width).map (mark world row)) ∧
    (∀ p, (frame world).row p < (frame world).height ∧
      (frame world).column p < (frame world).width) ∧
    lines world = ["", "=== World Map ===", "Legend: .=Road, #=Stopped road end, C=Car", ""] ++
      (List.range (frame world).height).map (fun row =>
        rowText ((List.range (frame world).width).map (mark world row))) ++ [""] ∧
    ∀ cells ∈ grid world, (∃ n, cells = (rowText cells).toList ++ List.replicate n ' ') ∧
      (rowText cells).toList.getLast? ≠ some ' ' := by
  refine ⟨grid_eq_plot world, fun p => ⟨Bounds.row_lt _ p, Bounds.column_lt _ p⟩, ?_,
    fun cells _ => rowText_spec cells⟩
  rw [lines, grid_eq_plot, Grid.plot, List.map_map]
  rfl

end RoadTraffic.TerminalMap
