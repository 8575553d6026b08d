import RoadTraffic.Car

/-!
# Passing over a queue

A tick passes over the queue of a road once, front to back, and decides for each car
whether it is kept, moved or not, or departs.  The queue is worked on in place.  A turn
looks at the car at one place of it, and

    a car that is kept     is put back, and the turn after looks at the next place,
    a car that departs     is taken out, and the turn after looks at the same place,

where the car behind it stands by then.  The pass ends when there is no car at the place.

What is decided may depend on something that is summed up over the cars passed, such as
the room that they take up.  It is summed up over all of them, also over those that depart.

* `turns_append`: each turn looks at the next car of the queue as it stood before the pass,
  and leaves the cars behind it as they are;
* `finish_start`: the pass comes to what a plain recursion over the queue does.
-/

namespace RoadTraffic

/-- What becomes of a car in one tick. -/
inductive Move where
  /-- The car keeps its place in the queue, moved or not. -/
  | keep (car : Car)
  /-- The car has come to the end and leaves. -/
  | depart
deriving DecidableEq

/-- A queue parted in two, each part in the old order. -/
structure Parted where
  kept : List Car
  departed : List Car
deriving DecidableEq

/-- What a pass goes by: what becomes of a car, and what is summed up behind it, if `σ` is
summed up ahead of it. -/
structure Rule (σ : Type) where
  move : σ → Car → Move
  behind : σ → Car → σ

/-- A pass over a queue, between two turns. -/
structure Pass (σ : Type) where
  /-- The queue by now. -/
  cars : List Car
  /-- The place that the next turn looks at. -/
  place : Nat
  /-- The cars taken out by now, in the order they left. -/
  departed : List Car
  /-- What is summed up over the cars passed. -/
  ahead : σ

namespace Pass

variable {σ : Type}

/-- The pass before its first turn. -/
def start (cars : List Car) (ahead : σ) : Pass σ := ⟨cars, 0, [], ahead⟩

variable (rule : Rule σ)

/-- One turn, if there is a car at the place. -/
def turn? (pass : Pass σ) : Option (Pass σ) :=
  (pass.cars[pass.place]?).map fun car =>
    let ahead := rule.behind pass.ahead car
    match rule.move pass.ahead car with
    | .keep moved => ⟨pass.cars.set pass.place moved, pass.place + 1, pass.departed, ahead⟩
    | .depart => ⟨pass.cars.eraseIdx pass.place, pass.place, pass.departed ++ [car], ahead⟩

/-- A turn leaves one car less to be looked at, whatever becomes of the car. -/
theorem unvisited_lt {pass next : Pass σ} (h : pass.turn? rule = some next) :
    next.cars.length - next.place < pass.cars.length - pass.place := by
  obtain ⟨car, hcar, rfl⟩ := Option.map_eq_some_iff.mp h
  obtain ⟨hlt, -⟩ := List.getElem?_eq_some_iff.mp hcar
  dsimp only
  split
  · simp only [List.length_set]
    omega
  · simp only [List.length_eraseIdx, if_pos hlt]
    omega

/-- Makes turns until there is no car at the place. -/
def finish (pass : Pass σ) : Pass σ :=
  match _h : pass.turn? rule with
  | none => pass
  | some next => next.finish
termination_by pass.cars.length - pass.place
decreasing_by exact unvisited_lt rule _h

/-- What has become of the queue. -/
def parted (pass : Pass σ) : Parted := ⟨pass.cars, pass.departed⟩

/-- The pass after some turns, if there have been that many. -/
def turns (pass : Pass σ) : (count : Nat) → Option (Pass σ)
  | 0 => some pass
  | count + 1 => (pass.turn? rule).bind (·.turns count)

end Pass

/-!
## The plain recursion
-/

namespace Parted

/-- Puts the outcome for one car before the outcomes for the cars behind it. -/
def cons (car : Car) (move : Move) (behind : Parted) : Parted :=
  match move with
  | .keep moved => { behind with kept := moved :: behind.kept }
  | .depart => { behind with departed := car :: behind.departed }

@[simp] theorem cons_keep (car moved : Car) (behind : Parted) :
    cons car (.keep moved) behind = ⟨moved :: behind.kept, behind.departed⟩ := rfl

@[simp] theorem cons_depart (car : Car) (behind : Parted) :
    cons car .depart behind = ⟨behind.kept, car :: behind.departed⟩ := rfl

end Parted

/-- Parts a queue car by car, with `ahead` summed up ahead of its first car. -/
def Rule.part {σ : Type} (rule : Rule σ) : (ahead : σ) → List Car → Parted
  | _, [] => ⟨[], []⟩
  | ahead, car :: behind =>
    .cons car (rule.move ahead car) (rule.part (rule.behind ahead car) behind)

namespace Pass

variable {σ : Type} (rule : Rule σ) (kept behind departed : List Car) (ahead : σ)

/-- No car is left to be looked at. -/
theorem turn?_end : (⟨kept, kept.length, departed, ahead⟩ : Pass σ).turn? rule = none := by
  rw [turn?, List.getElem?_eq_none (Nat.le_refl _), Option.map_none]

/-- **One turn.**  The cars that were kept stand before the place, and those still to be looked
at are as they were before the pass. -/
theorem turn?_cons (car : Car) :
    (⟨kept ++ car :: behind, kept.length, departed, ahead⟩ : Pass σ).turn? rule =
      some (match rule.move ahead car with
        | .keep moved => ⟨(kept ++ [moved]) ++ behind, (kept ++ [moved]).length, departed,
            rule.behind ahead car⟩
        | .depart => ⟨kept ++ behind, kept.length, departed ++ [car],
            rule.behind ahead car⟩) := by
  have hcar : (kept ++ car :: behind)[kept.length]? = some car := by simp
  rw [turn?, hcar, Option.map_some]
  cases rule.move ahead car with
  | keep moved => simp
  | depart => simp [List.eraseIdx_append_of_length_le]

/-- **The turns over the front of a queue.**  Their outcomes are those of a recursion over the
front by itself. -/
theorem turns_append (front : List Car) :
    (⟨kept ++ (front ++ behind), kept.length, departed, ahead⟩ : Pass σ).turns rule front.length =
      some ⟨kept ++ (rule.part ahead front).kept ++ behind,
        (kept ++ (rule.part ahead front).kept).length,
        departed ++ (rule.part ahead front).departed, front.foldl rule.behind ahead⟩ := by
  induction front generalizing kept departed ahead with
  | nil => simp [turns, Rule.part]
  | cons car front ih =>
      rw [List.cons_append, List.length_cons, turns, turn?_cons, Option.bind_some, Rule.part]
      cases rule.move ahead car with
      | keep moved =>
          rw [ih, List.foldl_cons, Parted.cons_keep]
          simp
      | depart =>
          rw [ih, List.foldl_cons, Parted.cons_depart]
          simp

/-- A pass is finished by the turns after which none is left. -/
theorem finish_of_turns {pass last : Pass σ} {count : Nat}
    (h : pass.turns rule count = some last) (hend : last.turn? rule = none) :
    pass.finish rule = last := by
  induction count generalizing pass with
  | zero =>
      obtain rfl := Option.some.inj h
      rw [finish]
      split
      · rfl
      · next hnext => exact nomatch hend.symm.trans hnext
  | succ count ih =>
      obtain ⟨next, hnext, hrest⟩ := Option.bind_eq_some_iff.mp h
      rw [finish]
      split
      · next hnone => exact nomatch hnone.symm.trans hnext
      · next other hother =>
          obtain rfl := Option.some.inj (hother.symm.trans hnext)
          exact ih hrest

/-- **A whole pass.** -/
theorem finish_start (cars : List Car) :
    ((start cars ahead).finish rule).parted = rule.part ahead cars := by
  have hturns := turns_append rule [] [] [] ahead cars
  simp only [List.nil_append, List.append_nil] at hturns
  have hfinish := finish_of_turns rule hturns (turn?_end ..)
  exact congrArg parted hfinish

end Pass

end RoadTraffic
