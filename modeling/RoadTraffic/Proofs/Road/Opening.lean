import RoadTraffic.Proofs.Road.Histories

/-!
# Opening a signal delays no car

Take two histories of one road that let the same cars enter between the same ticks,
and let the second show proceed at every tick at which the first does (`Opening`).
Then no car is further back in the second than in the first, and none departs later.

The two queues are not of one length: some cars have gone in the second that still
stand in the first.  As cars depart in the order in which they entered, these are the
front of the first queue, and behind them the two queues are the same cars,

    departed first,  ahead,  and  rest  against  departed second  and  cars,

where `rest` lags behind `cars`, car by car (`Behind`).  A tick keeps this.  In the
first queue more room is reserved ahead of a car than in the second, since the cars
`ahead` count there; so a car that moves in the first history and is level with itself
in the second moves there too (`Eased.move`).
-/

namespace RoadTraffic

open Binary32

/-- The second history receives the same cars between the same ticks as the first, and
shows proceed at each tick at which the first does.  The signals are those shown at the
beginning. -/
inductive Opening : (s t : Signal) → (first second : List RoadAction) → Prop
  | done {s t} : Opening s t [] []
  | setFirst {s s' t first second} : Opening s' t first second →
      Opening s t (.setSignal s' :: first) second
  | setSecond {s t t' first second} : Opening s t' first second →
      Opening s t first (.setSignal t' :: second)
  | receive {s t first second} {a b : Car} : a.tag = b.tag → Opening s t first second →
      Opening s t (.receive a :: first) (.receive b :: second)
  | advance {s t first second} {d : Float32} : (s.proceeds = true → t.proceeds = true) →
      Opening s t first second → Opening s t (.advance d :: first) (.advance d :: second)

theorem Opening.proper {s t : Signal} {first second : List RoadAction}
    (h : Opening s t first second) (hfirst : ∀ action ∈ first, action.Proper) :
    ∀ action ∈ second, action.Proper := by
  induction h with
  | done => exact hfirst
  | setFirst _ ih => exact ih (List.forall_mem_cons.mp hfirst).2
  | setSecond _ ih => exact List.forall_mem_cons.mpr ⟨trivial, ih hfirst⟩
  | receive htag _ ih =>
      obtain ⟨hlength, hlater⟩ := List.forall_mem_cons.mp hfirst
      refine List.forall_mem_cons.mpr ⟨?_, ih hlater⟩
      change 0 < Car.length _
      rw [← (Prod.mk.inj htag).2]
      exact hlength
  | advance _ _ ih =>
      obtain ⟨hd, hlater⟩ := List.forall_mem_cons.mp hfirst
      exact List.forall_mem_cons.mpr ⟨hd, ih hlater⟩

namespace Road

/-- The two histories up to their n-th ticks. -/
theorem upToTick_opening {s t : Signal} {first second : List RoadAction}
    (h : Opening s t first second) (n : Nat) :
    Opening s t (Road.upToTick n first) (Road.upToTick n second) := by
  induction h generalizing n with
  | done => cases n <;> exact .done
  | @setFirst _ _ _ _ second _ ih =>
      cases n with
      | zero => exact upToTick_zero second ▸ .done
      | succ n => exact .setFirst (ih (n + 1))
  | @setSecond _ _ _ first _ _ ih =>
      cases n with
      | zero => exact upToTick_zero first ▸ .done
      | succ n => exact .setSecond (ih (n + 1))
  | receive hsame _ ih =>
      cases n with
      | zero => exact .done
      | succ n => exact .receive hsame (ih (n + 1))
  | advance hopen _ ih =>
      cases n with
      | zero => exact .done
      | succ n => exact .advance hopen (ih n)

/-!
## A road and the same road with another signal
-/

/-- The second road is the first with other cars, and open if that is. -/
structure Eased (one two : Road) : Prop where
  course : two.course = one.course
  speed : two.speed = one.speed
  signal : one.signal.proceeds = true → two.signal.proceeds = true

/-- `x` and `y` are the same car, and it has taken at least as many strides in `y`. -/
def Lags (road : Road) (x y : Car) : Prop := x.tag = y.tag ∧ road.Ahead y x

theorem lags_congr {one two : Road} (hcourse : one.course = two.course)
    (hspeed : one.speed = two.speed) : one.Lags = two.Lags := by
  funext x y
  rw [Lags, Lags, ahead_congr hcourse hspeed]

namespace Eased

variable {one two : Road} {d r r' p : Float32} {x y x' y' : Car}

theorem stride (h : one.Eased two) : two.stride p = one.stride p := by
  rw [Road.stride, Road.stride, h.course, h.speed]

theorem moves (h : one.Eased two) (hmoves : one.Moves r p) : two.Moves r p := by
  unfold Moves at hmoves ⊢
  rw [h.course]
  cases hcourse : one.course with
  | straight line =>
      rw [hcourse] at hmoves
      exact hmoves.imp_right fun hclear => ⟨hclear.1, h.signal hclear.2⟩
  | arc arc =>
      rw [hcourse] at hmoves
      exact hmoves

theorem opens (h : one.Eased two) (hopen : one.Opens) : two.Opens := by
  unfold Opens at hopen ⊢
  rw [h.course]
  cases hcourse : one.course with
  | straight line =>
      rw [hcourse] at hopen
      exact h.signal hopen
  | arc arc => trivial

/-- Where the first road is open, the second is no easier. -/
theorem moves_of_opens (h : one.Eased two) (hopen : one.Opens) (hmoves : two.Moves r p) :
    one.Moves r p := by
  unfold Opens at hopen
  unfold Moves at hmoves ⊢
  rw [h.course] at hmoves
  cases hcourse : one.course with
  | straight line =>
      rw [hcourse] at hopen hmoves
      exact hmoves.imp_right fun hclear => ⟨hclear.1, hopen⟩
  | arc arc =>
      rw [hcourse] at hmoves
      exact hmoves

/-- **One car on the two roads.**  If the second road keeps it, the first does so too, and
it lags there as before. -/
theorem move (h : one.Eased two) (hfit : two.Fit) (hlags : one.Lags x y) (h0 : 0 ≤ r)
    (hr : r ≤ r') (hy : two.move d r y = .keep y') :
    ∃ x', one.move d r' x = .keep x' ∧ one.Lags x' y' := by
  obtain ⟨htag, hahead⟩ := hlags
  have hsame := ahead_congr h.course h.speed
  obtain ⟨-, -, hyto⟩ := move_eq_keep hy
  cases hx : one.move d r' x with
  | keep x' =>
      obtain ⟨-, -, hxto⟩ := move_eq_keep hx
      have htag' : x'.tag = y'.tag := by
        rw [tag_of_move_eq_keep hx, tag_of_move_eq_keep hy, htag]
      refine ⟨x', rfl, htag', ?_⟩
      rw [h.stride] at hyto
      refine hahead.step (fun hlevel hmoves => ?_) hyto hxto
      exact hlevel ▸ (h.moves hmoves).of_room_le h0 hr
  | depart =>
      obtain ⟨hstays, hopen⟩ := move_eq_depart hx
      rcases move_cases two d r y with ⟨hmoves, -⟩ | ⟨-, -, hgone⟩ | ⟨-, hclosed, -⟩
      · have hcome := Ahead.come_le (hsame ▸ hahead) hfit
        exact absurd (h.moves_of_opens hopen (hmoves.of_come_le (h.opens hopen) h0 hcome)) hstays
      · exact nomatch hy.symm.trans hgone
      · exact absurd (h.opens hopen) hclosed

end Eased

/-!
## The two queues in one tick
-/

variable {one two road : Road} {d r r' : Float32} {car : Car}

/-- A car that is not in the second queue any more, before a queue part of which is not
either: whether it departs or stays, it is the first of those that are gone there. -/
theorem exists_gone_cons {cars gone stay : List Car} (hfit : road.Fit)
    (h : (car :: cars).Pairwise road.Ahead) (h0 : 0 ≤ r) (hd : 0 ≤ d)
    (hlength : ∀ other ∈ car :: cars, 0 ≤ other.length)
    (hkept : (road.part d (roomBehind d r car) cars).kept = gone ++ stay) :
    ∃ gone', (road.part d r (car :: cars)).kept = gone' ++ stay ∧
      (road.part d r (car :: cars)).departed.map Car.tag ++ gone'.map Car.tag =
        car.tag :: ((road.part d (roomBehind d r car) cars).departed.map Car.tag ++
          gone.map Car.tag) := by
  rw [part_cons]
  cases hmove : road.move d r car with
  | depart => exact ⟨gone, hkept, rfl⟩
  | keep moved =>
      have hnone := departed_eq_nil_of_keep hfit h h0 hd hlength hmove
      refine ⟨moved :: gone, ?_, ?_⟩
      · rw [Parted.cons_keep, hkept, List.cons_append]
      · rw [Parted.cons_keep, hnone, List.map_cons, tag_of_move_eq_keep hmove]
        rfl

/-- Of two queues of the same cars: what is left of the first is those that have departed
in the second, and behind them the same cars as in the second. -/
theorem Eased.part (h : one.Eased two) (hfit : one.Fit) (hfit' : two.Fit) (hd : 0 ≤ d)
    {rest cars : List Car} (hlags : List.Forall₂ one.Lags rest cars) (h0 : 0 ≤ r) (hr : r ≤ r')
    (hrest : rest.Pairwise one.Ahead) (hcars : cars.Pairwise two.Ahead)
    (hlength : ∀ car ∈ rest, 0 ≤ car.length) (hlength' : ∀ car ∈ cars, 0 ≤ car.length) :
    ∃ gone stay, (one.part d r' rest).kept = gone ++ stay ∧
      (one.part d r' rest).departed.map Car.tag ++ gone.map Car.tag =
        (two.part d r cars).departed.map Car.tag ∧
      List.Forall₂ one.Lags stay (two.part d r cars).kept := by
  induction hlags generalizing r r' with
  | nil => exact ⟨[], [], rfl, rfl, .nil⟩
  | @cons x y xs ys hxy _ ih =>
      obtain ⟨-, hxs⟩ := List.pairwise_cons.mp hrest
      obtain ⟨-, hys⟩ := List.pairwise_cons.mp hcars
      obtain ⟨hx, hxslength⟩ := List.forall_mem_cons.mp hlength
      obtain ⟨hy, hyslength⟩ := List.forall_mem_cons.mp hlength'
      have hsame : x.length = y.length := congrArg Prod.snd hxy.1
      have h0' := le_trans h0 hr
      obtain ⟨gone, stay, hkept, htags, hstay⟩ := ih (le_trans h0 (le_roomBehind h0 hd hy))
        (roomBehind_le h0 hr hd hy hsame) hxs hys hxslength hyslength
      rw [two.part_cons]
      cases hmove : two.move d r y with
      | depart =>
          obtain ⟨gone', hkept', htags'⟩ := exists_gone_cons hfit hrest h0' hd hlength hkept
          refine ⟨gone', stay, hkept', ?_, hstay⟩
          rw [htags', htags, hxy.1]
          rfl
      | keep y' =>
          obtain ⟨x', hmove', hlag⟩ := h.move hfit' hxy h0 hr hmove
          have hnone := departed_eq_nil_of_keep hfit' hcars h0 hd hlength' hmove
          rw [hnone, List.map_nil, List.append_eq_nil_iff, List.map_eq_nil_iff] at htags
          rw [List.map_eq_nil_iff.mp htags.2, List.nil_append] at hkept
          refine ⟨[], x' :: stay, ?_, ?_, hstay.cons hlag⟩
          · rw [part_cons, hmove', Parted.cons_keep, hkept]
            rfl
          · rw [part_cons, hmove', Parted.cons_keep, Parted.cons_keep, htags.1, hnone]
            rfl

/-- The same, with cars before the first queue that are not in the second any more. -/
theorem Eased.part_append (h : one.Eased two) (hfit : one.Fit) (hfit' : two.Fit) (hd : 0 ≤ d)
    {ahead rest cars : List Car} (hlags : List.Forall₂ one.Lags rest cars) (h0 : 0 ≤ r)
    (hr : r ≤ r') (hrest : (ahead ++ rest).Pairwise one.Ahead) (hcars : cars.Pairwise two.Ahead)
    (hlength : ∀ car ∈ ahead ++ rest, 0 ≤ car.length) (hlength' : ∀ car ∈ cars, 0 ≤ car.length) :
    ∃ gone stay, (one.part d r' (ahead ++ rest)).kept = gone ++ stay ∧
      (one.part d r' (ahead ++ rest)).departed.map Car.tag ++ gone.map Car.tag =
        ahead.map Car.tag ++ (two.part d r cars).departed.map Car.tag ∧
      List.Forall₂ one.Lags stay (two.part d r cars).kept := by
  induction ahead generalizing r' with
  | nil => exact h.part hfit hfit' hd hlags h0 hr hrest hcars hlength hlength'
  | cons car ahead ih =>
      rw [List.cons_append] at hrest hlength ⊢
      obtain ⟨-, hordered⟩ := List.pairwise_cons.mp hrest
      obtain ⟨hcar, hbehind⟩ := List.forall_mem_cons.mp hlength
      have h0' := le_trans h0 hr
      obtain ⟨gone, stay, hkept, htags, hstay⟩ :=
        ih (le_trans hr (le_roomBehind h0' hd hcar)) hordered hbehind
      obtain ⟨gone', hkept', htags'⟩ := exists_gone_cons hfit hrest h0' hd hlength hkept
      refine ⟨gone', stay, hkept', ?_, hstay⟩
      rw [htags', htags]
      rfl

/-!
## Two histories
-/

/-- A road and the cars that have left it, against the same road in a history in which it
has been open more: in this one some cars `ahead` have left it too, and those that are
left have come at least as far. -/
structure Behind (one two : Road × List Car) : Prop where
  course : two.1.course = one.1.course
  speed : two.1.speed = one.1.speed
  first : one.1.Orderly
  second : two.1.Orderly
  queue : ∃ ahead rest, one.1.cars = ahead ++ rest ∧
    one.2.map Car.tag ++ ahead.map Car.tag = two.2.map Car.tag ∧
    List.Forall₂ one.1.Lags rest two.1.cars

namespace Behind

variable {left left' : List Car}

theorem setSignal (h : Behind (one, left) (two, left')) (s t : Signal) :
    Behind (one.setSignal s, left) (two.setSignal t, left') := by
  have hsame : (one.setSignal s).Lags = one.Lags := lags_congr rfl rfl
  refine ⟨h.course, h.speed, h.first.setSignal s, h.second.setSignal t, ?_⟩
  rw [hsame]
  exact h.queue

theorem receive (h : Behind (one, left) (two, left')) {a b : Car} (htag : a.tag = b.tag)
    (hlength : 0 < a.length) :
    Behind (one.receive a, left) (two.receive b, left') := by
  have hlength' : 0 < b.length := by
    rw [← (Prod.mk.inj htag).2]
    exact hlength
  have hsame : (one.receive a).Lags = one.Lags := lags_congr rfl rfl
  obtain ⟨ahead, rest, hcars, hleft, hlags⟩ := h.queue
  refine ⟨h.course, h.speed, h.first.receive (le_of_lt hlength),
    h.second.receive (le_of_lt hlength'), ahead, rest ++ [a.entering one.course.startPose],
    ?_, hleft, ?_⟩
  · exact (congrArg (· ++ _) hcars).trans (List.append_assoc ..)
  · rw [hsame]
    have hstart : (0 : Float32) = one.milestone 0 := rfl
    exact List.rel_append hlags (.cons ⟨htag, 0, 0, Nat.le_refl 0, hstart, hstart⟩ .nil)

/-- **One tick.** -/
theorem advance (h : Behind (one, left) (two, left')) {d : Float32} (hd : 0 ≤ d)
    (hopen : one.signal.proceeds = true → two.signal.proceeds = true) :
    Behind ((one.advance d).1, left ++ (one.advance d).2)
      ((two.advance d).1, left' ++ (two.advance d).2) := by
  have hself := le_self (le_iff.mp hd).2.1
  have hsame : (one.advance d).1.Lags = one.Lags := lags_congr rfl rfl
  have heased : one.Eased two := ⟨h.course, h.speed, hopen⟩
  obtain ⟨ahead, rest, hcars, hleft, hlags⟩ := h.queue
  obtain ⟨hfit, hlength, -, hahead⟩ := h.first
  dsimp only at hcars hleft hlags hahead hlength
  rw [hcars] at hahead hlength
  obtain ⟨gone, stay, hkept, hgone, hstay⟩ := heased.part_append hfit h.second.fit hd hlags
    hd hself hahead h.second.ahead hlength h.second.length
  rw [← hcars, ← partQueue_eq_part] at hkept hgone
  rw [← partQueue_eq_part] at hgone hstay
  refine ⟨h.course, h.speed, h.first.advance hd, h.second.advance hd, gone, stay, hkept, ?_, ?_⟩
  · rw [List.map_append, List.map_append, ← hleft, List.append_assoc, List.append_assoc]
    exact congrArg _ hgone
  · rw [hsame]
    exact hstay

/-- **Two whole histories.** -/
theorem run {s t : Signal} {first second : List RoadAction} (h : Behind (one, left) (two, left'))
    (hopening : Opening s t first second) (hs : one.signal = s) (ht : two.signal = t)
    (hfirst : ∀ action ∈ first, action.Proper) :
    Behind ((one.run first).1, left ++ (one.run first).2)
      ((two.run second).1, left' ++ (two.run second).2) := by
  induction hopening generalizing one two left left' with
  | done =>
      rw [run_nil, run_nil, List.append_nil, List.append_nil]
      exact h
  | @setFirst _ s' _ _ _ _ ih =>
      exact ih (h.setSignal s' two.signal) rfl ht (List.forall_mem_cons.mp hfirst).2
  | @setSecond _ _ t' _ _ _ ih =>
      exact ih (h.setSignal one.signal t') hs rfl hfirst
  | receive hsame _ ih =>
      obtain ⟨hproper, hlater⟩ := List.forall_mem_cons.mp hfirst
      exact ih (h.receive hsame hproper) hs ht hlater
  | advance hopen _ ih =>
      obtain ⟨hproper, hlater⟩ := List.forall_mem_cons.mp hfirst
      subst hs ht
      have hnext := ih (h.advance hproper hopen) rfl rfl hlater
      rw [List.append_assoc, List.append_assoc] at hnext
      exact hnext

end Behind

/-!
## Passages
-/

end Road

/-- What has become of a car that has entered a road. -/
structure Passage where
  /-- Which car it is. -/
  tag : CarId × Float32
  /-- How far it has come, if it has not departed. -/
  progress : Option Float32
deriving DecidableEq

namespace Passage

/-- The passage of a car that has departed. -/
def departed (car : Car) : Passage := ⟨car.tag, none⟩

/-- The passage of a car on the road. -/
def standing (car : Car) : Passage := ⟨car.tag, some car.progress⟩

/-- The car has departed in the second passage, or it has in neither and has come at
least as far in the second. -/
def NotDelayed (first second : Passage) : Prop :=
  first.tag = second.tag ∧ ∀ q, second.progress = some q → ∃ p, first.progress = some p ∧ p ≤ q

/-- A departed car is not delayed, whatever the other passage. -/
theorem notDelayed_departed {first : List Passage} {cars : List Car}
    (h : first.map tag = cars.map Car.tag) :
    List.Forall₂ NotDelayed first (cars.map departed) := by
  induction first generalizing cars with
  | nil =>
      rw [List.map_eq_nil_iff.mp h.symm]
      exact .nil
  | cons passage first ih =>
      cases cars with
      | nil => exact nomatch h
      | cons car cars =>
          obtain ⟨htag, htags⟩ := List.cons.inj h
          exact (ih htags).cons ⟨htag, fun q hq => nomatch hq⟩

end Passage

namespace Road

/-- The cars that have departed, and behind them those that stand on the road. -/
def passages (outcome : Road × List Car) : List Passage :=
  outcome.2.map .departed ++ outcome.1.cars.map .standing

theorem map_tag_passages (outcome : Road × List Car) : (passages outcome).map Passage.tag =
    outcome.2.map Car.tag ++ outcome.1.cars.map Car.tag := by
  rw [passages, List.map_append, List.map_map, List.map_map]
  rfl

theorem Behind.notDelayed {one two : Road × List Car} (h : Behind one two)
    (hstraight : one.1.isStraight = true) :
    List.Forall₂ Passage.NotDelayed (passages one) (passages two) := by
  obtain ⟨ahead, rest, hcars, hleft, hlags⟩ := h.queue
  have hcome : ∀ p, one.1.come p = p := by
    intro p
    obtain ⟨line, hcourse⟩ := exists_line_of_isStraight hstraight
    rw [come, hcourse]
  rw [passages, passages, hcars, List.map_append, ← List.append_assoc]
  refine List.rel_append (Passage.notDelayed_departed ?_) ?_
  · rw [← hleft, List.map_append, List.map_map, List.map_map]
    rfl
  · rw [List.forall₂_map_left_iff, List.forall₂_map_right_iff]
    refine hlags.imp fun x y hlag => ⟨hlag.1, fun q hq => ⟨x.progress, rfl, ?_⟩⟩
    obtain rfl := Option.some.inj hq
    have hle := hlag.2.come_le h.first.fit
    rw [hcome, hcome] at hle
    exact hle

/-- **Opening a signal delays no car.**  The passages are of the cars received, in the order
of reception; and after each tick every car has departed in the second history, or has come
at least as far there as in the first. -/
theorem notDelayed_run {road : Road} (hcheck : road.check = .ok ())
    (hstraight : road.isStraight = true) (hempty : road.cars = [])
    {first second : List RoadAction} (hproper : ∀ action ∈ first, action.Proper)
    (hopening : Opening road.signal road.signal first second) (n : Nat) :
    let one := road.run (upToTick n first)
    let two := road.run (upToTick n second)
    (passages one).map Passage.tag = (receives (upToTick n first)).map Car.tag ∧
      (passages two).map Passage.tag = (receives (upToTick n second)).map Car.tag ∧
      List.Forall₂ Passage.NotDelayed (passages one) (passages two) := by
  intro one two
  have horderly : road.Orderly := .of_cars_eq_nil (road.check_eq_ok_iff.mp hcheck) hempty
  have hfirst : ∀ action ∈ upToTick n first, action.Proper :=
    fun action haction => hproper action ((upToTick_sublist n first).subset haction)
  have hupTo := upToTick_opening hopening n
  have hpassages : ∀ {history : List RoadAction}, (∀ action ∈ history, action.Proper) →
      (passages (road.run history)).map Passage.tag = (receives history).map Car.tag := by
    intro history hhistory
    rw [map_tag_passages, (horderly.run hhistory).2, hempty]
    rfl
  have hstart : Behind (road, []) (road, []) := by
    refine ⟨rfl, rfl, horderly, horderly, [], [], hempty, rfl, ?_⟩
    rw [hempty]
    exact .nil
  have hend : Behind one two := hstart.run hupTo rfl rfl hfirst
  refine ⟨hpassages hfirst, hpassages (hupTo.proper hfirst), hend.notDelayed ?_⟩
  rw [isStraight, road.course_run]
  exact hstraight

/-- A straight that a car passes in four ticks. -/
def hundred : Road := { id := ⟨0⟩, course := .straight ⟨⟨0, 0⟩, ⟨100, 0⟩⟩, speed := 30 }

/-- Two cars and a signal that shows stop until they both wait. -/
def heldBack : List RoadAction :=
  [.receive (.new ⟨7⟩ 4), .advance 2, .setSignal .stop, .receive (.new ⟨8⟩ 5), .advance 2,
    .advance 2, .advance 2, .advance 2, .advance 2, .setSignal .proceed, .advance 2, .advance 2]

/-- The same two cars, and the signal shows stop for two ticks. -/
def heldShortly : List RoadAction :=
  [.receive (.new ⟨7⟩ 4), .advance 2, .receive (.new ⟨8⟩ 5), .setSignal .stop, .advance 2,
    .advance 2, .setSignal .proceed, .advance 2, .advance 2, .advance 2, .advance 2, .advance 2]

/-- After five ticks the first car waits at the end of the road in the one history, and has
left it in the other. -/
theorem notDelayed_run_hundred :
    (passages (hundred.run (upToTick 5 heldBack))).map Passage.progress =
        [some 100, some 100] ∧
      (passages (hundred.run (upToTick 5 heldShortly))).map Passage.progress =
        [none, some 100] ∧
      List.Forall₂ Passage.NotDelayed (passages (hundred.run (upToTick 5 heldBack)))
        (passages (hundred.run (upToTick 5 heldShortly))) := by
  have hcheck : hundred.check = .ok () := eq_ok_of_isOk (by decide +kernel)
  have hproper : ∀ action ∈ heldBack, action.Proper := by decide +kernel
  have hstop : ∀ t : Signal, Signal.stop.proceeds = true → t.proceeds = true := nofun
  have hgo : Signal.proceed.proceeds = true → Signal.proceed.proceeds = true := fun h => h
  have hlater : Opening .proceed .proceed [.advance 2, .advance 2] [.advance 2, .advance 2] :=
    .advance hgo (.advance hgo .done)
  have hopening : Opening .proceed .proceed heldBack heldShortly :=
    .receive rfl <| .advance hgo <| .setFirst <| .receive rfl <| .setSecond <|
      .advance (hstop _) <| .advance (hstop _) <| .setSecond <| .advance (hstop _) <|
        .advance (hstop _) <| .advance (hstop _) <| .setFirst hlater
  exact ⟨by decide +kernel, by decide +kernel,
    (notDelayed_run hcheck rfl rfl hproper hopening 5).2.2⟩

end Road

end RoadTraffic
