import RoadTraffic.Routing.KeyStream

/-!
# Drawing routes

A car at a fork takes one of the roads that follow, each as likely as the others.
What is drawn from is an endless sequence of 32-bit words and the place that has
been reached in it.  The sequence may be anything: a seeded world has a key stream,
an unseeded one is given words from outside.

A word `u` chooses the index `u * n / 2 ^ 32` among `n`.  The division leaves
the lower indices a little likelier; when the part cut off is so great that this
could matter, a second word decides whether the index goes up by one.
-/

namespace RoadTraffic

/-- An endless sequence of random words, drawn from one after the other. -/
structure Draws where
  /-- The words. -/
  word : Nat → UInt32
  /-- How many have been drawn. -/
  drawn : Nat := 0

namespace Draws

/-- Draws from the stream of a key. -/
def ofKey (key : StreamKey) : Draws := { word := key.word }

/-- Draws from the stream of a seed. -/
def ofSeed (seed : UInt64) : Draws := ofKey (StreamKey.ofSeed seed)

/-- The next word. -/
def next (draws : Draws) : UInt32 × Draws :=
  (draws.word draws.drawn, { draws with drawn := draws.drawn + 1 })

/-- An index below `count`, which must not be zero. -/
def below (draws : Draws) (count : Nat) : Nat × Draws :=
  let (u, draws) := draws.next
  let scaled := u.toNat * count
  let index := scaled / 2 ^ 32
  let cutOff := scaled % 2 ^ 32
  if 2 ^ 32 - count < cutOff then
    let (v, draws) := draws.next
    let carry := (cutOff + v.toNat * count / 2 ^ 32) / 2 ^ 32
    (index + carry, draws)
  else (index, draws)

/-- One of the elements of a list.  Nothing is drawn from an empty list; from any
other, also from one of a single element, a word is. -/
def choose {α : Type} (draws : Draws) : List α → Option α × Draws
  | [] => (none, draws)
  | choices@(_ :: _) =>
    let (index, draws) := draws.below choices.length
    (choices[index]?, draws)

@[simp] theorem choose_nil {α : Type} (draws : Draws) :
    draws.choose ([] : List α) = (none, draws) := rfl

/-- What is chosen is one of the choices. -/
theorem mem_of_choose {α : Type} {draws : Draws} {choices : List α} {choice : α}
    (h : (draws.choose choices).1 = some choice) : choice ∈ choices := by
  match choices, h with
  | _ :: _, h => exact List.mem_of_getElem? h

/-- A draw gives an index below the count: the last index leaves no room for a
carry. -/
theorem below_lt (draws : Draws) {count : Nat} (pos : 0 < count) :
    (draws.below count).1 < count := by
  have hu : (draws.word draws.drawn).toNat < 2 ^ 32 := (draws.word draws.drawn).toNat_lt
  have hv : (draws.word (draws.drawn + 1)).toNat < 2 ^ 32 :=
    (draws.word (draws.drawn + 1)).toNat_lt
  generalize hu' : (draws.word draws.drawn).toNat = u at hu
  generalize hv' : (draws.word (draws.drawn + 1)).toNat = v at hv
  simp only [below, next, hu', hv']
  have hsplit : 2 ^ 32 * (u * count / 2 ^ 32) + u * count % 2 ^ 32 = u * count :=
    Nat.div_add_mod _ _
  have hmod : u * count % 2 ^ 32 < 2 ^ 32 := Nat.mod_lt _ (by decide)
  have hle : u * count ≤ (2 ^ 32 - 1) * count := Nat.mul_le_mul_right _ (by omega)
  have hvlt : v * count / 2 ^ 32 < count := by
    have : v * count < 2 ^ 32 * count := Nat.mul_lt_mul_of_pos_right hv pos
    exact Nat.div_lt_of_lt_mul this
  split <;> omega

end Draws

end RoadTraffic
