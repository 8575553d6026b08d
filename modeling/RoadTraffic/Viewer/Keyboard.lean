/-!
# The keyboard

A key is held from a press to its release.  In a frame all releases come before all
presses, and a key counts as just pressed if a press of the frame found it not held.  So
holding a key down, or pressing it several times in a frame, counts once.
-/

namespace RoadTraffic

/-- A key.  Only three have a meaning. -/
inductive Key where
  | space
  | enter
  | escape
  | other (name : String)
deriving DecidableEq

/-- The key of that name. -/
def Key.ofName : String → Key
  | "Space" => .space
  | "Enter" => .enter
  | "Escape" => .escape
  | name => .other name

/-- The keys held down, and those just pressed. -/
structure Keyboard where
  held : List Key := []
  justPressed : List Key := []

namespace Keyboard

/-- Lets go of keys. -/
def release (keyboard : Keyboard) (keys : List Key) : Keyboard :=
  { keyboard with held := keyboard.held.filter (· ∉ keys) }

/-- Presses one key. -/
def press (keyboard : Keyboard) (key : Key) : Keyboard :=
  if key ∈ keyboard.held then keyboard
  else ⟨key :: keyboard.held, key :: keyboard.justPressed⟩

/-- The keyboard in a new frame. -/
def nextFrame (keyboard : Keyboard) (released pressed : List Key) : Keyboard :=
  pressed.foldl press { keyboard.release released with justPressed := [] }

/-- Has the key been pressed in this frame? -/
def isJustPressed (keyboard : Keyboard) (key : Key) : Bool := key ∈ keyboard.justPressed

theorem mem_held_foldl_press {key : Key} (pressed : List Key) (keyboard : Keyboard) :
    key ∈ (pressed.foldl press keyboard).held ↔ key ∈ keyboard.held ∨ key ∈ pressed := by
  induction pressed generalizing keyboard with
  | nil => simp
  | cons first rest ih =>
    rw [List.foldl_cons, ih]
    unfold press
    split <;> simp_all <;> grind

/-- A key is held after a frame if it is pressed in it, or was held before and is not
released. -/
theorem mem_held_nextFrame {key : Key} (keyboard : Keyboard) (released pressed : List Key) :
    key ∈ (keyboard.nextFrame released pressed).held ↔
      key ∈ pressed ∨ (key ∈ keyboard.held ∧ key ∉ released) := by
  unfold nextFrame
  rw [mem_held_foldl_press]
  simp [release, or_comm]

theorem mem_justPressed_foldl_press {key : Key} (pressed : List Key) (keyboard : Keyboard) :
    key ∈ (pressed.foldl press keyboard).justPressed ↔
      key ∈ keyboard.justPressed ∨ (key ∈ pressed ∧ key ∉ keyboard.held) := by
  induction pressed generalizing keyboard with
  | nil => simp
  | cons first rest ih =>
    rw [List.foldl_cons, ih]
    unfold press
    split <;> grind

/-- A key is just pressed in a frame if it is pressed in it and not held after its
releases. -/
theorem isJustPressed_nextFrame {key : Key} (keyboard : Keyboard) (released pressed : List Key) :
    (keyboard.nextFrame released pressed).isJustPressed key = true ↔
      key ∈ pressed ∧ ¬ (key ∈ keyboard.held ∧ key ∉ released) := by
  unfold nextFrame isJustPressed
  rw [decide_eq_true_iff, mem_justPressed_foldl_press]
  simp [release]

end Keyboard

end RoadTraffic
