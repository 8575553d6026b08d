/-!
# Signals

Every road carries a signal.  At the end of a straight road it decides whether
cars may leave; on an arc it is shown and changes nothing.
-/

namespace RoadTraffic

/-- The signal of a road. -/
inductive Signal where
  /-- Cars may not leave the end of a straight road. -/
  | stop
  /-- Cars leave as soon as they reach the end. -/
  | proceed
deriving DecidableEq

namespace Signal

/-- Roads start open. -/
instance : Inhabited Signal := ⟨proceed⟩

/-- The other signal. -/
def toggled : Signal → Signal
  | stop => proceed
  | proceed => stop

/-- Is the road open? -/
def proceeds : Signal → Bool
  | stop => false
  | proceed => true

/-- The name of the signal in reports. -/
def name : Signal → String
  | stop => "Stop"
  | proceed => "Proceed"

/-- The signal of that name. -/
def ofName? : String → Option Signal
  | "Stop" => some stop
  | "Proceed" => some proceed
  | _ => none

/-- The signals shown by toggling `count` times, one after the other. -/
def toggles (signal : Signal) : (count : Nat) → List Signal
  | 0 => []
  | count + 1 => signal.toggled :: signal.toggled.toggles count

@[simp] theorem toggled_toggled (signal : Signal) : signal.toggled.toggled = signal := by
  cases signal <;> rfl

theorem ofName?_name (signal : Signal) : ofName? signal.name = some signal := by
  cases signal <;> rfl

end Signal

end RoadTraffic
