import RoadTraffic.Number.Scalar

/-!
# Settings of a simulation

Four lengths that hold for the whole network.  A new world takes them only after
`check`; afterwards they may be assigned freely.
-/

namespace RoadTraffic

/-- The settings of a simulation, in world units. -/
structure Config where
  /-- The drawn width of every road. -/
  roadWidth : Float32 := 16
  /-- The drawn width of a car. -/
  carWidth : Float32 := 4
  /-- The gap kept behind every car on a straight road. -/
  followingDistance : Float32 := 20
  /-- The length of a car when none is asked for. -/
  defaultCarLength : Float32 := 20
deriving DecidableEq

/-- The speed of every road of the demonstration network, in world units per
tick. -/
def defaultRoadSpeed : Float32 := 5

/-- The settings by name. -/
inductive ConfigField where
  | roadWidth
  | carWidth
  | followingDistance
  | defaultCarLength
deriving DecidableEq

/-- The name of a setting in messages. -/
def ConfigField.name : ConfigField → String
  | roadWidth => "road_width"
  | carWidth => "car_width"
  | followingDistance => "following_distance"
  | defaultCarLength => "default_car_length"

/-- Why settings are refused. -/
inductive ConfigError where
  | notFinite (field : ConfigField) (reason : NotFinite)
  | notPositive (field : ConfigField) (value : Float32)
  | negative (field : ConfigField) (value : Float32)
deriving DecidableEq

/-- What is wrong, outermost text first. -/
def ConfigError.chain : ConfigError → List String
  | notFinite field reason => field.name :: reason.chain
  | notPositive field value => [field.name ++ " must be positive, got " ++ Decimal.text value]
  | negative field value => [field.name ++ " must not be negative, got " ++ Decimal.text value]

namespace Config

/-- Refuses a value that is not finite and positive. -/
def checkPositive (field : ConfigField) (value : Float32) : Except ConfigError Unit := do
  (checkFinite value).mapError (.notFinite field)
  if value ≤ 0 then throw (.notPositive field value)

/-- Refuses a value that is not finite, or below zero. -/
def checkNotNegative (field : ConfigField) (value : Float32) : Except ConfigError Unit := do
  (checkFinite value).mapError (.notFinite field)
  if value < 0 then throw (.negative field value)

/-- Refuses settings that a new world cannot start with; the first bad one in
the order of the fields is named. -/
def check (config : Config) : Except ConfigError Unit := do
  checkPositive .roadWidth config.roadWidth
  checkPositive .carWidth config.carWidth
  checkNotNegative .followingDistance config.followingDistance
  checkPositive .defaultCarLength config.defaultCarLength

end Config

end RoadTraffic
