import RoadTraffic.Headless.Run

/-!
# The command line program

Reads the arguments and the log filter, and prints the answer.  Without a seed, the words
that route the cars come from a key drawn at the start.
-/

namespace RoadTraffic

/-- A stream of words under a random key. -/
def freshDraws : IO Draws := do
  let words ← (List.replicate 8 (2 ^ 32 - 1)).mapM fun greatest => IO.rand 0 greatest
  return .ofKey (StreamKey.ofWords (words.map UInt32.ofNat))

/-- The filter that the environment asks for, or the standard one. -/
def environmentFilter : IO LogFilter := do
  return (← IO.getEnv "SEGMENT_SIM_LOG").elim LogFilter.standard LogFilter.ofText

end RoadTraffic

def main (arguments : List String) : IO UInt32 := do
  let answer := RoadTraffic.Headless.answer arguments (← RoadTraffic.environmentFilter)
    (← RoadTraffic.freshDraws)
  answer.output.forM fun line => IO.println line
  answer.errors.forM fun line => IO.eprintln line
  return answer.exitCode.toUInt32
