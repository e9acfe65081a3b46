import DeviceBus.CommandLine.Run
import Std.Time.DateTime.Timestamp

/-! # The program -/

namespace DeviceBus

/-- The text of a file that is there. -/
def fileText? (name : String) : IO (Option String) :=
  try
    return some (← IO.FS.readFile name)
  catch _ => return none

/-- All variables of the environment, as the system lists them. -/
def environment : IO (List (String × String)) := do
  let listed := (← fileText? "/proc/self/environ").getD ""
  return (listed.splitOn "\x00").filterMap (Text.cut '=')

def surroundings (command : CommandLine.Command) : IO CommandLine.Surroundings := do
  let found ← command.files.mapM fun name => do
    return (← fileText? name).map (name, ·)
  return {
    environment := ← environment
    files := found.filterMap id
    now := (← Std.Time.Timestamp.now).toSecondsSinceUnixEpoch.val
    random := (← IO.getRandomBytes 16).data.toList }

end DeviceBus

open DeviceBus in
def main (words : List String) : IO UInt32 := do
  let outcome ← match CommandLine.Command.ofWords words with
    | .ok command => do pure (command.run (← surroundings command))
    | .error _ => do pure { code := CommandLine.usageCode }
  IO.print outcome.output
  return UInt32.ofNat outcome.code
