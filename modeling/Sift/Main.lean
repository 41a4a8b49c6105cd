import Std.Time.DateTime.Timestamp
import Sift.CommandLine.Run
import Sift.Regex.Engine

/-! The program: its commands among real files and variables. -/
namespace Sift.CommandLine

/-- What an action gives, if it succeeds. -/
def attempt? (action : IO α) : IO (Option α) := do
  try return some (← action)
  catch _ => return none

/-- The text of the nearest settings file here or in one of the `above` directories
around. -/
def nearestSettings (directory : String) : Nat → IO (Option String)
  | 0 => return none
  | above + 1 => do
    match ← attempt? (IO.FS.readFile (directory ++ ".env")) with
    | some text => return some text
    | none => nearestSettings (directory ++ "../") above

def machine : Surroundings IO where
  fileText file := attempt? (IO.FS.readFile file)
  isFile file := return (← attempt? (IO.FS.readBinFile file)).isSome
  lookup name := IO.getEnv name
  settings := do nearestSettings "" (← IO.currentDir).components.length
  now := do
    let sinceEpoch := (← Std.Time.Timestamp.now).toNanosecondsSinceUnixEpoch.toInt
    return ⟨Int.fdiv sinceEpoch 1000000000, (Int.fmod sinceEpoch 1000000000).toNat⟩
  engine := Regex.engine

end Sift.CommandLine

def main (words : List String) : IO UInt32 := do
  let t ← Sift.CommandLine.run Sift.CommandLine.machine words
  IO.print t.output
  for line in t.complaints do
    IO.eprintln line
  return t.code.toUInt32
