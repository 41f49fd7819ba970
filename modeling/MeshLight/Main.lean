import MeshLight.CommandLine.Run

/-!
# The program

Reads the command line and the file that it names, runs the invocation and prints how it went.
-/

open MeshLight

/-- The bytes of a file, if it can be read. -/
def readContent (path : String) : IO (Option ByteArray) := do
  try
    return some (← IO.FS.readBinFile path)
  catch _ =>
    return none

/-- Randomness for sessions without a seed. -/
def freshSource : IO Random.Source := do
  let bytes ← IO.getRandomBytes 8
  return .seeded (bytes.toList.foldl (fun seed byte => seed * 256 + byte.toUInt64) 0)

/-- Runs the program. -/
def main (arguments : List String) : IO UInt32 := do
  match CommandLine.Invocation.parse arguments with
  | .error misuse =>
    IO.eprintln ("error: " ++ misuse.message)
    return 2
  | .ok invocation =>
    let loaded := Configuration.load (← readContent invocation.config)
    match (CommandLine.run (← freshSource) invocation loaded).1 with
    | .ok text =>
      IO.println text
      return 0
    | .error failure =>
      IO.eprintln ("error: " ++ failure.message)
      return 1
