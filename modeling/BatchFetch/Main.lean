import BatchFetch.Cli.Run

/-! The program: reads the file that its arguments name, runs them and prints what comes of it. -/

namespace BatchFetch.Cli

def readFile? (name : String) : IO (Option (List UInt8)) :=
  try
    let bytes ← IO.FS.readBinFile name
    return some bytes.toList
  catch _ => return none

/-- The bytes of the file that some arguments name, if they name one that can be read. -/
def readFileOf? (args : List String) : IO (Option (List UInt8)) :=
  match fileOf? args with
  | some name => readFile? name
  | none => return none

end BatchFetch.Cli

/-- Runs the program; there is no network behind it, so a target is at best found to be out of reach. -/
def main (args : List String) : IO UInt32 := do
  let bytes ← BatchFetch.Cli.readFileOf? args
  let chance ← IO.rand 0 0xffffffffffffffff
  let result := BatchFetch.Cli.run
    { file := fun _ => bytes, network := fun _ => BatchFetch.Http.unreachable, draw := fun _ _ => chance } args
  IO.print result.stdout
  if let some line := result.failure then
    IO.eprintln line
  return result.exitCode
