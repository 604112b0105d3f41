import ApiContract.CommandLine.Execution

/-!
The program: the command line over the files of the machine.
-/

namespace ApiContract.CommandLine

def readFile (path : String) : IO FileContent := do
  try return .text (← IO.FS.readFile path)
  catch
    | .noFileOrDirectory .. => return .missing
    | error => return .unreadable (toString error)

def writeFile (path text : String) : IO (Option String) := do
  try
    IO.FS.writeFile path text
    return none
  catch error => return some (toString error)

def machineFiles : Files IO := { read := readFile, write := writeFile }

end ApiContract.CommandLine

def main (words : List String) : IO UInt32 := do
  let outcome ← ApiContract.CommandLine.run ApiContract.CommandLine.machineFiles words
  IO.print outcome.output
  IO.eprint outcome.errors
  return UInt32.ofNat outcome.exit
