import PageCheck.Command.Run

/-! The command itself: files, environment and streams. -/

set_option autoImplicit false

namespace PageCheck

def readFile (name : String) : IO (Option (List UInt8)) := do
  try
    let bytes ← IO.FS.readBinFile name
    return some bytes.toList
  catch _ =>
    return none

/-- The variables of the environment, one behind another with zero bytes between. -/
def variablesOf (bytes : List UInt8) : List (String × String) :=
  (Text.splitAt '\x00' (Utf8.decode bytes)).filterMap fun entry =>
    match entry.dropWhile (· != '=') with
    | [] => none
    | _ :: value => some (String.ofList (entry.takeWhile (· != '=')), String.ofList value)

def readEnvironment : IO (List (String × String)) := do
  let bytes ← readFile "/proc/self/environ"
  return variablesOf (bytes.getD [])

end PageCheck

def main (arguments : List String) : IO UInt32 := do
  let environment ← PageCheck.readEnvironment
  let outcome ← PageCheck.Command.run PageCheck.readFile environment arguments
  IO.print outcome.output
  if let some line := outcome.failure then
    IO.eprintln line
  return outcome.exit.toUInt32
