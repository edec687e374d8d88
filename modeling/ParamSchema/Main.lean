import ParamSchema.CommandLine.Run

/-!
# The program

Runs the command line on the files, the variables and the standard input of
the process.
-/

set_option autoImplicit false

namespace ParamSchema.CommandLine

def variableNames : List String :=
  ["VALEXP_CONFIG", "VALEXP_LOCALE", "VALEXP_MAX_DEPTH", "VALEXP_STRICT_COMBINATORS",
    "VALEXP_STRICT_REQUIRED", "OAS_VALEXP_LANG"]

partial def readBytes (stream : IO.FS.Stream) (found : ByteArray) : IO ByteArray := do
  let bytes ← stream.read 65536
  if bytes.isEmpty then return found else readBytes stream (found ++ bytes)

def processHost : Host IO where
  file path := do
    try return some (← IO.FS.readFile path) catch _ => return none
  input := do
    try return String.fromUTF8? (← readBytes (← IO.getStdin) .empty) catch _ => return none

end ParamSchema.CommandLine

open ParamSchema.CommandLine in
def main (arguments : List String) : IO UInt32 := do
  let environment ← variableNames.filterMapM fun name => do
    return (← IO.getEnv name).map (name, ·)
  let answer ← run processHost environment arguments
  IO.print answer.output
  if let some failure := answer.failure then
    IO.eprintln ("error: " ++ failure.message)
  return answer.status.toUInt32
