import ThreeAddress.CommandLine

/-!
# The program

Moves bytes between the system and `ThreeAddress.respond`. Standard input is read only if the
arguments ask for it. If the answer cannot be written, the answer for an output that refuses it is
given instead.
-/

open ThreeAddress

/-- The reason that the system gives for refusing to write. -/
def refusalReason : IO.Error → String
  | .resourceExhausted _ code details => details ++ " (os error " ++ toString code ++ ")"
  | e => toString e

/-- Gives an answer for an output that accepts what is written or has refused it. -/
def giveAnswer (output : StandardOutput) (arguments : List Text) (input : ByteArray) :
    IO UInt32 := do
  let response := respond output arguments input
  unless response.stdout.isEmpty do
    let stdout ← IO.getStdout
    stdout.putStr (String.ofList response.stdout)
    stdout.flush
  (← IO.getStderr).putStr (String.ofList response.stderr)
  return response.exitCode.toUInt32

def main (args : List String) : IO UInt32 := do
  let arguments := args.map String.toList
  let input ←
    match Request.ofArguments arguments with
    | .filter => (← IO.getStdin).readBinToEnd
    | _ => pure ByteArray.empty
  try
    giveAnswer .accepts arguments input
  catch e =>
    giveAnswer (.refuses (refusalReason e).toList) arguments input
