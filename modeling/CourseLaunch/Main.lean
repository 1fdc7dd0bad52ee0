import CourseLaunch.Command.Run
/-!
# The program

Reads the arguments and the file with the configuration, carries out the job, and prints. This
program carries no transport of its own, so that no request is answered.
-/

namespace CourseLaunch.Command

/-- Why a file could not be read. -/
def faultOf : IO.Error → Launch.Config.FileFault
  | .noFileOrDirectory _ _ _ => .missing
  | .inappropriateType _ 21 _ => .directory
  | .inappropriateType _ code details => .refused details code.toNat
  | .permissionDenied _ code details => .refused details code.toNat
  | .otherError code details => .refused details code.toNat
  | e => .refused e.toString 5

/-- Reads a file. -/
def readFile (path : String) : IO (Except Launch.Config.FileFault (List UInt8)) := do
  try
    let bytes ← IO.FS.readBinFile path
    return .ok bytes.toList
  catch e => return .error (faultOf e)

/-- Prints a transcript. At each popup the user has to press Enter. -/
def print (t : Transcript) : IO UInt32 := do
  let stdin ← IO.getStdin
  for address in t.addresses do
    IO.eprint (prompt address)
    let _ ← stdin.getLine
  IO.eprint t.complaint
  IO.print t.output
  return t.status.toUInt32

end CourseLaunch.Command

open CourseLaunch.Command in
/-- Runs the program. -/
def main (arguments : List String) : IO UInt32 :=
  match readArguments arguments with
  | .error stop => print (.ofStop stop)
  | .ok invocation => do
    let file ← readFile invocation.config
    print (run .down invocation file)
