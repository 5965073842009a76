import TagQuery.CommandLine.Run

/-!
# The command line program

The outer layer: files are read from disk, and no network is attached. A command line that is
refused ends with code 2.
-/

namespace TagQuery.CommandLine

/-- The content of a file on disk. -/
def readDisk (path : Text) : IO (Except FileFault Bytes) := do
  try
    return .ok (← IO.FS.readBinFile (String.ofList path)).toList
  catch error =>
    match error with
    | .noFileOrDirectory .. => return .error .notFound
    | .inappropriateType .. => return .error .isDirectory
    | other => return .error (.system other.toString.toList)

/-- A network that nothing is connected to. -/
def noNetwork (_ : Transport.FetchSettings) (address : Transport.Url) : IO Transport.Exchange :=
  return Transport.Exchange.offline address

end TagQuery.CommandLine

open TagQuery in
/-- Runs the program on its arguments. -/
def main (arguments : List String) : IO UInt32 := do
  match ← CommandLine.run CommandLine.readDisk CommandLine.noNetwork
      (arguments.map String.toList) with
  | .error _ =>
    (← IO.getStderr).putStrLn "error: the arguments are not understood, try --help"
    return 2
  | .ok output =>
    (← IO.getStdout).putStr (String.ofList output.stdout)
    (← IO.getStderr).putStr (String.ofList output.stderr)
    return UInt32.ofNat output.code
