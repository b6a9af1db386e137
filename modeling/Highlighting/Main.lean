import Highlighting.CommandLine

/-! The program itself: files, standard streams and the exit code. -/
namespace Highlighting.CommandLine

/-- Reads bytes as text; a failure of the system becomes a reason. -/
def readText (bytes : IO ByteArray) : IO (Except FileError Text) := do
  try
    return decodeText (← bytes)
  catch
    | .noFileOrDirectory .. => return .error .missing
    | .inappropriateType _ 20 _ => return .error .notDirectory
    | .inappropriateType .. => return .error .isDirectory
    | other => return .error (.refused (toString other).toList)

def systemSurroundings : IO (Surroundings IO) := do
  let home ← IO.getEnv "HOME"
  return {
    home := home.map String.toList
    readFile := fun path => readText (IO.FS.readBinFile (String.ofList path))
    readInput := readText (do (← IO.getStdin).readBinToEnd) }

end Highlighting.CommandLine

open Highlighting.CommandLine in
def main (arguments : List String) : IO UInt32 := do
  match ← run (← systemSurroundings) (arguments.map String.toList) with
  | .ok report =>
    (← IO.getStdout).putStr (String.ofList report.output)
    (← IO.getStderr).putStr (String.ofList report.errors)
    return report.code.toUInt32
  | .error _ =>
    (← IO.getStderr).putStrLn "a rule cannot divide the text"
    return 101
