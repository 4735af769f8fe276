import NodeQuery.CommandLine.Run

/-!
The program: files, output and exit code.
-/

namespace NodeQuery

def readFailure : IO.Error → String
  | .noFileOrDirectory _ _ _ => "No such file or directory (os error 2)"
  | .permissionDenied _ _ _ => "Permission denied (os error 13)"
  | .inappropriateType _ _ _ => "Is a directory (os error 21)"
  | error => toString error

def readFile (path : String) : IO (Except String String) := do
  try
    return .ok (← IO.FS.readFile path)
  catch error =>
    return .error (readFailure error)

end NodeQuery

def main (arguments : List String) : IO UInt32 := do
  let report ← NodeQuery.CommandLine.run NodeQuery.readFile arguments
  if report.code = 0 then IO.println report.output else IO.eprintln report.complaint
  return report.code.toUInt32
