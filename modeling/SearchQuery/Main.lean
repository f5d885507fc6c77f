import SearchQuery.Command

/-! # The program

The only part that touches files and streams. All that it decides is decided by `Command`.
-/

namespace SearchQuery

namespace Program

/-- Why the system did not give the bytes of a file. -/
def readFailureOf : IO.Error → ReadFailure
  | .noFileOrDirectory _ _ _ => .missing
  | .inappropriateType _ 21 _ => .isDirectory
  | .inappropriateType _ 20 _ => .notDirectory
  | .permissionDenied _ _ _ => .other "permission denied"
  | error => .other error.toString.toList

partial def readAll (stream : IO.FS.Stream) (bytes : ByteArray) : IO ByteArray := do
  let more ← stream.read 65536
  if more.isEmpty then return bytes else readAll stream (bytes ++ more)

def readBytes (file : Text) : IO (Except ReadFailure ByteArray) := do
  try
    if file = standardInput then
      return .ok (← readAll (← IO.getStdin) .empty)
    else
      return .ok (← IO.FS.readBinFile (String.ofList file))
  catch error =>
    return .error (readFailureOf error)

/-- The answer to a request, with the query from the file that it names. -/
def answerRequest (request : Command.Request) : IO Command.Response := do
  let content ← match request.file? with
    | none => pure (.ok [])
    | some file => decodeQuery <$> readBytes file
  return request.answer fun _ => content

/-- Runs the program on its arguments and gives the exit status. -/
def run (arguments : List String) : IO UInt32 := do
  let response ← match Command.parseArguments? {} (arguments.map String.toList) with
    | none => pure Command.Response.refuse
    | some request => answerRequest request
  (← IO.getStdout).putStr (String.ofList response.output)
  (← IO.getStderr).putStr (String.ofList response.errors)
  return response.exit.toUInt32

end Program

end SearchQuery

def main (arguments : List String) : IO UInt32 := SearchQuery.Program.run arguments
