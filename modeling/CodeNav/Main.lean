import CodeNav.CommandLine.Respond
import CodeNav.CommandLine.Snapshot

/-! The command. It takes its arguments from the command line and the snapshot of a project from
standard input. -/
namespace CodeNav.CommandLine

partial def readAll (stream : IO.FS.Stream) (text : String) : IO String := do
  let line ← stream.getLine
  if line.isEmpty then return text else readAll stream (text ++ line)

end CodeNav.CommandLine

open CodeNav CommandLine in
def main (arguments : List String) : IO UInt32 := do
  let text ← readAll (← IO.getStdin) ""
  match Snapshot.read text with
  | .error error =>
    (← IO.getStderr).putStrLn s!"Malformed snapshot line: {error.line}"
    return 1
  | .ok files =>
    let setting ← IO.getEnv "SRCXREF_WORKERS"
    let response := respond Toolchain.standard files setting arguments
    (← IO.getStdout).putStr (Response.textOf response.output)
    (← IO.getStderr).putStr (Response.textOf response.errors)
    return UInt32.ofNat response.exitCode
