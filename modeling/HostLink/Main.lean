/-
The program: it reads the files a command names, runs the command, and prints what it
leaves.
-/
import HostLink.Command
import HostLink.Toml.Tools
import HostLink.Wasm.Tools

namespace HostLink

def readFailure : IO.Error → String
  | .noFileOrDirectory _ code _ => "No such file or directory (os error " ++ toString code ++ ")"
  | .permissionDenied _ code _ => "Permission denied (os error " ++ toString code ++ ")"
  | error => toString error

def readFile (path : String) : IO (Except String Wasm.Bytes) := do
  try
    let bytes ← IO.FS.readBinFile path
    pure (.ok bytes.toList)
  catch error => pure (.error (readFailure error))

/-- A log line on standard error, which shows errors only. -/
def Event.line? (event : Event) : Option String :=
  let fields := event.fields.map fun (name, value) => " " ++ name ++ "=" ++ value
  if event.level = .error then
    some (event.level.name ++ " " ++ event.message ++ String.join fields)
  else none

end HostLink

open HostLink

def main (arguments : List String) : IO UInt32 := do
  let paths := ((Command.read? arguments).map Command.files).getD []
  let contents ← paths.mapM fun path => do pure (path, ← readFile path)
  let read : ReadFile := fun path =>
    (contents.lookup path).getD (.error (readFailure (.noFileOrDirectory path 2 "")))
  let outcome := Command.runArguments
    { read := read, frontend := Wasm.tools, format := Toml.tools } arguments
  IO.print outcome.output
  (outcome.events.filterMap Event.line?).forM fun line => IO.eprintln line
  IO.eprint outcome.complaints
  pure (UInt32.ofNat outcome.status)
