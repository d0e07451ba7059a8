import MacroBody.Command.Basic

/-!
# The program

Looks up the paths that the command line mentions, runs it and writes what it leaves behind.
-/

namespace MacroBody.Main

/-- What the error of a failed look means. -/
def ofError : IO.Error → Lookup
  | .inappropriateType _ code _ => if code = 21 then .directory else .notDirectory
  | .permissionDenied _ _ _ => .denied
  | _ => .missing

/-- Looks up a path. -/
def look (path : Text) : IO Lookup := do
  try
    let bytes ← IO.FS.readBinFile (String.ofList path)
    match String.fromUTF8? bytes with
    | some content => return .file content.toList
    | none => return .notText
  catch e => return ofError e

end MacroBody.Main

/-- Runs the command line of the program. -/
def main (arguments : List String) : IO UInt32 := do
  let arguments := arguments.map String.toList
  let found ← (MacroBody.Command.paths arguments).mapM fun path => do
    return (path, ← MacroBody.Main.look path)
  let output := MacroBody.Command.run (fun path => (found.lookup path).getD .missing) arguments
  (← IO.getStdout).putStr (String.ofList output.stdout)
  (← IO.getStderr).putStr (String.ofList output.stderr)
  return output.status.toUInt32
