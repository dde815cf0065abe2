import StatementShell.CommandLine.Program

/-!
# The executable

Reads the files that the arguments call for, and prints the outcome.
-/

namespace StatementShell.Executable

open CommandLine

/-- What is found under a path. -/
def lookUp (path : Text) : IO Entry := do
  try
    return .content (← IO.FS.readBinFile (String.ofList path))
  catch
    | .noFileOrDirectory _ _ _ => return .missing
    | .inappropriateType _ _ _ => return .unreadable "Is a directory (os error 21)".toList
    | e => return .unreadable (toString e).toList

/-- Everything that is left on a stream. -/
def readAll (stream : IO.FS.Stream) : IO Entry := do
  let mut bytes := ByteArray.empty
  repeat
    let part ← stream.read 65536
    if part.isEmpty then break
    bytes := bytes ++ part
  return .content bytes

/-- The surroundings of an invocation. -/
def surroundings (home : Text) (i : Invocation) : IO Surroundings := do
  let entries ← (i.paths home).mapM fun path => return (path, ← lookUp path)
  let input ← if i.readsInput then readAll (← IO.getStdin) else pure .missing
  return ⟨home, fun path => (entries.lookup path).getD .missing, input⟩

/-- Prints an outcome. -/
def print (o : Outcome) : IO UInt32 := do
  IO.print (String.ofList o.output)
  for line in o.errors do
    IO.eprintln (String.ofList line)
  return UInt32.ofNat o.code

end StatementShell.Executable

open StatementShell in
/-- The program. -/
def main (args : List String) : IO UInt32 := do
  let home := ((← IO.getEnv "HOME").getD ".").toList
  match CommandLine.Invocation.parse (args.map String.toList) with
  | .ok i => Executable.print (CommandLine.run (← Executable.surroundings home i) i)
  | .error h => Executable.print (.ofHalt h)
