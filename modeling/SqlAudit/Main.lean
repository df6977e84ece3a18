import SqlAudit.Session

/-! # The program

Reads the files that the arguments name and the environment, runs the session and prints what it
says.
-/

namespace SqlAudit.Program

def reason : IO.Error → FileError
  | .noFileOrDirectory .. => .missing
  | .inappropriateType _ _ "not a directory" => .notDirectory
  | .inappropriateType _ 21 _ | .illegalOperation 21 _ => .isDirectory
  | e => .other (toString e)

def readText (path : String) : IO (Except FileError String) := do
  try
    pure (decodeText (← IO.FS.readBinFile path))
  catch e => pure (.error (reason e))

def paths (home : Option String) (arguments : List String) : List String :=
  let configured := Surroundings.directoryPath :: (home.map Surroundings.userPath).toList
  match CommandLine.Command.read none arguments with
  | .ok (.review r) => configured ++ [r.schema, r.queries]
  | _ => configured

/-- The arguments ask for a script on the standard input. -/
def wantsInput (arguments : List String) : Bool :=
  match CommandLine.Command.read none arguments with
  | .ok (.review r) => r.queries = "-"
  | _ => false

def variableNames : List String :=
  ["HOME", "SQL_REVIEW_DATABASE", "CLICOLOR", "CLICOLOR_FORCE", "NO_COLOR"]

def surroundings (arguments : List String) : IO Surroundings := do
  let environment ← variableNames.filterMapM fun name => do
    pure ((← IO.getEnv name).map fun value => (name, value))
  let texts ← (paths (environment.lookup "HOME") arguments).mapM fun path => do
    pure (path, ← readText path)
  let input ← if wantsInput arguments then (← IO.getStdin).readBinToEnd else pure .empty
  pure
    { file := fun path => (texts.lookup path).getD (.error .missing)
      input := decodeText input
      lookup := fun name => environment.lookup name
      terminal := ← (← IO.getStdout).isTty }

end SqlAudit.Program

open SqlAudit in
/-- Runs a session and prints what it says. -/
def main (arguments : List String) : IO UInt32 := do
  let s ← Program.surroundings arguments
  let ending := s.run arguments
  IO.print ending.output
  if let some failure := ending.fatal then
    IO.eprintln ("Error: " ++ failure.message)
  if let .error refusal := CommandLine.Command.read s.database arguments then
    if ending.exitCode != 0 then
      IO.eprint (refusal.complaint)
  pure ending.exitCode.toUInt32
